import Fffb.Foundation.Line
import Fffb.Joy.Protocol

/-
The wheel object: its four effects, its playing flag, its report queue, and
the operations that talk to the device.

An operation runs over the object together with the line to its device.  Its
boolean result is the source's; a caller that drops the result of a call here
is a caller that drops it there.
-/

namespace Fffb

def FFFB_WHEEL_USAGE_PAGE : U32 := 0x01
def FFFB_WHEEL_USAGE : U32 := 0x04

structure Wheel where
  device : HidDevice
  protocol : FfbProtocol
  constant : ConstantForceParams
  spring : SpringForceParams
  damper : DamperForceParams
  trapezoid : TrapezoidForceParams
  playing : Bool
  reports : List Report
  deriving DecidableEq, Repr

structure Rig where
  wheel : Wheel
  line : Line Report

abbrev WheelM := StateM Rig

namespace Wheel

def defaultConstF : ConstantForceParams :=
  { slot := FFFB_FORCE_SLOT_CONSTANT
    enabled := false
    amplitude := 128 }

def defaultSpringF : SpringForceParams :=
  { slot := FFFB_FORCE_SLOT_SPRING
    enabled := false
    deadStart := 127
    deadEnd := 128
    slopeLeft := 3
    slopeRight := 3
    invertLeft := 0
    invertRight := 0
    amplitude := 0 }

def defaultDamperF : DamperForceParams :=
  { slot := FFFB_FORCE_SLOT_DAMPER
    enabled := false
    slopeLeft := 0
    slopeRight := 0
    invertLeft := 0
    invertRight := 0 }

def defaultTrapF : TrapezoidForceParams :=
  { slot := FFFB_FORCE_SLOT_TRAPEZOID
    enabled := false
    amplitudeMax := 127
    amplitudeMin := 128
    tAtMax := 0
    tAtMin := 0
    slopeStepX := 0
    slopeStepY := 0 }

/-- The members of a wheel before the constructor body runs.  The object is
static, so the protocol, which has no initializer, starts as zero. -/
def initial : Wheel :=
  { device := .null
    protocol := .logitechClassic
    constant := defaultConstF
    spring := defaultSpringF
    damper := defaultDamperF
    trapezoid := defaultTrapF
    playing := false
    reports := [] }

def placeCall (call : Bool → Call Report) : WheelM Bool := fun rig =>
  let (ok, line) := rig.line.place call
  (ok, { rig with line := line })

def openDevice : WheelM Bool := placeCall .opening

def writeDevice (report : Report) : WheelM Bool := placeCall (.writing report)

def closeDevice : WheelM Bool := placeCall .closing

def writeReport (report : Report) : WheelM Bool := do
  if !(← openDevice) then return false
  if !(← writeDevice report) then return false
  if !(← closeDevice) then return false
  return true

/-- The loop of `_write_reports`; it leaves at the first failed write. -/
def writeEach : List Report → WheelM Bool
  | [] => return true
  | rep :: rest => do
      if !(← writeDevice rep) then return false
      writeEach rest

def writeReports (reports : List Report) : WheelM Bool := do
  if !(← openDevice) then return false
  if !(← writeEach reports) then return false
  if !(← closeDevice) then return false
  return true

def enqueue (report : Report) : WheelM Unit :=
  modify fun rig => { rig with wheel := { rig.wheel with reports := rig.wheel.reports ++ [report] } }

def enqueueEach : List Report → WheelM Unit
  | [] => return ()
  | report :: rest => do
      enqueue report
      enqueueEach rest

def setPlaying (playing : Bool) : WheelM Unit :=
  modify fun rig => { rig with wheel := { rig.wheel with playing := playing } }

def disableAutocenter : WheelM Bool := do
  writeReport (Protocol.disableAutocenter (← get).wheel.protocol 0x0F)

def enableAutocenter : WheelM Bool := do
  writeReport (Protocol.enableAutocenter (← get).wheel.protocol 0x0F)

def qDisableAutocenter : WheelM Unit := do
  enqueue (Protocol.disableAutocenter (← get).wheel.protocol 0x0F)

def qEnableAutocenter : WheelM Unit := do
  enqueue (Protocol.enableAutocenter (← get).wheel.protocol 0x0F)

/-- The reports that a builder makes of the enabled effects, in the order in
which the source tests them. -/
def enabledReports (build : FfbProtocol → Force → Report) (wheel : Wheel) : List Report :=
  let fConst := Force.ofConstant wheel.constant
  let fSpring := Force.ofSpring wheel.spring
  let fDamper := Force.ofDamper wheel.damper
  let fTrap := Force.ofTrapezoid wheel.trapezoid
  (if fConst.params.enabled then [build wheel.protocol fConst] else []) ++
    (if fSpring.params.enabled then [build wheel.protocol fSpring] else []) ++
    (if fDamper.params.enabled then [build wheel.protocol fDamper] else []) ++
    (if fTrap.params.enabled then [build wheel.protocol fTrap] else [])

def enabledSlots (wheel : Wheel) : U8 :=
  let slots : U8 := 0
  let slots := if wheel.constant.enabled then slots ||| wheel.constant.slot else slots
  let slots := if wheel.spring.enabled then slots ||| wheel.spring.slot else slots
  let slots := if wheel.damper.enabled then slots ||| wheel.damper.slot else slots
  let slots := if wheel.trapezoid.enabled then slots ||| wheel.trapezoid.slot else slots
  slots

def downloadForces : WheelM Bool := do
  writeReports ((← get).wheel.enabledReports Protocol.downloadForce)

def qDownloadForces : WheelM Unit := do
  enqueueEach ((← get).wheel.enabledReports Protocol.downloadForce)

def playForces : WheelM Bool := do
  setPlaying true
  let wheel := (← get).wheel
  writeReport (Protocol.playForce wheel.protocol wheel.enabledSlots)

def qPlayForces : WheelM Unit := do
  setPlaying true
  let wheel := (← get).wheel
  enqueue (Protocol.playForce wheel.protocol wheel.enabledSlots)

def stopForces : WheelM Bool := do
  setPlaying false
  writeReport (Protocol.stopForce (← get).wheel.protocol 0x0F)

def qStopForces : WheelM Unit := do
  setPlaying false
  enqueue (Protocol.stopForce (← get).wheel.protocol 0x0F)

def refreshForces : WheelM Bool := do
  if !(← get).wheel.playing then
    playForces
  else
    writeReports ((← get).wheel.enabledReports Protocol.refreshForce)

/-- Unlike `refreshForces`, the queued form goes on after the play report. -/
def qRefreshForces : WheelM Unit := do
  if !(← get).wheel.playing then qPlayForces
  enqueueEach ((← get).wheel.enabledReports Protocol.refreshForce)

def setLedPattern (pattern : U8) : WheelM Bool := do
  writeReport (Protocol.setLedPattern (← get).wheel.protocol pattern)

def qSetLedPattern (pattern : U8) : WheelM Unit := do
  enqueue (Protocol.setLedPattern (← get).wheel.protocol pattern)

def flushReports : WheelM Bool := do
  let res ← writeReports (← get).wheel.reports
  modify fun rig => { rig with wheel := { rig.wheel with reports := [] } }
  return res

/-! ### Calibration -/

def modifyConstant (change : ConstantForceParams → ConstantForceParams) : WheelM Unit :=
  modify fun rig =>
    { rig with wheel := { rig.wheel with constant := change rig.wheel.constant } }

def modifyTrapezoid (change : TrapezoidForceParams → TrapezoidForceParams) : WheelM Unit :=
  modify fun rig =>
    { rig with wheel := { rig.wheel with trapezoid := change rig.wheel.trapezoid } }

def turnRight : WheelM Unit := do
  modifyConstant fun params => { params with enabled := true, amplitude := 96 }
  let _ ← downloadForces
  let _ ← playForces

def turnLeft : WheelM Unit := do
  modifyConstant fun params => { params with amplitude := 160 }
  let _ ← refreshForces

def shakeIt : WheelM Unit := do
  let _ ← stopForces
  modifyConstant fun params => { params with enabled := false }
  modifyTrapezoid fun params =>
    { params with
      enabled := true
      amplitudeMax := 96
      amplitudeMin := 160
      tAtMax := 32
      tAtMin := 32
      slopeStepX := 6
      slopeStepY := 6 }
  let _ ← downloadForces
  let _ ← playForces
  let _ ← stopForces
  modifyTrapezoid fun params => { params with enabled := false }

def returnToCenter : WheelM Unit := do
  let _ ← stopForces
  let _ ← enableAutocenter
  let _ ← disableAutocenter

/-- The blocks of the source are the four helpers above; the pauses between
them are left out. -/
def calibrate : WheelM Bool := do
  if !(← get).wheel.device.isPresent then return false
  if !(← disableAutocenter) then return false
  if !(← stopForces) then return false
  turnRight
  turnLeft
  shakeIt
  returnToCenter
  if !(← stopForces) then return false
  return true

/-! ### Construction -/

def take (device : HidDevice) (wheel : Wheel) : Wheel :=
  { wheel with
    device := device
    protocol := getSupportedProtocol device }

def consider (wheel : Wheel) (device : HidDevice) : Wheel :=
  if device.usage ≠ FFFB_WHEEL_USAGE ∨ device.usagePage ≠ FFFB_WHEEL_USAGE_PAGE then
    wheel
  else
    let wheel := knownWheelDeviceIds.foldl
      (fun current knownWheel =>
        if device.deviceId = knownWheel ∧ device.usagePage = FFFB_WHEEL_USAGE_PAGE ∧
            device.usage = FFFB_WHEEL_USAGE then
          current.take device
        else
          current) wheel
    if device.vendorId = logitechVendorId then wheel.take device else wheel

def initProtocol : WheelM Bool := do
  let wheel := (← get).wheel
  let sequence := Protocol.initSequence wheel.protocol wheel.device.deviceId
  if sequence.isEmpty then return true
  writeReports sequence

def construct (devices : List HidDevice) (line : Line Report) : Rig :=
  let rig : Rig :=
    { wheel := devices.foldl consider initial
      line := line }
  if rig.wheel.device.isPresent then (initProtocol.run rig).2 else rig

end Wheel

end Fffb
