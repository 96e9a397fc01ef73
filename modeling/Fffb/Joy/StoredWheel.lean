import Fffb.Joy.WheelPlaying
import Fffb.Joy.WheelUnload
import Fffb.Uti.Vector

/-
The wheel with its vectors in memory.

The queue is a member vector; a download, a refresh and the initial sequence
put their reports in vectors of their own, which are destroyed when the
function returns.  What uses no vector is taken over as it is.
-/

namespace Fffb

/-- A wheel object, its queue and the memory that its vectors lie in.  The list
of reports of the wheel is not used. -/
structure StoredRig where
  rig : Rig
  reports : Uti.Vector
  heap : Heap Report

/-- `none` is undefined behaviour. -/
abbrev StoredM := StateT StoredRig Option

namespace StoredWheel

def unstored {α : Type} (operation : WheelM α) : StoredM α := fun stored =>
  let (value, rig) := operation.run stored.rig
  some (value, { stored with rig := rig })

def memory {α : Type} (operation : HeapM Report α) : StoredM α := fun stored =>
  (operation.run stored.heap).map fun (value, heap) => (value, { stored with heap := heap })

def emplaceBackEach (reports : Uti.Vector) : List Report → StoredM Uti.Vector
  | [] => return reports
  | report :: rest => do
      let reports ← memory (reports.emplaceBack report)
      emplaceBackEach reports rest

/-- The loop of `_write_reports`, from a place in the vector on. -/
def writeEach (position : Pointer) : Nat → StoredM Bool
  | 0 => return true
  | count + 1 => do
      let rep ← memory (Heap.load position)
      if !(← unstored (Wheel.writeDevice rep)) then return false
      let next ← memory (StateT.lift (position.advance 1))
      writeEach next count

def writeReports (reports : Uti.Vector) : StoredM Bool := do
  if !(← unstored Wheel.openDevice) then return false
  if !(← writeEach reports.begin reports.size) then return false
  if !(← unstored Wheel.closeDevice) then return false
  return true

def writeOwn (reports : Uti.Vector) : StoredM Bool := do
  let res ← writeReports reports
  memory reports.destroy
  return res

/-! ### The queue -/

def enqueue (report : Report) : StoredM Unit := do
  let reports ← memory ((← get).reports.emplaceBack report)
  modify fun stored => { stored with reports := reports }

def enqueueEach : List Report → StoredM Unit
  | [] => return ()
  | report :: rest => do
      enqueue report
      enqueueEach rest

def flushReports : StoredM Bool := do
  let res ← writeReports (← get).reports
  modify fun stored => { stored with reports := stored.reports.clear }
  return res

def qDisableAutocenter : StoredM Unit := do
  enqueue (Protocol.disableAutocenter (← get).rig.wheel.protocol 0x0F)

def qEnableAutocenter : StoredM Unit := do
  enqueue (Protocol.enableAutocenter (← get).rig.wheel.protocol 0x0F)

def qDownloadForces : StoredM Unit := do
  enqueueEach ((← get).rig.wheel.enabledReports Protocol.downloadForce)

def qPlayForces : StoredM Unit := do
  unstored (Wheel.setPlaying true)
  let wheel := (← get).rig.wheel
  enqueue (Protocol.playForce wheel.protocol wheel.enabledSlots)

def qStopForces : StoredM Unit := do
  unstored (Wheel.setPlaying false)
  enqueue (Protocol.stopForce (← get).rig.wheel.protocol 0x0F)

def qRefreshForces : StoredM Unit := do
  if !(← get).rig.wheel.playing then qPlayForces
  enqueueEach ((← get).rig.wheel.enabledReports Protocol.refreshForce)

def qSetLedPattern (pattern : U8) : StoredM Unit := do
  enqueue (Protocol.setLedPattern (← get).rig.wheel.protocol pattern)

def downloadForces : StoredM Bool := do
  let reports ← memory (Uti.Vector.withCapacity 5)
  let reports ← emplaceBackEach reports ((← get).rig.wheel.enabledReports Protocol.downloadForce)
  writeOwn reports

def refreshForces : StoredM Bool := do
  if !(← get).rig.wheel.playing then
    unstored Wheel.playForces
  else
    let reports ← memory (Uti.Vector.withCapacity 4)
    let reports ← emplaceBackEach reports ((← get).rig.wheel.enabledReports Protocol.refreshForce)
    writeOwn reports

def initProtocol : StoredM Bool := do
  let wheel := (← get).rig.wheel
  let sequence ← emplaceBackEach .empty (Protocol.initSequence wheel.protocol wheel.device.deviceId)
  if sequence.size = 0 then
    memory sequence.destroy
    return true
  else
    writeOwn sequence

def turnRight : StoredM Unit := do
  unstored (Wheel.modifyConstant fun params => { params with enabled := true, amplitude := 96 })
  let _ ← downloadForces
  let _ ← unstored Wheel.playForces

def turnLeft : StoredM Unit := do
  unstored (Wheel.modifyConstant fun params => { params with amplitude := 160 })
  let _ ← refreshForces

def shakeIt : StoredM Unit := do
  let _ ← unstored Wheel.stopForces
  unstored (Wheel.modifyConstant fun params => { params with enabled := false })
  unstored (Wheel.modifyTrapezoid fun params =>
    { params with
      enabled := true
      amplitudeMax := 96
      amplitudeMin := 160
      tAtMax := 32
      tAtMin := 32
      slopeStepX := 6
      slopeStepY := 6 })
  let _ ← downloadForces
  let _ ← unstored Wheel.playForces
  let _ ← unstored Wheel.stopForces
  unstored (Wheel.modifyTrapezoid fun params => { params with enabled := false })

def calibrate : StoredM Bool := do
  if !(← get).rig.wheel.device.isPresent then return false
  if !(← unstored Wheel.disableAutocenter) then return false
  if !(← unstored Wheel.stopForces) then return false
  turnRight
  turnLeft
  shakeIt
  unstored Wheel.returnToCenter
  if !(← unstored Wheel.stopForces) then return false
  return true

/-- The constructor; the vector of the listed devices is not laid out. -/
def construct (devices : List HidDevice) (line : Line Report) (heap : Heap Report) :
    Option StoredRig :=
  let stored : StoredRig :=
    { rig :=
        { wheel := devices.foldl Wheel.consider Wheel.initial
          line := line }
      reports := .empty
      heap := heap }
  if stored.rig.wheel.device.isPresent then
    (initProtocol.run stored).map fun (_, stored) => stored
  else
    some stored

def destroy : StoredM Unit := do
  unstored Wheel.destroy
  memory (← get).reports.destroy

/-! ### Commands -/

def performQueued : Wheel.Queued → StoredM Unit
  | .disableAutocenter => qDisableAutocenter
  | .enableAutocenter => qEnableAutocenter
  | .downloadForces => qDownloadForces
  | .playForces => qPlayForces
  | .stopForces => qStopForces
  | .refreshForces => qRefreshForces
  | .setLedPattern pattern => qSetLedPattern pattern
  | .assign constant spring damper trapezoid =>
      unstored (Wheel.assignEffects constant spring damper trapezoid)

end StoredWheel

inductive Wheel.Command where
  | calibrate
  | disableAutocenter
  | enableAutocenter
  | downloadForces
  | playForces
  | stopForces
  | refreshForces
  | setLedPattern (pattern : U8)
  | queue (queued : Wheel.Queued)
  | flushReports

def Wheel.perform : Wheel.Command → WheelM Bool
  | .calibrate => calibrate
  | .disableAutocenter => disableAutocenter
  | .enableAutocenter => enableAutocenter
  | .downloadForces => downloadForces
  | .playForces => playForces
  | .stopForces => stopForces
  | .refreshForces => refreshForces
  | .setLedPattern pattern => setLedPattern pattern
  | .queue queued => do
      queued.perform
      return true
  | .flushReports => flushReports

def Wheel.performAll : List Wheel.Command → WheelM (List Bool)
  | [] => return []
  | command :: rest => do
      let res ← perform command
      let results ← performAll rest
      return res :: results

def StoredWheel.perform : Wheel.Command → StoredM Bool
  | .calibrate => calibrate
  | .disableAutocenter => unstored Wheel.disableAutocenter
  | .enableAutocenter => unstored Wheel.enableAutocenter
  | .downloadForces => downloadForces
  | .playForces => unstored Wheel.playForces
  | .stopForces => unstored Wheel.stopForces
  | .refreshForces => refreshForces
  | .setLedPattern pattern => unstored (Wheel.setLedPattern pattern)
  | .queue queued => do
      performQueued queued
      return true
  | .flushReports => flushReports

def StoredWheel.performAll : List Wheel.Command → StoredM (List Bool)
  | [] => return []
  | command :: rest => do
      let res ← perform command
      let results ← performAll rest
      return res :: results

end Fffb
