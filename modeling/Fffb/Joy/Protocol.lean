import Fffb.Hid.Device

/-
The force parameters and the reports that carry them to the wheel.

Each builder is the source's switch over the protocol: `logitechClassic` packs
a report, every other protocol yields the empty report.  The union of the four
parameter structs is kept as the bytes it occupies, so that a builder may read
a force through a member other than the one that was written.
-/

namespace Fffb

abbrev FFFB_FORCE_MAX_PARAMS : Nat := 7

def FFFB_FORCE_SLOT_CONSTANT : U8 := 0b0001
def FFFB_FORCE_SLOT_SPRING : U8 := 0b0011
def FFFB_FORCE_SLOT_DAMPER : U8 := 0b0100
def FFFB_FORCE_SLOT_TRAPEZOID : U8 := 0b1000
def FFFB_FORCE_SLOT_AUTOCENTER : U8 := 0b1111

def logitechVendorId : U32 := 0x0000046d
def logitechG923PsDeviceId : U32 := 0xc266046d
def logitechG29Ps4DeviceId : U32 := 0xc24f046d

def knownWheelDeviceIds : List U32 :=
  [logitechG923PsDeviceId, logitechG29Ps4DeviceId]

inductive ForceType where
  | constant
  | spring
  | damper
  | trapezoid
  | count
  deriving DecidableEq, Repr

/-- The view of the union that all parameter structs share: slot, enabled flag
and seven parameter bytes. -/
structure ForceParams where
  slot : U8
  enabled : Bool
  params : Vector U8 FFFB_FORCE_MAX_PARAMS
  deriving DecidableEq, Repr

structure ConstantForceParams where
  slot : U8
  enabled : Bool
  amplitude : U8
  deriving DecidableEq, Repr

structure SpringForceParams where
  slot : U8
  enabled : Bool
  deadStart : U8
  deadEnd : U8
  slopeLeft : U8
  slopeRight : U8
  invertLeft : U8
  invertRight : U8
  amplitude : U8
  deriving DecidableEq, Repr

structure DamperForceParams where
  slot : U8
  enabled : Bool
  slopeLeft : U8
  slopeRight : U8
  invertLeft : U8
  invertRight : U8
  deriving DecidableEq, Repr

structure TrapezoidForceParams where
  slot : U8
  enabled : Bool
  amplitudeMax : U8
  amplitudeMin : U8
  tAtMax : U8
  tAtMin : U8
  slopeStepX : U8
  slopeStepY : U8
  deriving DecidableEq, Repr

structure Force where
  type : ForceType
  params : ForceParams
  deriving DecidableEq, Repr

namespace Force

/-! ### Reading the union through one of its members -/

def constant (force : Force) : ConstantForceParams :=
  { slot := force.params.slot
    enabled := force.params.enabled
    amplitude := force.params.params[0] }

def spring (force : Force) : SpringForceParams :=
  { slot := force.params.slot
    enabled := force.params.enabled
    deadStart := force.params.params[0]
    deadEnd := force.params.params[1]
    slopeLeft := force.params.params[2]
    slopeRight := force.params.params[3]
    invertLeft := force.params.params[4]
    invertRight := force.params.params[5]
    amplitude := force.params.params[6] }

def damper (force : Force) : DamperForceParams :=
  { slot := force.params.slot
    enabled := force.params.enabled
    slopeLeft := force.params.params[0]
    slopeRight := force.params.params[1]
    invertLeft := force.params.params[2]
    invertRight := force.params.params[3] }

def trapezoid (force : Force) : TrapezoidForceParams :=
  { slot := force.params.slot
    enabled := force.params.enabled
    amplitudeMax := force.params.params[0]
    amplitudeMin := force.params.params[1]
    tAtMax := force.params.params[2]
    tAtMin := force.params.params[3]
    slopeStepX := force.params.params[4]
    slopeStepY := force.params.params[5] }

/-! ### Writing one member; padding bytes are zero -/

def ofConstant (params : ConstantForceParams) : Force :=
  { type := .constant
    params :=
      { slot := params.slot
        enabled := params.enabled
        params := #v[params.amplitude, 0, 0, 0, 0, 0, 0] } }

def ofSpring (params : SpringForceParams) : Force :=
  { type := .spring
    params :=
      { slot := params.slot
        enabled := params.enabled
        params := #v[params.deadStart, params.deadEnd, params.slopeLeft, params.slopeRight,
          params.invertLeft, params.invertRight, params.amplitude] } }

def ofDamper (params : DamperForceParams) : Force :=
  { type := .damper
    params :=
      { slot := params.slot
        enabled := params.enabled
        params := #v[params.slopeLeft, params.slopeRight,
          params.invertLeft, params.invertRight, 0, 0, 0] } }

def ofTrapezoid (params : TrapezoidForceParams) : Force :=
  { type := .trapezoid
    params :=
      { slot := params.slot
        enabled := params.enabled
        params := #v[params.amplitudeMax, params.amplitudeMin, params.tAtMax, params.tAtMin,
          params.slopeStepX, params.slopeStepY, 0] } }

end Force

inductive CommandType where
  | autoOn
  | autoOff
  | autoSet
  | ledSet
  | dlForce
  | playForce
  | refreshForce
  | stopForce
  | count
  deriving DecidableEq, Repr

inductive FfbProtocol where
  | logitechClassic
  | logitechHidpp
  | count
  deriving DecidableEq, Repr

namespace Protocol

def setLedPattern (protocol : FfbProtocol) (pattern : U8) : Report :=
  let pattern := pattern &&& 0b00011111
  match protocol with
  | .logitechClassic => .of 0xF8 0x12 pattern 0x00
  | .logitechHidpp => .empty
  | .count => .empty

def setRange (protocol : FfbProtocol) (range : U16) : Report :=
  let rangeLo : U8 := (range &&& 0x00FF).truncate 8
  let rangeHi : U8 := ((range &&& 0xFF00) >>> 8).truncate 8
  match protocol with
  | .logitechClassic => .of 0xF8 0x81 rangeLo rangeHi 0x00 0x00 0x00
  | .logitechHidpp => .empty
  | .count => .empty

def disableAutocenter (protocol : FfbProtocol) (slots : U8) : Report :=
  let command := (slots <<< 4) ||| 0x05
  match protocol with
  | .logitechClassic => .of command
  | .logitechHidpp => .empty
  | .count => .empty

def enableAutocenter (protocol : FfbProtocol) (slots : U8) : Report :=
  let command := (slots <<< 4) ||| 0x04
  match protocol with
  | .logitechClassic => .of command
  | .logitechHidpp => .empty
  | .count => .empty

def setAutocenter (protocol : FfbProtocol) (force : Force) : Report :=
  let command := (force.params.slot <<< 4) ||| 0x0e
  let slopeL := force.spring.slopeLeft ||| 0b0111
  let slopeR := force.spring.slopeRight ||| 0b0111
  let amplitude := force.spring.amplitude
  match protocol with
  | .logitechClassic => .of command 0x00 slopeL slopeR amplitude 0x00
  | .logitechHidpp => .empty
  | .count => .empty

def constantForce (protocol : FfbProtocol) (force : Force) : Report :=
  let command := force.params.slot <<< 4
  let amplitude := force.constant.amplitude
  match protocol with
  | .logitechClassic => .of command 0x00 amplitude amplitude amplitude amplitude 0x00
  | .logitechHidpp => .empty
  | .count => .empty

def springForce (protocol : FfbProtocol) (force : Force) : Report :=
  let command := force.params.slot <<< 4
  let deadStart := force.spring.deadStart
  let deadEnd := force.spring.deadEnd
  let slopeLeft := force.spring.slopeLeft &&& 0b0111
  let slopeRight := force.spring.slopeRight &&& 0b0111
  let invertLeft := force.spring.invertLeft &&& 0b0001
  let invertRight := force.spring.invertRight &&& 0b0001
  let amplitude := force.spring.amplitude
  match protocol with
  | .logitechClassic =>
      .of command 0x01
        deadStart deadEnd
        ((slopeRight <<< 4) ||| slopeLeft)
        ((invertRight <<< 4) ||| invertLeft)
        amplitude
  | .logitechHidpp => .empty
  | .count => .empty

def damperForce (protocol : FfbProtocol) (force : Force) : Report :=
  let command := force.params.slot <<< 4
  let slopeLeft := force.damper.slopeLeft &&& 0b0111
  let slopeRight := force.damper.slopeRight &&& 0b0111
  let invertLeft := force.damper.invertLeft &&& 0b0001
  let invertRight := force.damper.invertRight &&& 0b0001
  match protocol with
  | .logitechClassic =>
      .of command 0x02 slopeLeft invertLeft slopeRight invertRight 0x00
  | .logitechHidpp => .empty
  | .count => .empty

def trapezoidForce (protocol : FfbProtocol) (force : Force) : Report :=
  let command := force.params.slot <<< 4
  let maxAmp := force.trapezoid.amplitudeMax
  let minAmp := force.trapezoid.amplitudeMin
  let tMax := force.trapezoid.tAtMax
  let tMin := force.trapezoid.tAtMin
  let dxdy := (force.trapezoid.slopeStepX <<< 4) ||| force.trapezoid.slopeStepY
  match protocol with
  | .logitechClassic => .of command 0x06 maxAmp minAmp tMax tMin dxdy
  | .logitechHidpp => .empty
  | .count => .empty

def downloadForce (protocol : FfbProtocol) (force : Force) : Report :=
  match force.type with
  | .constant => constantForce protocol force
  | .spring => springForce protocol force
  | .damper => damperForce protocol force
  | .trapezoid => trapezoidForce protocol force
  | .count => .empty

def playForce (protocol : FfbProtocol) (slots : U8) : Report :=
  let command := (slots <<< 4) ||| 0x02
  match protocol with
  | .logitechClassic => .of command 0x00
  | .logitechHidpp => .empty
  | .count => .empty

/-- The download report with its command nibble overwritten.  A rejected
download is overwritten as well. -/
def refreshForce (protocol : FfbProtocol) (force : Force) : Report :=
  let rep := downloadForce protocol force
  rep.setCommand ((rep.command &&& 0xF0) ||| 0x0C)

def stopForce (protocol : FfbProtocol) (slots : U8) : Report :=
  let command := (slots <<< 4) ||| 0x03
  match protocol with
  | .logitechClassic => .of command 0x00
  | .logitechHidpp => .empty
  | .count => .empty

def initSequence (protocol : FfbProtocol) (deviceId : U32) : List Report :=
  if protocol = .logitechClassic then
    if deviceId = logitechG923PsDeviceId then
      [.of 0x30 0xf8 0x09 0x05 0x01, setRange protocol 900]
    else if deviceId = logitechG29Ps4DeviceId then
      [.of 0x30 0xf8 0x09 0x05 0x01, setRange protocol 900]
    else
      []
  else
    []

def buildReportForSlots (protocol : FfbProtocol) (cmdType : CommandType) (slots : U8) : Report :=
  match cmdType with
  | .autoOff => disableAutocenter protocol slots
  | .autoOn => enableAutocenter protocol slots
  | .playForce => playForce protocol slots
  | .stopForce => stopForce protocol slots
  | .autoSet => .empty
  | .dlForce => .empty
  | .refreshForce => .empty
  | _ => .empty

def buildReportForForce (protocol : FfbProtocol) (cmdType : CommandType) (force : Force) :
    Report :=
  match cmdType with
  | .autoSet => setAutocenter protocol force
  | .dlForce => downloadForce protocol force
  | .refreshForce => refreshForce protocol force
  | .autoOn => .empty
  | .autoOff => .empty
  | .playForce => .empty
  | .stopForce => .empty
  | _ => .empty

end Protocol

def getSupportedProtocol (device : HidDevice) : FfbProtocol :=
  if device.vendorId = logitechVendorId then .logitechClassic else .count

end Fffb
