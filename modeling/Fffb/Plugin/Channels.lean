import Fffb.Force.Simulator

/-
The channel callbacks and the registrations that name them.

A callback receives a value that may be absent and a context pointer.  The
context is kept as the place it points to: the whole telemetry state or one of
its fields.  A failed assertion, a read through a null value and a store
through a pointer of the wrong type all stop the callback.
-/

namespace Fffb

open FloatArith

inductive ScsValueType where
  | bool
  | s32
  | u32
  | u64
  | float
  | double
  | fvector
  | dvector
  | euler
  | fplacement
  | dplacement
  | string
  | s64
  deriving DecidableEq, Repr

def ScsValueType.isRead : ScsValueType → Bool
  | .s32 => true
  | .u32 => true
  | .float => true
  | .fvector => true
  | .euler => true
  | _ => false

/-- A value with its type tag.  Of a value that no callback of the plugin reads
only the tag is kept. -/
inductive ScsValue (F : Type) where
  | s32 (value : U32)
  | u32 (value : U32)
  | float (value : F)
  | fvector (x y z : F)
  | euler (heading pitch roll : F)
  | unread (type : ScsValueType) (notRead : type.isRead = false)

def ScsValue.type {F : Type} : ScsValue F → ScsValueType
  | .s32 _ => .s32
  | .u32 _ => .u32
  | .float _ => .float
  | .fvector _ _ _ => .fvector
  | .euler _ _ _ => .euler
  | .unread type _ => type

inductive FloatField where
  | steering
  | throttle
  | brake
  | clutch
  | speed
  | rpm
  | lateralAccel
  | suspensionDeflectionL
  | suspensionDeflectionR
  deriving DecidableEq, Repr

inductive IntField where
  | gear
  | substanceL
  | substanceR
  deriving DecidableEq, Repr

/-- What a registered context pointer points to. -/
inductive ScsContext where
  | null
  | state
  | float (field : FloatField)
  | int (field : IntField)
  deriving DecidableEq, Repr

inductive ChannelCallback where
  | storeOrientation
  | storeFloat
  | storeS32
  | storeU32
  | storeFvector
  deriving DecidableEq, Repr

structure ChannelRegistration where
  name : String
  index : U32
  type : ScsValueType
  flags : U32
  callback : ChannelCallback
  context : ScsContext
  deriving DecidableEq, Repr

def SCS_U32_NIL : U32 := -1
def SCS_TELEMETRY_CHANNEL_FLAG_none : U32 := 0x00000000
def SCS_TELEMETRY_CHANNEL_FLAG_no_value : U32 := 0x00000002

def channelRegistrations : List ChannelRegistration :=
  [⟨"truck.world.placement", SCS_U32_NIL, .euler, SCS_TELEMETRY_CHANNEL_FLAG_no_value,
      .storeOrientation, .state⟩,
    ⟨"truck.speed", SCS_U32_NIL, .float, SCS_TELEMETRY_CHANNEL_FLAG_none,
      .storeFloat, .float .speed⟩,
    ⟨"truck.engine.rpm", SCS_U32_NIL, .float, SCS_TELEMETRY_CHANNEL_FLAG_none,
      .storeFloat, .float .rpm⟩,
    ⟨"truck.engine.gear", SCS_U32_NIL, .s32, SCS_TELEMETRY_CHANNEL_FLAG_none,
      .storeS32, .int .gear⟩,
    ⟨"truck.effective.steering", SCS_U32_NIL, .float, SCS_TELEMETRY_CHANNEL_FLAG_none,
      .storeFloat, .float .steering⟩,
    ⟨"truck.effective.throttle", SCS_U32_NIL, .float, SCS_TELEMETRY_CHANNEL_FLAG_none,
      .storeFloat, .float .throttle⟩,
    ⟨"truck.effective.brake", SCS_U32_NIL, .float, SCS_TELEMETRY_CHANNEL_FLAG_none,
      .storeFloat, .float .brake⟩,
    ⟨"truck.effective.clutch", SCS_U32_NIL, .float, SCS_TELEMETRY_CHANNEL_FLAG_none,
      .storeFloat, .float .clutch⟩,
    ⟨"truck.wheel.substance", 0, .u32, SCS_TELEMETRY_CHANNEL_FLAG_no_value,
      .storeU32, .int .substanceL⟩,
    ⟨"truck.wheel.substance", 1, .u32, SCS_TELEMETRY_CHANNEL_FLAG_no_value,
      .storeU32, .int .substanceR⟩,
    ⟨"truck.local.acceleration.linear", SCS_U32_NIL, .fvector, SCS_TELEMETRY_CHANNEL_FLAG_none,
      .storeFvector, .float .lateralAccel⟩,
    ⟨"truck.wheel.suspension.deflection", 0, .float, SCS_TELEMETRY_CHANNEL_FLAG_none,
      .storeFloat, .float .suspensionDeflectionL⟩,
    ⟨"truck.wheel.suspension.deflection", 1, .float, SCS_TELEMETRY_CHANNEL_FLAG_none,
      .storeFloat, .float .suspensionDeflectionR⟩]

variable {F : Type}

namespace TelemetryState

def setFloat (field : FloatField) (value : F) (state : TelemetryState F) : TelemetryState F :=
  match field with
  | .steering => { state with steering := value }
  | .throttle => { state with throttle := value }
  | .brake => { state with brake := value }
  | .clutch => { state with clutch := value }
  | .speed => { state with speed := value }
  | .rpm => { state with rpm := value }
  | .lateralAccel => { state with lateralAccel := value }
  | .suspensionDeflectionL => { state with suspensionDeflectionL := value }
  | .suspensionDeflectionR => { state with suspensionDeflectionR := value }

def setInt (field : IntField) (value : U32) (state : TelemetryState F) : TelemetryState F :=
  match field with
  | .gear => { state with gear := value }
  | .substanceL => { state with substanceL := value }
  | .substanceR => { state with substanceR := value }

end TelemetryState

/-- `*static_cast< float * >( context ) = value` -/
def storeThroughFloat (context : ScsContext) (value : F) (state : TelemetryState F) :
    Option (TelemetryState F) :=
  match context with
  | .float field => some (state.setFloat field value)
  | _ => none

/-- `*static_cast< int * >( context ) = value` -/
def storeThroughInt (context : ScsContext) (value : U32) (state : TelemetryState F) :
    Option (TelemetryState F) :=
  match context with
  | .int field => some (state.setInt field value)
  | _ => none

def telemetryStoreOrientation [FloatArith F] (value : Option (ScsValue F)) (context : ScsContext)
    (state : TelemetryState F) : Option (TelemetryState F) :=
  match context with
  | .state =>
      match value with
      | none => some { state with orientationAvailable := false }
      | some (.euler heading pitch roll) =>
          some
            { state with
              orientationAvailable := true
              heading := single (heading * lit 360.0)
              pitch := single (pitch * lit 360.0)
              roll := single (roll * lit 360.0) }
      | some _ => none
  | _ => none

def telemetryStoreFloat (value : Option (ScsValue F)) (context : ScsContext)
    (state : TelemetryState F) : Option (TelemetryState F) :=
  match value with
  | some (.float value) => storeThroughFloat context value state
  | _ => none

def telemetryStoreS32 (value : Option (ScsValue F)) (context : ScsContext)
    (state : TelemetryState F) : Option (TelemetryState F) :=
  match value with
  | some (.s32 value) => storeThroughInt context value state
  | _ => none

def telemetryStoreU32 (value : Option (ScsValue F)) (context : ScsContext)
    (state : TelemetryState F) : Option (TelemetryState F) :=
  match value with
  | some (.u32 value) => storeThroughInt context value state
  | _ => none

def telemetryStoreFvector (value : Option (ScsValue F)) (context : ScsContext)
    (state : TelemetryState F) : Option (TelemetryState F) :=
  match value with
  | some (.fvector x _ _) => storeThroughFloat context x state
  | _ => none

def ChannelRegistration.invoke [FloatArith F] (registration : ChannelRegistration)
    (value : Option (ScsValue F)) (state : TelemetryState F) : Option (TelemetryState F) :=
  match registration.callback with
  | .storeOrientation => telemetryStoreOrientation value registration.context state
  | .storeFloat => telemetryStoreFloat value registration.context state
  | .storeS32 => telemetryStoreS32 value registration.context state
  | .storeU32 => telemetryStoreU32 value registration.context state
  | .storeFvector => telemetryStoreFvector value registration.context state

end Fffb
