import Fffb.Foundation.Transition
import Fffb.Plugin.Channels

/-
Which invocations of the registered channel callbacks trap, and which fields of
the telemetry state the others change.
-/

namespace Fffb

inductive TelemetryField where
  | timestamp
  | rawRenderingTimestamp
  | rawSimulationTimestamp
  | rawPausedSimulationTimestamp
  | orientationAvailable
  | heading
  | pitch
  | roll
  | gear
  | substanceL
  | substanceR
  | float (field : FloatField)
  deriving DecidableEq, Repr

variable {F : Type}

def TelemetryField.Same (left right : TelemetryState F) : TelemetryField → Prop
  | timestamp => left.timestamp = right.timestamp
  | rawRenderingTimestamp => left.rawRenderingTimestamp = right.rawRenderingTimestamp
  | rawSimulationTimestamp => left.rawSimulationTimestamp = right.rawSimulationTimestamp
  | rawPausedSimulationTimestamp =>
      left.rawPausedSimulationTimestamp = right.rawPausedSimulationTimestamp
  | orientationAvailable => left.orientationAvailable = right.orientationAvailable
  | heading => left.heading = right.heading
  | pitch => left.pitch = right.pitch
  | roll => left.roll = right.roll
  | gear => left.gear = right.gear
  | substanceL => left.substanceL = right.substanceL
  | substanceR => left.substanceR = right.substanceR
  | float .steering => left.steering = right.steering
  | float .throttle => left.throttle = right.throttle
  | float .brake => left.brake = right.brake
  | float .clutch => left.clutch = right.clutch
  | float .speed => left.speed = right.speed
  | float .rpm => left.rpm = right.rpm
  | float .lateralAccel => left.lateralAccel = right.lateralAccel
  | float .suspensionDeflectionL => left.suspensionDeflectionL = right.suspensionDeflectionL
  | float .suspensionDeflectionR => left.suspensionDeflectionR = right.suspensionDeflectionR

/-- The fields that the channel of this name and index reports. -/
def channelFields (name : String) (index : U32) : List TelemetryField :=
  if name = "truck.world.placement" then [.orientationAvailable, .heading, .pitch, .roll]
  else if name = "truck.speed" then [.float .speed]
  else if name = "truck.engine.rpm" then [.float .rpm]
  else if name = "truck.engine.gear" then [.gear]
  else if name = "truck.effective.steering" then [.float .steering]
  else if name = "truck.effective.throttle" then [.float .throttle]
  else if name = "truck.effective.brake" then [.float .brake]
  else if name = "truck.effective.clutch" then [.float .clutch]
  else if name = "truck.wheel.substance" then
    if index = 0 then [.substanceL] else if index = 1 then [.substanceR] else []
  else if name = "truck.local.acceleration.linear" then [.float .lateralAccel]
  else if name = "truck.wheel.suspension.deflection" then
    if index = 0 then [.float .suspensionDeflectionL]
    else if index = 1 then [.float .suspensionDeflectionR]
    else []
  else []

structure Invocation (F : Type) where
  registration : ChannelRegistration
  value : Option (ScsValue F)

namespace Invocation

/-- The contract of the channels: a value has the registered type, and there is
one unless the registration admits that there is none. -/
def Admissible (invocation : Invocation F) : Prop :=
  invocation.registration ∈ channelRegistrations ∧
    match invocation.value with
    | some value => value.type = invocation.registration.type
    | none =>
        invocation.registration.flags &&& SCS_TELEMETRY_CHANNEL_FLAG_no_value ≠ 0

def step [FloatArith F] (state : TelemetryState F) (invocation : Invocation F) :
    Option (TelemetryState F) :=
  invocation.registration.invoke invocation.value state

/-- Every invocation of the sequence returns and changes no field of another
channel. -/
def Safe [FloatArith F] (state : TelemetryState F) (invocations : List (Invocation F)) : Prop :=
  ∀ before invocation after, invocations = before ++ invocation :: after →
    ∃ current next, Transition.run step state before = some current ∧
      step current invocation = some next ∧
      ∀ field, field ∉ channelFields invocation.registration.name invocation.registration.index →
        field.Same current next

end Invocation

def ChannelCallback.valueType : ChannelCallback → ScsValueType
  | .storeOrientation => .euler
  | .storeFloat => .float
  | .storeS32 => .s32
  | .storeU32 => .u32
  | .storeFvector => .fvector

/-- The fields that a callback writes through its context, when it casts the
context to what it is. -/
def ChannelCallback.writes : ChannelCallback → ScsContext → Option (List TelemetryField)
  | .storeOrientation, .state => some [.orientationAvailable, .heading, .pitch, .roll]
  | .storeFloat, .float field => some [.float field]
  | .storeFvector, .float field => some [.float field]
  | .storeS32, .int .gear => some [.gear]
  | .storeS32, .int .substanceL => some [.substanceL]
  | .storeS32, .int .substanceR => some [.substanceR]
  | .storeU32, .int .gear => some [.gear]
  | .storeU32, .int .substanceL => some [.substanceL]
  | .storeU32, .int .substanceR => some [.substanceR]
  | _, _ => none

namespace ChannelRegistration

def Matched (registration : ChannelRegistration) : Prop :=
  registration.type = registration.callback.valueType ∧
    registration.callback.writes registration.context =
      some (channelFields registration.name registration.index)

instance (registration : ChannelRegistration) : Decidable registration.Matched :=
  inferInstanceAs (Decidable (_ ∧ _))

theorem matched_of_mem : ∀ registration ∈ channelRegistrations, registration.Matched := by
  decide

theorem no_value_of_mem :
    ∀ registration ∈ channelRegistrations,
      registration.flags &&& SCS_TELEMETRY_CHANNEL_FLAG_no_value ≠ 0 →
        registration.callback = .storeOrientation ∨ registration.name = "truck.wheel.substance" := by
  decide

theorem substance_callback :
    ∀ registration ∈ channelRegistrations, registration.name = "truck.wheel.substance" →
      registration.callback = .storeU32 := by
  decide

end ChannelRegistration

theorem TelemetryField.Same.refl (field : TelemetryField) (state : TelemetryState F) :
    field.Same state state := by
  cases field with
  | float field => cases field <;> rfl
  | _ => rfl

def IntField.telemetryField : IntField → TelemetryField
  | gear => .gear
  | substanceL => .substanceL
  | substanceR => .substanceR

theorem TelemetryState.setFloat_same (target : FloatField) (value : F) (state : TelemetryState F)
    (field : TelemetryField) (other : field ≠ .float target) :
    field.Same state (state.setFloat target value) := by
  cases field with
  | float field =>
      cases target <;> cases field <;> first | rfl | exact False.elim (other rfl)
  | _ => cases target <;> rfl

theorem TelemetryState.setInt_same (target : IntField) (value : U32) (state : TelemetryState F)
    (field : TelemetryField) (other : field ≠ target.telemetryField) :
    field.Same state (state.setInt target value) := by
  cases field with
  | float field => cases target <;> cases field <;> rfl
  | _ => cases target <;> first | rfl | exact False.elim (other rfl)

theorem storeThroughFloat_spec {context : ScsContext} {fields : List TelemetryField}
    {target : FloatField} (points : context = .float target) (covers : fields = [.float target])
    (value : F) (state : TelemetryState F) :
    ∃ next, storeThroughFloat context value state = some next ∧
      ∀ field, field ∉ fields → field.Same state next := by
  cases points
  refine ⟨state.setFloat target value, rfl, ?_⟩
  intro field outside
  apply TelemetryState.setFloat_same
  intro inside
  apply outside
  rw [covers, inside]
  exact List.mem_singleton_self _

theorem storeThroughInt_spec {context : ScsContext} {fields : List TelemetryField}
    {target : IntField} (points : context = .int target)
    (covers : fields = [target.telemetryField]) (value : U32) (state : TelemetryState F) :
    ∃ next, storeThroughInt context value state = some next ∧
      ∀ field, field ∉ fields → field.Same state next := by
  cases points
  refine ⟨state.setInt target value, rfl, ?_⟩
  intro field outside
  apply TelemetryState.setInt_same
  intro inside
  apply outside
  rw [covers, inside]
  exact List.mem_singleton_self _

namespace ChannelCallback

theorem writes_float {callback : ChannelCallback} (takes : callback = .storeFloat ∨
    callback = .storeFvector) {context : ScsContext} {fields : List TelemetryField}
    (writing : callback.writes context = some fields) :
    ∃ target, context = .float target ∧ fields = [.float target] := by
  rcases takes with rfl | rfl
  · cases context with
    | float target => exact ⟨target, rfl, (Option.some.inj writing).symm⟩
    | null => cases writing
    | state => cases writing
    | int target => cases writing
  · cases context with
    | float target => exact ⟨target, rfl, (Option.some.inj writing).symm⟩
    | null => cases writing
    | state => cases writing
    | int target => cases writing

theorem writes_int {callback : ChannelCallback} (takes : callback = .storeS32 ∨
    callback = .storeU32) {context : ScsContext} {fields : List TelemetryField}
    (writing : callback.writes context = some fields) :
    ∃ target : IntField, context = .int target ∧ fields = [target.telemetryField] := by
  rcases takes with rfl | rfl
  · cases context with
    | int target =>
        refine ⟨target, rfl, ?_⟩
        cases target <;> exact (Option.some.inj writing).symm
    | null => cases writing
    | state => cases writing
    | float target => cases writing
  · cases context with
    | int target =>
        refine ⟨target, rfl, ?_⟩
        cases target <;> exact (Option.some.inj writing).symm
    | null => cases writing
    | state => cases writing
    | float target => cases writing

theorem writes_orientation {context : ScsContext} {fields : List TelemetryField}
    (writing : storeOrientation.writes context = some fields) :
    context = .state ∧ fields = [.orientationAvailable, .heading, .pitch, .roll] := by
  cases context with
  | state => exact ⟨rfl, (Option.some.inj writing).symm⟩
  | null => cases writing
  | float target => cases writing
  | int target => cases writing

end ChannelCallback

/-! ### One invocation -/

namespace ChannelRegistration

variable [FloatArith F] {registration : ChannelRegistration} (matched : registration.Matched)

include matched

/-- A null value is stored by the orientation callback and by no other. -/
theorem invoke_orientation_null (orients : registration.callback = .storeOrientation)
    (state : TelemetryState F) :
    ∃ next, registration.invoke none state = some next ∧
      ∀ field, field ∉ channelFields registration.name registration.index →
        field.Same state next := by
  obtain ⟨_, writing⟩ := matched
  rw [orients] at writing
  obtain ⟨points, covers⟩ := ChannelCallback.writes_orientation writing
  refine ⟨{ state with orientationAvailable := false }, ?_, ?_⟩
  · unfold invoke
    rw [orients, points]
    rfl
  · intro field outside
    rw [covers] at outside
    cases field with
    | orientationAvailable => exact False.elim (outside List.mem_cons_self)
    | float field => cases field <;> rfl
    | _ => rfl

theorem invoke_value (value : ScsValue F) (typed : value.type = registration.type)
    (state : TelemetryState F) :
    ∃ next, registration.invoke (some value) state = some next ∧
      ∀ field, field ∉ channelFields registration.name registration.index →
        field.Same state next := by
  obtain ⟨asserted, writing⟩ := matched
  rw [asserted] at typed
  unfold invoke
  cases callback : registration.callback with
  | storeOrientation =>
      rw [callback] at typed writing
      obtain ⟨points, covers⟩ := ChannelCallback.writes_orientation writing
      rw [points]
      cases value with
      | euler heading pitch roll =>
          refine ⟨_, rfl, ?_⟩
          intro field outside
          rw [covers] at outside
          cases field with
          | float field => cases field <;> rfl
          | orientationAvailable => exact False.elim (outside (by decide))
          | heading => exact False.elim (outside (by decide))
          | pitch => exact False.elim (outside (by decide))
          | roll => exact False.elim (outside (by decide))
          | _ => rfl
      | unread type notRead =>
          cases typed
          cases notRead
      | _ => cases typed
  | storeFloat =>
      rw [callback] at typed writing
      obtain ⟨target, points, covers⟩ := ChannelCallback.writes_float (Or.inl rfl) writing
      cases value with
      | float value => exact storeThroughFloat_spec points covers value state
      | unread type notRead =>
          cases typed
          cases notRead
      | _ => cases typed
  | storeS32 =>
      rw [callback] at typed writing
      obtain ⟨target, points, covers⟩ := ChannelCallback.writes_int (Or.inl rfl) writing
      cases value with
      | s32 value => exact storeThroughInt_spec points covers value state
      | unread type notRead =>
          cases typed
          cases notRead
      | _ => cases typed
  | storeU32 =>
      rw [callback] at typed writing
      obtain ⟨target, points, covers⟩ := ChannelCallback.writes_int (Or.inr rfl) writing
      cases value with
      | u32 value => exact storeThroughInt_spec points covers value state
      | unread type notRead =>
          cases typed
          cases notRead
      | _ => cases typed
  | storeFvector =>
      rw [callback] at typed writing
      obtain ⟨target, points, covers⟩ := ChannelCallback.writes_float (Or.inr rfl) writing
      cases value with
      | fvector x y z => exact storeThroughFloat_spec points covers x state
      | unread type notRead =>
          cases typed
          cases notRead
      | _ => cases typed

end ChannelRegistration

namespace Invocation

variable [FloatArith F]

def LacksSubstance (invocation : Invocation F) : Prop :=
  invocation.registration.name = "truck.wheel.substance" ∧ invocation.value = none

theorem step_of_lacksSubstance {invocation : Invocation F} (admissible : invocation.Admissible)
    (lacks : invocation.LacksSubstance) (state : TelemetryState F) :
    step state invocation = none := by
  have callback := ChannelRegistration.substance_callback _ admissible.1 lacks.1
  unfold step ChannelRegistration.invoke
  rw [lacks.2, callback]
  rfl

theorem step_of_not_lacksSubstance {invocation : Invocation F}
    (admissible : invocation.Admissible) (reported : ¬ invocation.LacksSubstance)
    (state : TelemetryState F) :
    ∃ next, step state invocation = some next ∧
      ∀ field, field ∉ channelFields invocation.registration.name invocation.registration.index →
        field.Same state next := by
  obtain ⟨registered, contract⟩ := admissible
  have matched := ChannelRegistration.matched_of_mem _ registered
  unfold step
  cases value : invocation.value with
  | some value' =>
      rw [value] at contract
      exact ChannelRegistration.invoke_value matched value' contract state
  | none =>
      rw [value] at contract
      rcases ChannelRegistration.no_value_of_mem _ registered contract with orients | substance
      · exact ChannelRegistration.invoke_orientation_null matched orients state
      · exact False.elim (reported ⟨substance, value⟩)

/-! ### Sequences of invocations -/

theorem run_of_reported (state : TelemetryState F) (invocations : List (Invocation F))
    (admissible : ∀ invocation ∈ invocations, invocation.Admissible)
    (reported : ∀ invocation ∈ invocations, ¬ invocation.LacksSubstance) :
    ∃ last, Transition.run step state invocations = some last := by
  induction invocations generalizing state with
  | nil => exact ⟨state, rfl⟩
  | cons first rest ih =>
      obtain ⟨next, stepped, _⟩ := step_of_not_lacksSubstance
        (admissible first List.mem_cons_self) (reported first List.mem_cons_self) state
      rw [Transition.run_cons, stepped]
      exact ih next (fun later member => admissible later (List.mem_cons_of_mem _ member))
        fun later member => reported later (List.mem_cons_of_mem _ member)

/-- The callback of the substance channels asserts a value that its
registration lets the game leave out, and it is the only one: a sequence that
the contract admits is safe exactly when no substance goes unreported. -/
theorem safe_iff (state : TelemetryState F) (invocations : List (Invocation F))
    (admissible : ∀ invocation ∈ invocations, invocation.Admissible) :
    Safe state invocations ↔ ∀ invocation ∈ invocations, ¬ invocation.LacksSubstance := by
  constructor
  · intro safe invocation member lacks
    obtain ⟨before, after, split⟩ := List.append_of_mem member
    obtain ⟨current, next, _, stepped, _⟩ := safe before invocation after split
    rw [step_of_lacksSubstance (admissible invocation member) lacks] at stepped
    cases stepped
  · intro reported before invocation after split
    have member : invocation ∈ invocations := by
      rw [split]
      exact List.mem_append_right _ List.mem_cons_self
    have earlier : ∀ other ∈ before, other ∈ invocations := by
      intro other within
      rw [split]
      exact List.mem_append_left _ within
    obtain ⟨current, reached⟩ := run_of_reported state before
      (fun other within => admissible other (earlier other within))
      fun other within => reported other (earlier other within)
    obtain ⟨next, stepped, same⟩ := step_of_not_lacksSubstance (admissible invocation member)
      (reported invocation member) current
    exact ⟨current, next, reached, stepped, same⟩

def missingSubstance : Invocation ℚ :=
  { registration := ⟨"truck.wheel.substance", 0, .u32, SCS_TELEMETRY_CHANNEL_FLAG_no_value,
      .storeU32, .int .substanceL⟩
    value := none }

theorem missingSubstance_admissible : missingSubstance.Admissible := by
  refine ⟨by decide, ?_⟩
  change SCS_TELEMETRY_CHANNEL_FLAG_no_value &&& SCS_TELEMETRY_CHANNEL_FLAG_no_value ≠ 0
  decide

theorem missingSubstance_traps :
    missingSubstance.Admissible ∧ ¬ Safe TelemetryState.zeroed [missingSubstance] := by
  refine ⟨missingSubstance_admissible, ?_⟩
  intro safe
  obtain ⟨current, next, _, stepped, _⟩ := safe [] missingSubstance [] rfl
  cases stepped

theorem safe_iff_at_missingSubstance :
    Safe TelemetryState.zeroed [missingSubstance] ↔
      ∀ invocation ∈ [missingSubstance], ¬ invocation.LacksSubstance :=
  safe_iff TelemetryState.zeroed [missingSubstance] fun invocation member => by
    rw [List.mem_singleton.mp member]
    exact missingSubstance_admissible

end Invocation

end Fffb
