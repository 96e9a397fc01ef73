import Fffb.Foundation.Register
import Fffb.Plugin.ChannelSafety
import Fffb.Plugin.Silence

/-
The telemetry of a session is what the game last reported.

An initialization clears it.  From then on each field holds the last value of
its channel, or zero, and the times are those of the last frame start, whatever
else was called in between.
-/

namespace Fffb

open FloatArith

variable {F : Type}

namespace TelemetryState

def floatAt (state : TelemetryState F) : FloatField → F
  | .steering => state.steering
  | .throttle => state.throttle
  | .brake => state.brake
  | .clutch => state.clutch
  | .speed => state.speed
  | .rpm => state.rpm
  | .lateralAccel => state.lateralAccel
  | .suspensionDeflectionL => state.suspensionDeflectionL
  | .suspensionDeflectionR => state.suspensionDeflectionR

def intAt (state : TelemetryState F) : IntField → U32
  | .gear => state.gear
  | .substanceL => state.substanceL
  | .substanceR => state.substanceR

def angles (state : TelemetryState F) : F × F × F := (state.heading, state.pitch, state.roll)

def rawTimestamps (state : TelemetryState F) : U64 × U64 × U64 :=
  (state.rawRenderingTimestamp, state.rawSimulationTimestamp, state.rawPausedSimulationTimestamp)

@[simp] theorem floatAt_setFloat (field target : FloatField) (value : F)
    (state : TelemetryState F) :
    (state.setFloat target value).floatAt field =
      if target = field then value else state.floatAt field := by
  cases target <;> cases field <;> rfl

@[simp] theorem floatAt_setInt (field : FloatField) (target : IntField) (value : U32)
    (state : TelemetryState F) :
    (state.setInt target value).floatAt field = state.floatAt field := by
  cases target <;> cases field <;> rfl

@[simp] theorem intAt_setInt (field target : IntField) (value : U32) (state : TelemetryState F) :
    (state.setInt target value).intAt field =
      if target = field then value else state.intAt field := by
  cases target <;> cases field <;> rfl

@[simp] theorem intAt_setFloat (field : IntField) (target : FloatField) (value : F)
    (state : TelemetryState F) : (state.setFloat target value).intAt field = state.intAt field := by
  cases target <;> cases field <;> rfl

@[simp] theorem angles_setFloat (target : FloatField) (value : F) (state : TelemetryState F) :
    (state.setFloat target value).angles = state.angles := by
  cases target <;> rfl

@[simp] theorem angles_setInt (target : IntField) (value : U32) (state : TelemetryState F) :
    (state.setInt target value).angles = state.angles := by
  cases target <;> rfl

@[simp] theorem orientationAvailable_setFloat (target : FloatField) (value : F)
    (state : TelemetryState F) :
    (state.setFloat target value).orientationAvailable = state.orientationAvailable := by
  cases target <;> rfl

@[simp] theorem orientationAvailable_setInt (target : IntField) (value : U32)
    (state : TelemetryState F) :
    (state.setInt target value).orientationAvailable = state.orientationAvailable := by
  cases target <;> rfl

@[simp] theorem rawTimestamps_setFloat (target : FloatField) (value : F)
    (state : TelemetryState F) :
    (state.setFloat target value).rawTimestamps = state.rawTimestamps := by
  cases target <;> rfl

@[simp] theorem rawTimestamps_setInt (target : IntField) (value : U32) (state : TelemetryState F) :
    (state.setInt target value).rawTimestamps = state.rawTimestamps := by
  cases target <;> rfl

theorem floatAt_zeroed [FloatArith F] (field : FloatField) :
    (zeroed : TelemetryState F).floatAt field = lit 0.0 := by
  cases field <;> rfl

theorem intAt_zeroed [FloatArith F] (field : IntField) :
    (zeroed : TelemetryState F).intAt field = 0 := by
  cases field <;> rfl

end TelemetryState

namespace ChannelRegistration

def floatGiven (field : FloatField) (registration : ChannelRegistration)
    (value : Option (ScsValue F)) : Option F :=
  match registration.context, value with
  | .float target, some (.float value) => if target = field then some value else none
  | .float target, some (.fvector x _ _) => if target = field then some x else none
  | _, _ => none

def intGiven (field : IntField) (registration : ChannelRegistration)
    (value : Option (ScsValue F)) : Option U32 :=
  match registration.context, value with
  | .int target, some (.s32 value) => if target = field then some value else none
  | .int target, some (.u32 value) => if target = field then some value else none
  | _, _ => none

def orientationGiven (registration : ChannelRegistration) (value : Option (ScsValue F)) :
    Option Bool :=
  match registration.context with
  | .state => some value.isSome
  | _ => none

def anglesGiven [FloatArith F] (registration : ChannelRegistration)
    (value : Option (ScsValue F)) : Option (F × F × F) :=
  match registration.context, value with
  | .state, some (.euler heading pitch roll) =>
      some (single (heading * lit 360.0), single (pitch * lit 360.0), single (roll * lit 360.0))
  | _, _ => none

variable [FloatArith F]

/-- What a callback that returns has found and stored. -/
inductive Stored (context : ScsContext) (state : TelemetryState F) :
    Option (ScsValue F) → TelemetryState F → Prop where
  | noOrientation (points : context = .state) :
      Stored context state none { state with orientationAvailable := false }
  | orientation (points : context = .state) (heading pitch roll : F) :
      Stored context state (some (.euler heading pitch roll))
        { state with
          orientationAvailable := true
          heading := single (heading * lit 360.0)
          pitch := single (pitch * lit 360.0)
          roll := single (roll * lit 360.0) }
  | float (field : FloatField) (points : context = .float field) (value : F) :
      Stored context state (some (.float value)) (state.setFloat field value)
  | fvector (field : FloatField) (points : context = .float field) (x y z : F) :
      Stored context state (some (.fvector x y z)) (state.setFloat field x)
  | s32 (field : IntField) (points : context = .int field) (value : U32) :
      Stored context state (some (.s32 value)) (state.setInt field value)
  | u32 (field : IntField) (points : context = .int field) (value : U32) :
      Stored context state (some (.u32 value)) (state.setInt field value)

theorem stored_of_invoke {registration : ChannelRegistration} {value : Option (ScsValue F)}
    {state next : TelemetryState F} (returned : registration.invoke value state = some next) :
    Stored registration.context state value next := by
  unfold invoke at returned
  cases callback : registration.callback with
  | storeOrientation =>
      rw [callback] at returned
      cases points : registration.context with
      | state =>
          rw [points] at returned
          cases value with
          | none =>
              cases returned
              exact .noOrientation rfl
          | some given =>
              cases given with
              | euler heading pitch roll =>
                  cases returned
                  exact .orientation rfl heading pitch roll
              | _ => cases returned
      | _ =>
          rw [points] at returned
          cases returned
  | storeFloat =>
      rw [callback] at returned
      cases value with
      | none => cases returned
      | some given =>
          cases given with
          | float value =>
              cases points : registration.context with
              | float field =>
                  rw [points] at returned
                  cases returned
                  exact .float field rfl value
              | _ =>
                  rw [points] at returned
                  cases returned
          | _ => cases returned
  | storeS32 =>
      rw [callback] at returned
      cases value with
      | none => cases returned
      | some given =>
          cases given with
          | s32 value =>
              cases points : registration.context with
              | int field =>
                  rw [points] at returned
                  cases returned
                  exact .s32 field rfl value
              | _ =>
                  rw [points] at returned
                  cases returned
          | _ => cases returned
  | storeU32 =>
      rw [callback] at returned
      cases value with
      | none => cases returned
      | some given =>
          cases given with
          | u32 value =>
              cases points : registration.context with
              | int field =>
                  rw [points] at returned
                  cases returned
                  exact .u32 field rfl value
              | _ =>
                  rw [points] at returned
                  cases returned
          | _ => cases returned
  | storeFvector =>
      rw [callback] at returned
      cases value with
      | none => cases returned
      | some given =>
          cases given with
          | fvector x y z =>
              cases points : registration.context with
              | float field =>
                  rw [points] at returned
                  cases returned
                  exact .fvector field rfl x y z
              | _ =>
                  rw [points] at returned
                  cases returned
          | _ => cases returned

end ChannelRegistration

/-! ### Readings of the telemetry -/

def Callback.given {Value : Type}
    (report : ChannelRegistration → Option (ScsValue F) → Option Value)
    (start : FrameStart → Option Value) : Callback F → Option Value
  | .channel registration value => report registration value
  | .frameStart info => start info
  | _ => none

/-- A reading that channels and frame starts replace with what they give. -/
structure Reading (F Value : Type) [FloatArith F] where
  read : TelemetryState F → Value
  report : ChannelRegistration → Option (ScsValue F) → Option Value
  start : FrameStart → Option Value
  stored : ∀ {registration : ChannelRegistration} {state next : TelemetryState F}
    {value : Option (ScsValue F)},
    ChannelRegistration.Stored registration.context state value next →
      read next = (report registration value).getD (read state)
  started : ∀ (info : FrameStart) (plugin : Plugin F),
    read (Plugin.frameStarted info plugin).telemetryState =
      (start info).getD (read plugin.telemetryState)

namespace Reading

open TelemetryState ChannelRegistration

variable [FloatArith F]

def float (field : FloatField) : Reading F F where
  read state := state.floatAt field
  report := floatGiven field
  start _ := none
  stored {registration state next value} found := by
    unfold floatGiven
    cases found with
    | noOrientation points =>
        rw [points]
        cases field <;> rfl
    | orientation points heading pitch roll =>
        rw [points]
        cases field <;> rfl
    | float target points value =>
        rw [points, floatAt_setFloat]
        dsimp only
        split
        · rfl
        · rfl
    | fvector target points x y z =>
        rw [points, floatAt_setFloat]
        dsimp only
        split
        · rfl
        · rfl
    | s32 target points value =>
        rw [points, floatAt_setInt]
        rfl
    | u32 target points value =>
        rw [points, floatAt_setInt]
        rfl
  started info plugin := by cases field <;> rfl

def int (field : IntField) : Reading F U32 where
  read state := state.intAt field
  report := intGiven field
  start _ := none
  stored {registration state next value} found := by
    unfold intGiven
    cases found with
    | noOrientation points =>
        rw [points]
        cases field <;> rfl
    | orientation points heading pitch roll =>
        rw [points]
        cases field <;> rfl
    | float target points value =>
        rw [points, intAt_setFloat]
        rfl
    | fvector target points x y z =>
        rw [points, intAt_setFloat]
        rfl
    | s32 target points value =>
        rw [points, intAt_setInt]
        dsimp only
        split
        · rfl
        · rfl
    | u32 target points value =>
        rw [points, intAt_setInt]
        dsimp only
        split
        · rfl
        · rfl
  started info plugin := by cases field <;> rfl

def orientation : Reading F Bool where
  read state := state.orientationAvailable
  report := orientationGiven
  start _ := none
  stored {registration state next value} found := by
    unfold orientationGiven
    cases found with
    | noOrientation points => rw [points]; rfl
    | orientation points heading pitch roll => rw [points]; rfl
    | float target points value => rw [points, orientationAvailable_setFloat]; rfl
    | fvector target points x y z => rw [points, orientationAvailable_setFloat]; rfl
    | s32 target points value => rw [points, orientationAvailable_setInt]; rfl
    | u32 target points value => rw [points, orientationAvailable_setInt]; rfl
  started _ _ := rfl

def angles : Reading F (F × F × F) where
  read := TelemetryState.angles
  report := anglesGiven
  start _ := none
  stored {registration state next value} found := by
    unfold anglesGiven
    cases found with
    | noOrientation points => rw [points]; rfl
    | orientation points heading pitch roll => rw [points]; rfl
    | float target points value => rw [points, angles_setFloat]; rfl
    | fvector target points x y z => rw [points, angles_setFloat]; rfl
    | s32 target points value => rw [points, angles_setInt]; rfl
    | u32 target points value => rw [points, angles_setInt]; rfl
  started _ _ := rfl

def timestamps : Reading F (U64 × U64 × U64) where
  read := rawTimestamps
  report _ _ := none
  start info := some (info.renderTime, info.simulationTime, info.pausedSimulationTime)
  stored {registration state next value} found := by
    cases found with
    | noOrientation points => rfl
    | orientation points heading pitch roll => rfl
    | float target points value => exact rawTimestamps_setFloat target value state
    | fvector target points x y z => exact rawTimestamps_setFloat target x state
    | s32 target points value => exact rawTimestamps_setInt target value state
    | u32 target points value => exact rawTimestamps_setInt target value state
  started _ _ := rfl

end Reading

namespace Plugin

open ChannelRegistration

variable [FloatArith F]

theorem step_reads {Value : Type} (reading : Reading F Value) {plugin next : Plugin F}
    {callback : Callback F} (inSession : callback.InSession)
    (stepped : step plugin callback = some next) :
    reading.read next.telemetryState =
      (callback.given reading.report reading.start).getD (reading.read plugin.telemetryState) := by
  cases callback with
  | telemetryInit version params => exact False.elim inSession
  | telemetryShutdown => exact False.elim inSession
  | frameStart info =>
      cases stepped
      exact reading.started info plugin
  | frameEnd =>
      rcases frameEnd_cases stepped with ⟨_, rfl⟩ | ⟨_, rfl⟩ | ⟨_, rfl⟩
      · rfl
      · rfl
      · rfl
  | paused =>
      obtain ⟨_, rfl⟩ := paused_cases stepped
      rfl
  | started =>
      obtain ⟨_, rfl⟩ := started_cases stepped
      rfl
  | channel registration value =>
      obtain ⟨state, returned, rfl⟩ := channel_cases stepped
      exact reading.stored (ChannelRegistration.stored_of_invoke returned)

theorem run_read {Value : Type} (reading : Reading F Value) {plugin started now : Plugin F}
    {version : U32} {params : InitParams} {callbacks : List (Callback F)}
    (initialized : (scsTelemetryInit version params).run plugin = some (.ok, started))
    (inSession : ∀ callback ∈ callbacks, callback.InSession)
    (ends : run started callbacks = some now) :
    reading.read now.telemetryState =
      (Register.lastGiven (Callback.given reading.report reading.start) callbacks).getD
        (reading.read .zeroed) := by
  obtain ⟨_, _, texts, opened⟩ := telemetryInit_of_ok initialized
  have cleared : started.telemetryState = .zeroed := by
    rw [opened]
    rfl
  have stores : ∀ (plugin : Plugin F) (callback : Callback F) (next : Plugin F),
      callback.InSession → step plugin callback = some next →
        reading.read next.telemetryState =
          (callback.given reading.report reading.start).getD
            (reading.read plugin.telemetryState) :=
    fun _ _ _ allowed stepped => step_reads reading allowed stepped
  rw [← cleared]
  exact Register.run_reads stores inSession ends

/-- At every moment of a session each field of the telemetry holds what its
channel last reported, or zero, and the raw times are those of the last frame
start. -/
theorem telemetry_latest {plugin started now : Plugin F} {version : U32} {params : InitParams}
    {callbacks : List (Callback F)}
    (initialized : (scsTelemetryInit version params).run plugin = some (.ok, started))
    (inSession : ∀ callback ∈ callbacks, callback.InSession)
    (ends : run started callbacks = some now) :
    (∀ field, now.telemetryState.floatAt field =
      (Register.lastGiven (Callback.given (floatGiven field) fun _ => none) callbacks).getD
        (lit 0.0)) ∧
    (∀ field, now.telemetryState.intAt field =
      (Register.lastGiven (Callback.given (intGiven field) fun _ => none) callbacks).getD 0) ∧
    now.telemetryState.orientationAvailable =
      (Register.lastGiven (Callback.given orientationGiven fun _ => none) callbacks).getD false ∧
    now.telemetryState.angles =
      (Register.lastGiven (Callback.given anglesGiven fun _ => none) callbacks).getD
        (lit 0.0, lit 0.0, lit 0.0) ∧
    now.telemetryState.rawTimestamps =
      (Register.lastGiven (Callback.given (fun _ _ => none) fun info =>
        some (info.renderTime, info.simulationTime, info.pausedSimulationTime)) callbacks).getD
          (0, 0, 0) := by
  refine ⟨?_, ?_, ?_, ?_, ?_⟩
  · intro field
    rw [← TelemetryState.floatAt_zeroed field]
    exact run_read (Reading.float field) initialized inSession ends
  · intro field
    rw [← @TelemetryState.intAt_zeroed F _ field]
    exact run_read (Reading.int field) initialized inSession ends
  · exact run_read Reading.orientation initialized inSession ends
  · exact run_read Reading.angles initialized inSession ends
  · exact run_read Reading.timestamps initialized inSession ends

def reportedDrive : List (Callback ℚ) :=
  [.started,
    .channel ⟨"truck.speed", SCS_U32_NIL, .float, SCS_TELEMETRY_CHANNEL_FLAG_none, .storeFloat,
      .float .speed⟩ (some (.float 20)),
    .frameStart ⟨0, 3, 2, 1⟩,
    .channel ⟨"truck.world.placement", SCS_U32_NIL, .euler, SCS_TELEMETRY_CHANNEL_FLAG_no_value,
      .storeOrientation, .state⟩ (some (.euler 1 0 0)),
    .channel ⟨"truck.speed", SCS_U32_NIL, .float, SCS_TELEMETRY_CHANNEL_FLAG_none, .storeFloat,
      .float .speed⟩ (some (.float 25)),
    .channel ⟨"truck.world.placement", SCS_U32_NIL, .euler, SCS_TELEMETRY_CHANNEL_FLAG_no_value,
      .storeOrientation, .state⟩ none,
    .frameEnd]

theorem reportedDrive_inSession : ∀ callback ∈ reportedDrive, callback.InSession := by
  intro callback member
  simp only [reportedDrive, List.mem_cons, List.not_mem_nil, or_false] at member
  rcases member with rfl | rfl | rfl | rfl | rfl | rfl | rfl <;> trivial

theorem telemetry_latest_in_reportedDrive :
    ∃ started now : Plugin ℚ,
      (scsTelemetryInit SCS_TELEMETRY_VERSION_1_01 acceptingGame).run
        (load [.g29] fun _ => true) = some (.ok, started) ∧
      run started reportedDrive = some now ∧
      (∀ field, now.telemetryState.floatAt field =
        (Register.lastGiven (Callback.given (floatGiven field) fun _ => none)
          reportedDrive).getD (lit 0.0)) ∧
      (∀ field, now.telemetryState.intAt field =
        (Register.lastGiven (Callback.given (intGiven field) fun _ => none)
          reportedDrive).getD 0) ∧
      now.telemetryState.orientationAvailable =
        (Register.lastGiven (Callback.given orientationGiven fun _ => none)
          reportedDrive).getD false ∧
      now.telemetryState.angles =
        (Register.lastGiven (Callback.given anglesGiven fun _ => none) reportedDrive).getD
          (lit 0.0, lit 0.0, lit 0.0) ∧
      now.telemetryState.rawTimestamps =
        (Register.lastGiven (Callback.given (fun _ _ => none) fun info =>
          some (info.renderTime, info.simulationTime, info.pausedSimulationTime))
            reportedDrive).getD (0, 0, 0) := by
  have runs : ((scsTelemetryInit SCS_TELEMETRY_VERSION_1_01 acceptingGame).run
      (load [.g29] fun _ => true : Plugin ℚ)).any (fun started =>
        decide (started.1 = .ok) && (run started.2 reportedDrive).isSome) = true := by
    decide +kernel
  obtain ⟨⟨result, started⟩, initialized, holds⟩ := (Option.any_eq_true _ _).mp runs
  simp only [Bool.and_eq_true, decide_eq_true_eq] at holds
  obtain ⟨rfl, later⟩ := holds
  obtain ⟨now, ends⟩ := Option.isSome_iff_exists.mp later
  exact ⟨started, now, initialized, ends, telemetry_latest initialized reportedDrive_inSession ends⟩

end Plugin

end Fffb
