import Fffb.Foundation.Footprint
import Fffb.Plugin.Progress

/-
The order of the calls between two frame ends.

A channel callback touches the fields of its channel, a frame start those of the
clock, a pause the session; only an initialization and the end of a frame look
at everything.  So the game may report different channels in any order, and move
them across frame starts and pauses, without the plugin doing anything else.
-/

namespace Fffb

open FloatArith Footprint

variable {F : Type}

theorem TelemetryField.Same.symm {field : TelemetryField} {left right : TelemetryState F}
    (same : field.Same left right) : field.Same right left := by
  cases field with
  | float field => cases field <;> exact Eq.symm same
  | _ => exact Eq.symm same

theorem TelemetryField.Same.trans {field : TelemetryField} {left middle right : TelemetryState F}
    (first : field.Same left middle) (second : field.Same middle right) :
    field.Same left right := by
  cases field with
  | float field => cases field <;> exact Eq.trans first second
  | _ => exact Eq.trans first second

theorem TelemetryState.ext_of_same {left right : TelemetryState F}
    (same : ∀ field : TelemetryField, field.Same left right) : left = right := by
  cases left
  cases right
  rw [TelemetryState.mk.injEq]
  exact ⟨same .timestamp, same .rawRenderingTimestamp, same .rawSimulationTimestamp,
    same .rawPausedSimulationTimestamp, same .orientationAvailable, same .heading, same .pitch,
    same .roll, same (.float .steering), same (.float .throttle), same (.float .brake),
    same (.float .clutch), same (.float .speed), same (.float .rpm), same .gear,
    same .substanceL, same .substanceR, same (.float .lateralAccel),
    same (.float .suspensionDeflectionL), same (.float .suspensionDeflectionR)⟩

def frameFields : List TelemetryField :=
  [.timestamp, .rawRenderingTimestamp, .rawSimulationTimestamp, .rawPausedSimulationTimestamp]

/-! ### The parts of the plugin -/

inductive PluginPart where
  | telemetry (field : TelemetryField)
  | lastTimestamp
  | session
  deriving DecidableEq, Repr

/-- The parts that a call may read or write. -/
def Callback.touches : Callback F → PluginPart → Bool
  | .telemetryInit _ _, _ => true
  | .frameEnd, _ => true
  | .frameStart _, .telemetry field => decide (field ∈ frameFields)
  | .frameStart _, .lastTimestamp => true
  | .frameStart _, .session => false
  | .channel registration _, .telemetry field =>
      decide (field ∈ channelFields registration.name registration.index)
  | .channel _ _, _ => false
  | .telemetryShutdown, part => part == .session
  | .paused, part => part == .session
  | .started, part => part == .session

def Callback.Registered : Callback F → Prop
  | .channel registration _ => registration ∈ channelRegistrations
  | _ => True

namespace Plugin

def withTelemetry (state : TelemetryState F) (last : U64) (plugin : Plugin F) : Plugin F :=
  { plugin with
    telemetryState := state
    lastTimestamp := last }

def SamePart [FloatArith F] (left right : Plugin F) : PluginPart → Prop
  | .telemetry field => field.Same left.telemetryState right.telemetryState
  | .lastTimestamp => left.lastTimestamp = right.lastTimestamp
  | .session => left.withTelemetry .zeroed (-1) = right.withTelemetry .zeroed (-1)

variable [FloatArith F]

theorem eq_withTelemetry {left right : Plugin F} (same : SamePart left right .session) :
    right = left.withTelemetry right.telemetryState right.lastTimestamp := by
  have swapped : right.withTelemetry .zeroed (-1) = left.withTelemetry .zeroed (-1) := Eq.symm same
  calc right
      = (right.withTelemetry .zeroed (-1)).withTelemetry right.telemetryState
          right.lastTimestamp := rfl
    _ = (left.withTelemetry .zeroed (-1)).withTelemetry right.telemetryState
          right.lastTimestamp := by rw [swapped]
    _ = _ := rfl

def pluginParts : Parts (Plugin F) PluginPart where
  Same part left right := SamePart left right part
  refl part plugin := by
    cases part with
    | telemetry field => exact TelemetryField.Same.refl field _
    | lastTimestamp => rfl
    | session => rfl
  symm {part left right} same := by
    cases part with
    | telemetry field => exact TelemetryField.Same.symm same
    | lastTimestamp => exact Eq.symm same
    | session => exact Eq.symm same
  trans {part left middle right} first second := by
    cases part with
    | telemetry field => exact TelemetryField.Same.trans first second
    | lastTimestamp => exact Eq.trans first second
    | session => exact Eq.trans first second
  ext {left right} same := by
    have session := eq_withTelemetry (same .session)
    have telemetry := TelemetryState.ext_of_same fun field => same (.telemetry field)
    have last : left.lastTimestamp = right.lastTimestamp := same .lastTimestamp
    rw [session, ← telemetry, ← last]
    rfl

end Plugin

namespace ChannelRegistration

variable [FloatArith F] {registration : ChannelRegistration}

theorem invoke_frame (matched : registration.Matched) {value : Option (ScsValue F)}
    {state next : TelemetryState F} (stored : registration.invoke value state = some next)
    {field : TelemetryField} (outside : field ∉ channelFields registration.name registration.index) :
    field.Same state next := by
  have returned : (registration.invoke value state).isSome = true := by
    rw [stored]
    rfl
  obtain ⟨_, fits⟩ := (registration.invoke_isSome_iff value state).mp returned
  cases value with
  | none =>
      obtain ⟨_, invoked, others⟩ := invoke_orientation_null matched fits state
      rw [stored] at invoked
      cases invoked
      exact others field outside
  | some given =>
      obtain ⟨_, invoked, others⟩ := invoke_value matched given (fits.trans matched.1.symm) state
      rw [stored] at invoked
      cases invoked
      exact others field outside

theorem invoke_reads (matched : registration.Matched) (value : Option (ScsValue F))
    {left right : TelemetryState F}
    (agree : ∀ field ∈ channelFields registration.name registration.index, field.Same left right) :
    Option.Rel (fun first second => ∀ field ∈ channelFields registration.name registration.index,
        TelemetryField.Same first second field)
      (registration.invoke value left) (registration.invoke value right) := by
  obtain ⟨_, writing⟩ := matched
  have float : ∀ (target : FloatField) (given : F), ∀ field ∈ [TelemetryField.float target],
      field.Same (left.setFloat target given) (right.setFloat target given) := by
    intro target given field member
    rw [List.mem_singleton.mp member]
    cases target <;> rfl
  have int : ∀ (target : IntField) (given : U32), ∀ field ∈ [target.telemetryField],
      field.Same (left.setInt target given) (right.setInt target given) := by
    intro target given field member
    rw [List.mem_singleton.mp member]
    cases target <;> rfl
  unfold invoke
  cases callback : registration.callback with
  | storeOrientation =>
      rw [callback] at writing
      obtain ⟨points, covers⟩ := ChannelCallback.writes_orientation writing
      rw [points, covers]
      rw [covers] at agree
      cases value with
      | none =>
          refine .some fun field member => ?_
          have before := agree field member
          simp only [List.mem_cons, List.not_mem_nil, or_false] at member
          rcases member with rfl | rfl | rfl | rfl
          · rfl
          · exact before
          · exact before
          · exact before
      | some given =>
          cases given with
          | euler heading pitch roll =>
              refine .some fun field member => ?_
              simp only [List.mem_cons, List.not_mem_nil, or_false] at member
              rcases member with rfl | rfl | rfl | rfl <;> rfl
          | _ => exact .none
  | storeFloat =>
      rw [callback] at writing
      obtain ⟨target, points, covers⟩ := ChannelCallback.writes_float (Or.inl rfl) writing
      rw [points, covers]
      cases value with
      | none => exact .none
      | some given =>
          cases given with
          | float given => exact .some (float target given)
          | _ => exact .none
  | storeS32 =>
      rw [callback] at writing
      obtain ⟨target, points, covers⟩ := ChannelCallback.writes_int (Or.inl rfl) writing
      rw [points, covers]
      cases value with
      | none => exact .none
      | some given =>
          cases given with
          | s32 given => exact .some (int target given)
          | _ => exact .none
  | storeU32 =>
      rw [callback] at writing
      obtain ⟨target, points, covers⟩ := ChannelCallback.writes_int (Or.inr rfl) writing
      rw [points, covers]
      cases value with
      | none => exact .none
      | some given =>
          cases given with
          | u32 given => exact .some (int target given)
          | _ => exact .none
  | storeFvector =>
      rw [callback] at writing
      obtain ⟨target, points, covers⟩ := ChannelCallback.writes_float (Or.inr rfl) writing
      rw [points, covers]
      cases value with
      | none => exact .none
      | some given =>
          cases given with
          | fvector x y z => exact .some (float target x)
          | _ => exact .none

end ChannelRegistration

namespace Plugin

variable [FloatArith F]

theorem channel_confined {registration : ChannelRegistration}
    (registered : registration ∈ channelRegistrations) (value : Option (ScsValue F)) :
    Confined pluginParts (Callback.channel registration value).touches
      fun plugin => step plugin (.channel registration value) where
  frame {plugin next} stepped part untouched := by
    obtain ⟨state, stored, rfl⟩ := channel_cases stepped
    cases part with
    | telemetry field =>
        have matched := ChannelRegistration.matched_of_mem registration registered
        exact ChannelRegistration.invoke_frame matched stored (of_decide_eq_false untouched)
    | lastTimestamp => rfl
    | session => rfl
  reads {left right} agree := by
    have matched := ChannelRegistration.matched_of_mem registration registered
    have fields : ∀ field ∈ channelFields registration.name registration.index,
        field.Same left.telemetryState right.telemetryState :=
      fun field member => agree (.telemetry field) (decide_eq_true member)
    have stored := ChannelRegistration.invoke_reads matched value fields
    rw [step_channel, step_channel]
    cases inLeft : registration.invoke value left.telemetryState with
    | none =>
        rw [inLeft] at stored
        rw [(Simulation.rel_none_iff stored).mp rfl]
        exact .none
    | some first =>
        cases inRight : registration.invoke value right.telemetryState with
        | none =>
            rw [inLeft, inRight] at stored
            cases stored
        | some second =>
            rw [inLeft, inRight] at stored
            obtain ⟨same⟩ := stored
            refine .some fun part touched => ?_
            cases part with
            | telemetry field => exact same field (of_decide_eq_true touched)
            | lastTimestamp => cases touched
            | session => cases touched

theorem frameStart_confined (info : FrameStart) :
    Confined pluginParts (Callback.frameStart info : Callback F).touches
      fun plugin : Plugin F => step plugin (.frameStart info) where
  frame {plugin next} stepped part untouched := by
    cases stepped
    cases part with
    | telemetry field =>
        have outside : field ∉ frameFields := of_decide_eq_false untouched
        cases field with
        | timestamp => exact False.elim (outside (by decide))
        | rawRenderingTimestamp => exact False.elim (outside (by decide))
        | rawSimulationTimestamp => exact False.elim (outside (by decide))
        | rawPausedSimulationTimestamp => exact False.elim (outside (by decide))
        | float field => cases field <;> rfl
        | _ => rfl
    | lastTimestamp => cases untouched
    | session => rfl
  reads {left right} agree := by
    have last : left.lastTimestamp = right.lastTimestamp := agree .lastTimestamp rfl
    have timestamp : left.telemetryState.timestamp = right.telemetryState.timestamp :=
      agree (.telemetry .timestamp) rfl
    refine .some fun part touched => ?_
    cases part with
    | telemetry field =>
        have inside : field ∈ frameFields := of_decide_eq_true touched
        simp only [frameFields, List.mem_cons, List.not_mem_nil, or_false] at inside
        rcases inside with rfl | rfl | rfl | rfl
        · change (frameStarted info left).telemetryState.timestamp =
            (frameStarted info right).telemetryState.timestamp
          unfold frameStarted
          rw [last, timestamp]
        · rfl
        · rfl
        · rfl
    | lastTimestamp => rfl
    | session => cases touched

/-- A call that reads and writes the session alone, whatever the telemetry. -/
theorem session_confined {callback : Callback F}
    (touches : ∀ part, callback.touches part = (part == .session))
    (moves : ∀ (plugin : Plugin F) state last, step (plugin.withTelemetry state last) callback =
      (step plugin callback).map (withTelemetry state last))
    (keeps : ∀ {plugin next : Plugin F}, step plugin callback = some next →
      next.telemetryState = plugin.telemetryState ∧ next.lastTimestamp = plugin.lastTimestamp) :
    Confined pluginParts callback.touches fun plugin => step plugin callback where
  frame {plugin next} stepped part untouched := by
    obtain ⟨telemetry, last⟩ := keeps stepped
    rw [touches] at untouched
    cases part with
    | telemetry field =>
        change field.Same plugin.telemetryState next.telemetryState
        rw [telemetry]
        exact TelemetryField.Same.refl field _
    | lastTimestamp => exact last.symm
    | session => cases untouched
  reads {left right} agree := by
    have same : SamePart left right .session := agree .session (by rw [touches]; rfl)
    rw [eq_withTelemetry same, moves]
    cases step left callback with
    | none => exact .none
    | some next =>
        refine .some fun part touched => ?_
        rw [touches] at touched
        cases part with
        | telemetry field => cases touched
        | lastTimestamp => cases touched
        | session => rfl

theorem paused_confined :
    Confined pluginParts (Callback.paused : Callback F).touches
      fun plugin : Plugin F => step plugin .paused := by
  apply session_confined (fun _ => rfl)
  · intro plugin state last
    cases logging : plugin.gameLog with
    | false =>
        rw [step_paused_of_null plugin logging,
          step_paused_of_null (plugin.withTelemetry state last) logging]
        rfl
    | true =>
        rw [step_paused plugin logging, step_paused (plugin.withTelemetry state last) logging]
        rfl
  · intro plugin next stepped
    obtain ⟨_, rfl⟩ := paused_cases stepped
    exact ⟨rfl, rfl⟩

theorem started_confined :
    Confined pluginParts (Callback.started : Callback F).touches
      fun plugin : Plugin F => step plugin .started := by
  apply session_confined (fun _ => rfl)
  · intro plugin state last
    cases logging : plugin.gameLog with
    | false =>
        rw [step_started_of_null plugin logging,
          step_started_of_null (plugin.withTelemetry state last) logging]
        rfl
    | true =>
        rw [step_started plugin logging, step_started (plugin.withTelemetry state last) logging]
        rfl
  · intro plugin next stepped
    obtain ⟨_, rfl⟩ := started_cases stepped
    exact ⟨rfl, rfl⟩

theorem telemetryShutdown_confined :
    Confined pluginParts (Callback.telemetryShutdown : Callback F).touches
      fun plugin : Plugin F => step plugin .telemetryShutdown := by
  apply session_confined (fun _ => rfl)
  · intro plugin state last
    rfl
  · intro plugin next stepped
    cases stepped
    exact ⟨rfl, rfl⟩

theorem step_confined {callback : Callback F} (registered : callback.Registered) :
    Confined pluginParts callback.touches fun plugin => step plugin callback := by
  cases callback with
  | telemetryInit version params => exact confined_of_all (fun _ => rfl) _
  | telemetryShutdown => exact telemetryShutdown_confined
  | frameStart info => exact frameStart_confined info
  | frameEnd => exact confined_of_all (fun _ => rfl) _
  | paused => exact paused_confined
  | started => exact started_confined
  | channel registration value => exact channel_confined registered value

omit [FloatArith F] in
theorem exists_touched {callback : Callback F} (registered : callback.Registered) :
    ∃ part, callback.touches part = true := by
  have reported : ∀ registration ∈ channelRegistrations,
      ∃ field, field ∈ channelFields registration.name registration.index := by
    have listed : ∀ registration ∈ channelRegistrations,
        (channelFields registration.name registration.index).head?.isSome = true := by decide
    intro registration member
    obtain ⟨field, first⟩ := Option.isSome_iff_exists.mp (listed registration member)
    exact ⟨field, List.mem_of_head? first⟩
  cases callback with
  | frameStart info => exact ⟨.lastTimestamp, rfl⟩
  | channel registration value =>
      obtain ⟨field, member⟩ := reported registration registered
      exact ⟨.telemetry field, decide_eq_true member⟩
  | _ => exact ⟨.session, rfl⟩

/-! ### Whole runs -/

/-- Two interleavings of the same calls have the same run: it is enough that
each part sees the calls that touch it in the same order. -/
theorem interleavings_agree {left right : List (Callback F)}
    (registered : ∀ callback ∈ left ++ right, callback.Registered)
    (same : ∀ part, projection Callback.touches part left =
      projection Callback.touches part right) (plugin : Plugin F) :
    run plugin left = run plugin right :=
  run_eq_of_projections (fun _ allowed => step_confined allowed)
    (fun _ allowed => exists_touched allowed)
    (fun callback member => registered callback (List.mem_append_left right member))
    (fun callback member => registered callback (List.mem_append_right left member)) same plugin

def speedChannel : ChannelRegistration :=
  ⟨"truck.speed", SCS_U32_NIL, .float, SCS_TELEMETRY_CHANNEL_FLAG_none, .storeFloat, .float .speed⟩

def rpmChannel : ChannelRegistration :=
  ⟨"truck.engine.rpm", SCS_U32_NIL, .float, SCS_TELEMETRY_CHANNEL_FLAG_none, .storeFloat,
    .float .rpm⟩

def earlyReports : List (Callback ℚ) :=
  [.channel speedChannel (some (.float 20)), .channel rpmChannel (some (.float 1500)),
    .frameStart ⟨0, 3, 2, 1⟩, .paused, .started, .frameEnd]

def lateReports : List (Callback ℚ) :=
  [.paused, .frameStart ⟨0, 3, 2, 1⟩, .started, .channel rpmChannel (some (.float 1500)),
    .channel speedChannel (some (.float 20)), .frameEnd]

theorem reports_registered : ∀ callback ∈ earlyReports ++ lateReports, callback.Registered := by
  have speed : speedChannel ∈ channelRegistrations := by decide
  have rpm : rpmChannel ∈ channelRegistrations := by decide
  intro callback member
  simp only [earlyReports, lateReports, List.cons_append, List.nil_append, List.mem_cons,
    List.not_mem_nil, or_false] at member
  rcases member with rfl | rfl | rfl | rfl | rfl | rfl | rfl | rfl | rfl | rfl | rfl | rfl
  · exact speed
  · exact rpm
  · trivial
  · trivial
  · trivial
  · trivial
  · trivial
  · trivial
  · trivial
  · exact rpm
  · exact speed
  · trivial

theorem reports_projected (part : PluginPart) :
    projection Callback.touches part earlyReports =
      projection Callback.touches part lateReports := by
  have speed : channelFields speedChannel.name speedChannel.index = [.float .speed] := by decide
  have rpm : channelFields rpmChannel.name rpmChannel.index = [.float .rpm] := by decide
  unfold projection earlyReports lateReports
  cases part with
  | telemetry field =>
      by_cases isSpeed : field = .float .speed
      · subst isSpeed
        simp [Callback.touches, speed, rpm, frameFields]
      · by_cases isRpm : field = .float .rpm
        · subst isRpm
          simp [Callback.touches, speed, rpm, frameFields]
        · by_cases ofFrame : field ∈ frameFields
          · simp [Callback.touches, speed, rpm, isSpeed, isRpm, ofFrame]
          · simp [Callback.touches, speed, rpm, isSpeed, isRpm, ofFrame]
  | lastTimestamp => simp [Callback.touches]
  | session => simp [Callback.touches]

theorem interleavings_agree_on_reports :
    ∃ started : Plugin ℚ,
      (scsTelemetryInit SCS_TELEMETRY_VERSION_1_01 acceptingGame).run
        (load [.g29] fun _ => true) = some (.ok, started) ∧
      run started earlyReports = run started lateReports := by
  obtain ⟨started, initialized⟩ := acceptingGame_opens
  exact ⟨started, initialized, interleavings_agree reports_registered reports_projected started⟩

end Plugin

end Fffb
