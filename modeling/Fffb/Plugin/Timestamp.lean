import Fffb.Foundation.Segments
import Fffb.Plugin.ChannelSafety
import Fffb.Plugin.Silence

/-
The timestamp of the telemetry is the time of the paused simulation.

Every frame start adds the difference to the last value it saw, or to zero
after a restart of the timer.  The first frame of a session finds the sentinel
instead of a value and adds nothing, and no later frame finds it again as long
as no value is the sentinel itself.
-/

namespace Fffb

open Clock FloatArith

namespace FrameStart

/-- Does the frame start come with the `timer_restart` flag? -/
def restarts (info : FrameStart) : Bool :=
  decide (info.flags &&& SCS_TELEMETRY_FRAME_START_FLAG_timer_restart ≠ 0)

def time (info : FrameStart) : Int := info.pausedSimulationTime.toNat

end FrameStart

variable {F : Type}

def Callback.frameStart? : Callback F → Option FrameStart
  | .frameStart info => some info
  | _ => none

namespace Plugin

def frameStarts (callbacks : List (Callback F)) : List FrameStart :=
  callbacks.filterMap Callback.frameStart?

/-- The value of the last frame start; the sentinel stands for none. -/
def lastReading (plugin : Plugin F) : Option Int :=
  if plugin.lastTimestamp = -1 then none else some plugin.lastTimestamp.toNat

theorem frameStarts_append (before after : List (Callback F)) :
    frameStarts (before ++ after) = frameStarts before ++ frameStarts after :=
  List.filterMap_append

/-- The segments hold the frame starts, and every one but the first begins with
a restart. -/
theorem frameStarts_segmented (callbacks : List (Callback F)) :
    (segments FrameStart.restarts (frameStarts callbacks)).flatMap Segment.readings =
        frameStarts callbacks ∧
      ∀ segment ∈ (segments FrameStart.restarts (frameStarts callbacks)).tail,
        segment.first.restarts = true :=
  ⟨flatMap_segments _, fun _ member => restarts_of_mem_tail member⟩

theorem ofInt_sub_toNat (left right : U64) :
    BitVec.ofInt 64 ((left.toNat : Int) - right.toNat) = left - right := by
  rw [sub_eq_add_neg, BitVec.ofInt_add, BitVec.ofInt_neg, BitVec.ofInt_natCast,
    BitVec.ofInt_natCast, BitVec.ofNat_toNat, BitVec.ofNat_toNat, BitVec.setWidth_eq,
    BitVec.setWidth_eq, ← sub_eq_add_neg]

theorem advance_eq_sub (info : FrameStart) (plugin : Plugin F) :
    BitVec.ofInt 64 (advance FrameStart.restarts FrameStart.time plugin.lastReading info) =
      info.pausedSimulationTime -
        if info.flags &&& SCS_TELEMETRY_FRAME_START_FLAG_timer_restart ≠ 0 then 0
        else if plugin.lastTimestamp = -1 then info.pausedSimulationTime
        else plugin.lastTimestamp := by
  unfold advance FrameStart.restarts lastReading FrameStart.time
  simp only [decide_eq_true_eq]
  split_ifs with restarted unseen
  · have zero : (0 : Int) = (0 : U64).toNat := rfl
    rw [zero]
    exact ofInt_sub_toNat _ _
  · exact ofInt_sub_toNat _ _
  · exact ofInt_sub_toNat _ _

theorem frameStarted_timestamp (info : FrameStart) (plugin : Plugin F) :
    (frameStarted info plugin).telemetryState.timestamp =
      plugin.telemetryState.timestamp +
        BitVec.ofInt 64 (advance FrameStart.restarts FrameStart.time plugin.lastReading info) := by
  rw [advance_eq_sub]
  rfl

theorem frameStarted_lastReading {info : FrameStart} (below : info.pausedSimulationTime ≠ -1)
    (plugin : Plugin F) : (frameStarted info plugin).lastReading = some info.time :=
  if_neg below

theorem storeThroughFloat_timestamp {context : ScsContext} {value : F}
    {state next : TelemetryState F} (stored : storeThroughFloat context value state = some next) :
    next.timestamp = state.timestamp := by
  cases context with
  | float field =>
      cases stored
      exact (TelemetryState.setFloat_same field value state .timestamp nofun).symm
  | _ => cases stored

theorem storeThroughInt_timestamp {context : ScsContext} {value : U32}
    {state next : TelemetryState F} (stored : storeThroughInt context value state = some next) :
    next.timestamp = state.timestamp := by
  cases context with
  | int field =>
      have other : TelemetryField.timestamp ≠ field.telemetryField := by cases field <;> nofun
      cases stored
      exact (TelemetryState.setInt_same field value state .timestamp other).symm
  | _ => cases stored

variable [FloatArith F]

theorem storeOrientation_timestamp {context : ScsContext} {value : Option (ScsValue F)}
    {state next : TelemetryState F}
    (stored : telemetryStoreOrientation value context state = some next) :
    next.timestamp = state.timestamp := by
  unfold telemetryStoreOrientation at stored
  split at stored
  · split at stored
    · cases stored
      rfl
    · cases stored
      rfl
    · cases stored
  · cases stored

theorem invoke_timestamp {registration : ChannelRegistration} {value : Option (ScsValue F)}
    {state next : TelemetryState F} (stored : registration.invoke value state = some next) :
    next.timestamp = state.timestamp := by
  unfold ChannelRegistration.invoke at stored
  split at stored
  · exact storeOrientation_timestamp stored
  · unfold telemetryStoreFloat at stored
    split at stored
    · exact storeThroughFloat_timestamp stored
    · cases stored
  · unfold telemetryStoreS32 at stored
    split at stored
    · exact storeThroughInt_timestamp stored
    · cases stored
  · unfold telemetryStoreU32 at stored
    split at stored
    · exact storeThroughInt_timestamp stored
    · cases stored
  · unfold telemetryStoreFvector at stored
    split at stored
    · exact storeThroughFloat_timestamp stored
    · cases stored

/-- A callback that starts no frame changes neither the timestamp nor the last
value. -/
theorem step_sameClock {plugin next : Plugin F} {callback : Callback F}
    (inSession : callback.InSession) (other : callback.frameStart? = none)
    (stepped : step plugin callback = some next) :
    next.telemetryState.timestamp = plugin.telemetryState.timestamp ∧
      next.lastReading = plugin.lastReading := by
  cases callback with
  | telemetryInit version params => exact False.elim inSession
  | telemetryShutdown => exact False.elim inSession
  | frameStart info => cases other
  | frameEnd =>
      rcases frameEnd_cases stepped with ⟨_, rfl⟩ | ⟨_, rfl⟩ | ⟨_, rfl⟩
      · exact ⟨rfl, rfl⟩
      · exact ⟨rfl, rfl⟩
      · exact ⟨rfl, rfl⟩
  | paused =>
      obtain ⟨_, rfl⟩ := paused_cases stepped
      exact ⟨rfl, rfl⟩
  | started =>
      obtain ⟨_, rfl⟩ := started_cases stepped
      exact ⟨rfl, rfl⟩
  | channel registration value =>
      obtain ⟨_, stored, rfl⟩ := channel_cases stepped
      exact ⟨invoke_timestamp stored, rfl⟩

/-! ### Whole sessions -/

theorem run_timestamp {plugin last : Plugin F} {callbacks : List (Callback F)}
    (inSession : ∀ callback ∈ callbacks, callback.InSession)
    (below : ∀ info ∈ frameStarts callbacks, info.pausedSimulationTime ≠ -1)
    (ends : run plugin callbacks = some last) :
    last.telemetryState.timestamp = plugin.telemetryState.timestamp +
      BitVec.ofInt 64 (drift FrameStart.restarts FrameStart.time plugin.lastReading
        (frameStarts callbacks)) := by
  induction callbacks generalizing plugin with
  | nil =>
      cases ends
      exact (BitVec.add_zero _).symm
  | cons callback rest ih =>
      obtain ⟨next, stepped, continued⟩ := Transition.run_cons_cases ends
      have inside := inSession callback List.mem_cons_self
      have others : ∀ other ∈ rest, other.InSession :=
        fun other member => inSession other (List.mem_cons_of_mem callback member)
      cases starts : callback.frameStart? with
      | none =>
          have frames : frameStarts (callback :: rest) = frameStarts rest :=
            List.filterMap_cons_none starts
          obtain ⟨sameTime, sameReading⟩ := step_sameClock inside starts stepped
          rw [frames] at below ⊢
          rw [ih others below continued, sameTime, sameReading]
      | some info =>
          have frames : frameStarts (callback :: rest) = info :: frameStarts rest :=
            List.filterMap_cons_some starts
          have started : next = frameStarted info plugin := by
            cases callback <;> cases starts
            cases stepped
            rfl
          rw [frames] at below ⊢
          rw [ih others (fun other member => below other (List.mem_cons_of_mem info member))
            continued, started, frameStarted_timestamp,
            frameStarted_lastReading (below info List.mem_cons_self), drift, BitVec.ofInt_add,
            BitVec.add_assoc]

theorem clock_of_initialized {loaded started : Plugin F} {version : U32} {params : InitParams}
    (initialized : (scsTelemetryInit version params).run loaded = some (.ok, started)) :
    started.telemetryState.timestamp = 0 ∧ started.lastReading = none := by
  obtain ⟨_, _, _, rfl⟩ := telemetryInit_of_ok initialized
  exact ⟨rfl, rfl⟩

def sessionTime (callbacks : List (Callback F)) : Int :=
  elapsed FrameStart.restarts FrameStart.time (frameStarts callbacks)

theorem timestamp_eq_sessionTime {loaded started now : Plugin F} {callbacks : List (Callback F)}
    {version : U32} {params : InitParams}
    (initialized : (scsTelemetryInit version params).run loaded = some (.ok, started))
    (inSession : ∀ callback ∈ callbacks, callback.InSession)
    (below : ∀ info ∈ frameStarts callbacks, info.pausedSimulationTime.toNat < 2 ^ 64 - 1)
    (ends : run started callbacks = some now) :
    now.telemetryState.timestamp = BitVec.ofInt 64 (sessionTime callbacks) := by
  have notSentinel : ∀ info ∈ frameStarts callbacks, info.pausedSimulationTime ≠ -1 := by
    intro info member sentinel
    have small := below info member
    rw [sentinel] at small
    exact absurd small (by decide)
  obtain ⟨zero, unseen⟩ := clock_of_initialized initialized
  rw [run_timestamp inSession notSentinel ends, zero, unseen, drift_none]
  exact BitVec.zero_add _

/-- After every callback of a session the timestamp is the time of the frame
starts up to there.  If no segment runs backwards and the time stays in range,
the timestamp is exact and never goes down. -/
theorem timestamp_elapsed {loaded started : Plugin F} {callbacks : List (Callback F)}
    {version : U32} {params : InitParams}
    (initialized : (scsTelemetryInit version params).run loaded = some (.ok, started))
    (inSession : ∀ callback ∈ callbacks, callback.InSession)
    (below : ∀ info ∈ frameStarts callbacks, info.pausedSimulationTime.toNat < 2 ^ 64 - 1) :
    (∀ before after now, callbacks = before ++ after → run started before = some now →
      now.telemetryState.timestamp = BitVec.ofInt 64 (sessionTime before)) ∧
    ((∀ segment ∈ segments FrameStart.restarts (frameStarts callbacks),
        segment.Nondecreasing FrameStart.time) →
      sessionTime callbacks < 2 ^ 64 →
        ∀ before middle after first second, callbacks = before ++ middle ++ after →
          run started before = some first → run first middle = some second →
            first.telemetryState.timestamp ≤ second.telemetryState.timestamp ∧
              (first.telemetryState.timestamp.toNat : Int) = sessionTime before ∧
              (second.telemetryState.timestamp.toNat : Int) = sessionTime (before ++ middle)) := by
  have timestampAt : ∀ before after now, callbacks = before ++ after →
      run started before = some now →
        now.telemetryState.timestamp = BitVec.ofInt 64 (sessionTime before) := by
    rintro before after now rfl ends
    apply timestamp_eq_sessionTime initialized _ _ ends
    · exact fun callback member => inSession callback (List.mem_append_left after member)
    · intro info member
      apply below
      rw [frameStarts_append]
      exact List.mem_append_left _ member
  refine ⟨timestampAt, ?_⟩
  intro nondecreasing inRange before middle after first second split ends continued
  have bounds : ∀ start further rest, callbacks = start ++ (further ++ rest) →
      0 ≤ sessionTime start ∧ sessionTime start ≤ sessionTime (start ++ further) := by
    rintro start further rest rfl
    rw [frameStarts_append, frameStarts_append] at nondecreasing
    unfold sessionTime
    rw [frameStarts_append]
    exact elapsed_between nondecreasing fun _ _ => Int.natCast_nonneg _
  rw [List.append_assoc] at split
  have whole : before ++ middle ++ after = callbacks := by rw [split, List.append_assoc]
  obtain ⟨firstNonneg, ordered⟩ := bounds before middle after split
  obtain ⟨_, secondBelow⟩ := bounds (before ++ middle) after [] (by rw [List.append_nil, whole])
  rw [whole] at secondBelow
  have reached : run started (before ++ middle) = some second :=
    Transition.run_append_some ends continued
  have firstTime := timestampAt before (middle ++ after) first split ends
  have secondTime := timestampAt (before ++ middle) after second whole.symm reached
  have exact64 : ∀ time : Int, 0 ≤ time → time < 2 ^ 64 →
      ((BitVec.ofInt 64 time).toNat : Int) = time := by
    intro time _ _
    rw [BitVec.toNat_ofInt]
    omega
  have firstExact := exact64 (sessionTime before) (by omega) (by omega)
  have secondExact := exact64 (sessionTime (before ++ middle)) (by omega) (by omega)
  rw [firstTime, secondTime]
  refine ⟨?_, firstExact, secondExact⟩
  rw [BitVec.le_def]
  omega

def frameAt (flags : U32) (pausedSimulationTime : U64) : Callback ℚ :=
  .frameStart
    { flags := flags
      renderTime := 0
      simulationTime := 0
      pausedSimulationTime := pausedSimulationTime }

def clockedDrive : List (Callback ℚ) :=
  [frameAt 0 5, .started, frameAt 0 9, .frameEnd, frameAt 1 2, .paused, frameAt 0 7]

theorem timestamp_elapsed_in_clockedDrive :
    ∃ loaded started : Plugin ℚ,
      (scsTelemetryInit SCS_TELEMETRY_VERSION_1_01 acceptingGame).run loaded =
        some (.ok, started) ∧
      (∀ before after now, clockedDrive = before ++ after → run started before = some now →
        now.telemetryState.timestamp = BitVec.ofInt 64 (sessionTime before)) ∧
      ∀ before middle after first second, clockedDrive = before ++ middle ++ after →
        run started before = some first → run first middle = some second →
          first.telemetryState.timestamp ≤ second.telemetryState.timestamp ∧
            (first.telemetryState.timestamp.toNat : Int) = sessionTime before ∧
            (second.telemetryState.timestamp.toNat : Int) = sessionTime (before ++ middle) := by
  obtain ⟨started, initialized⟩ := acceptingGame_opens
  have inSession : ∀ callback ∈ clockedDrive, callback.InSession := by
    intro callback member
    simp only [clockedDrive, List.mem_cons, List.not_mem_nil, or_false] at member
    rcases member with rfl | rfl | rfl | rfl | rfl | rfl | rfl <;> trivial
  have below : ∀ info ∈ frameStarts clockedDrive,
      info.pausedSimulationTime.toNat < 2 ^ 64 - 1 := by decide
  obtain ⟨exactTime, ordered⟩ := timestamp_elapsed initialized inSession below
  refine ⟨_, started, initialized, exactTime, ordered ?_ ?_⟩
  · decide
  · decide

end Plugin

end Fffb
