import Fffb.Joy.WheelOperations
import Fffb.Joy.WheelSilence

/-
The playing flag against the device, under every pattern of failing calls.

The flag is set before the report that should make it true is sent, so it can
be wrong afterwards.  `Settled` says which operations leave it right.
-/

namespace Fffb.Wheel

/-- A play report got through and no stop report got through after it. -/
def DevicePlays (reports : List Report) : Prop :=
  Latch.SetSince Report.isPlay Report.isStop reports

def FlagAgrees (rig : Rig) : Prop :=
  rig.wheel.playing = true ↔ DevicePlays rig.line.delivered

/-- The last of these reports that plays or stops, if there is one, decides. -/
def playsAfter (playing : Bool) (reports : List Report) : Bool :=
  Latch.latchFrom Report.isPlay Report.isStop playing reports

/-- A report of the classic protocol sent alone now gets through. -/
def Arrives (rig : Rig) : Prop := rig.wheel.protocol = .logitechClassic ∧ rig.line.Carries

/-- The line when a calibration has made so many of its transactions. -/
def calibrationLine (rig : Rig) (count : Nat) : Line Report :=
  rig.line.attemptAll (rig.wheel.calibrationBatches.take count)

/-- The reports of a calibration that get through leave the device silent.  Of
its transactions, counted from zero, those numbered 1, 5, 8, 9 and 12 stop, and
those numbered 3 and 7 play; a failure of number 1 ends it. -/
def CalibrationStops (rig : Rig) : Prop :=
  if rig.wheel.protocol = .logitechClassic then
    if (calibrationLine rig 1).Completes then
      (calibrationLine rig 12).Carries ∨ (calibrationLine rig 9).Carries ∨
        (calibrationLine rig 8).Carries ∨
          ¬ (calibrationLine rig 7).Carries ∧
            ((calibrationLine rig 5).Carries ∨ ¬ (calibrationLine rig 3).Carries)
    else
      (calibrationLine rig 1).Carries ∨ rig.wheel.playing = false
  else
    rig.wheel.playing = false

/-- What a report that gets through does to the playing forces. -/
inductive Kind where
  | play
  | stop
  | other
  deriving DecidableEq, Repr

def Kind.after (playing : Bool) : Kind → Bool
  | .play => true
  | .stop => false
  | .other => playing

/-- The last of these kinds that plays or stops, if there is one, decides. -/
def Kind.last (playing : Bool) (kinds : List Kind) : Bool :=
  kinds.foldl Kind.after playing

namespace Queued

/-- What a form asks the effects to do, given what was asked before. -/
def request (playing : Bool) : Queued → Bool
  | playForces => true
  | refreshForces => true
  | stopForces => false
  | _ => playing

def enables (count : Nat) : Queued → Nat
  | assign constant spring damper trapezoid =>
      [constant.enabled, spring.enabled, damper.enabled, trapezoid.enabled].count true
  | _ => count

/-- The kinds of the reports that a form asks a classic wheel for, given what
was asked before and how many effects are enabled.  A refresh asks for a play
only while nothing plays. -/
def kinds (playing : Bool) (count : Nat) : Queued → List Kind
  | disableAutocenter => [.other]
  | enableAutocenter => [.other]
  | downloadForces => .replicate count .other
  | playForces => [.play]
  | stopForces => [.stop]
  | refreshForces => (if playing then [] else [.play]) ++ .replicate count .other
  | setLedPattern _ => [.other]
  | assign _ _ _ _ => []

def kindsEach (playing : Bool) (count : Nat) : List Queued → List Kind
  | [] => []
  | queued :: rest =>
      queued.kinds playing count ++ kindsEach (queued.request playing) (queued.enables count) rest

end Queued

def enabledCount (wheel : Wheel) : Nat :=
  [wheel.constant.enabled, wheel.spring.enabled, wheel.damper.enabled,
    wheel.trapezoid.enabled].count true

/-- On the classic protocol, the front of the batch that its open and writes let
through leaves the device doing what the last form asked for.  The reports of
the other protocols do nothing. -/
def BatchSettled (rig : Rig) (queued : List Queued) : Prop :=
  if rig.wheel.protocol = .logitechClassic then
    let kinds := Queued.kindsEach rig.wheel.playing rig.wheel.enabledCount queued
    Kind.last rig.wheel.playing (kinds.take (rig.line.through kinds.length)) =
      queued.foldl Queued.request rig.wheel.playing
  else
    queued.foldl Queued.request rig.wheel.playing = rig.wheel.playing

/-- When an operation leaves the flag right, from the state before it and the
outcomes of its calls. -/
def Settled (rig : Rig) : Operation → Prop
  | .calibrate =>
      rig.wheel.device.isPresent = true → rig.line.Completes → CalibrationStops rig
  | .playForces => rig.wheel.playing = true ∨ Arrives rig
  | .refreshForces => rig.wheel.playing = true ∨ Arrives rig
  | .stopForces => rig.wheel.playing = false ∨ Arrives rig
  | .batch queued => BatchSettled rig queued
  | _ => True

theorem flagAgrees_iff (rig : Rig) :
    FlagAgrees rig ↔
      rig.wheel.playing = Latch.latched Report.isPlay Report.isStop rig.line.delivered := by
  unfold FlagAgrees DevicePlays
  rw [← Latch.latched_iff]
  exact Bool.eq_iff_iff.symm

theorem flagAgrees_next_iff {rig next : Rig} (agrees : FlagAgrees rig) {sent : List Report}
    (delivered : next.line.delivered = rig.line.delivered ++ sent) :
    FlagAgrees next ↔ next.wheel.playing = playsAfter rig.wheel.playing sent := by
  rw [flagAgrees_iff] at agrees ⊢
  rw [delivered, Latch.latched_append, ← agrees]
  rfl

theorem playsAfter_quiet (playing : Bool) {reports : List Report}
    (quiet : ∀ report ∈ reports, report.Quiet) : playsAfter playing reports = playing := by
  apply Latch.latchFrom_quiet
  · intro report member
    exact (quiet report member).1
  · intro report member
    exact (quiet report member).2

/-- An operation that stops nothing early agrees afterwards when the flag it
leaves is what the reports that get through make of the old one. -/
theorem Makes.flagAgrees_iff {α : Type} {operation : WheelM α} {change : Wheel → Wheel}
    {batches : Wheel → List (List Report)} (makes : Makes operation change batches) {rig : Rig}
    (agrees : FlagAgrees rig) :
    FlagAgrees (operation.run rig).2 ↔
      (change rig.wheel).playing =
        playsAfter rig.wheel.playing (rig.line.carriedAll (batches rig.wheel)) := by
  rw [flagAgrees_next_iff agrees (makes.delivered rig), makes.wheel]

theorem playsAfter_carriedAll_quiet (playing : Bool) (line : Line Report)
    {batches : List (List Report)} (quiet : ∀ report ∈ batches.flatten, report.Quiet) :
    playsAfter playing (line.carriedAll batches) = playing :=
  playsAfter_quiet playing fun report member =>
    quiet report (Line.mem_of_mem_carriedAll member)

theorem Makes.flagAgrees_of_quiet {α : Type} {operation : WheelM α}
    {batches : Wheel → List (List Report)} (makes : Makes operation id batches) {rig : Rig}
    (agrees : FlagAgrees rig) (quiet : ∀ report ∈ (batches rig.wheel).flatten, report.Quiet) :
    FlagAgrees (operation.run rig).2 := by
  rw [makes.flagAgrees_iff agrees, playsAfter_carriedAll_quiet _ _ quiet]
  rfl

section

variable (playing : Bool) (line : Line Report) (rest : List (List Report))

theorem playsAfter_cons (reports : List Report) :
    playsAfter playing (line.carriedAll (reports :: rest)) =
      playsAfter (playsAfter playing (line.carried reports))
        ((line.attempt reports).2.carriedAll rest) :=
  Latch.latchFrom_append _ _ _ _ _

theorem playsAfter_quiet_cons {reports : List Report}
    (quiet : ∀ report ∈ reports, report.Quiet) :
    playsAfter playing (line.carriedAll (reports :: rest)) =
      playsAfter playing ((line.attempt reports).2.carriedAll rest) := by
  rw [playsAfter_cons, playsAfter_quiet playing fun report member =>
    quiet report (Line.mem_of_mem_carried member)]

theorem playsAfter_play {protocol : FfbProtocol} (classic : protocol = .logitechClassic)
    (slots : U8) :
    playsAfter playing (line.carried [Protocol.playForce protocol slots]) =
      (playing || decide line.Carries) := by
  rw [classic, Line.carried_singleton]
  by_cases carries : line.Carries
  · unfold playsAfter
    rw [if_pos carries, Latch.latchFrom_singleton, Protocol.playForce_isPlay, if_pos rfl,
      decide_eq_true carries, Bool.or_true]
  · rw [if_neg carries, decide_eq_false carries, Bool.or_false]
    rfl

theorem playsAfter_stop {protocol : FfbProtocol} (classic : protocol = .logitechClassic)
    (slots : U8) :
    playsAfter playing (line.carried [Protocol.stopForce protocol slots]) =
      (playing && !decide line.Carries) := by
  rw [classic, Line.carried_singleton]
  by_cases carries : line.Carries
  · unfold playsAfter
    rw [if_pos carries, Latch.latchFrom_singleton, Protocol.stopForce_isPlay,
      if_neg Bool.false_ne_true, Protocol.stopForce_isStop, if_pos rfl, decide_eq_true carries,
      Bool.not_true, Bool.and_false]
  · rw [if_neg carries, decide_eq_false carries, Bool.not_false, Bool.and_true]
    rfl

end

theorem playForces_agrees_iff {rig : Rig} (agrees : FlagAgrees rig) :
    FlagAgrees (playForces.run rig).2 ↔ rig.wheel.playing = true ∨ Arrives rig := by
  rw [playForces_makes.flagAgrees_iff agrees, Line.carriedAll_singleton]
  unfold playBatch Arrives
  by_cases classic : rig.wheel.protocol = .logitechClassic
  · rw [playsAfter_play _ _ classic, eq_comm, Bool.or_eq_true, decide_eq_true_iff]
    exact or_congr_right (and_iff_right classic).symm
  · rw [Protocol.playForce_of_unsupported classic, playsAfter_quiet rig.wheel.playing fun report
      member => Report.quiet_singleton Report.empty_quiet report (Line.mem_of_mem_carried member)]
    exact eq_comm.trans (or_iff_left fun both => classic both.1).symm

theorem stopForces_agrees_iff {rig : Rig} (agrees : FlagAgrees rig) :
    FlagAgrees (stopForces.run rig).2 ↔ rig.wheel.playing = false ∨ Arrives rig := by
  rw [stopForces_makes.flagAgrees_iff agrees, Line.carriedAll_singleton]
  unfold stopBatch Arrives
  by_cases classic : rig.wheel.protocol = .logitechClassic
  · rw [playsAfter_stop _ _ classic, eq_comm, Bool.and_eq_false_iff, Bool.not_eq_false',
      decide_eq_true_iff]
    exact or_congr_right (and_iff_right classic).symm
  · rw [Protocol.stopForce_of_unsupported classic, playsAfter_quiet rig.wheel.playing fun report
      member => Report.quiet_singleton Report.empty_quiet report (Line.mem_of_mem_carried member)]
    exact eq_comm.trans (or_iff_left fun both => classic both.1).symm

theorem refreshForces_agrees_iff {rig : Rig} (agrees : FlagAgrees rig) :
    FlagAgrees (refreshForces.run rig).2 ↔ rig.wheel.playing = true ∨ Arrives rig := by
  cases flag : rig.wheel.playing with
  | false =>
      have delegated : refreshForces.run rig = playForces.run rig := by
        unfold refreshForces
        rw [Checked.run_of_get, flag, if_pos (by decide)]
      rw [delegated, playForces_agrees_iff agrees, flag]
  | true =>
      refine iff_of_true ?_ (Or.inl rfl)
      rw [refreshForces_makes.flagAgrees_iff agrees, refreshBatch_of_playing flag,
        playsAfter_carriedAll_quiet, flag]
      rw [List.flatten_singleton]
      exact enabledReports_quiet _ Protocol.refreshForce_quiet

/-! ### Batches -/

def kindOf (report : Report) : Kind :=
  if report.isPlay then .play else if report.isStop then .stop else .other

theorem kindOf_of_quiet {report : Report} (quiet : report.Quiet) : kindOf report = .other := by
  unfold kindOf
  rw [quiet.1, quiet.2]
  rfl

theorem playsAfter_eq_last (playing : Bool) (reports : List Report) :
    playsAfter playing reports = Kind.last playing (reports.map kindOf) := by
  have each : ∀ on report, Kind.after on (kindOf report) =
      if report.isPlay then true else if report.isStop then false else on := by
    intro on report
    unfold kindOf
    cases report.isPlay <;> cases report.isStop <;> rfl
  unfold playsAfter Latch.latchFrom Kind.last
  simp only [List.foldl_map, each]

theorem enabledReports_kinds (build : FfbProtocol → Force → Report) (wheel : Wheel)
    (quiet : ∀ protocol force, (build protocol force).Quiet) :
    (wheel.enabledReports build).map kindOf = .replicate wheel.enabledCount .other := by
  have count : (wheel.enabledReports build).length = wheel.enabledCount := by
    have flags : (fun flag => flag == true) ∘ wheel.enabled = wheel.enabled :=
      funext fun effect => beq_true _
    change _ = (Effect.all.map wheel.enabled).count true
    rw [enabledReports_eq, List.length_map, List.count, List.countP_map, flags,
      List.countP_eq_length_filter]
  rw [List.eq_replicate_iff, List.length_map]
  refine ⟨count, fun found member => ?_⟩
  obtain ⟨report, inBatch, rfl⟩ := List.mem_map.mp member
  exact kindOf_of_quiet (enabledReports_quiet wheel quiet report inBatch)

namespace Queued

theorem change_spec (queued : Queued) (wheel : Wheel) :
    (queued.change wheel).protocol = wheel.protocol ∧
      (queued.change wheel).playing = queued.request wheel.playing ∧
        (queued.change wheel).enabledCount = queued.enables wheel.enabledCount := by
  cases queued <;> exact ⟨rfl, rfl, rfl⟩

theorem changeEach_playing (queued : List Queued) (wheel : Wheel) :
    (changeEach queued wheel).playing = queued.foldl request wheel.playing := by
  induction queued generalizing wheel with
  | nil => rfl
  | cons first rest ih =>
      have remaining := ih (first.change wheel)
      rw [(first.change_spec wheel).2.1] at remaining
      exact remaining

theorem added_kinds (queued : Queued) {wheel : Wheel}
    (classic : wheel.protocol = .logitechClassic) :
    (queued.added wheel).map kindOf = queued.kinds wheel.playing wheel.enabledCount := by
  have played : wheel.playBatch.map kindOf = [.play] := by
    unfold playBatch kindOf
    rw [classic, List.map_singleton, Protocol.playForce_isPlay]
    rfl
  cases queued with
  | disableAutocenter =>
      exact congrArg ([·]) (kindOf_of_quiet (Protocol.disableAutocenter_quiet _ _))
  | enableAutocenter =>
      exact congrArg ([·]) (kindOf_of_quiet (Protocol.enableAutocenter_quiet _ _))
  | downloadForces => exact enabledReports_kinds _ wheel Protocol.downloadForce_quiet
  | playForces => exact played
  | stopForces =>
      unfold added stopBatch kindOf
      rw [classic, List.map_singleton, Protocol.stopForce_isPlay, Protocol.stopForce_isStop]
      rfl
  | refreshForces =>
      unfold added kinds
      rw [List.map_append, enabledReports_kinds _ wheel Protocol.refreshForce_quiet]
      cases wheel.playing with
      | false => exact congrArg (· ++ _) played
      | true => rfl
  | setLedPattern pattern =>
      exact congrArg ([·]) (kindOf_of_quiet (Protocol.setLedPattern_quiet _ _))
  | assign constant spring damper trapezoid => rfl

theorem addedEach_kinds (queued : List Queued) {wheel : Wheel}
    (classic : wheel.protocol = .logitechClassic) :
    (addedEach queued wheel).map kindOf =
      kindsEach wheel.playing wheel.enabledCount queued := by
  induction queued generalizing wheel with
  | nil => rfl
  | cons first rest ih =>
      obtain ⟨protocol, playing, count⟩ := first.change_spec wheel
      rw [addedEach, kindsEach, List.map_append, first.added_kinds classic,
        ih (protocol.trans classic), playing, count]

theorem added_quiet (queued : Queued) {wheel : Wheel}
    (unsupported : wheel.protocol ≠ .logitechClassic) :
    ∀ report ∈ queued.added wheel, report.Quiet := by
  have played : ∀ report ∈ wheel.playBatch, report.Quiet := by
    unfold playBatch
    rw [Protocol.playForce_of_unsupported unsupported]
    exact Report.quiet_singleton Report.empty_quiet
  cases queued with
  | disableAutocenter => exact Report.quiet_singleton (Protocol.disableAutocenter_quiet _ _)
  | enableAutocenter => exact Report.quiet_singleton (Protocol.enableAutocenter_quiet _ _)
  | downloadForces => exact enabledReports_quiet wheel Protocol.downloadForce_quiet
  | playForces => exact played
  | stopForces =>
      unfold added stopBatch
      rw [Protocol.stopForce_of_unsupported unsupported]
      exact Report.quiet_singleton Report.empty_quiet
  | refreshForces =>
      intro report member
      rcases List.mem_append.mp member with first | refreshed
      · split at first
        · cases first
        · exact played report first
      · exact enabledReports_quiet wheel Protocol.refreshForce_quiet report refreshed
  | setLedPattern pattern => exact Report.quiet_singleton (Protocol.setLedPattern_quiet _ _)
  | assign constant spring damper trapezoid => exact fun _ absent => by cases absent

theorem addedEach_quiet (queued : List Queued) {wheel : Wheel}
    (unsupported : wheel.protocol ≠ .logitechClassic) :
    ∀ report ∈ addedEach queued wheel, report.Quiet := by
  induction queued generalizing wheel with
  | nil => exact fun _ absent => by cases absent
  | cons first rest ih =>
      intro report member
      rcases List.mem_append.mp member with now | later
      · exact first.added_quiet unsupported report now
      · have kept : (first.change wheel).protocol ≠ .logitechClassic := by
          rw [(first.change_spec wheel).1]
          exact unsupported
        exact ih kept report later

end Queued

/-- A batch flushes from an empty queue what its forms append, and leaves the
flag at what the last of them asks for. -/
theorem batch_agrees_iff {rig : Rig} (agrees : FlagAgrees rig)
    (emptyQueue : rig.wheel.reports = []) (queued : List Queued) :
    FlagAgrees (Operation.perform (.batch queued) rig) ↔ BatchSettled rig queued := by
  let filled : Rig :=
    { rig with
      wheel := queueing (Queued.addedEach queued rig.wheel) (Queued.changeEach queued rig.wheel) }
  have performed : Operation.perform (.batch queued) rig = (flushReports.run filled).2 := by
    have ran := Queued.performEach_run queued rig
    rw [emptyQueue, List.nil_append] at ran
    exact congrArg (fun rig => (flushReports.run rig).2) ran
  have sent := flushReports_makes.delivered filled
  have flushed := congrArg playing (flushReports_makes.wheel filled)
  rw [← performed, Line.carriedAll_singleton] at sent
  rw [← performed] at flushed
  have asked : (Operation.perform (.batch queued) rig).wheel.playing =
      queued.foldl Queued.request rig.wheel.playing :=
    flushed.trans (Queued.changeEach_playing queued rig.wheel)
  rw [@flagAgrees_next_iff rig (Operation.perform (.batch queued) rig) agrees _ sent, asked]
  unfold BatchSettled
  change _ = playsAfter _ (rig.line.carried (Queued.addedEach queued rig.wheel)) ↔ _
  by_cases classic : rig.wheel.protocol = .logitechClassic
  · have kinds := Queued.addedEach_kinds queued classic
    rw [if_pos classic, playsAfter_eq_last, Line.carried_eq_take, List.map_take, ← kinds]
    dsimp only
    rw [List.length_map]
    exact eq_comm
  · rw [if_neg classic, playsAfter_quiet _ fun report member =>
      Queued.addedEach_quiet queued classic report (Line.mem_of_mem_carried member)]

/-! ### Calibration -/

theorem playsAfter_calibration {rig : Rig} (classic : rig.wheel.protocol = .logitechClassic)
    (playing : Bool) :
    playsAfter playing (rig.line.carriedAll rig.wheel.calibrationBatches) =
      (((((((playing && !decide (calibrationLine rig 1).Carries) ||
        decide (calibrationLine rig 3).Carries) && !decide (calibrationLine rig 5).Carries) ||
          decide (calibrationLine rig 7).Carries) && !decide (calibrationLine rig 8).Carries) &&
            !decide (calibrationLine rig 9).Carries) &&
              !decide (calibrationLine rig 12).Carries) := by
  have freed := Report.quiet_singleton
    (Protocol.disableAutocenter_quiet rig.wheel.protocol 0x0F)
  have centered := Report.quiet_singleton
    (Protocol.enableAutocenter_quiet rig.wheel.protocol 0x0F)
  have loaded : ∀ wheel : Wheel, ∀ report ∈ wheel.enabledReports Protocol.downloadForce,
      report.Quiet := fun wheel => enabledReports_quiet wheel Protocol.downloadForce_quiet
  have refreshed : ∀ wheel : Wheel, ∀ report ∈ wheel.enabledReports Protocol.refreshForce,
      report.Quiet := fun wheel => enabledReports_quiet wheel Protocol.refreshForce_quiet
  let stop : List Report := [Protocol.stopForce rig.wheel.protocol 0x0F]
  let right := rig.wheel.turning 96
  let left := rig.wheel.turning 160
  change playsAfter playing (rig.line.carriedAll
    [[Protocol.disableAutocenter rig.wheel.protocol 0x0F], stop,
      right.enabledReports Protocol.downloadForce,
      [Protocol.playForce rig.wheel.protocol right.enabledSlots],
      left.enabledReports Protocol.refreshForce, stop,
      left.shaking.enabledReports Protocol.downloadForce,
      [Protocol.playForce rig.wheel.protocol left.shaking.enabledSlots], stop, stop,
      [Protocol.enableAutocenter rig.wheel.protocol 0x0F],
      [Protocol.disableAutocenter rig.wheel.protocol 0x0F], stop]) = _
  rw [playsAfter_quiet_cons _ _ _ freed, playsAfter_cons, playsAfter_stop _ _ classic,
    playsAfter_quiet_cons _ _ _ (loaded right), playsAfter_cons, playsAfter_play _ _ classic,
    playsAfter_quiet_cons _ _ _ (refreshed left), playsAfter_cons, playsAfter_stop _ _ classic,
    playsAfter_quiet_cons _ _ _ (loaded left.shaking), playsAfter_cons,
    playsAfter_play _ _ classic, playsAfter_cons, playsAfter_stop _ _ classic, playsAfter_cons,
    playsAfter_stop _ _ classic, playsAfter_quiet_cons _ _ _ centered,
    playsAfter_quiet_cons _ _ _ freed, playsAfter_cons, playsAfter_stop _ _ classic]
  rfl

theorem playsAfter_stopping {rig : Rig} (classic : rig.wheel.protocol = .logitechClassic)
    (playing : Bool) :
    playsAfter playing (rig.line.carriedAll (rig.wheel.calibrationBatches.take 2)) =
      (playing && !decide (calibrationLine rig 1).Carries) := by
  have freed := Report.quiet_singleton
    (Protocol.disableAutocenter_quiet rig.wheel.protocol 0x0F)
  change playsAfter playing (rig.line.carriedAll
    [[Protocol.disableAutocenter rig.wheel.protocol 0x0F],
      [Protocol.stopForce rig.wheel.protocol 0x0F]]) = _
  rw [playsAfter_quiet_cons _ _ _ freed, playsAfter_cons, playsAfter_stop _ _ classic]
  rfl

theorem calibrationStops_of_stopped {rig : Rig} (stopped : (calibrationLine rig 1).Completes) :
    CalibrationStops rig ↔
      playsAfter rig.wheel.playing (rig.line.carriedAll rig.wheel.calibrationBatches) = false := by
  -- which of the later commands have to get through
  have silenced : ∀ right left shake stop center last : Bool,
      (((((false || right) && !left || shake) && !stop) && !center) && !last) = false ↔
        last = true ∨ center = true ∨ stop = true ∨
          ¬ shake = true ∧ (left = true ∨ ¬ right = true) := by
    decide
  unfold CalibrationStops
  by_cases classic : rig.wheel.protocol = .logitechClassic
  · rw [if_pos classic, if_pos stopped, playsAfter_calibration classic,
      decide_eq_true stopped.carries, Bool.not_true, Bool.and_false, silenced]
    simp only [decide_eq_true_eq]
  · rw [if_neg classic,
      playsAfter_carriedAll_quiet _ _ (calibrationBatches_quiet classic)]

theorem calibrationStops_of_unstopped {rig : Rig}
    (unstopped : ¬ (calibrationLine rig 1).Completes) :
    CalibrationStops rig ↔
      playsAfter rig.wheel.playing (rig.line.carriedAll (rig.wheel.calibrationBatches.take 2)) =
        false := by
  unfold CalibrationStops
  by_cases classic : rig.wheel.protocol = .logitechClassic
  · rw [if_pos classic, if_neg unstopped, playsAfter_stopping classic, Bool.and_eq_false_iff,
      Bool.not_eq_false', decide_eq_true_iff]
    exact or_comm
  · have quiet : ∀ report ∈ (rig.wheel.calibrationBatches.take 2).flatten, report.Quiet := by
      intro report member
      obtain ⟨batch, inBatches, inBatch⟩ := List.mem_flatten.mp member
      exact calibrationBatches_quiet classic report
        (List.mem_flatten.mpr ⟨batch, List.mem_of_mem_take inBatches, inBatch⟩)
    rw [if_neg classic, playsAfter_carriedAll_quiet _ _ quiet]

theorem calibrate_agrees_iff {rig : Rig} (agrees : FlagAgrees rig) :
    FlagAgrees (calibrate.run rig).2 ↔ Settled rig .calibrate := by
  unfold Settled
  cases present : rig.wheel.device.isPresent with
  | false =>
      rw [calibrate_run_of_absent rig present]
      exact iff_of_true agrees fun impossible => by cases impossible
  | true =>
      rw [forall_prop_of_true (rfl : true = true)]
      by_cases freed : rig.line.Completes
      · rw [forall_prop_of_true freed]
        by_cases stopped : (calibrationLine rig 1).Completes
        · rw [calibrate_run_of_stopped rig present freed stopped,
            flagAgrees_next_iff agrees (Line.attemptAll_delivered _ _),
            calibrationStops_of_stopped stopped]
          exact eq_comm
        · rw [calibrate_run_of_unstopped rig present freed stopped,
            flagAgrees_next_iff agrees (Line.attemptAll_delivered _ _),
            calibrationStops_of_unstopped stopped]
          exact eq_comm
      · have quiet : ∀ report ∈ (rig.wheel.calibrationBatches.take 1).flatten, report.Quiet :=
          Report.quiet_singleton (Protocol.disableAutocenter_quiet _ _)
        refine iff_of_true ?_ fun sent => False.elim (freed sent)
        rw [calibrate_run_of_unfreed rig present freed,
          flagAgrees_next_iff agrees (Line.attemptAll_delivered _ _),
          playsAfter_carriedAll_quiet _ _ quiet]

/-! ### Whole sequences -/

theorem perform_agrees_iff {rig : Rig} (agrees : FlagAgrees rig)
    (emptyQueue : rig.wheel.reports = []) (operation : Operation) :
    FlagAgrees (operation.perform rig) ↔ Settled rig operation := by
  cases operation with
  | calibrate => exact calibrate_agrees_iff agrees
  | disableAutocenter =>
      exact iff_of_true (disableAutocenter_makes.flagAgrees_of_quiet agrees
        (Report.quiet_singleton (Protocol.disableAutocenter_quiet _ _))) trivial
  | enableAutocenter =>
      exact iff_of_true (enableAutocenter_makes.flagAgrees_of_quiet agrees
        (Report.quiet_singleton (Protocol.enableAutocenter_quiet _ _))) trivial
  | downloadForces =>
      refine iff_of_true (downloadForces_makes.flagAgrees_of_quiet agrees ?_) trivial
      rw [List.flatten_singleton]
      exact enabledReports_quiet _ Protocol.downloadForce_quiet
  | playForces => exact playForces_agrees_iff agrees
  | stopForces => exact stopForces_agrees_iff agrees
  | refreshForces => exact refreshForces_agrees_iff agrees
  | setLedPattern pattern =>
      exact iff_of_true ((setLedPattern_makes pattern).flagAgrees_of_quiet agrees
        (Report.quiet_singleton (Protocol.setLedPattern_quiet _ _))) trivial
  | assign constant spring damper trapezoid => exact iff_of_true agrees trivial
  | batch queued => exact batch_agrees_iff agrees emptyQueue queued

theorem performAll_snoc (operations : List Operation) (last : Operation) (rig : Rig) :
    Operation.performAll (operations ++ [last]) rig =
      last.perform (Operation.performAll operations rig) :=
  List.foldl_concat _ _ _ _

/-- A constructed wheel has sent nothing that plays, and its flag says so. -/
theorem construct_flagAgrees (devices : List HidDevice) (outcome : Nat → Bool) :
    FlagAgrees (construct devices (.idle outcome)) := by
  rw [flagAgrees_iff, construct_wheel]
  obtain ⟨device, protocol, folded, _⟩ := foldl_consider devices initial
  have stopped : (devices.foldl consider initial).playing = false := by
    rw [folded]
    rfl
  rw [stopped]
  exact (playsAfter_quiet false (construct_quiet devices outcome)).symm

theorem construct_reports (devices : List HidDevice) (line : Line Report) :
    (construct devices line).wheel.reports = [] := by
  obtain ⟨device, protocol, folded, _⟩ := foldl_consider devices initial
  rw [construct_wheel, folded]
  rfl

/-- From a state in which flag and device agree, they agree after every
operation of a sequence exactly when every operation of it is settled. -/
theorem flagAgrees_throughout_iff (rig : Rig) (agrees : FlagAgrees rig)
    (emptyQueue : rig.wheel.reports = []) (operations : List Operation) :
    (∀ before after, operations = before ++ after →
        FlagAgrees (Operation.performAll before rig)) ↔
      ∀ before operation after, operations = before ++ operation :: after →
        Settled (Operation.performAll before rig) operation := by
  constructor
  · intro throughout before operation after split
    have now := throughout before (operation :: after) split
    have next := throughout (before ++ [operation]) after (by rw [split, List.append_cons])
    rw [performAll_snoc] at next
    exact (perform_agrees_iff now (Operation.performAll_reports before emptyQueue) operation).mp
      next
  · intro settled before
    induction before using List.reverseRecOn with
    | nil => exact fun _ _ => agrees
    | append_singleton before last ih =>
        intro after split
        have parted : operations = before ++ last :: after := by
          rw [split, List.append_assoc]
          rfl
        have now := ih (last :: after) parted
        rw [performAll_snoc]
        exact (perform_agrees_iff now (Operation.performAll_reports before emptyQueue) last).mpr
          (settled before last after parted)

instance (rig : Rig) : Decidable (FlagAgrees rig) :=
  decidable_of_iff _ (flagAgrees_iff rig).symm

/-- A constructed wheel whose sixth call fails: the write of the first report
after its construction. -/
def failingRig : Rig := construct [.g29] (.idle fun position => position != 5)

theorem failingRig_flag_disagrees :
    failingRig.wheel.device.isPresent = true ∧ FlagAgrees failingRig ∧
      ¬ FlagAgrees (Operation.playForces.perform failingRig) :=
  ⟨by decide +kernel, construct_flagAgrees _ _, by decide +kernel⟩

theorem flagAgrees_throughout_iff_at_failingRig :
    (∀ before after, [Operation.stopForces, .playForces] = before ++ after →
        FlagAgrees (Operation.performAll before failingRig)) ↔
      ∀ before operation after, [Operation.stopForces, .playForces] = before ++ operation :: after →
        Settled (Operation.performAll before failingRig) operation :=
  flagAgrees_throughout_iff failingRig (construct_flagAgrees _ _) (construct_reports _ _) _

end Fffb.Wheel
