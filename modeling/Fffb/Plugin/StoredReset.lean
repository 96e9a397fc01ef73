import Fffb.Joy.StoredWheelRuns
import Fffb.Plugin.Entry
import Fffb.Uti.Rounds

/-
The reset of a pause with its queue in memory, under any allocator.

The queue is a member of the wheel that only the resets use, so what the
allocator answers to the first few of its requests decides over the rest of the
process.
-/

namespace Fffb

open Simulation

namespace StoredWheel

def resetByQueue : StoredM Bool := do
  qDisableAutocenter
  qStopForces
  qSetLedPattern 0
  flushReports

def resets : Nat → StoredM Unit
  | 0 => return ()
  | count + 1 => do
      resets count
      let _ ← resetByQueue

/-- The queue of a rig in memory, whatever its allocator answers, and the line
it is flushed to. -/
structure Queues (outside : Nat → Option (List (Option Report))) (outcome : Nat → Bool)
    (protocol : FfbProtocol) (line : Line Report) (stored : StoredRig)
    (sequence : Uti.Sequence Report) : Prop where
  represents : Uti.Represents outside stored.heap stored.reports sequence
  outcome : stored.heap.outcome = outcome
  protocol : stored.rig.wheel.protocol = protocol
  line : stored.rig.line = line

section

variable {outside : Nat → Option (List (Option Report))} {outcome : Nat → Bool}
  {protocol : FfbProtocol} {line : Line Report} {stored : StoredRig}
  {sequence : Uti.Sequence Report}

theorem enqueue_related (queues : Queues outside outcome protocol line stored sequence)
    (report : Report) :
    Option.Rel (fun result next => Queues outside outcome protocol line result.2 next)
      ((enqueue report).run stored) (sequence.push outcome report) := by
  have pushed := Uti.emplaceBack_represents queues.represents report
  rw [queues.outcome] at pushed
  have ran : (enqueue report).run stored =
      ((stored.reports.emplaceBack report).run stored.heap).map fun result =>
        ((), { stored with reports := result.1, heap := result.2 }) := by
    change ((memory (stored.reports.emplaceBack report)).run stored).bind _ = _
    change (((stored.reports.emplaceBack report).run stored.heap).map _).bind _ = _
    cases (stored.reports.emplaceBack report).run stored.heap <;> rfl
  rw [ran]
  revert pushed
  cases (stored.reports.emplaceBack report).run stored.heap <;>
    cases sequence.push outcome report <;> intro pushed
  · exact .none
  · cases pushed
  · cases pushed
  · cases pushed with
    | some both =>
        exact .some
          { represents := both.1
            outcome := both.2
            protocol := queues.protocol
            line := queues.line }

/-- A flush always has a meaning; it goes over the block that a vector lost. -/
theorem flushReports_related (queues : Queues outside outcome protocol line stored sequence) :
    ∃ res after, flushReports.run stored = some (res, after) ∧
      Queues outside outcome protocol (line.attempt sequence.items).2 after sequence.clear := by
  have wrote := Wheel.writeReports_attempt stored.rig sequence.items
  refine ⟨(stored.rig.line.attempt sequence.items).1,
    { stored with
      rig := { stored.rig with line := (stored.rig.line.attempt sequence.items).2 }
      reports := stored.reports.clear }, ?_, ?_⟩
  · change ((writeReports stored.reports).run stored).bind _ = _
    rw [writeReports_run (Uti.read_represents queues.represents), wrote]
    rfl
  · exact
      { represents := Uti.clear_represents queues.represents
        outcome := queues.outcome
        protocol := queues.protocol
        line := by rw [← queues.line] }

theorem enqueueRead_run (build : Wheel → Report) (stored : StoredRig) :
    (do enqueue (build (← get).rig.wheel) : StoredM Unit).run stored =
      (enqueue (build stored.rig.wheel)).run stored := by
  rw [StateT.run_bind, StateT.run_get, pure_bind]

theorem qDisableAutocenter_related (queues : Queues outside outcome protocol line stored sequence) :
    Option.Rel (fun result next => Queues outside outcome protocol line result.2 next)
      (qDisableAutocenter.run stored)
      (sequence.push outcome (Protocol.disableAutocenter protocol 0x0F)) := by
  rw [qDisableAutocenter,
    enqueueRead_run (fun wheel => Protocol.disableAutocenter wheel.protocol 0x0F), queues.protocol]
  exact enqueue_related queues _

theorem qStopForces_related (queues : Queues outside outcome protocol line stored sequence) :
    Option.Rel (fun result next => Queues outside outcome protocol line result.2 next)
      (qStopForces.run stored) (sequence.push outcome (Protocol.stopForce protocol 0x0F)) := by
  let stopped : StoredRig :=
    { stored with rig := { stored.rig with wheel := { stored.rig.wheel with playing := false } } }
  have still : Queues outside outcome protocol line stopped sequence :=
    { represents := queues.represents
      outcome := queues.outcome
      protocol := queues.protocol
      line := queues.line }
  have ran : qStopForces.run stored =
      (enqueue (Protocol.stopForce stored.rig.wheel.protocol 0x0F)).run stopped := rfl
  rw [ran, queues.protocol]
  exact enqueue_related still _

theorem qSetLedPattern_related (queues : Queues outside outcome protocol line stored sequence)
    (pattern : U8) :
    Option.Rel (fun result next => Queues outside outcome protocol line result.2 next)
      ((qSetLedPattern pattern).run stored)
      (sequence.push outcome (Protocol.setLedPattern protocol pattern)) := by
  rw [qSetLedPattern,
    enqueueRead_run (fun wheel => Protocol.setLedPattern wheel.protocol pattern), queues.protocol]
  exact enqueue_related queues _

/-- A reset does to the queue what a round of its three reports does, and sends
what the queue holds before it is cleared. -/
theorem resetByQueue_related (queues : Queues outside outcome protocol line stored sequence) :
    Option.Rel
      (fun result filled =>
        Queues outside outcome protocol (line.attempt filled.items).2 result.2 filled.clear)
      (resetByQueue.run stored)
      (sequence.run outcome ((Plugin.resetReports protocol).map .push)) := by
  refine rel_bind (qDisableAutocenter_related queues) ?_
  intro freed first queuesFirst
  refine rel_bind (qStopForces_related queuesFirst) ?_
  intro stopped second queuesSecond
  refine rel_bind (qSetLedPattern_related queuesSecond 0) ?_
  intro dark third queuesThird
  obtain ⟨res, after, flushed, queuesLast⟩ := flushReports_related queuesThird
  change Option.Rel _ (flushReports.run dark.2) (some third)
  rw [flushed]
  exact .some queuesLast

theorem resets_succ_run (count : Nat) (stored : StoredRig) :
    (resets (count + 1)).run stored =
      ((resets count).run stored).bind fun middle =>
        (resetByQueue.run middle.2).map fun last => ((), last.2) := by
  rw [resets, StateT.run_bind]
  cases (resets count).run stored with
  | none => rfl
  | some middle =>
      rw [Option.bind_some, Option.map_eq_bind]
      rfl

theorem resets_related (queues : Queues outside outcome protocol line stored sequence)
    (count : Nat) :
    Option.Rel (fun result next => ∃ line, Queues outside outcome protocol line result.2 next)
      ((resets count).run stored)
      (sequence.run outcome (Uti.rounds (Plugin.resetReports protocol) count)) := by
  induction count with
  | zero => exact .some ⟨line, queues⟩
  | succ count ih =>
      rw [resets_succ_run, Uti.Sequence.run, Uti.rounds, Transition.run_append]
      refine rel_bind ih ?_
      rintro result middle ⟨line, queuesMiddle⟩
      have next := resetByQueue_related queuesMiddle
      change Option.Rel _ _ (middle.run outcome (Uti.round (Plugin.resetReports protocol)))
      rw [Uti.round, Uti.Sequence.run, Transition.run_append]
      change Option.Rel _ ((resetByQueue.run result.2).map fun last => ((), last.2))
        ((middle.run outcome ((Plugin.resetReports protocol).map .push)).bind _)
      generalize resetByQueue.run result.2 = reset at next ⊢
      generalize middle.run outcome _ = filled at next ⊢
      cases next with
      | none => exact .none
      | some related => exact .some ⟨_, related⟩

theorem resets_waiting {start : Nat} (queues : Queues outside outcome protocol line stored
      (.empty start)) {count : Nat}
    (refused : Uti.Sequence.AllRefused outcome start (start + 3 * count)) :
    ∃ after, (resets count).run stored = some ((), after) ∧
      Queues outside outcome protocol (line.attemptAll (List.replicate count [])) after
        (.empty (start + 3 * count)) := by
  induction count with
  | zero => exact ⟨stored, rfl, queues⟩
  | succ count ih =>
      obtain ⟨middle, reached, queuesMiddle⟩ := ih (refused.of_le (Nat.le_refl _) (by omega))
      have next := resetByQueue_related queuesMiddle
      have three : Uti.Sequence.AllRefused outcome (start + 3 * count)
          (start + 3 * count + (Plugin.resetReports protocol).length) :=
        refused.of_le (by omega) (Nat.le_of_eq rfl)
      have dropped : (Uti.Sequence.empty (start + 3 * count)).run outcome
          ((Plugin.resetReports protocol).map .push) =
            some (.empty (start + 3 * (count + 1))) :=
        three.run
      rw [dropped] at next
      obtain ⟨last, ran, queuesLast⟩ := rel_some_right next rfl
      refine ⟨last.2, ?_, ?_⟩
      · rw [resets_succ_run, reached, Option.bind_some, ran]
        rfl
      · rw [List.replicate_succ', Line.attemptAll_append]
        exact queuesLast

end

theorem queues_unused {stored : StoredRig} (unused : stored.reports = .empty) :
    Queues stored.heap.blocks stored.heap.outcome stored.rig.wheel.protocol stored.rig.line stored
      (.empty stored.heap.requests) :=
  { represents := by
      rw [unused]
      exact .unallocated rfl
    outcome := rfl
    protocol := rfl
    line := rfl }

theorem resets_ne_none_iff {stored : StoredRig} (unused : stored.reports = .empty) (count : Nat) :
    (resets count).run stored ≠ none ↔
      Uti.Sequence.Endures stored.heap.outcome stored.heap.requests (3 * count) := by
  have same := rel_none_iff (resets_related (queues_unused unused) count)
  have stage : Uti.Sequence.ThreeStage stored.heap.outcome stored.heap.requests (3 * count)
      ((Uti.Sequence.empty stored.heap.requests).run stored.heap.outcome
        (Uti.rounds (Plugin.resetReports stored.rig.wheel.protocol) count)) :=
    Uti.Sequence.rounds_three _ _ _ count
  exact (not_congr same).trans stage.defined_iff

/-- With its queue still empty, the wheel can be reset any number of times
exactly when the first block that the allocator grants to the queue is followed
by two more. -/
theorem resets_ne_none_forall_iff {stored : StoredRig} (unused : stored.reports = .empty) :
    (∀ count, (resets count).run stored ≠ none) ↔
      ∀ first, Uti.Sequence.FirstGranted stored.heap.outcome stored.heap.requests first →
        stored.heap.outcome (first + 1) = true ∧ stored.heap.outcome (first + 2) = true := by
  have same : (∀ count, (resets count).run stored ≠ none) ↔ _ :=
    forall_congr' fun count => not_congr (rel_none_iff (resets_related (queues_unused unused) count))
  rw [same, Uti.Sequence.rounds_defined_iff]
  have doublings : Nat.clog 2 (Plugin.resetReports stored.rig.wheel.protocol).length = 2 := by
    change Nat.clog 2 3 = 2
    decide
  unfold Uti.Sequence.Provided
  rw [doublings]
  constructor
  · intro provided first granted
    exact ⟨provided first granted (first + 1) (by omega) (by omega),
      provided first granted (first + 2) (by omega) (by omega)⟩
  · intro both first granted later after needed
    obtain ⟨second, third⟩ := both first granted
    have which : later = first + 1 ∨ later = first + 2 := by omega
    rcases which with rfl | rfl
    · exact second
    · exact third

/-- Which numbers of resets have a meaning, from the answers of the allocator
to the queue.  As long as it grants nothing, every report is dropped, and a
reset opens the line and closes it. -/
theorem resets_defined_iff {stored : StoredRig} (unused : stored.reports = .empty) :
    (∀ count, (resets count).run stored ≠ none ↔
      Uti.Sequence.Endures stored.heap.outcome stored.heap.requests (3 * count)) ∧
    ((∀ count, (resets count).run stored ≠ none) ↔
      ∀ first, Uti.Sequence.FirstGranted stored.heap.outcome stored.heap.requests first →
        stored.heap.outcome (first + 1) = true ∧ stored.heap.outcome (first + 2) = true) ∧
    ∀ count, Uti.Sequence.AllRefused stored.heap.outcome stored.heap.requests
        (stored.heap.requests + 3 * count) →
      ∃ after, (resets count).run stored = some ((), after) ∧
        after.heap.requests = stored.heap.requests + 3 * count ∧
        after.rig.line = stored.rig.line.attemptAll (List.replicate count []) ∧
        after.rig.line.delivered = stored.rig.line.delivered := by
  refine ⟨resets_ne_none_iff unused, resets_ne_none_forall_iff unused, ?_⟩
  intro count refused
  obtain ⟨after, ran, queues⟩ := resets_waiting (queues_unused unused) refused
  have nothing : stored.rig.line.carriedAll (List.replicate count []) = [] := by
    rw [List.eq_nil_iff_forall_not_mem]
    intro report member
    have sent := Line.mem_of_mem_carriedAll member
    rw [List.flatten_replicate_nil] at sent
    cases sent
  refine ⟨after, ran, Uti.represents_requests queues.represents, queues.line, ?_⟩
  rw [queues.line, Line.attemptAll_delivered, nothing, List.append_nil]

def unusedG29 (outcome : Nat → Bool) : StoredRig :=
  { rig := Wheel.construct [.g29] (.idle fun _ => true)
    reports := .empty
    heap := .initial outcome }

/-- Only the second request is granted: one reset has a meaning, two have none. -/
theorem resets_defined_iff_refused :
    (resets 1).run (unusedG29 fun request => request == 1) ≠ none ∧
      (resets 2).run (unusedG29 fun request => request == 1) = none := by
  have unused : (unusedG29 fun request => request == 1).reports = .empty := rfl
  obtain ⟨each, _⟩ := resets_defined_iff unused
  have granted : Uti.Sequence.FirstGranted (fun request => request == 1) 0 1 := by
    refine ⟨Nat.zero_le 1, rfl, fun earlier _ before => ?_⟩
    rw [Nat.lt_one_iff.mp before]
    rfl
  constructor
  · refine (each 1).mpr fun first firstGranted => ?_
    rw [firstGranted.unique granted]
    exact ⟨Or.inr (by decide), Or.inr (by decide)⟩
  · refine not_not.mp (mt (each 2).mp fun endures => ?_)
    obtain ⟨refused | short, _⟩ := endures 1 granted
    · cases refused
    · exact absurd short (by decide)

/-! ### With every request granted -/

theorem resetByQueue_simulates {outside : Nat → Option (List (Option Report))} :
    Simulates (Stores outside) resetByQueue Plugin.resetByQueue :=
  simulates_dropped (performQueued_simulates .disableAutocenter)
    (simulates_dropped (performQueued_simulates .stopForces)
      (simulates_dropped (performQueued_simulates (.setLedPattern 0)) flushReports_simulates))

theorem resets_line {outside : Nat → Option (List (Option Report))} {stored : StoredRig} {rig : Rig}
    (stores : Stores outside stored rig) (flushed : rig.wheel.reports = []) (count : Nat) :
    ∃ after next, (resets count).run stored = some ((), after) ∧ Stores outside after next ∧
      next.wheel.reports = [] ∧ next.wheel.protocol = rig.wheel.protocol ∧
      next.line = rig.line.attemptAll
        (List.replicate count (Plugin.resetReports rig.wheel.protocol)) := by
  induction count with
  | zero => exact ⟨stored, rig, rfl, stores, flushed, rfl, rfl⟩
  | succ count ih =>
      obtain ⟨middle, between, reached, still, empty, same, sent⟩ := ih
      obtain ⟨after, ran, final⟩ := resetByQueue_simulates middle between still
      have made := Plugin.resetByQueue_makes between
      dsimp only at made
      rw [empty, List.nil_append, same, sent] at made
      refine ⟨after, _, ?_, final, ?_, ?_, ?_⟩
      · rw [resets, StateT.run_bind, reached]
        change ((resetByQueue.run middle).bind fun last => some ((), last.2)) = _
        rw [ran]
        rfl
      · rw [made]
      · rw [made]
      · rw [made, List.replicate_succ', Line.attemptAll_append]

/-- With every request granted, the queue is given its block in the first
reset; no later one asks for memory, and each sends its three reports. -/
theorem resets_requests {stored : StoredRig} (unused : stored.reports = .empty)
    (unlisted : stored.rig.wheel.reports = []) (reliable : stored.heap.Reliable) (count : Nat) :
    ∃ after, (resets (count + 1)).run stored = some ((), after) ∧
      after.heap.requests = stored.heap.requests + 3 ∧
      after.rig.line = stored.rig.line.attemptAll
        (List.replicate (count + 1) (Plugin.resetReports stored.rig.wheel.protocol)) := by
  have stores : Stores stored.heap.blocks stored stored.rig :=
    { reliable := reliable
      same := by
        unfold Rig.unqueued
        rw [← unlisted]
      queue := by
        rw [unused, unlisted]
        exact Uti.holds_empty stored.heap }
  obtain ⟨after, next, ran, final, _, _, sent⟩ := resets_line stores unlisted (count + 1)
  refine ⟨after, ran, ?_, ?_⟩
  · have related := resets_related (queues_unused unused) (count + 1)
    obtain ⟨last, reached, _, grown⟩ :=
      Uti.Sequence.rounds_grown reliable (Plugin.resetReports stored.rig.wheel.protocol) count
    rw [ran, reached] at related
    cases related with
    | some reached =>
        obtain ⟨_, queues⟩ := reached
        rw [Uti.represents_requests queues.represents, grown.requests]
        change _ + Uti.Sequence.requestsFor 3 = _
        rw [show Uti.Sequence.requestsFor 3 = 3 by decide]
  · rw [final.same]
    exact sent

/-- A hundred pauses of a new wheel. -/
theorem resets_requests_hundred :
    ∃ after : StoredRig, (resets 100).run (unusedG29 fun _ => true) = some ((), after) ∧
      after.heap.requests = 3 := by
  have reliable : (unusedG29 fun _ => true).heap.Reliable := fun _ _ => rfl
  have unused : (unusedG29 fun _ => true).reports = .empty := rfl
  have unlisted : (unusedG29 fun _ => true).rig.wheel.reports = [] := Wheel.construct_reports _ _
  obtain ⟨after, ran, requests, _⟩ := resets_requests unused unlisted reliable 99
  exact ⟨after, ran, requests⟩

end StoredWheel

end Fffb
