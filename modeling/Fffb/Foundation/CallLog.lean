import Fffb.Foundation.Latch
import Fffb.Foundation.Line

/-
The calls that transactions leave on a line.

A transaction that cannot be opened leaves one failed call, one that cannot be
written out ends in a failed write, and every other one ends in a close.
-/

namespace Fffb

namespace Call

variable {Message : Type}

def ok : Call Message → Bool
  | .opening ok => ok
  | .writing _ ok => ok
  | .closing ok => ok

def opens : Call Message → Bool
  | .opening ok => ok
  | _ => false

def closes : Call Message → Bool
  | .closing _ => true
  | _ => false

end Call

namespace Line

variable {Message : Type}

/-- The calls on the second line that the first does not have yet. -/
def made (first second : Line Message) : List (Call Message) :=
  second.calls.drop first.calls.length

def Opens (line : Line Message) : Prop := line.outcome line.calls.length = true

def WritesOut (line : Line Message) (messages : List Message) : Prop :=
  ∀ offset < messages.length, line.outcome (line.calls.length + 1 + offset) = true

/-- A transaction of these messages succeeds from its open to its close. -/
def Serves (line : Line Message) (messages : List Message) : Prop :=
  ∀ offset < messages.length + 2, line.outcome (line.calls.length + offset) = true

instance (line : Line Message) : Decidable line.Opens :=
  inferInstanceAs (Decidable (_ = _))

instance (line : Line Message) (messages : List Message) : Decidable (line.WritesOut messages) :=
  inferInstanceAs (Decidable (∀ offset < _, _))

instance (line : Line Message) (messages : List Message) : Decidable (line.Serves messages) :=
  inferInstanceAs (Decidable (∀ offset < _, _))

def turns (line : Line Message) : List (List Message) → List (Line Message × List Message)
  | [] => []
  | messages :: rest => (line, messages) :: (line.attempt messages).2.turns rest

def breaks (turn : Line Message × List Message) : Bool :=
  decide turn.1.Opens && !decide (turn.1.WritesOut turn.2)

def finishes (turn : Line Message × List Message) : Bool :=
  decide turn.1.Opens && decide (turn.1.WritesOut turn.2)

/-- Every successful open is followed by a call of close. -/
def Closes (calls : List (Call Message)) : Prop :=
  ∀ before after, calls = before ++ .opening true :: after → ∃ ok, .closing ok ∈ after

@[simp] theorem made_record (line : Line Message) (more : List (Call Message)) :
    line.made (line.record more) = more := by
  simp [made]

theorem made_trans {first second third : Line Message} (earlier : first.Extends second)
    (later : second.Extends third) :
    first.made third = first.made second ++ second.made third := by
  obtain ⟨before, rfl⟩ := earlier
  obtain ⟨after, rfl⟩ := later
  rw [made_record, made_record, record_record, made_record]

theorem made_attemptAll_cons (line : Line Message) (messages : List Message)
    (batches : List (List Message)) :
    line.made (line.attemptAll (messages :: batches)) =
      line.made (line.attempt messages).2 ++
        (line.attempt messages).2.made ((line.attempt messages).2.attemptAll batches) :=
  made_trans (attempt_extends messages line) (attemptAll_extends batches _)

theorem record_outcome (line : Line Message) (more : List (Call Message)) :
    (line.record more).outcome = line.outcome := rfl

theorem writeEach_of_all (messages : List Message) (line : Line Message)
    (all : ∀ offset < messages.length, line.outcome (line.calls.length + offset) = true) :
    line.writeEach messages =
      (true, line.record (messages.map fun message => .writing message true)) := by
  induction messages generalizing line with
  | nil => simp [writeEach]
  | cons message rest ih =>
      have first : line.outcome line.calls.length = true := all 0 (by simp)
      have others : ∀ offset < rest.length,
          (line.record [.writing message true]).outcome
            ((line.record [.writing message true]).calls.length + offset) = true := by
        intro offset small
        have next := all (offset + 1) (by simp; omega)
        rw [record_outcome, record_calls, List.length_append, List.length_singleton]
        rwa [Nat.add_right_comm, Nat.add_assoc]
      unfold writeEach
      rw [if_pos first, ih _ others]
      simp

theorem writeEach_of_not_all (messages : List Message) (line : Line Message)
    (fails : ¬ ∀ offset < messages.length, line.outcome (line.calls.length + offset) = true) :
    ∃ (written : List Message) (message : Message), line.writeEach messages =
      (false, line.record ((written.map fun message => .writing message true) ++
        [.writing message false])) := by
  induction messages generalizing line with
  | nil => exact False.elim (fails fun offset small => absurd small (by simp))
  | cons message rest ih =>
      unfold writeEach
      cases first : line.outcome line.calls.length with
      | false => exact ⟨[], message, rfl⟩
      | true =>
          have others : ¬ ∀ offset < rest.length,
              (line.record [.writing message true]).outcome
                ((line.record [.writing message true]).calls.length + offset) = true := by
            intro all
            apply fails
            intro offset small
            cases offset with
            | zero => exact first
            | succ previous =>
                have next := all previous (by simp at small; omega)
                rw [record_outcome, record_calls, List.length_append,
                  List.length_singleton] at next
                rwa [Nat.add_right_comm, Nat.add_assoc] at next
          obtain ⟨written, failed, ended⟩ := ih _ others
          refine ⟨message :: written, failed, ?_⟩
          rw [if_pos rfl, ended]
          simp

theorem attempt_of_unopened {line : Line Message} (refused : ¬ line.Opens)
    (messages : List Message) : line.attempt messages = (false, line.record [.opening false]) :=
  if_neg refused

theorem attempt_of_breaks {line : Line Message} {messages : List Message} (opened : line.Opens)
    (fails : ¬ line.WritesOut messages) :
    ∃ (written : List Message) (message : Message), line.attempt messages =
      (false, line.record (.opening true ::
        ((written.map fun message => .writing message true) ++ [.writing message false]))) := by
  have later : ¬ ∀ offset < messages.length,
      (line.record [.opening true]).outcome
        ((line.record [.opening true]).calls.length + offset) = true := by
    simpa [WritesOut, record_outcome] using fails
  obtain ⟨written, message, ended⟩ := writeEach_of_not_all messages _ later
  refine ⟨written, message, ?_⟩
  unfold Opens at opened
  unfold attempt
  rw [if_pos opened, ended]
  simp

theorem attempt_of_finishes {line : Line Message} {messages : List Message} (opened : line.Opens)
    (writes : line.WritesOut messages) :
    line.attempt messages =
      (line.outcome (line.calls.length + (messages.length + 1)),
        line.record (.opening true ::
          ((messages.map fun message => .writing message true) ++
            [.closing (line.outcome (line.calls.length + (messages.length + 1)))]))) := by
  have later : ∀ offset < messages.length,
      (line.record [.opening true]).outcome
        ((line.record [.opening true]).calls.length + offset) = true := by
    simpa [WritesOut, record_outcome] using writes
  unfold Opens at opened
  unfold attempt
  rw [if_pos opened, writeEach_of_all messages _ later]
  dsimp only
  rw [if_pos rfl]
  simp [place, record_outcome]

theorem serves_iff {line : Line Message} {messages : List Message} :
    line.Serves messages ↔ line.Opens ∧ line.WritesOut messages ∧
      line.outcome (line.calls.length + (messages.length + 1)) = true := by
  constructor
  · intro serves
    refine ⟨serves 0 (by omega), ?_, serves (messages.length + 1) (by omega)⟩
    intro offset small
    rw [Nat.add_assoc]
    exact serves (1 + offset) (by omega)
  · rintro ⟨opened, writes, closed⟩ offset small
    cases offset with
    | zero => exact opened
    | succ previous =>
        by_cases last : previous = messages.length
        · rw [last]
          exact closed
        · have written := writes previous (by omega)
          rwa [Nat.add_assoc, Nat.add_comm 1] at written

theorem attempt_succeeds_iff (messages : List Message) (line : Line Message) :
    ((line.attempt messages).1 = true ↔ line.Serves messages) ∧
      ((∀ call ∈ line.made (line.attempt messages).2, call.ok = true) ↔
        line.Serves messages) := by
  rw [serves_iff]
  by_cases opened : line.Opens
  · by_cases writes : line.WritesOut messages
    · rw [attempt_of_finishes opened writes]
      simp [opened, writes, Call.ok, or_imp, forall_and]
    · obtain ⟨written, message, ended⟩ := attempt_of_breaks opened writes
      rw [ended]
      simp [writes, Call.ok, or_imp, forall_and]
  · rw [attempt_of_unopened opened]
    simp [opened, Call.ok]

theorem carried_prefix (line : Line Message) (messages : List Message) :
    line.carried messages <+: messages := by
  rw [carried_eq_take]
  exact List.take_prefix _ messages

theorem carriedFrom_of_all (outcome : Nat → Bool) (messages : List Message) (position : Nat)
    (all : ∀ offset < messages.length, outcome (position + offset) = true) :
    carriedFrom outcome position messages = messages := by
  induction messages generalizing position with
  | nil => rfl
  | cons message rest ih =>
      have first : outcome position = true := all 0 (by simp)
      have others : ∀ offset < rest.length, outcome (position + 1 + offset) = true := by
        intro offset small
        rw [Nat.add_right_comm, Nat.add_assoc]
        exact all (offset + 1) (by simp; omega)
      unfold carriedFrom
      rw [if_pos first, ih (position + 1) others]

theorem carried_of_succeeded {line : Line Message} {messages : List Message}
    (succeeded : (line.attempt messages).1 = true) : line.carried messages = messages := by
  obtain ⟨opened, writes, _⟩ := serves_iff.mp ((attempt_succeeds_iff messages line).1.mp succeeded)
  unfold carried
  exact (if_pos opened).trans (carriedFrom_of_all line.outcome messages _ writes)

theorem attemptAll_ok_iff (batches : List (List Message)) (line : Line Message) :
    (∀ call ∈ line.made (line.attemptAll batches), call.ok = true) ↔
      ∀ turn ∈ line.turns batches, turn.1.Serves turn.2 := by
  induction batches generalizing line with
  | nil => simp [attemptAll, made, turns]
  | cons messages rest ih =>
      rw [made_attemptAll_cons, turns, List.forall_mem_append, List.forall_mem_cons, ih,
        (attempt_succeeds_iff messages line).2]

/-! ### Open handles -/

theorem closes_iff (calls : List (Call Message)) :
    Closes calls ↔ Latch.latched Call.opens Call.closes calls = false := by
  rw [← Bool.not_eq_true, Latch.latched_iff]
  constructor
  · rintro closed ⟨before, call, after, split, opened, kept⟩
    have isOpening : call = .opening true := by
      cases call with
      | opening ok => rw [show ok = true from opened]
      | writing message ok => cases opened
      | closing ok => cases opened
    rw [isOpening] at split
    obtain ⟨ok, member⟩ := closed before after split
    exact Bool.noConfusion (kept _ member)
  · intro none before after split
    by_contra unclosed
    refine none ⟨before, .opening true, after, split, rfl, ?_⟩
    intro call member
    cases call with
    | opening ok => rfl
    | writing message ok => rfl
    | closing ok => exact False.elim (unclosed ⟨ok, member⟩)

theorem latchFrom_attempt (held : Bool) (messages : List Message) (line : Line Message) :
    Latch.latchFrom Call.opens Call.closes held (line.made (line.attempt messages).2) =
      if breaks (line, messages) then true
      else if finishes (line, messages) then false else held := by
  have quietWrites : ∀ written : List Message, ∀ start,
      Latch.latchFrom Call.opens Call.closes start
        (written.map fun message => .writing message true) = start := by
    intro written start
    apply Latch.latchFrom_quiet
    · simp [Call.opens]
    · simp [Call.closes]
  by_cases opened : line.Opens
  · by_cases writes : line.WritesOut messages
    · rw [attempt_of_finishes opened writes, made_record]
      simp [breaks, finishes, opened, writes, Latch.latchFrom_append,
        Call.opens, Call.closes]
    · obtain ⟨written, message, ended⟩ := attempt_of_breaks opened writes
      rw [ended, made_record]
      simp [breaks, opened, writes, Latch.latchFrom_append, quietWrites,
        Call.opens, Call.closes]
  · rw [attempt_of_unopened opened, made_record]
    simp [breaks, finishes, opened, Call.opens, Call.closes]

theorem latchFrom_attemptAll (held : Bool) (batches : List (List Message))
    (line : Line Message) :
    Latch.latchFrom Call.opens Call.closes held (line.made (line.attemptAll batches)) =
      Latch.latchFrom breaks finishes held (line.turns batches) := by
  induction batches generalizing held line with
  | nil => simp [attemptAll, made, turns]
  | cons messages rest ih =>
      rw [made_attemptAll_cons, Latch.latchFrom_append, latchFrom_attempt, ih]
      rfl

/-- Transactions leave no open behind exactly when each one that breaks off is
followed by one that comes to its close. -/
theorem attemptAll_closes_iff (batches : List (List Message)) (line : Line Message) :
    Closes (line.made (line.attemptAll batches)) ↔
      ∀ before turn after, line.turns batches = before ++ turn :: after →
        breaks turn = true → ∃ later ∈ after, finishes later = true := by
  have sameLatch := latchFrom_attemptAll false batches line
  rw [closes_iff, Latch.latched, sameLatch, ← Bool.not_eq_true]
  change ¬ Latch.latched breaks finishes (line.turns batches) = true ↔ _
  rw [Latch.latched_iff]
  unfold Latch.SetSince
  push Not
  simp only [ne_eq, Bool.not_eq_false]

end Line

end Fffb
