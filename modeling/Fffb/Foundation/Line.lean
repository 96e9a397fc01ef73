import Mathlib.Data.List.Basic

/-
A message line whose every call may fail.

The line keeps the calls made on it together with their outcomes.  Which call
succeeds is decided in advance by `outcome`, so a statement over every line
ranges over every pattern of success and failure.  A message counts as
delivered when its write succeeded, whatever happened to the calls around it.
-/

namespace Fffb

inductive Call (Message : Type) where
  | opening (ok : Bool)
  | writing (message : Message) (ok : Bool)
  | closing (ok : Bool)
  deriving DecidableEq, Repr

def Call.delivery? {Message : Type} : Call Message → Option Message
  | .writing message true => some message
  | _ => none

structure Line (Message : Type) where
  outcome : Nat → Bool
  calls : List (Call Message)

namespace Line

variable {Message : Type}

def idle (outcome : Nat → Bool) : Line Message :=
  { outcome := outcome
    calls := [] }

def record (more : List (Call Message)) (line : Line Message) : Line Message :=
  { line with calls := line.calls ++ more }

/-- Make the next call; its outcome is the one scheduled for its position. -/
def place (call : Bool → Call Message) (line : Line Message) : Bool × Line Message :=
  let ok := line.outcome line.calls.length
  (ok, line.record [call ok])

def delivered (line : Line Message) : List Message :=
  line.calls.filterMap Call.delivery?

def Healthy (line : Line Message) : Prop :=
  ∀ position, line.calls.length ≤ position → line.outcome position = true

def transaction (messages : List Message) : List (Call Message) :=
  .opening true :: (messages.map fun message => .writing message true) ++ [.closing true]

def send (messages : List Message) (line : Line Message) : Line Message :=
  line.record (transaction messages)

def sendAll (batches : List (List Message)) (line : Line Message) : Line Message :=
  batches.foldl (fun current messages => current.send messages) line

/-- The messages that get through from this position on: writing stops at the
first failure. -/
def carriedFrom (outcome : Nat → Bool) (position : Nat) : List Message → List Message
  | [] => []
  | message :: rest =>
      if outcome position then message :: carriedFrom outcome (position + 1) rest else []

/-- The messages that get through in a transaction begun now; none does unless
it can be opened. -/
def carried (line : Line Message) (messages : List Message) : List Message :=
  if line.outcome line.calls.length then
    carriedFrom line.outcome (line.calls.length + 1) messages
  else
    []

def streak (outcome : Nat → Bool) (position : Nat) : Nat → Nat
  | 0 => 0
  | count + 1 => if outcome position then streak outcome (position + 1) count + 1 else 0

/-- How many of so many messages get through in a transaction begun now. -/
def through (line : Line Message) (count : Nat) : Nat :=
  if line.outcome line.calls.length then
    streak line.outcome (line.calls.length + 1) count
  else
    0

def Carries (line : Line Message) : Prop :=
  line.outcome line.calls.length = true ∧ line.outcome (line.calls.length + 1) = true

instance (line : Line Message) : Decidable line.Carries :=
  inferInstanceAs (Decidable (_ ∧ _))

def Completes (line : Line Message) : Prop :=
  ∀ offset < 3, line.outcome (line.calls.length + offset) = true

instance (line : Line Message) : Decidable line.Completes :=
  inferInstanceAs (Decidable (∀ offset < 3, _))

def writeEach (line : Line Message) : List Message → Bool × Line Message
  | [] => (true, line)
  | message :: rest =>
      if line.outcome line.calls.length then
        (line.record [.writing message true]).writeEach rest
      else
        (false, line.record [.writing message false])

/-- Make a transaction: open, write each message, close.  It ends at its first
failed call. -/
def attempt (messages : List Message) (line : Line Message) : Bool × Line Message :=
  if line.outcome line.calls.length then
    let written := (line.record [.opening true]).writeEach messages
    if written.1 then written.2.place .closing else written
  else
    (false, line.record [.opening false])

def attemptAll (batches : List (List Message)) (line : Line Message) : Line Message :=
  batches.foldl (fun current messages => (current.attempt messages).2) line

def carriedAll (line : Line Message) : List (List Message) → List Message
  | [] => []
  | messages :: rest => line.carried messages ++ (line.attempt messages).2.carriedAll rest

def Extends (first second : Line Message) : Prop :=
  ∃ more, second = first.record more

@[simp] theorem record_nil (line : Line Message) : line.record [] = line := by
  cases line with
  | mk outcome calls => simp only [record, List.append_nil]

@[simp] theorem record_record (first second : List (Call Message)) (line : Line Message) :
    (line.record first).record second = line.record (first ++ second) := by
  simp only [record, List.append_assoc]

@[simp] theorem record_delivered (more : List (Call Message)) (line : Line Message) :
    (line.record more).delivered = line.delivered ++ more.filterMap Call.delivery? :=
  List.filterMap_append

@[simp] theorem record_calls (more : List (Call Message)) (line : Line Message) :
    (line.record more).calls = line.calls ++ more := rfl

theorem Extends.refl (line : Line Message) : line.Extends line :=
  ⟨[], (record_nil line).symm⟩

theorem Extends.trans {first second third : Line Message} (earlier : first.Extends second)
    (later : second.Extends third) : first.Extends third := by
  obtain ⟨before, rfl⟩ := earlier
  obtain ⟨after, rfl⟩ := later
  exact ⟨before ++ after, record_record before after first⟩

theorem Extends.healthy {first second : Line Message} (extension : first.Extends second)
    (healthy : first.Healthy) : second.Healthy := by
  obtain ⟨more, rfl⟩ := extension
  intro position beyond
  have later : first.calls.length ≤ position := by
    rw [record_calls, List.length_append] at beyond
    omega
  exact healthy position later

/-! ### Transactions -/

theorem carriedFrom_eq_take (outcome : Nat → Bool) (messages : List Message) (position : Nat) :
    carriedFrom outcome position messages =
      messages.take (streak outcome position messages.length) := by
  induction messages generalizing position with
  | nil => rfl
  | cons message rest ih =>
      rw [List.length_cons]
      unfold carriedFrom streak
      cases outcome position with
      | false => rfl
      | true => rw [if_pos rfl, if_pos rfl, List.take_succ_cons, ih]

/-- What gets through is the front of what is sent; how much of it depends only
on the outcomes. -/
theorem carried_eq_take (line : Line Message) (messages : List Message) :
    line.carried messages = messages.take (line.through messages.length) := by
  unfold carried through
  split
  · exact carriedFrom_eq_take _ messages _
  · exact List.take_zero.symm

theorem mem_of_mem_carried {line : Line Message} {messages : List Message} {message : Message}
    (member : message ∈ line.carried messages) : message ∈ messages := by
  rw [carried_eq_take] at member
  exact List.mem_of_mem_take member

theorem carried_singleton (line : Line Message) (message : Message) :
    line.carried [message] = if line.Carries then [message] else [] := by
  unfold carried carriedFrom carriedFrom Carries
  by_cases opens : line.outcome line.calls.length = true
  · simp only [opens, if_true, true_and]
  · simp only [opens, if_false, false_and, Bool.false_eq_true]

theorem writeEach_delivered (messages : List Message) (line : Line Message) :
    (line.writeEach messages).2.delivered =
      line.delivered ++ carriedFrom line.outcome line.calls.length messages := by
  induction messages generalizing line with
  | nil => exact (List.append_nil _).symm
  | cons message rest ih =>
      unfold writeEach carriedFrom
      cases line.outcome line.calls.length with
      | false =>
          rw [if_neg Bool.false_ne_true, if_neg Bool.false_ne_true]
          exact record_delivered _ _
      | true =>
          rw [if_pos rfl, if_pos rfl, ih, record_delivered, record_calls, List.length_append,
            List.append_assoc]
          rfl

theorem place_closing_delivered (line : Line Message) :
    (line.place .closing).2.delivered = line.delivered :=
  (record_delivered _ _).trans (List.append_nil _)

theorem attempt_delivered (messages : List Message) (line : Line Message) :
    (line.attempt messages).2.delivered = line.delivered ++ line.carried messages := by
  unfold attempt carried
  cases line.outcome line.calls.length with
  | false =>
      rw [if_neg Bool.false_ne_true, if_neg Bool.false_ne_true]
      exact record_delivered _ _
  | true =>
      have written := writeEach_delivered messages (line.record [.opening true])
      rw [record_delivered, record_calls, List.length_append, List.append_assoc] at written
      rw [if_pos rfl, if_pos rfl]
      dsimp only
      split
      · rw [place_closing_delivered]
        exact written
      · exact written

private theorem attempt_singleton_result (message : Message) (line : Line Message) :
    (line.attempt [message]).1 =
      (line.outcome line.calls.length && (line.outcome (line.calls.length + 1) &&
        line.outcome (line.calls.length + 2))) := by
  have opened : (line.record [.opening true]).calls.length = line.calls.length + 1 :=
    List.length_append
  have written : ((line.record [.opening true]).record [.writing message true]).calls.length =
      line.calls.length + 2 := by
    rw [record_calls, List.length_append, opened]
    rfl
  unfold attempt writeEach writeEach
  rw [opened]
  cases line.outcome line.calls.length with
  | false => rfl
  | true =>
      have sameOutcome : (line.record [.opening true]).outcome = line.outcome := rfl
      rw [sameOutcome]
      cases line.outcome (line.calls.length + 1) with
      | false => rfl
      | true =>
          have closing : (((line.record [.opening true]).record [.writing message true]).place
              .closing).1 = line.outcome (line.calls.length + 2) := by
            unfold place
            rw [written]
            rfl
          exact closing

theorem attempt_singleton (message : Message) (line : Line Message) :
    (line.attempt [message]).1 = true ↔ line.Completes := by
  rw [attempt_singleton_result, Bool.and_eq_true, Bool.and_eq_true]
  constructor
  · rintro ⟨first, second, third⟩ offset small
    match offset, small with
    | 0, _ => exact first
    | 1, _ => exact second
    | 2, _ => exact third
  · intro completes
    exact ⟨completes 0 (by decide), completes 1 (by decide), completes 2 (by decide)⟩

theorem attempt_singleton_of_not {line : Line Message} (fails : ¬ line.Completes)
    (message : Message) : (line.attempt [message]).1 = false := by
  rw [← attempt_singleton message] at fails
  exact Bool.eq_false_iff.mpr fails

theorem Completes.carries {line : Line Message} (completes : line.Completes) : line.Carries :=
  ⟨completes 0 (by decide), completes 1 (by decide)⟩

theorem writeEach_extends (messages : List Message) (line : Line Message) :
    line.Extends (line.writeEach messages).2 := by
  induction messages generalizing line with
  | nil => exact .refl line
  | cons message rest ih =>
      unfold writeEach
      split
      · exact Extends.trans ⟨_, rfl⟩ (ih _)
      · exact ⟨_, rfl⟩

theorem attempt_extends (messages : List Message) (line : Line Message) :
    line.Extends (line.attempt messages).2 := by
  have written := writeEach_extends messages (line.record [.opening true])
  have opened : line.Extends (line.record [.opening true]) := ⟨_, rfl⟩
  unfold attempt
  split
  · dsimp only
    split
    · exact (opened.trans written).trans ⟨_, rfl⟩
    · exact opened.trans written
  · exact ⟨_, rfl⟩

@[simp] theorem attemptAll_cons (messages : List Message) (batches : List (List Message))
    (line : Line Message) :
    line.attemptAll (messages :: batches) = (line.attempt messages).2.attemptAll batches := rfl

theorem attemptAll_append (first second : List (List Message)) (line : Line Message) :
    line.attemptAll (first ++ second) = (line.attemptAll first).attemptAll second :=
  List.foldl_append

theorem attemptAll_extends (batches : List (List Message)) (line : Line Message) :
    line.Extends (line.attemptAll batches) := by
  induction batches generalizing line with
  | nil => exact .refl line
  | cons messages rest ih => exact (attempt_extends messages line).trans (ih _)

theorem attemptAll_delivered (batches : List (List Message)) (line : Line Message) :
    (line.attemptAll batches).delivered = line.delivered ++ line.carriedAll batches := by
  induction batches generalizing line with
  | nil => exact (List.append_nil _).symm
  | cons messages rest ih =>
      unfold carriedAll
      rw [attemptAll_cons, ih, attempt_delivered, List.append_assoc]

theorem carriedAll_singleton (line : Line Message) (messages : List Message) :
    line.carriedAll [messages] = line.carried messages :=
  List.append_nil _

theorem mem_of_mem_carriedAll {batches : List (List Message)} {line : Line Message}
    {message : Message} (member : message ∈ line.carriedAll batches) :
    message ∈ batches.flatten := by
  induction batches generalizing line with
  | nil => exact member
  | cons messages rest ih =>
      rw [List.flatten_cons, List.mem_append]
      rcases List.mem_append.mp member with now | later
      · exact Or.inl (mem_of_mem_carried now)
      · exact Or.inr (ih later)

/-! ### Healthy lines -/

theorem transaction_delivered (messages : List Message) :
    (transaction messages).filterMap Call.delivery? = messages := by
  have writes : (messages.map fun message => Call.writing message true).filterMap
      Call.delivery? = messages := by
    induction messages with
    | nil => rfl
    | cons message rest ih =>
        simp only [List.map_cons, List.filterMap_cons, Call.delivery?]
        rw [ih]
  unfold transaction
  rw [List.cons_append, List.filterMap_cons]
  simp only [Call.delivery?, List.filterMap_append, writes, List.filterMap_cons,
    List.filterMap_nil, List.append_nil]

@[simp] theorem send_delivered (messages : List Message) (line : Line Message) :
    (line.send messages).delivered = line.delivered ++ messages := by
  unfold send
  rw [record_delivered, transaction_delivered]

@[simp] theorem sendAll_nil (line : Line Message) : line.sendAll [] = line := rfl

@[simp] theorem sendAll_cons (messages : List Message) (batches : List (List Message))
    (line : Line Message) :
    line.sendAll (messages :: batches) = (line.send messages).sendAll batches := rfl

theorem sendAll_delivered (batches : List (List Message)) (line : Line Message) :
    (line.sendAll batches).delivered = line.delivered ++ batches.flatten := by
  induction batches generalizing line with
  | nil => rw [sendAll_nil, List.flatten_nil, List.append_nil]
  | cons messages rest ih =>
      rw [sendAll_cons, ih, send_delivered, List.flatten_cons, List.append_assoc]

theorem Healthy.record {line : Line Message} (healthy : line.Healthy)
    (more : List (Call Message)) : (line.record more).Healthy :=
  Extends.healthy ⟨more, rfl⟩ healthy

theorem Healthy.completes {line : Line Message} (healthy : line.Healthy) : line.Completes :=
  fun offset _ => healthy (line.calls.length + offset) (Nat.le_add_right _ _)

theorem Healthy.send {line : Line Message} (healthy : line.Healthy) (messages : List Message) :
    (line.send messages).Healthy :=
  healthy.record _

theorem Healthy.sendAll {line : Line Message} (healthy : line.Healthy)
    (batches : List (List Message)) : (line.sendAll batches).Healthy := by
  induction batches generalizing line with
  | nil => exact healthy
  | cons messages rest ih => exact ih (healthy.send messages)

theorem Healthy.writeEach {line : Line Message} (healthy : line.Healthy)
    (messages : List Message) :
    line.writeEach messages =
      (true, line.record (messages.map fun message => .writing message true)) := by
  induction messages generalizing line with
  | nil =>
      rw [List.map_nil, record_nil]
      rfl
  | cons message rest ih =>
      unfold Line.writeEach
      rw [if_pos (healthy _ (Nat.le_refl _)), ih (healthy.record _), record_record]
      rfl

theorem Healthy.attempt {line : Line Message} (healthy : line.Healthy) (messages : List Message) :
    line.attempt messages = (true, line.send messages) := by
  have opened := healthy.record [.opening true]
  have filled := opened.record (messages.map fun message => .writing message true)
  unfold Line.attempt
  rw [if_pos (healthy _ (Nat.le_refl _)), opened.writeEach]
  dsimp only
  rw [if_pos rfl]
  unfold place
  rw [filled _ (Nat.le_refl _), record_record]
  dsimp only
  rw [record_record]
  rfl

theorem Healthy.attemptAll {line : Line Message} (healthy : line.Healthy)
    (batches : List (List Message)) : line.attemptAll batches = line.sendAll batches := by
  induction batches generalizing line with
  | nil => rfl
  | cons messages rest ih =>
      rw [attemptAll_cons, sendAll_cons, healthy.attempt]
      exact ih (healthy.send messages)

theorem idle_healthy : (idle fun _ => true : Line Message).Healthy :=
  fun _ _ => rfl

end Line

end Fffb
