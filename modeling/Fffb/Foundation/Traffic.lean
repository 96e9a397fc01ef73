import Fffb.Foundation.Line

/-
How much is sent on a line.

A transaction makes at least one call, and at most two more than it has
messages, so the transactions and their messages bound the calls.
-/

namespace Fffb.Line

variable {Message : Type}

/-- From the first line to the second so many transactions have been made, of
at most so many messages. -/
def Sends (transactions messages : Nat) (first second : Line Message) : Prop :=
  ∃ batches : List (List Message), second = first.attemptAll batches ∧
    batches.length = transactions ∧ batches.flatten.length ≤ messages

theorem Sends.refl (line : Line Message) : Sends 0 0 line line :=
  ⟨[], rfl, rfl, Nat.le_refl 0⟩

theorem Sends.trans {first second third : Line Message} {before after some more : Nat}
    (earlier : Sends before some first second) (later : Sends after more second third) :
    Sends (before + after) (some + more) first third := by
  obtain ⟨front, rfl, frontCount, frontBound⟩ := earlier
  obtain ⟨back, rfl, backCount, backBound⟩ := later
  refine ⟨front ++ back, (attemptAll_append front back first).symm, ?_, ?_⟩
  · rw [List.length_append, frontCount, backCount]
  · rw [List.flatten_append, List.length_append]
    exact Nat.add_le_add frontBound backBound

theorem writeEach_calls (messages : List Message) (line : Line Message) :
    (line.writeEach messages).2.calls.length ≤ line.calls.length + messages.length := by
  induction messages generalizing line with
  | nil => exact Nat.le_refl _
  | cons message rest ih =>
      unfold writeEach
      split
      · have later := ih (line.record [.writing message true])
        rw [record_calls, List.length_append] at later
        simp only [List.length_cons, List.length_nil] at later ⊢
        omega
      · dsimp only
        rw [record_calls, List.length_append]
        simp only [List.length_cons, List.length_nil]
        omega

theorem attempt_calls (messages : List Message) (line : Line Message) :
    line.calls.length < (line.attempt messages).2.calls.length ∧
      (line.attempt messages).2.calls.length ≤ line.calls.length + messages.length + 2 := by
  have opened : ∀ ok, (line.record [.opening ok]).calls.length = line.calls.length + 1 :=
    fun _ => List.length_append
  unfold attempt
  split
  · have grown := writeEach_extends messages (line.record [.opening true])
    have bound := writeEach_calls messages (line.record [.opening true])
    obtain ⟨more, written⟩ := grown
    have length : ((line.record [.opening true]).writeEach messages).2.calls.length =
        line.calls.length + 1 + more.length := by
      rw [written, record_calls, List.length_append, opened]
    rw [opened] at bound
    dsimp only
    split
    · have closed : ∀ other : Line Message,
          (other.place .closing).2.calls.length = other.calls.length + 1 :=
        fun _ => List.length_append
      rw [closed]
      omega
    · omega
  · dsimp only
    rw [opened]
    omega

theorem Sends.calls {first second : Line Message} {transactions messages : Nat}
    (sends : Sends transactions messages first second) :
    first.calls.length + transactions ≤ second.calls.length ∧
      second.calls.length ≤ first.calls.length + messages + 2 * transactions := by
  obtain ⟨batches, rfl, rfl, bound⟩ := sends
  have counted : first.calls.length + batches.length ≤ (first.attemptAll batches).calls.length ∧
      (first.attemptAll batches).calls.length ≤
        first.calls.length + batches.flatten.length + 2 * batches.length := by
    clear bound
    induction batches generalizing first with
    | nil => exact ⟨Nat.le_refl _, Nat.le_refl _⟩
    | cons batch rest ih =>
        obtain ⟨least, most⟩ := attempt_calls batch first
        obtain ⟨atLeast, atMost⟩ := @ih (first.attempt batch).2
        rw [attemptAll_cons, List.flatten_cons, List.length_append, List.length_cons]
        omega
  omega

end Fffb.Line
