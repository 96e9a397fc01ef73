import Mathlib.Data.List.Basic
import Mathlib.Data.List.Induction

/-
A choice that a loop overwrites.

The loop goes through a list and puts every wanted item in place of the one
before it, so what it ends with is the last wanted item.  Which one that is
depends on the order of the list, unless all wanted items are the same.
-/

namespace Fffb.Selection

variable {Item State : Type} (wanted : Item → Prop) [DecidablePred wanted]

def last? (items : List Item) : Option Item := (items.filter wanted).getLast?

theorem last?_append (front back : List Item) :
    last? wanted (front ++ back) = (last? wanted back).or (last? wanted front) := by
  unfold last?
  rw [List.filter_append, List.getLast?_append]

theorem last?_singleton (item : Item) :
    last? wanted [item] = if wanted item then some item else none := by
  unfold last?
  rw [List.filter_cons, List.filter_nil]
  by_cases holds : wanted item
  · simp only [decide_eq_true holds, if_true, if_pos holds, List.getLast?_singleton]
  · simp only [decide_eq_false holds, Bool.false_eq_true, if_false, if_neg holds,
      List.getLast?_nil]

theorem foldl_put (put : State → Item → State)
    (replaces : ∀ state first second, put (put state first) second = put state second)
    (items : List Item) (state : State) :
    items.foldl (fun current item => if wanted item then put current item else current) state =
      (last? wanted items).elim state (put state) := by
  induction items using List.reverseRecOn with
  | nil => rfl
  | append_singleton front item ih =>
      rw [List.foldl_append, List.foldl_cons, List.foldl_nil, ih, last?_append,
        last?_singleton]
      by_cases holds : wanted item
      · rw [if_pos holds, if_pos holds, Option.some_or, Option.elim_some]
        cases last? wanted front with
        | none => rfl
        | some earlier => exact replaces state earlier item
      · rw [if_neg holds, if_neg holds, Option.none_or]

variable {wanted} {items other : List Item} {item : Item}

theorem mem_of_last? (chosen : last? wanted items = some item) :
    item ∈ items ∧ wanted item := by
  have member := List.mem_filter.mp (List.mem_of_getLast? chosen)
  exact ⟨member.1, of_decide_eq_true member.2⟩

theorem last?_eq_none_iff : last? wanted items = none ↔ ∀ item ∈ items, ¬ wanted item := by
  unfold last?
  rw [List.getLast?_eq_none_iff, List.filter_eq_nil_iff]
  simp only [decide_eq_true_eq]

/-- Nothing wanted comes after the last wanted item. -/
theorem last?_eq_some_iff :
    last? wanted items = some item ↔
      ∃ before after, items = before ++ item :: after ∧ wanted item ∧
        ∀ later ∈ after, ¬ wanted later := by
  constructor
  · intro chosen
    induction items using List.reverseRecOn with
    | nil => cases chosen
    | append_singleton front final ih =>
        rw [last?_append, last?_singleton] at chosen
        by_cases holds : wanted final
        · rw [if_pos holds, Option.some_or] at chosen
          cases chosen
          exact ⟨front, [], rfl, holds, fun later absent => by cases absent⟩
        · rw [if_neg holds, Option.none_or] at chosen
          obtain ⟨before, after, rfl, wantedItem, unwanted⟩ := ih chosen
          refine ⟨before, after ++ [final], by rw [List.append_assoc, List.cons_append],
            wantedItem, ?_⟩
          intro later member
          rcases List.mem_append.mp member with inAfter | isFinal
          · exact unwanted later inAfter
          · rw [List.mem_singleton.mp isFinal]
            exact holds
  · rintro ⟨before, after, rfl, holds, unwanted⟩
    rw [List.append_cons, last?_append, last?_append, last?_eq_none_iff.mpr unwanted,
      last?_singleton, if_pos holds]
    rfl

theorem exists_perm_last? (member : item ∈ items) (holds : wanted item) :
    ∃ reordered, reordered.Perm items ∧ last? wanted reordered = some item := by
  obtain ⟨before, after, rfl⟩ := List.append_of_mem member
  refine ⟨before ++ after ++ [item], ?_, ?_⟩
  · rw [List.append_assoc]
    exact (List.perm_append_singleton item after).append_left before
  · rw [last?_append, last?_singleton, if_pos holds]
    rfl

/-- The choice is the same for every order of the list exactly when no two
wanted items differ. -/
theorem last?_perm_iff :
    (∀ reordered : List Item, reordered.Perm items →
        last? wanted reordered = last? wanted items) ↔
      ∀ left ∈ items, ∀ right ∈ items, wanted left → wanted right → left = right := by
  constructor
  · intro same left leftMember right rightMember leftWanted rightWanted
    obtain ⟨leftLast, leftPerm, leftChosen⟩ := exists_perm_last? leftMember leftWanted
    obtain ⟨rightLast, rightPerm, rightChosen⟩ := exists_perm_last? rightMember rightWanted
    rw [same leftLast leftPerm, ← same rightLast rightPerm, rightChosen] at leftChosen
    exact (Option.some.inj leftChosen).symm
  · intro equal reordered perm
    cases chosen : last? wanted items with
    | none =>
        rw [last?_eq_none_iff] at chosen ⊢
        exact fun item member => chosen item (perm.mem_iff.mp member)
    | some item =>
        obtain ⟨member, holds⟩ := mem_of_last? chosen
        cases other : last? wanted reordered with
        | none =>
            rw [last?_eq_none_iff] at other
            exact False.elim (other item (perm.mem_iff.mpr member) holds)
        | some rival =>
            obtain ⟨rivalMember, rivalHolds⟩ := mem_of_last? other
            rw [equal rival (perm.mem_iff.mp rivalMember) item member rivalHolds holds]

end Fffb.Selection
