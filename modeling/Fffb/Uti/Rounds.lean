import Fffb.Uti.Sequence

/-
A queue that is filled and cleared round after round, under any allocator.

Until the first request is granted every item is dropped; from then on the
capacity doubles with each request until a round fits.  Every number of rounds
has a meaning exactly when none of these later requests is refused.  For rounds
of three, `ThreeStage` says how many have one when some are.
-/

namespace Fffb.Uti

variable {Value : Type}

def round (values : List Value) : List (Usage Value) :=
  values.map .push ++ [.clear]

def rounds (values : List Value) : Nat → List (Usage Value)
  | 0 => []
  | count + 1 => rounds values count ++ round values

namespace Sequence

/-- The first request from `start` on that is granted. -/
def FirstGranted (outcome : Nat → Bool) (start first : Nat) : Prop :=
  start ≤ first ∧ outcome first = true ∧ AllRefused outcome start first

theorem FirstGranted.unique {outcome : Nat → Bool} {start first other : Nat}
    (granted : FirstGranted outcome start first) (also : FirstGranted outcome start other) :
    first = other := by
  obtain ⟨after, yes, none⟩ := granted
  obtain ⟨afterOther, yesOther, noneOther⟩ := also
  rcases Nat.lt_trichotomy first other with earlier | same | later
  · rw [noneOther first after earlier] at yes
    cases yes
  · exact same
  · rw [none other afterOther later] at yesOther
    cases yesOther

/-- Where a sequence that lost nothing has come to: before the first granted
request, or so many doublings after it. -/
inductive Stage (outcome : Nat → Bool) (start : Nat) (sequence : Sequence Value) : Prop
  | before (kept : sequence.lost = false) (unallocated : sequence.capacity = 0)
      (since : start ≤ sequence.requests)
      (refused : AllRefused outcome start sequence.requests)
  | after (kept : sequence.lost = false) (first doublings : Nat)
      (granted : FirstGranted outcome start first)
      (capacity : sequence.capacity = 2 ^ doublings)
      (requests : sequence.requests = first + doublings + 1)
      (answers : ∀ request, first ≤ request → request < sequence.requests →
        outcome request = true)

theorem Stage.kept {outcome : Nat → Bool} {start : Nat} {sequence : Sequence Value}
    (stage : Stage outcome start sequence) : sequence.lost = false := by
  cases stage with
  | before kept => exact kept
  | after kept => exact kept

theorem stage_empty (outcome : Nat → Bool) (start : Nat) :
    Stage outcome start (empty start : Sequence Value) := by
  refine .before rfl rfl (Nat.le_refl start) ?_
  intro request after before
  exact absurd before (Nat.not_lt.mpr after)

section

variable {outcome : Nat → Bool} {start : Nat} {sequence : Sequence Value}

theorem Stage.with_items (stage : Stage outcome start sequence) (items : List Value) :
    Stage outcome start { sequence with items := items } := by
  cases stage with
  | before kept unallocated since refused => exact .before kept unallocated since refused
  | after kept first doublings granted capacity requests answers =>
      exact .after kept first doublings granted capacity requests answers

theorem Stage.granted (stage : Stage outcome start sequence)
    (answer : outcome sequence.requests = true) (items : List Value) :
    Stage outcome start
      { items := items, capacity := grown sequence.capacity, lost := sequence.lost,
        requests := sequence.requests + 1 } := by
  cases stage with
  | before kept unallocated since refused =>
      refine .after kept sequence.requests 0 ⟨since, answer, refused⟩ ?_ rfl ?_
      · change grown sequence.capacity = 1
        rw [unallocated]
        rfl
      · intro request after before
        have same : request = sequence.requests := Nat.le_antisymm (Nat.le_of_lt_succ before) after
        rw [same]
        exact answer
  | after kept first doublings granted capacity requests answers =>
      refine .after kept first (doublings + 1) granted ?_ ?_ ?_
      · change grown sequence.capacity = _
        rw [capacity, grown, if_neg (Nat.ne_of_gt (Nat.two_pow_pos doublings)), Nat.pow_succ]
      · change sequence.requests + 1 = _
        omega
      · intro request after before
        change request < sequence.requests + 1 at before
        by_cases last : request = sequence.requests
        · rw [last]
          exact answer
        · exact answers request after (by omega)

theorem push_stage (stage : Stage outcome start sequence) {value : Value} {next : Sequence Value}
    (pushed : sequence.push outcome value = some next) :
    next.lost = true ∨ Stage outcome start next := by
  have kept := stage.kept
  by_cases room : sequence.items.length < sequence.capacity
  · rw [push_room kept room] at pushed
    cases pushed
    exact Or.inr (stage.with_items _)
  · cases answer : outcome sequence.requests with
    | true =>
        rw [push_granted kept (Nat.not_lt.mp room) answer] at pushed
        cases pushed
        exact Or.inr (stage.granted answer _)
    | false =>
        rw [push_refused kept (Nat.not_lt.mp room) answer] at pushed
        cases pushed
        cases stage with
        | before _ unallocated since refused =>
            refine Or.inr (.before ?_ unallocated (Nat.le_succ_of_le since) ?_)
            · exact decide_eq_false (fun some => some unallocated)
            · intro request after before
              change request < sequence.requests + 1 at before
              by_cases last : request = sequence.requests
              · rw [last]
                exact answer
              · exact refused request after (by omega)
        | after _ first doublings _ capacity =>
            refine Or.inl (decide_eq_true ?_)
            rw [capacity]
            exact Nat.ne_of_gt (Nat.two_pow_pos doublings)

theorem step_stage (stage : Stage outcome start sequence) {usage : Usage Value}
    {next : Sequence Value} (stepped : sequence.step outcome usage = some next) :
    next.lost = true ∨ Stage outcome start next := by
  cases usage with
  | push value => exact push_stage stage stepped
  | clear =>
      cases stepped
      exact Or.inr (stage.with_items [])

theorem step_lost (lost : sequence.lost = true) {usage : Usage Value} {next : Sequence Value}
    (stepped : sequence.step outcome usage = some next) : next.lost = true := by
  cases usage with
  | push value =>
      rw [step, push_lost lost] at stepped
      cases stepped
  | clear =>
      cases stepped
      exact lost

theorem run_stage (stage : Stage outcome start sequence) {usages : List (Usage Value)}
    {last : Sequence Value} (ends : sequence.run outcome usages = some last) :
    last.lost = true ∨ Stage outcome start last := by
  have kept : ∀ (state : Sequence Value) usage next,
      (state.lost = true ∨ Stage outcome start state) → step outcome state usage = some next →
        next.lost = true ∨ Stage outcome start next := by
    rintro state usage next (lost | still) stepped
    · exact Or.inl (step_lost lost stepped)
    · exact step_stage still stepped
  exact Transition.run_preserves kept (Or.inr stage) ends

theorem run_append_of_some {first second : List (Usage Value)} {middle : Sequence Value}
    (reached : sequence.run outcome first = some middle) :
    sequence.run outcome (first ++ second) = middle.run outcome second := by
  rw [run, Transition.run_append]
  change (sequence.run outcome first).bind _ = _
  rw [reached]
  rfl

/-- The doublings that a round of so many items needs are granted. -/
def Provided (outcome : Nat → Bool) (start count : Nat) : Prop :=
  ∀ first, FirstGranted outcome start first →
    ∀ later, first < later → later ≤ first + Nat.clog 2 count → outcome later = true

theorem push_provided {count : Nat} (provided : Provided outcome start count)
    (stage : Stage outcome start sequence) (fits : sequence.items.length + 1 ≤ count)
    (value : Value) :
    ∃ next, sequence.push outcome value = some next ∧ Stage outcome start next ∧
      next.items.length ≤ sequence.items.length + 1 := by
  have kept := stage.kept
  by_cases room : sequence.items.length < sequence.capacity
  · refine ⟨_, push_room kept room value, stage.with_items _, ?_⟩
    rw [List.length_append, List.length_singleton]
  · cases answer : outcome sequence.requests with
    | true =>
        refine ⟨_, push_granted kept (Nat.not_lt.mp room) answer value, stage.granted answer _, ?_⟩
        rw [List.length_append, List.length_singleton]
    | false =>
        obtain ⟨next, pushed⟩ := push_kept kept value
        rcases push_stage stage pushed with lost | still
        · rw [push_refused kept (Nat.not_lt.mp room) answer] at pushed
          cases pushed
          cases stage with
          | before _ unallocated => exact absurd unallocated (of_decide_eq_true lost)
          | after _ first doublings granted capacity requests =>
              -- the refused request is one of those that the round needs
              have needed : doublings < Nat.clog 2 count := by
                apply (Nat.lt_clog_iff_pow_lt Nat.one_lt_two).mpr
                omega
              have yes := provided first granted sequence.requests (by omega) (by omega)
              rw [answer] at yes
              cases yes
        · refine ⟨next, pushed, still, ?_⟩
          rw [push_refused kept (Nat.not_lt.mp room) answer] at pushed
          cases pushed
          exact Nat.le_succ _

theorem pushes_provided {count : Nat} (provided : Provided outcome start count)
    (stage : Stage outcome start sequence) {values : List Value}
    (fits : sequence.items.length + values.length ≤ count) :
    ∃ next, sequence.run outcome (values.map .push) = some next ∧ Stage outcome start next := by
  induction values generalizing sequence with
  | nil => exact ⟨sequence, rfl, stage⟩
  | cons value rest ih =>
      rw [List.length_cons] at fits
      obtain ⟨middle, pushed, still, length⟩ :=
        push_provided provided stage (by omega) value
      obtain ⟨next, ends, final⟩ := ih still (by omega)
      refine ⟨next, ?_, final⟩
      rw [List.map_cons, run, Transition.run_cons, step, pushed]
      exact ends

theorem round_provided {values : List Value} (provided : Provided outcome start values.length)
    (stage : Stage outcome start sequence) (empty : sequence.items = []) :
    ∃ next, sequence.run outcome (round values) = some next ∧ Stage outcome start next ∧
      next.items = [] := by
  have fits : sequence.items.length + values.length ≤ values.length := by
    rw [empty]
    exact Nat.le_of_eq (Nat.zero_add _)
  obtain ⟨filled, pushed, still⟩ := pushes_provided provided stage fits
  exact ⟨filled.clear, run_append_of_some pushed, still.with_items [], rfl⟩

theorem rounds_provided {values : List Value} (provided : Provided outcome start values.length)
    (count : Nat) :
    ∃ last, (empty start).run outcome (rounds values count) = some last ∧
      Stage outcome start last ∧ last.items = [] := by
  induction count with
  | zero => exact ⟨empty start, rfl, stage_empty outcome start, rfl⟩
  | succ count ih =>
      obtain ⟨middle, reached, stage, cleared⟩ := ih
      obtain ⟨last, ends, final⟩ := round_provided provided stage cleared
      exact ⟨last, (run_append_of_some reached).trans ends, final⟩

/-! ### Rounds that are not -/

theorem push_requests {value : Value} {next : Sequence Value}
    (pushed : sequence.push outcome value = some next) :
    sequence.requests ≤ next.requests ∧
      (next.requests = sequence.requests → sequence.items.length < sequence.capacity ∧
        next.capacity = sequence.capacity ∧ next.items = sequence.items ++ [value]) := by
  cases kept : sequence.lost with
  | true =>
      rw [push_lost kept] at pushed
      cases pushed
  | false =>
      by_cases room : sequence.items.length < sequence.capacity
      · rw [push_room kept room] at pushed
        cases pushed
        exact ⟨Nat.le_refl _, fun _ => ⟨room, rfl, rfl⟩⟩
      · have made : next.requests = sequence.requests + 1 := by
          cases answer : outcome sequence.requests with
          | true =>
              rw [push_granted kept (Nat.not_lt.mp room) answer] at pushed
              cases pushed
              rfl
          | false =>
              rw [push_refused kept (Nat.not_lt.mp room) answer] at pushed
              cases pushed
              rfl
        refine ⟨by omega, fun same => ?_⟩
        omega

theorem pushes_requests {values : List Value} {next : Sequence Value}
    (ends : sequence.run outcome (values.map .push) = some next) :
    sequence.requests ≤ next.requests ∧
      (next.requests = sequence.requests → values ≠ [] →
        sequence.items.length + values.length ≤ sequence.capacity) := by
  induction values generalizing sequence with
  | nil =>
      cases ends
      exact ⟨Nat.le_refl _, fun _ none => absurd rfl none⟩
  | cons value rest ih =>
      obtain ⟨middle, pushed, continued⟩ := Transition.run_cons_cases ends
      obtain ⟨grows, placed⟩ := push_requests pushed
      obtain ⟨further, placedRest⟩ := ih continued
      refine ⟨Nat.le_trans grows further, fun same _ => ?_⟩
      obtain ⟨room, capacity, items⟩ := placed (by omega)
      have counted := congrArg List.length items
      rw [List.length_append, List.length_singleton] at counted
      rw [List.length_cons]
      by_cases last : rest = []
      · rw [last, List.length_nil]
        omega
      · have fits := placedRest (by omega) last
        omega

theorem round_requests {values : List Value} {next : Sequence Value}
    (ends : sequence.run outcome (round values) = some next) (empty : sequence.items = [])
    (short : sequence.capacity < values.length) : sequence.requests < next.requests := by
  rw [run, round, Transition.run_append] at ends
  obtain ⟨filled, pushed, cleared⟩ := Option.bind_eq_some_iff.mp ends
  cases cleared
  obtain ⟨grows, placed⟩ := pushes_requests pushed
  change sequence.requests < filled.requests
  by_contra stays
  have some : values ≠ [] := by
    rintro rfl
    cases short
  have fits := placed (by omega) some
  rw [empty, List.length_nil] at fits
  omega

theorem run_items_of_round {values : List Value} {next : Sequence Value}
    (ends : sequence.run outcome (round values) = some next) : next.items = [] := by
  rw [run, round, Transition.run_append] at ends
  obtain ⟨filled, _, cleared⟩ := Option.bind_eq_some_iff.mp ends
  cases cleared
  rfl

end

section

variable {outcome : Nat → Bool} {start : Nat} {values : List Value}

theorem rounds_succ_cases {count : Nat} {last : Sequence Value}
    (ends : (empty start).run outcome (rounds values (count + 1)) = some last) :
    ∃ middle, (empty start).run outcome (rounds values count) = some middle ∧
      middle.run outcome (round values) = some last := by
  rw [run, rounds, Transition.run_append] at ends
  exact Option.bind_eq_some_iff.mp ends

theorem rounds_items {count : Nat} {last : Sequence Value}
    (ends : (empty start).run outcome (rounds values count) = some last) : last.items = [] := by
  cases count with
  | zero =>
      cases ends
      rfl
  | succ count =>
      obtain ⟨middle, _, continued⟩ := rounds_succ_cases ends
      exact run_items_of_round continued

theorem rounds_stage (defined : ∀ count, (empty start).run outcome (rounds values count) ≠ none)
    (nonempty : values ≠ []) {count : Nat} {last : Sequence Value}
    (ends : (empty start).run outcome (rounds values count) = some last) :
    Stage outcome start last := by
  rcases run_stage (stage_empty outcome start) ends with lost | stage
  · exfalso
    apply defined (count + 1)
    cases values with
    | nil => exact absurd rfl nonempty
    | cons value rest =>
        have stuck : last.step outcome (.push value) = none := push_lost lost value
        rw [rounds, run_append_of_some ends, round, List.map_cons, List.cons_append, run,
          Transition.run_cons, stuck, Option.bind_none]
  · exact stage

/-- Until a request has been made, each round that does not fit brings it
nearer. -/
theorem rounds_reach (defined : ∀ count, (empty start).run outcome (rounds values count) ≠ none)
    {first later : Nat} (granted : FirstGranted outcome start first)
    (needed : later ≤ first + Nat.clog 2 values.length) (positive : first < later) (count : Nat) :
    ∃ last, (empty start).run outcome (rounds values count) = some last ∧
      (later < last.requests ∨ start + count ≤ last.requests) := by
  have two : 1 < values.length := by
    by_contra single
    rw [Nat.clog_of_right_le_one (by omega)] at needed
    omega
  have nonempty : values ≠ [] := by
    rintro rfl
    cases two
  induction count with
  | zero => exact ⟨empty start, rfl, Or.inr (Nat.le_refl start)⟩
  | succ count ih =>
      obtain ⟨middle, reached, progress⟩ := ih
      obtain ⟨last, ends⟩ := Option.ne_none_iff_exists'.mp (defined (count + 1))
      refine ⟨last, ends, ?_⟩
      obtain ⟨same, again, continued⟩ := rounds_succ_cases ends
      rw [reached] at again
      cases again
      have cleared := rounds_items reached
      have grows : middle.requests ≤ last.requests := by
        rw [run, round, Transition.run_append] at continued
        obtain ⟨filled, pushed, rest⟩ := Option.bind_eq_some_iff.mp continued
        cases rest
        exact (pushes_requests pushed).1
      rcases progress with past | counted
      · exact Or.inl (by omega)
      · by_cases past : later < middle.requests
        · exact Or.inl (by omega)
        · have short : middle.capacity < values.length := by
            cases rounds_stage defined nonempty reached with
            | before _ unallocated => omega
            | after _ other doublings otherGranted capacity requests =>
                have same := granted.unique otherGranted
                rw [capacity]
                exact (Nat.lt_clog_iff_pow_lt Nat.one_lt_two).mp (by omega)
          have more := round_requests continued cleared short
          exact Or.inr (by omega)

/-- Every number of rounds has a meaning exactly when the doublings that a
round needs are granted once the first block was. -/
theorem rounds_defined_iff :
    (∀ count, (empty start).run outcome (rounds values count) ≠ none) ↔
      Provided outcome start values.length := by
  constructor
  · intro defined first granted later after needed
    obtain ⟨last, ends, reached⟩ :=
      rounds_reach defined granted needed after (later + 1 - start)
    have since := granted.1
    have past : later < last.requests := by omega
    have nonempty : values ≠ [] := by
      rintro rfl
      rw [List.length_nil, Nat.clog_of_right_le_one (Nat.zero_le 1)] at needed
      omega
    cases rounds_stage defined nonempty ends with
    | before _ _ _ refused =>
        have no := refused first since (by omega)
        rw [granted.2.1] at no
        cases no
    | after _ other doublings otherGranted _ _ answers =>
        have same := granted.unique otherGranted
        exact answers later (by omega) past
  · intro provided count
    obtain ⟨last, ends, _⟩ := rounds_provided provided count
    rw [ends]
    exact Option.some_ne_none last

end

/-! ### Rounds of three -/

section

variable {outcome : Nat → Bool} {start pushes : Nat}

theorem AllRefused.succ {bound : Nat} (refused : AllRefused outcome start bound)
    (also : outcome bound = false) : AllRefused outcome start (bound + 1) := by
  intro request since before
  by_cases last : request = bound
  · rw [last]
    exact also
  · exact refused request since (by omega)

theorem FirstGranted.refused_before {first bound : Nat} (granted : FirstGranted outcome start first)
    (refused : AllRefused outcome start bound) : bound ≤ first := by
  obtain ⟨since, yes, _⟩ := granted
  by_contra before
  rw [refused first since (by omega)] at yes
  cases yes

theorem AllRefused.of_le {bound after last : Nat} (refused : AllRefused outcome start bound)
    (since : start ≤ after) (before : last ≤ bound) : AllRefused outcome after last :=
  fun request later earlier => refused request (by omega) (by omega)

theorem AllRefused.run {requests : Nat} {values : List Value}
    (refused : AllRefused outcome requests (requests + values.length)) :
    (empty requests).run outcome (values.map .push) =
      some (empty (requests + values.length) : Sequence Value) := by
  induction values generalizing requests with
  | nil => rfl
  | cons value rest ih =>
      rw [List.length_cons] at refused ⊢
      have first := refused requests (Nat.le_refl _) (by omega)
      have pushed : (empty requests : Sequence Value).push outcome value =
          some (empty (requests + 1)) := push_refused rfl (Nat.le_refl 0) first value
      have later : AllRefused outcome (requests + 1) (requests + 1 + rest.length) :=
        refused.of_le (by omega) (by omega)
      have remaining := ih later
      rw [Nat.add_right_comm, Nat.add_assoc] at remaining
      rw [List.map_cons, Sequence.run, Transition.run_cons, step, pushed]
      exact remaining

/-- What so many pushes in rounds of three come to.  A push before the first
granted request makes a request of its own; after it only the second and the
third item of a round need one more each, once. -/
inductive ThreeStage (outcome : Nat → Bool) (start pushes : Nat) :
    Option (Sequence Value) → Prop
  | waiting (refused : AllRefused outcome start (start + pushes)) :
      ThreeStage outcome start pushes (some (empty (start + pushes)))
  | growing (first doublings : Nat) (granted : FirstGranted outcome start first)
      (begun : first < start + pushes)
      (number : doublings = min 2 (start + pushes - (first + 1)))
      (second : 1 ≤ doublings → outcome (first + 1) = true)
      (third : 2 ≤ doublings → outcome (first + 2) = true) :
      ThreeStage outcome start pushes
        (some ⟨[], 2 ^ doublings, false, first + 1 + doublings⟩)
  | broken (first : Nat) (granted : FirstGranted outcome start first)
      (refused : outcome (first + 1) = false ∧ start + pushes = first + 2 ∨
        outcome (first + 1) = true ∧ outcome (first + 2) = false ∧
          first + 3 ≤ start + pushes ∧ start + pushes ≤ first + 5)
      (sequence : Sequence Value) (lost : sequence.lost = true) :
      ThreeStage outcome start pushes (some sequence)
  | stopped (first : Nat) (granted : FirstGranted outcome start first)
      (refused : outcome (first + 1) = false ∧ first + 3 ≤ start + pushes ∨
        outcome (first + 2) = false ∧ first + 6 ≤ start + pushes) :
      ThreeStage outcome start pushes none

section

variable (a b c : Value) (requests : Nat)

theorem round_of_empty :
    (empty requests).run outcome (round [a, b, c]) =
      if outcome requests then
        if outcome (requests + 1) then
          some ⟨[], 2 ^ (if outcome (requests + 2) then 2 else 1), !outcome (requests + 2),
            requests + 3⟩
        else none
      else if outcome (requests + 1) then
        some ⟨[], 2 ^ (if outcome (requests + 2) then 1 else 0), !outcome (requests + 2),
          requests + 3⟩
      else if outcome (requests + 2) then some ⟨[], 1, false, requests + 3⟩
      else some (empty (requests + 3)) := by
  cases first : outcome requests <;> cases second : outcome (requests + 1) <;>
    cases third : outcome (requests + 2) <;>
      simp [round, run, Transition.run, step, push, clear, grown, empty, first, second, third]

theorem round_of_one :
    (⟨[], 1, false, requests⟩ : Sequence Value).run outcome (round [a, b, c]) =
      if outcome requests then
        some ⟨[], 2 ^ (if outcome (requests + 1) then 2 else 1), !outcome (requests + 1),
          requests + 2⟩
      else none := by
  cases second : outcome requests <;> cases third : outcome (requests + 1) <;>
    simp [round, run, Transition.run, step, push, clear, grown, second, third]

theorem round_of_two :
    (⟨[], 2, false, requests⟩ : Sequence Value).run outcome (round [a, b, c]) =
      some ⟨[], 2 ^ (if outcome requests then 2 else 1), !outcome requests, requests + 1⟩ := by
  cases third : outcome requests <;>
    simp [round, run, Transition.run, step, push, clear, grown, third]

theorem round_of_four :
    (⟨[], 4, false, requests⟩ : Sequence Value).run outcome (round [a, b, c]) =
      some ⟨[], 4, false, requests⟩ := by
  simp [round, run, Transition.run, step, push, clear]

theorem round_of_lost {sequence : Sequence Value} (lost : sequence.lost = true) :
    sequence.run outcome (round [a, b, c]) = none := by
  simp [round, run, Transition.run, step, push, lost]

theorem threeStage_of_waiting (refused : AllRefused outcome start (start + pushes)) :
    ThreeStage outcome start (pushes + 3)
      ((empty (start + pushes)).run outcome (round [a, b, c])) := by
  rw [round_of_empty]
  have since : start ≤ start + pushes := Nat.le_add_right _ _
  cases first : outcome (start + pushes) with
  | true =>
      have granted : FirstGranted outcome start (start + pushes) := ⟨since, first, refused⟩
      cases second : outcome (start + pushes + 1) with
      | false => exact .stopped _ granted (Or.inl ⟨second, by omega⟩)
      | true =>
          cases third : outcome (start + pushes + 2) with
          | false => exact .broken _ granted (Or.inr ⟨second, third, by omega, by omega⟩) _ rfl
          | true =>
              exact .growing _ 2 granted (by omega) (by omega) (fun _ => second) fun _ => third
  | false =>
      have refusedSecond := refused.succ first
      cases second : outcome (start + pushes + 1) with
      | true =>
          have granted : FirstGranted outcome start (start + pushes + 1) :=
            ⟨by omega, second, refusedSecond⟩
          cases third : outcome (start + pushes + 2) with
          | false => exact .broken _ granted (Or.inl ⟨third, by omega⟩) _ rfl
          | true =>
              exact .growing _ 1 granted (by omega) (by omega) (fun _ => third)
                fun impossible => by omega
      | false =>
          have refusedThird := refusedSecond.succ second
          cases third : outcome (start + pushes + 2) with
          | true =>
              have granted : FirstGranted outcome start (start + pushes + 2) :=
                ⟨by omega, third, refusedThird⟩
              exact .growing _ 0 granted (by omega) (by omega) (fun impossible => by omega)
                fun impossible => by omega
          | false => exact .waiting (refusedThird.succ third)

theorem threeStage_of_growing {first doublings : Nat} (granted : FirstGranted outcome start first)
    (begun : first < start + pushes)
    (number : doublings = min 2 (start + pushes - (first + 1)))
    (second : 1 ≤ doublings → outcome (first + 1) = true)
    (third : 2 ≤ doublings → outcome (first + 2) = true) :
    ThreeStage outcome start (pushes + 3)
      ((⟨[], 2 ^ doublings, false, first + 1 + doublings⟩ : Sequence Value).run outcome
        (round [a, b, c])) := by
  have which : doublings = 0 ∨ doublings = 1 ∨ doublings = 2 := by omega
  rcases which with rfl | rfl | rfl
  · change ThreeStage _ _ _ ((⟨[], 1, false, first + 1⟩ : Sequence Value).run _ _)
    rw [round_of_one]
    cases answer : outcome (first + 1) with
    | false => exact .stopped _ granted (Or.inl ⟨answer, by omega⟩)
    | true =>
        cases last : outcome (first + 2) with
        | false => exact .broken _ granted (Or.inr ⟨answer, last, by omega, by omega⟩) _ rfl
        | true => exact .growing _ 2 granted (by omega) (by omega) (fun _ => answer) fun _ => last
  · change ThreeStage _ _ _ ((⟨[], 2, false, first + 2⟩ : Sequence Value).run _ _)
    rw [round_of_two]
    have answer := second (Nat.le_refl 1)
    cases last : outcome (first + 2) with
    | false => exact .broken _ granted (Or.inr ⟨answer, last, by omega, by omega⟩) _ rfl
    | true => exact .growing _ 2 granted (by omega) (by omega) (fun _ => answer) fun _ => last
  · change ThreeStage _ _ _ ((⟨[], 4, false, first + 3⟩ : Sequence Value).run _ _)
    rw [round_of_four]
    exact .growing _ 2 granted (by omega) (by omega) second third

theorem ThreeStage.round {result : Option (Sequence Value)}
    (stage : ThreeStage outcome start pushes result) :
    ThreeStage outcome start (pushes + 3)
      (result.bind fun sequence => sequence.run outcome (Uti.round [a, b, c])) := by
  cases stage with
  | waiting refused => exact threeStage_of_waiting a b c refused
  | growing first doublings granted begun number second third =>
      exact threeStage_of_growing a b c granted begun number second third
  | broken first granted refused sequence lost =>
      rw [Option.bind_some, round_of_lost a b c lost]
      apply ThreeStage.stopped first granted
      rcases refused with ⟨no, counted⟩ | ⟨_, no, _, _⟩
      · exact Or.inl ⟨no, by omega⟩
      · exact Or.inr ⟨no, by omega⟩
  | stopped first granted refused =>
      apply ThreeStage.stopped first granted
      rcases refused with ⟨no, counted⟩ | ⟨no, counted⟩
      · exact Or.inl ⟨no, by omega⟩
      · exact Or.inr ⟨no, by omega⟩

theorem rounds_three (count : Nat) :
    ThreeStage outcome start (3 * count)
      ((empty start).run outcome (rounds [a, b, c] count)) := by
  induction count with
  | zero =>
      apply ThreeStage.waiting
      intro request since before
      omega
  | succ count ih =>
      rw [run, rounds, Transition.run_append, Nat.mul_succ]
      exact ih.round a b c

end

/-- So many pushes end before a refusal after the first grant could matter. -/
def Endures (outcome : Nat → Bool) (start pushes : Nat) : Prop :=
  ∀ first, FirstGranted outcome start first →
    (outcome (first + 1) = true ∨ start + pushes ≤ first + 2) ∧
      (outcome (first + 2) = true ∨ start + pushes ≤ first + 5)

theorem ThreeStage.defined_iff {result : Option (Sequence Value)}
    (stage : ThreeStage outcome start pushes result) :
    result ≠ none ↔ Endures outcome start pushes := by
  cases stage with
  | waiting refused =>
      refine iff_of_true (Option.some_ne_none _) fun first granted => ?_
      have later := granted.refused_before refused
      exact ⟨Or.inr (by omega), Or.inr (by omega)⟩
  | growing first doublings granted begun number second third =>
      refine iff_of_true (Option.some_ne_none _) fun other otherGranted => ?_
      rw [← granted.unique otherGranted]
      constructor
      · by_cases made : 1 ≤ doublings
        · exact Or.inl (second made)
        · exact Or.inr (by omega)
      · by_cases made : 2 ≤ doublings
        · exact Or.inl (third made)
        · exact Or.inr (by omega)
  | broken first granted refused sequence lost =>
      refine iff_of_true (Option.some_ne_none _) fun other otherGranted => ?_
      rw [← granted.unique otherGranted]
      rcases refused with ⟨_, counted⟩ | ⟨yes, _, _, counted⟩
      · exact ⟨Or.inr (by omega), Or.inr (by omega)⟩
      · exact ⟨Or.inl yes, Or.inr counted⟩
  | stopped first granted refused =>
      refine iff_of_false (fun some => some rfl) fun endures => ?_
      obtain ⟨second, third⟩ := endures first granted
      rcases refused with ⟨no, counted⟩ | ⟨no, counted⟩
      · rw [no] at second
        rcases second with impossible | short
        · cases impossible
        · omega
      · rw [no] at third
        rcases third with impossible | short
        · cases impossible
        · omega
end

/-! ### Rounds with every request granted -/

theorem peak_round (count : Nat) (values : List Value) :
    peak count (round values) = count + values.length := by
  induction values generalizing count with
  | nil => exact Nat.max_eq_left (Nat.zero_le count)
  | cons value rest ih =>
      have later := ih (count + 1)
      rw [List.length_cons]
      change peak (count + 1) (round rest) = _
      omega

/-- The first round makes all the requests; the later ones reuse its block. -/
theorem rounds_grown {outcome : Nat → Bool} {start : Nat}
    (reliable : ∀ request, start ≤ request → outcome request = true) (values : List Value)
    (count : Nat) :
    ∃ last, (empty start).run outcome (rounds values (count + 1)) = some last ∧
      last.items = [] ∧ Grown start values.length last := by
  induction count with
  | zero =>
      obtain ⟨last, ends, _, grown⟩ := run_grown reliable (grown_empty start) (round values)
      rw [peak_round, Nat.zero_max] at grown
      change Grown start (0 + values.length) last at grown
      rw [Nat.zero_add] at grown
      exact ⟨last, ends, run_items_of_round ends, grown⟩
  | succ count ih =>
      obtain ⟨middle, reached, cleared, grown⟩ := ih
      obtain ⟨last, ends, _, further⟩ := run_grown reliable grown (round values)
      rw [peak_round, cleared, List.length_nil, Nat.zero_add, Nat.max_self] at further
      have continued := (run_append_of_some reached).trans ends
      exact ⟨last, continued, run_items_of_round ends, further⟩

end Sequence

end Fffb.Uti
