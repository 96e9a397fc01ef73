import Fffb.Joy.ReportCodec
import Fffb.Joy.Wheel

/-
Which bits of a load report carry which field of the force.

A field is a byte of the force of which the report keeps some low bits.  The
layouts below say where these bits stand.  The trapezoid's second step is put
into its byte without a mask, so its high bits spill into the first step.
-/

namespace Fffb

inductive ForceField where
  | slot
  /-- A byte of the parameters, counted as the parameter structs count them. -/
  | param (index : Nat)
  deriving DecidableEq, Repr

/-- The low bits of a field, at a position in a byte of the report. -/
structure Part where
  field : ForceField
  shift : Nat
  width : Nat

def narrow (width : Nat) (byte : U8) : U8 := (byte.setWidth width).setWidth 8

theorem getLsbD_narrow (width : Nat) (byte : U8) (index : Nat) :
    (narrow width byte).getLsbD index = (decide (index < width) && byte.getLsbD index) := by
  unfold narrow
  by_cases inside : index < 8
  · simp [inside]
  · simp [inside, BitVec.getLsbD_of_ge byte index (by omega)]

namespace Force

def read (force : Force) : ForceField → U8
  | .slot => force.params.slot
  | .param index => force.params.params[index]?.getD 0

def write (field : ForceField) (value : U8) (force : Force) : Force :=
  { force with
    params :=
      match field with
      | .slot => { force.params with slot := value }
      | .param index =>
          { force.params with params := force.params.params.setIfInBounds index value } }

def width : ForceType → ForceField → Nat
  | _, .slot => 4
  | .spring, .param 2 => 3
  | .spring, .param 3 => 3
  | .spring, .param 4 => 1
  | .spring, .param 5 => 1
  | .damper, .param 0 => 3
  | .damper, .param 1 => 3
  | .damper, .param 2 => 1
  | .damper, .param 3 => 1
  | .trapezoid, .param 4 => 4
  | .trapezoid, .param 5 => 4
  | _, .param _ => 8

def reduced (force : Force) : Force :=
  { force with
    params :=
      { force.params with
        slot := narrow (width force.type .slot) force.params.slot
        params := force.params.params.mapIdx fun index byte =>
          narrow (width force.type (.param index)) byte } }

/-- The parts of each byte of a load report. -/
def layout : ForceType → Nat → List Part
  | .constant, 0 => [⟨.slot, 4, 4⟩]
  | .constant, 2 => [⟨.param 0, 0, 8⟩]
  | .constant, 3 => [⟨.param 0, 0, 8⟩]
  | .constant, 4 => [⟨.param 0, 0, 8⟩]
  | .constant, 5 => [⟨.param 0, 0, 8⟩]
  | .spring, 0 => [⟨.slot, 4, 4⟩]
  | .spring, 2 => [⟨.param 0, 0, 8⟩]
  | .spring, 3 => [⟨.param 1, 0, 8⟩]
  | .spring, 4 => [⟨.param 3, 4, 3⟩, ⟨.param 2, 0, 3⟩]
  | .spring, 5 => [⟨.param 5, 4, 1⟩, ⟨.param 4, 0, 1⟩]
  | .spring, 6 => [⟨.param 6, 0, 8⟩]
  | .damper, 0 => [⟨.slot, 4, 4⟩]
  | .damper, 2 => [⟨.param 0, 0, 3⟩]
  | .damper, 3 => [⟨.param 2, 0, 1⟩]
  | .damper, 4 => [⟨.param 1, 0, 3⟩]
  | .damper, 5 => [⟨.param 3, 0, 1⟩]
  | .trapezoid, 0 => [⟨.slot, 4, 4⟩]
  | .trapezoid, 2 => [⟨.param 0, 0, 8⟩]
  | .trapezoid, 3 => [⟨.param 1, 0, 8⟩]
  | .trapezoid, 4 => [⟨.param 2, 0, 8⟩]
  | .trapezoid, 5 => [⟨.param 3, 0, 8⟩]
  | .trapezoid, 6 => [⟨.param 4, 4, 4⟩, ⟨.param 5, 0, 4⟩]
  | _, _ => []

/-- The bits of the report that no field decides: its type byte. -/
def header : ForceType → Nat → U8
  | .spring, 1 => 0x01
  | .damper, 1 => 0x02
  | .trapezoid, 1 => 0x06
  | _, _ => 0

def Carries (type : ForceType) (field : ForceField) (byte index : Nat) : Prop :=
  ∃ part ∈ layout type byte, part.field = field ∧ part.shift ≤ index ∧
    index < part.shift + part.width

def partBit (force : Force) (index : Nat) (part : Part) : Bool :=
  decide (part.shift ≤ index) && decide (index < part.shift + part.width) &&
    (force.read part.field).getLsbD (index - part.shift)

def laidOut (force : Force) (byte index : Nat) : Bool :=
  (header force.type byte).getLsbD index ||
    (layout force.type byte).any (force.partBit index)

/-- What the second step of a trapezoid adds to the first. -/
def spill (force : Force) (byte index : Nat) : Bool :=
  decide (force.type = .trapezoid) && decide (byte = 6) && decide (4 ≤ index) &&
    force.trapezoid.slopeStepY.getLsbD index

end Force

namespace Report

def byteAt (report : Report) (byte : Nat) : U8 := report.data[byte]?.getD 0

def bit (report : Report) (byte index : Nat) : Bool := (report.byteAt byte).getLsbD index

theorem ext_of_bits {left right : Report}
    (same : ∀ byte index, left.bit byte index = right.bit byte index) : left = right := by
  obtain ⟨leftData⟩ := left
  obtain ⟨rightData⟩ := right
  congr 1
  apply Vector.ext
  intro byte inside
  apply BitVec.eq_of_getLsbD_eq
  intro index _
  simpa [bit, byteAt, inside] using same byte index

end Report

namespace Force

theorem and_seven (byte : U8) : byte &&& 7#8 = narrow 3 byte := by
  revert byte
  decide

theorem and_one (byte : U8) : byte &&& 1#8 = narrow 1 byte := by
  revert byte
  decide

theorem read_slot (force : Force) : force.read .slot = force.params.slot := rfl

theorem read_param (force : Force) (index : Nat) (inside : index < 7) :
    force.read (.param index) = force.params.params[index] := by
  simp [read, inside]

/-- The sides are compared byte by byte, and then by the ranges of the index. -/
theorem bit_constantForce {force : Force} (kind : force.type = .constant) (byte index : Nat) :
    (Protocol.constantForce .logitechClassic force).bit byte index = force.laidOut byte index := by
  rcases byte with _ | _ | _ | _ | _ | _ | _ | _ | byte
  all_goals simp [Report.bit, Report.byteAt, Protocol.constantForce, Report.of, laidOut, layout,
    header, partBit, kind, read_slot, read_param, Force.constant]
  all_goals grind [BitVec.lt_of_getLsbD]

theorem bit_springForce {force : Force} (kind : force.type = .spring) (byte index : Nat) :
    (Protocol.springForce .logitechClassic force).bit byte index = force.laidOut byte index := by
  rcases byte with _ | _ | _ | _ | _ | _ | _ | _ | byte
  all_goals simp [Report.bit, Report.byteAt, Protocol.springForce, Report.of, laidOut, layout,
    header, partBit, kind, read_slot, read_param, Force.spring, and_seven, and_one, getLsbD_narrow]
  all_goals grind [BitVec.lt_of_getLsbD]

theorem bit_damperForce {force : Force} (kind : force.type = .damper) (byte index : Nat) :
    (Protocol.damperForce .logitechClassic force).bit byte index = force.laidOut byte index := by
  rcases byte with _ | _ | _ | _ | _ | _ | _ | _ | byte
  all_goals simp [Report.bit, Report.byteAt, Protocol.damperForce, Report.of, laidOut, layout,
    header, partBit, kind, read_slot, read_param, Force.damper, and_seven, and_one, getLsbD_narrow]
  all_goals grind [BitVec.lt_of_getLsbD]

/-- The byte of the two steps holds what the second spills besides. -/
theorem bit_trapezoidForce {force : Force} (kind : force.type = .trapezoid) (byte index : Nat) :
    (Protocol.trapezoidForce .logitechClassic force).bit byte index =
      (force.laidOut byte index || force.spill byte index) := by
  rcases byte with _ | _ | _ | _ | _ | _ | _ | _ | byte
  all_goals simp [Report.bit, Report.byteAt, Protocol.trapezoidForce, Report.of, laidOut, layout,
    header, partBit, spill, kind, read_slot, read_param, Force.trapezoid]
  all_goals grind [BitVec.lt_of_getLsbD]

theorem spill_of_ne {force : Force} (kind : force.type ≠ .trapezoid) (byte index : Nat) :
    force.spill byte index = false := by
  simp [spill, kind]

theorem bit_downloadForce (force : Force) (byte index : Nat) :
    (Protocol.downloadForce .logitechClassic force).bit byte index =
      (force.laidOut byte index || force.spill byte index) := by
  unfold Protocol.downloadForce
  cases kind : force.type with
  | constant =>
      rw [spill_of_ne (by simp [kind]), Bool.or_false]
      exact bit_constantForce kind byte index
  | spring =>
      rw [spill_of_ne (by simp [kind]), Bool.or_false]
      exact bit_springForce kind byte index
  | damper =>
      rw [spill_of_ne (by simp [kind]), Bool.or_false]
      exact bit_damperForce kind byte index
  | trapezoid => exact bit_trapezoidForce kind byte index
  | count =>
      rw [spill_of_ne (by simp [kind]), Bool.or_false]
      rcases byte with _ | _ | _ | _ | _ | _ | _ | _ | byte
      all_goals simp [Report.bit, Report.byteAt, Report.empty, Report.of, laidOut, layout, header,
        kind]

/-- A refresh keeps every bit of the download but the low ones of the first
byte, which are its own. -/
theorem bit_refreshForce (force : Force) (byte index : Nat) :
    (Protocol.refreshForce .logitechClassic force).bit byte index =
      if byte = 0 then
        ((Protocol.downloadForce .logitechClassic force).bit 0 index &&
            (0xF0 : U8).getLsbD index) || (0x0C : U8).getLsbD index
      else
        (Protocol.downloadForce .logitechClassic force).bit byte index := by
  unfold Protocol.refreshForce Report.setCommand Report.bit Report.byteAt
  by_cases first : byte = 0
  · simp [first, Report.command]
  · rw [if_neg first]
    dsimp only
    rw [Vector.getElem?_set_ne (by decide) (Ne.symm first)]

theorem refresh_bit_of_download {left right : Force} {byte index : Nat}
    (same : (Protocol.downloadForce .logitechClassic left).bit byte index =
      (Protocol.downloadForce .logitechClassic right).bit byte index) :
    (Protocol.refreshForce .logitechClassic left).bit byte index =
      (Protocol.refreshForce .logitechClassic right).bit byte index := by
  rw [bit_refreshForce, bit_refreshForce]
  by_cases first : byte = 0
  · rw [first] at same
    rw [if_pos first, if_pos first, same]
  · rw [if_neg first, if_neg first, same]

/-! ### Reduction -/

theorem read_reduced (force : Force) (field : ForceField) :
    force.reduced.read field = narrow (width force.type field) (force.read field) := by
  cases field with
  | slot => rfl
  | param index =>
      by_cases inside : index < 7
      · simp [read, reduced, inside]
      · have outside : narrow (width force.type (.param index)) 0#8 = 0#8 := by
          simp [narrow]
        simp [read, reduced, inside, outside]

theorem part_width {type : ForceType} {byte : Nat} {part : Part}
    (member : part ∈ layout type byte) : part.width = width type part.field := by
  unfold layout at member
  split at member
  all_goals grind [width]

private theorem any_congr_of_mem {parts : List Part} {left right : Part → Bool}
    (same : ∀ part ∈ parts, left part = right part) : parts.any left = parts.any right := by
  rw [Bool.eq_iff_iff, List.any_eq_true, List.any_eq_true]
  exact exists_congr fun part => and_congr_right fun member => by rw [same part member]

theorem laidOut_reduced (force : Force) (byte index : Nat) :
    force.reduced.laidOut byte index = force.laidOut byte index := by
  have sameParts : ∀ part ∈ layout force.type byte,
      force.reduced.partBit index part = force.partBit index part := by
    intro part member
    unfold partBit
    rw [read_reduced, getLsbD_narrow, ← part_width member]
    by_cases inside : part.shift ≤ index ∧ index < part.shift + part.width
    · have kept : index - part.shift < part.width := by omega
      simp [kept]
    · simp only [not_and_or] at inside
      rcases inside with below | above
      · simp [below]
      · simp [above]
  unfold laidOut
  congr 1
  exact any_congr_of_mem sameParts

theorem read_stepX (force : Force) :
    force.read (.param 4) = force.trapezoid.slopeStepX := rfl

theorem read_stepY (force : Force) :
    force.read (.param 5) = force.trapezoid.slopeStepY := rfl

theorem spill_reduced (force : Force) (byte index : Nat) :
    force.reduced.spill byte index = false := by
  unfold spill
  rw [← read_stepY, read_reduced, getLsbD_narrow]
  cases kind : force.type with
  | trapezoid => simp [reduced, kind, width]; omega
  | _ => simp [reduced, kind]

/-- What the second step spills stays inside the first one's bits. -/
def StepsFit (force : Force) : Prop :=
  force.type = .trapezoid → ∀ index < 4,
    force.trapezoid.slopeStepY.getLsbD (4 + index) = true →
      force.trapezoid.slopeStepX.getLsbD index = true

theorem laidOut_stepX {force : Force} (kind : force.type = .trapezoid) {index : Nat}
    (inside : index < 4) :
    force.laidOut 6 (4 + index) = force.trapezoid.slopeStepX.getLsbD index := by
  have inByte : 4 + index < 8 := by omega
  simp [laidOut, layout, header, partBit, kind, read_stepX, inByte]

theorem spill_stepY {force : Force} (kind : force.type = .trapezoid) (index : Nat) :
    force.spill 6 (4 + index) = force.trapezoid.slopeStepY.getLsbD (4 + index) := by
  simp [spill, kind]

theorem spill_position {force : Force} {byte index : Nat} (spills : force.spill byte index = true) :
    force.type = .trapezoid ∧ byte = 6 ∧ ∃ bit < 4, index = 4 + bit := by
  unfold spill at spills
  simp only [Bool.and_eq_true, decide_eq_true_eq] at spills
  obtain ⟨⟨⟨kind, last⟩, above⟩, set⟩ := spills
  have inside := BitVec.lt_of_getLsbD set
  exact ⟨kind, last, index - 4, by omega, by omega⟩

theorem download_reduced_iff (force : Force) :
    Protocol.downloadForce .logitechClassic force =
        Protocol.downloadForce .logitechClassic force.reduced ↔ force.StepsFit := by
  constructor
  · intro same kind index inside set
    have bits := congrArg (fun report => report.bit 6 (4 + index)) same
    rw [bit_downloadForce, bit_downloadForce, laidOut_reduced, spill_reduced, spill_stepY kind,
      laidOut_stepX kind inside, set] at bits
    simpa using bits.symm
  · intro fit
    apply Report.ext_of_bits
    intro byte index
    rw [bit_downloadForce, bit_downloadForce, laidOut_reduced, spill_reduced, Bool.or_false]
    cases spills : force.spill byte index with
    | false => exact Bool.or_false _
    | true =>
        obtain ⟨kind, rfl, bit, inside, rfl⟩ := spill_position spills
        rw [spill_stepY kind] at spills
        rw [laidOut_stepX kind inside, fit kind bit inside spills, Bool.or_true]

/-! ### Change of one field -/

theorem read_write_of_ne {field other : ForceField} (different : other ≠ field) (value : U8)
    (force : Force) : (force.write field value).read other = force.read other := by
  cases field with
  | slot =>
      cases other with
      | slot => exact absurd rfl different
      | param index => rfl
  | param position =>
      cases other with
      | slot => rfl
      | param index =>
          have apart : position ≠ index := fun same => different (by rw [same])
          simp [read, write, Vector.getElem?_setIfInBounds_ne apart]

theorem laidOut_write {force : Force} {field : ForceField} {byte index : Nat}
    (elsewhere : ¬ Carries force.type field byte index) (value : U8) :
    (force.write field value).laidOut byte index = force.laidOut byte index := by
  have sameParts : ∀ part ∈ layout force.type byte,
      (force.write field value).partBit index part = force.partBit index part := by
    intro part member
    unfold partBit
    by_cases same : part.field = field
    · have outside : ¬ (part.shift ≤ index ∧ index < part.shift + part.width) :=
        fun inside => elsewhere ⟨part, member, same, inside⟩
      rcases not_and_or.mp outside with below | above
      · simp [below]
      · simp [above]
    · rw [read_write_of_ne same]
  unfold laidOut
  congr 1
  exact any_congr_of_mem sameParts

theorem spill_write_of_ne {field : ForceField} (other : field ≠ .param 5) (value : U8)
    (force : Force) (byte index : Nat) :
    (force.write field value).spill byte index = force.spill byte index := by
  unfold spill
  rw [← read_stepY, ← read_stepY, read_write_of_ne (Ne.symm other)]
  rfl

theorem spill_write_stepY {force : Force} (kind : force.type = .trapezoid) (value : U8)
    (index : Nat) :
    (force.write (.param 5) value).spill 6 (4 + index) = value.getLsbD (4 + index) := by
  have written : (force.write (.param 5) value).read (.param 5) = value := by
    simp [read, write, FFFB_FORCE_MAX_PARAMS]
  have sameKind : (force.write (.param 5) value).type = .trapezoid := kind
  rw [spill_stepY sameKind, ← read_stepY, written]

/-- The load reports of a force and of its reduction are the same. -/
def ReducesAlike (force : Force) : Prop :=
  Protocol.downloadForce .logitechClassic force =
      Protocol.downloadForce .logitechClassic force.reduced ∧
    Protocol.refreshForce .logitechClassic force =
      Protocol.refreshForce .logitechClassic force.reduced

/-- Writing this value into the field changes no bit of the load reports but
those that carry the field. -/
def ChangesOnly (force : Force) (field : ForceField) (value : U8) : Prop :=
  ∀ byte index, ¬ Carries force.type field byte index →
    (Protocol.downloadForce .logitechClassic (force.write field value)).bit byte index =
        (Protocol.downloadForce .logitechClassic force).bit byte index ∧
      (Protocol.refreshForce .logitechClassic (force.write field value)).bit byte index =
        (Protocol.refreshForce .logitechClassic force).bit byte index

/-- The new second step spills into the first what the old one did. -/
def SpillsAlike (force : Force) (field : ForceField) (value : U8) : Prop :=
  force.type = .trapezoid → field = .param 5 → ∀ index < 4,
    force.trapezoid.slopeStepX.getLsbD index = false →
      value.getLsbD (4 + index) = force.trapezoid.slopeStepY.getLsbD (4 + index)

theorem changesOnly_iff (force : Force) (field : ForceField) (value : U8) :
    force.ChangesOnly field value ↔ force.SpillsAlike field value := by
  constructor
  · intro only kind stepY index inside clear
    subst stepY
    have elsewhere : ¬ Carries force.type (.param 5) 6 (4 + index) := by
      rintro ⟨part, member, isStepY, _, below⟩
      rw [kind] at member
      simp only [layout, List.mem_cons, List.not_mem_nil, or_false] at member
      rcases member with rfl | rfl
      · cases isStepY
      · simp at below
    have bits := (only 6 (4 + index) elsewhere).1
    rw [bit_downloadForce, bit_downloadForce, laidOut_write elsewhere, spill_write_stepY kind,
      spill_stepY kind, laidOut_stepX kind inside, clear, Bool.false_or, Bool.false_or] at bits
    exact bits
  · intro alike byte index elsewhere
    have downloads : (Protocol.downloadForce .logitechClassic (force.write field value)).bit byte
        index = (Protocol.downloadForce .logitechClassic force).bit byte index := by
      rw [bit_downloadForce, bit_downloadForce, laidOut_write elsewhere]
      by_cases stepY : field = .param 5
      · subst stepY
        by_cases inside : force.type = .trapezoid ∧ byte = 6 ∧ ∃ bit < 4, index = 4 + bit
        · obtain ⟨kind, rfl, bit, small, rfl⟩ := inside
          rw [spill_write_stepY kind, spill_stepY kind, laidOut_stepX kind small]
          cases set : force.trapezoid.slopeStepX.getLsbD bit with
          | true => rfl
          | false => rw [alike kind rfl bit small set]
        · have dry : ∀ other : Force, other.type = force.type →
              other.spill byte index = false := by
            intro other same
            cases spills : other.spill byte index with
            | false => rfl
            | true =>
                have position := spill_position spills
                rw [same] at position
                exact False.elim (inside position)
          rw [dry (force.write (.param 5) value) rfl, dry force rfl]
      · rw [spill_write_of_ne stepY]
    exact ⟨downloads, refresh_bit_of_download downloads⟩

/-- The builders reduce every field to its bits, and a field changes its own bits
only, exactly as far as the second step of a trapezoid spills nothing new into
the first. -/
theorem fieldsApart_iff (force : Force) (field : ForceField) (value : U8) :
    (force.ReducesAlike ↔ force.StepsFit) ∧
      (force.ChangesOnly field value ↔ force.SpillsAlike field value) := by
  refine ⟨?_, changesOnly_iff force field value⟩
  rw [← download_reduced_iff]
  constructor
  · exact fun alike => alike.1
  · intro same
    refine ⟨same, Report.ext_of_bits ?_⟩
    intro byte index
    exact refresh_bit_of_download (congrArg (fun report => report.bit byte index) same)

def steepTrapezoid : Force :=
  .ofTrapezoid { Wheel.defaultTrapF with slopeStepX := 0, slopeStepY := 0x10 }

/-- Its load reports hold a first step of one. -/
theorem steepTrapezoid_spills :
    ¬ steepTrapezoid.ReducesAlike ∧
      ¬ (Force.ofTrapezoid Wheel.defaultTrapF).ChangesOnly (.param 5) 0x10 := by
  refine ⟨fun alike => absurd alike.1 (by decide), ?_⟩
  intro only
  have elsewhere : ¬ Carries .trapezoid (.param 5) 6 4 := by
    rintro ⟨part, member, isStepY, _, below⟩
    simp only [layout, List.mem_cons, List.not_mem_nil, or_false] at member
    rcases member with rfl | rfl
    · cases isStepY
    · simp at below
  exact absurd (only 6 4 elsewhere).1 (by decide)

end Force

end Fffb
