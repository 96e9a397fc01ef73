import Fffb.Joy.Commands

/-
What the autocenter command keeps of the slopes.

A spring's slope is three bits wide, and the spring report masks it so.  The
autocenter command joins these bits into the slope instead: all three are set
in every report, and the five spare bits above them, which no slope uses, get
through.
-/

namespace Fffb

namespace Force

/-- The forces agree in the three bits of each slope that a report is to carry. -/
def SameSlopes (left right : Force) : Prop :=
  left.spring.slopeLeft &&& 0b0111 = right.spring.slopeLeft &&& 0b0111 ∧
    left.spring.slopeRight &&& 0b0111 = right.spring.slopeRight &&& 0b0111

/-- The forces agree in the five bits of each slope above these. -/
def SameSpareBits (left right : Force) : Prop :=
  left.spring.slopeLeft &&& 0b11111000 = right.spring.slopeLeft &&& 0b11111000 ∧
    left.spring.slopeRight &&& 0b11111000 = right.spring.slopeRight &&& 0b11111000

structure SameAutocenter (left right : Force) : Prop where
  slot : Nibble.low left.params.slot = Nibble.low right.params.slot
  amplitude : left.spring.amplitude = right.spring.amplitude
  slopes : left.SameSlopes right

instance (left right : Force) : Decidable (left.SameSlopes right) :=
  inferInstanceAs (Decidable (_ ∧ _))

instance (left right : Force) : Decidable (left.SameSpareBits right) :=
  inferInstanceAs (Decidable (_ ∧ _))

end Force

namespace Protocol

theorem masked_slope_lt (slope : U8) : slope &&& 0b0111 < 16 := by
  revert slope
  decide

/-- The spring report carries its slopes. -/
theorem springForce_sameSlopes {left right : Force}
    (same : springForce .logitechClassic left = springForce .logitechClassic right) :
    left.SameSlopes right := by
  have slopes : Nibble.pack (left.spring.slopeRight &&& 0b0111)
        (left.spring.slopeLeft &&& 0b0111) =
      Nibble.pack (right.spring.slopeRight &&& 0b0111) (right.spring.slopeLeft &&& 0b0111) :=
    congrArg (fun report : Report => report.data[4]) same
  rw [Nibble.pack_eq_pack_iff (masked_slope_lt _) (masked_slope_lt _),
    Nibble.low_of_lt _ (masked_slope_lt _), Nibble.low_of_lt _ (masked_slope_lt _)] at slopes
  exact slopes.symm

/-- What of the slopes tells two autocenter reports apart are the spare bits. -/
theorem setAutocenter_eq_iff (left right : Force) :
    setAutocenter .logitechClassic left = setAutocenter .logitechClassic right ↔
      Nibble.low left.params.slot = Nibble.low right.params.slot ∧
        left.SameSpareBits right ∧ left.spring.amplitude = right.spring.amplitude := by
  have opcodeFits : (0x0e : U8) < 16 := by decide
  have spare : ~~~(0b0111 : U8) = 0b11111000 := by decide
  have packed : ∀ force, setAutocenter .logitechClassic force =
      .of (Nibble.pack force.params.slot 0x0e) 0x00 (force.spring.slopeLeft ||| 0b0111)
        (force.spring.slopeRight ||| 0b0111) force.spring.amplitude 0x00 := fun _ => rfl
  rw [packed, packed]
  simp only [Report.of, Report.mk.injEq, Vector.mk.injEq, Array.mk.injEq, List.cons.injEq,
    and_true, true_and]
  rw [Nibble.pack_eq_pack_iff opcodeFits opcodeFits, Nibble.or_eq_or_iff, Nibble.or_eq_or_iff,
    spare]
  unfold Force.SameSpareBits
  tauto

/-- The autocenter reports of two forces, from either builder, are equal just
when the forces agree in what the reports are to carry. -/
def AutocenterCarried (left right : Force) : Prop :=
  (buildReportForForce .logitechClassic .autoSet left =
      buildReportForForce .logitechClassic .autoSet right ↔ left.SameAutocenter right) ∧
    (setAutocenter .logitechClassic left = setAutocenter .logitechClassic right ↔
      left.SameAutocenter right)

theorem autocenterCarried_iff (left right : Force) :
    AutocenterCarried left right ↔
      (Nibble.low left.params.slot = Nibble.low right.params.slot →
        left.spring.amplitude = right.spring.amplitude →
          (left.SameSpareBits right ↔ left.SameSlopes right)) := by
  have built : AutocenterCarried left right ↔
      (setAutocenter .logitechClassic left = setAutocenter .logitechClassic right ↔
        left.SameAutocenter right) := and_self_iff
  rw [built, setAutocenter_eq_iff]
  constructor
  · rintro carried slot amplitude
    constructor
    · intro spare
      exact (carried.mp ⟨slot, spare, amplitude⟩).slopes
    · intro slopes
      exact (carried.mpr ⟨slot, amplitude, slopes⟩).2.1
  · intro alike
    constructor
    · rintro ⟨slot, spare, amplitude⟩
      exact ⟨slot, amplitude, (alike slot amplitude).mp spare⟩
    · rintro ⟨slot, amplitude, slopes⟩
      exact ⟨slot, (alike slot amplitude).mpr slopes, amplitude⟩

def slopedSpring (slopeLeft : U8) : Force :=
  .ofSpring
    { slot := FFFB_FORCE_SLOT_AUTOCENTER
      enabled := true
      deadStart := 0
      deadEnd := 0
      slopeLeft := slopeLeft
      slopeRight := 0
      invertLeft := 0
      invertRight := 0
      amplitude := 128 }

/-- The slopes one and two are set with the same report. -/
theorem slopedSpring_collapses : ¬ ∀ left right : Force, AutocenterCarried left right := by
  intro carried
  have different : ¬ (slopedSpring 1).SameSlopes (slopedSpring 2) := by decide
  have same : setAutocenter .logitechClassic (slopedSpring 1) =
      setAutocenter .logitechClassic (slopedSpring 2) := by decide
  exact different ((carried (slopedSpring 1) (slopedSpring 2)).2.mp same).slopes

end Protocol

end Fffb
