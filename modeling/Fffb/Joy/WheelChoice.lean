import Fffb.Foundation.Selection
import Fffb.Joy.WheelObject

/-
Which of the listed devices the constructor takes.

It takes every device that it knows and every other Logitech joystick, each in
place of the one before, so it keeps the last of them.
-/

namespace Fffb

namespace HidDevice

def Joystick (device : HidDevice) : Prop :=
  device.usage = FFFB_WHEEL_USAGE ∧ device.usagePage = FFFB_WHEEL_USAGE_PAGE

def KnownWheel (device : HidDevice) : Prop :=
  device.Joystick ∧ device.deviceId ∈ knownWheelDeviceIds

def UnknownLogitech (device : HidDevice) : Prop :=
  device.Joystick ∧ device.vendorId = logitechVendorId ∧ device.deviceId ∉ knownWheelDeviceIds

def Takeable (device : HidDevice) : Prop := device.KnownWheel ∨ device.UnknownLogitech

instance (device : HidDevice) : Decidable device.Joystick :=
  inferInstanceAs (Decidable (_ ∧ _))

instance (device : HidDevice) : Decidable device.KnownWheel :=
  inferInstanceAs (Decidable (_ ∧ _))

instance (device : HidDevice) : Decidable device.UnknownLogitech :=
  inferInstanceAs (Decidable (_ ∧ _))

instance (device : HidDevice) : Decidable device.Takeable :=
  inferInstanceAs (Decidable (_ ∨ _))

theorem KnownWheel.not_unknown {device : HidDevice} (known : device.KnownWheel) :
    ¬ device.UnknownLogitech :=
  fun unknown => unknown.2.2 known.2

end HidDevice

namespace Wheel

theorem take_take (wheel : Wheel) (first second : HidDevice) :
    (wheel.take first).take second = wheel.take second := rfl

theorem takeKnown_eq (wheel : Wheel) {device : HidDevice} (joystick : device.Joystick) :
    knownWheelDeviceIds.foldl
        (fun current knownWheel =>
          if device.deviceId = knownWheel ∧ device.usagePage = FFFB_WHEEL_USAGE_PAGE ∧
              device.usage = FFFB_WHEEL_USAGE then
            current.take device
          else
            current) wheel =
      if device.deviceId ∈ knownWheelDeviceIds then wheel.take device else wheel := by
  obtain ⟨usage, usagePage⟩ := joystick
  unfold knownWheelDeviceIds
  simp only [List.foldl_cons, List.foldl_nil, usage, usagePage, and_true, List.mem_cons,
    List.not_mem_nil, or_false]
  by_cases g923 : device.deviceId = logitechG923PsDeviceId
  · rw [if_pos g923, if_pos (Or.inl g923), take_take, ite_self]
  · by_cases g29 : device.deviceId = logitechG29Ps4DeviceId
    · rw [if_neg g923, if_pos g29, if_pos (Or.inr g29)]
    · rw [if_neg g923, if_neg g29, if_neg (not_or.mpr ⟨g923, g29⟩)]

theorem consider_eq (wheel : Wheel) (device : HidDevice) :
    consider wheel device = if device.Takeable then wheel.take device else wheel := by
  unfold consider
  by_cases joystick : device.Joystick
  · have listed : ¬ (device.usage ≠ FFFB_WHEEL_USAGE ∨
        device.usagePage ≠ FFFB_WHEEL_USAGE_PAGE) := by
      rintro (usage | usagePage)
      · exact usage joystick.1
      · exact usagePage joystick.2
    rw [if_neg listed, takeKnown_eq wheel joystick]
    dsimp only
    by_cases known : device.deviceId ∈ knownWheelDeviceIds
    · have takeable : device.Takeable := Or.inl ⟨joystick, known⟩
      rw [if_pos known, if_pos takeable, take_take, ite_self]
    · rw [if_neg known]
      by_cases logitech : device.vendorId = logitechVendorId
      · have takeable : device.Takeable := Or.inr ⟨joystick, logitech, known⟩
        rw [if_pos logitech, if_pos takeable]
      · have refused : ¬ device.Takeable := by
          rintro (⟨_, listed⟩ | ⟨_, vendor, _⟩)
          · exact known listed
          · exact logitech vendor
        rw [if_neg logitech, if_neg refused]
  · have refused : ¬ device.Takeable := by
      rintro (⟨usage, _⟩ | ⟨usage, _⟩)
      · exact joystick usage
      · exact joystick usage
    have skipped : device.usage ≠ FFFB_WHEEL_USAGE ∨
        device.usagePage ≠ FFFB_WHEEL_USAGE_PAGE := not_and_or.mp joystick
    rw [if_pos skipped, if_neg refused]

theorem construct_device (devices : List HidDevice) (line : Line Report) :
    (construct devices line).wheel.device =
      (Selection.last? HidDevice.Takeable devices).getD .null := by
  have folded := Selection.foldl_put HidDevice.Takeable
    (fun wheel device => wheel.take device) take_take devices initial
  simp only [← consider_eq] at folded
  rw [construct_wheel, folded]
  cases Selection.last? HidDevice.Takeable devices with
  | none => rfl
  | some device => rfl

/-! ### Known wheels before others -/

/-- A known wheel is held if one is listed, an unknown one only if none is; and
a single known wheel is held whatever the order of the list. -/
structure PrefersKnown (devices : List HidDevice) (line : Line Report) : Prop where
  known : (∃ device ∈ devices, device.KnownWheel) →
    (construct devices line).wheel.device.deviceId ∈ knownWheelDeviceIds
  unknown : (construct devices line).wheel.device.UnknownLogitech →
    ∀ device ∈ devices, ¬ device.KnownWheel
  anyOrder : (devices.filter fun device => device.KnownWheel).length = 1 →
    ∀ reordered : List HidDevice, reordered.Perm devices →
      (construct reordered line).wheel.device = (construct devices line).wheel.device

/-- Where a known wheel is listed, another one comes after each unknown Logitech
joystick; where a single one is listed there is no such joystick. -/
structure KnownLast (devices : List HidDevice) : Prop where
  followed : (∃ device ∈ devices, device.KnownWheel) →
    ∀ before device after, devices = before ++ device :: after → device.UnknownLogitech →
      ∃ later ∈ after, later.KnownWheel
  alone : (devices.filter fun device => device.KnownWheel).length = 1 →
    ∀ device ∈ devices, ¬ device.UnknownLogitech

theorem exists_held {devices : List HidDevice} (line : Line Report)
    (listed : ∃ device ∈ devices, device.KnownWheel) :
    ∃ held, Selection.last? HidDevice.Takeable devices = some held ∧
      (construct devices line).wheel.device = held := by
  rw [construct_device]
  cases chosen : Selection.last? HidDevice.Takeable devices with
  | none =>
      obtain ⟨device, member, known⟩ := listed
      exact False.elim (Selection.last?_eq_none_iff.mp chosen device member (Or.inl known))
  | some held => exact ⟨held, rfl, rfl⟩

theorem held_known_iff {devices : List HidDevice} {held : HidDevice}
    (chosen : Selection.last? HidDevice.Takeable devices = some held) :
    held.KnownWheel ↔ ∀ before device after, devices = before ++ device :: after →
      device.UnknownLogitech → ∃ later ∈ after, later.KnownWheel := by
  obtain ⟨front, back, split, takeable, refused⟩ := Selection.last?_eq_some_iff.mp chosen
  constructor
  · intro known before device after parted unknown
    rw [split] at parted
    rcases List.append_eq_append_iff.mp parted with ⟨middle, rfl, rest⟩ | ⟨middle, rfl, rest⟩
    · -- the unknown one would be the one held or one after it
      rcases List.cons_eq_append_iff.mp rest with ⟨rfl, same⟩ | ⟨tail, rfl, inBack⟩
      · cases same
        exact False.elim (known.not_unknown unknown)
      · have member : device ∈ back := by
          rw [inBack]
          exact List.mem_append_right _ List.mem_cons_self
        exact False.elim (refused device member (Or.inr unknown))
    · rcases List.cons_eq_append_iff.mp rest with ⟨rfl, same⟩ | ⟨tail, rfl, rfl⟩
      · cases same
        exact False.elim (known.not_unknown unknown)
      · exact ⟨held, List.mem_append_right _ List.mem_cons_self, known⟩
  · intro followed
    rcases takeable with known | unknown
    · exact known
    · obtain ⟨later, member, known⟩ := followed front held back split unknown
      exact False.elim (refused later member (Or.inl known))

/-- With a single known wheel every order of the list gives the same device
exactly when no unknown one is listed. -/
theorem anyOrder_iff {devices : List HidDevice} (line : Line Report)
    (single : (devices.filter fun device => device.KnownWheel).length = 1) :
    (∀ reordered : List HidDevice, reordered.Perm devices →
        (construct reordered line).wheel.device = (construct devices line).wheel.device) ↔
      ∀ device ∈ devices, ¬ device.UnknownLogitech := by
  obtain ⟨wheel, filtered⟩ := List.length_eq_one_iff.mp single
  have onlyKnown : ∀ device, device ∈ devices ∧ device.KnownWheel ↔ device = wheel := by
    intro device
    rw [← List.mem_singleton, ← filtered, List.mem_filter, decide_eq_true_iff]
  obtain ⟨listed, known⟩ := (onlyKnown wheel).mpr rfl
  have sameChoice : (∀ reordered : List HidDevice, reordered.Perm devices →
      (construct reordered line).wheel.device = (construct devices line).wheel.device) ↔
      ∀ reordered : List HidDevice, reordered.Perm devices →
        Selection.last? HidDevice.Takeable reordered =
          Selection.last? HidDevice.Takeable devices := by
    refine forall₂_congr fun reordered perm => ?_
    obtain ⟨first, firstChosen, firstHeld⟩ :=
      exists_held line ⟨wheel, perm.mem_iff.mpr listed, known⟩
    obtain ⟨second, secondChosen, secondHeld⟩ := exists_held line ⟨wheel, listed, known⟩
    rw [firstHeld, secondHeld, firstChosen, secondChosen, Option.some.injEq]
  rw [sameChoice, Selection.last?_perm_iff]
  constructor
  · intro equal device member unknown
    have same := equal device member wheel listed (Or.inr unknown) (Or.inl known)
    rw [same] at unknown
    exact known.not_unknown unknown
  · intro none left leftMember right rightMember leftTakeable rightTakeable
    have isWheel : ∀ device ∈ devices, device.Takeable → device = wheel := by
      rintro device member (knownDevice | unknown)
      · exact (onlyKnown device).mp ⟨member, knownDevice⟩
      · exact False.elim (none device member unknown)
    rw [isWheel left leftMember leftTakeable, isWheel right rightMember rightTakeable]

/-- The constructor prefers known wheels exactly when the list puts them
last. -/
theorem prefersKnown_iff (devices : List HidDevice) (line : Line Report) :
    PrefersKnown devices line ↔ KnownLast devices := by
  constructor
  · rintro ⟨knownHeld, _, anyOrder⟩
    constructor
    · intro listed
      obtain ⟨held, chosen, heldEq⟩ := exists_held line listed
      have member := knownHeld listed
      rw [heldEq] at member
      rw [← held_known_iff chosen]
      rcases (Selection.mem_of_last? chosen).2 with known | unknown
      · exact known
      · exact False.elim (unknown.2.2 member)
    · exact fun single => (anyOrder_iff line single).mp (anyOrder single)
  · rintro ⟨followed, alone⟩
    have heldKnown : (∃ device ∈ devices, device.KnownWheel) →
        (construct devices line).wheel.device.KnownWheel := by
      intro listed
      obtain ⟨held, chosen, heldEq⟩ := exists_held line listed
      rw [heldEq]
      exact (held_known_iff chosen).mpr (followed listed)
    constructor
    · exact fun listed => (heldKnown listed).2
    · intro unknown device member known
      exact (heldKnown ⟨device, member, known⟩).not_unknown unknown
    · exact fun single => (anyOrder_iff line single).mpr (alone single)

def otherLogitech : HidDevice :=
  { HidDevice.g29 with
    hidDevice := some 2
    productId := 0xc215 }

/-- Listed after a known wheel it is the one that the constructor holds. -/
theorem otherLogitech_displaces :
    HidDevice.g29.KnownWheel ∧ otherLogitech.UnknownLogitech ∧
      ¬ PrefersKnown [.g29, otherLogitech] (.idle fun _ => true) := by
  refine ⟨by decide, by decide, ?_⟩
  rintro ⟨knownHeld, _, _⟩
  have member := knownHeld ⟨.g29, List.mem_cons_self, by decide⟩
  revert member
  decide +kernel

end Wheel

end Fffb
