import Fffb.Hid.Registry
import Fffb.Joy.WheelChoice
import Fffb.Plugin.Tracking

/-
Which of several joysticks the plugin drives.

The list of devices comes from a set, in the order of one visit.  All that the
plugin is made of is the last device that its wheel could take, so the order is
irrelevant only where there is one such device.
-/

namespace Fffb

open FloatArith

namespace Wheel

theorem foldl_consider_eq (devices : List HidDevice) :
    devices.foldl consider initial =
      (Selection.last? HidDevice.Takeable devices).elim initial
        fun device => initial.take device := by
  have folded := Selection.foldl_put HidDevice.Takeable
    (fun wheel device => wheel.take device) take_take devices initial
  simp only [← consider_eq] at folded
  exact folded

theorem construct_of_last {devices others : List HidDevice}
    (same : Selection.last? HidDevice.Takeable others = Selection.last? HidDevice.Takeable devices)
    (line : Line Report) : construct others line = construct devices line := by
  rw [construct_eq, construct_eq, foldl_consider_eq, foldl_consider_eq, same]

end Wheel

namespace Plugin

variable {F : Type} [FloatArith F]

theorem load_of_last {devices others : List HidDevice}
    (same : Selection.last? HidDevice.Takeable others = Selection.last? HidDevice.Takeable devices)
    (outcome : Nat → Bool) :
    (load others outcome : Plugin F) = load devices outcome := by
  unfold load Simulator.construct
  rw [Wheel.construct_of_last same]

theorem load_device (devices : List HidDevice) (outcome : Nat → Bool) :
    (load devices outcome : Plugin F).simulator.wheel.device =
      (Selection.last? HidDevice.Takeable devices).getD .null := by
  rw [load_wheel, ← Wheel.construct_wheel devices (.idle outcome), Wheel.construct_device]

omit [FloatArith F] in
/-- The default device is none of the listed ones, so it tells that none was
taken. -/
theorem last_of_getD {manager other : HidManager}
    (same : (Selection.last? HidDevice.Takeable other.listHidDevices).getD .null =
      (Selection.last? HidDevice.Takeable manager.listHidDevices).getD .null) :
    Selection.last? HidDevice.Takeable other.listHidDevices =
      Selection.last? HidDevice.Takeable manager.listHidDevices := by
  cases first : Selection.last? HidDevice.Takeable other.listHidDevices with
  | none =>
      cases second : Selection.last? HidDevice.Takeable manager.listHidDevices with
      | none => rfl
      | some device =>
          rw [first, second] at same
          have listed := (Selection.mem_of_last? second).1
          exact False.elim (HidManager.ne_null_of_listed listed same.symm)
  | some device =>
      have listed := (Selection.mem_of_last? first).1
      cases second : Selection.last? HidDevice.Takeable manager.listHidDevices with
      | none =>
          rw [first, second] at same
          exact False.elim (HidManager.ne_null_of_listed listed same)
      | some rival =>
          rw [first, second] at same
          exact congrArg some same

/-- The order in which the system's devices are visited makes no difference to
any run exactly when at most one of them is a joystick that the wheel could
take. -/
theorem order_irrelevant_iff (manager : HidManager) (outcome : Nat → Bool) :
    (∀ other, manager.Reordered other → ∀ callbacks : List (Callback F),
        run (load other.listHidDevices outcome) callbacks =
          run (load manager.listHidDevices outcome) callbacks) ↔
      ∀ left ∈ manager.devices, ∀ right ∈ manager.devices,
        (manager.hidDevice left).Takeable → (manager.hidDevice right).Takeable → left = right := by
  constructor
  · intro same left leftMember right rightMember leftTakeable rightTakeable
    have chosen : ∀ reordered : List HidDevice, reordered.Perm manager.listHidDevices →
        Selection.last? HidDevice.Takeable reordered =
          Selection.last? HidDevice.Takeable manager.listHidDevices := by
      intro reordered perm
      obtain ⟨other, visited, rfl⟩ := manager.exists_reordered perm
      have loaded := Option.some.inj (same other visited [])
      have device := congrArg (fun plugin : Plugin F => plugin.simulator.wheel.device) loaded
      rw [load_device, load_device] at device
      exact last_of_getD device
    have equal := Selection.last?_perm_iff.mp chosen (manager.hidDevice left)
      (List.mem_map_of_mem leftMember) (manager.hidDevice right)
      (List.mem_map_of_mem rightMember) leftTakeable rightTakeable
    exact manager.hidDevice_injective equal
  · intro single other reordered callbacks
    have equal : ∀ left ∈ manager.listHidDevices, ∀ right ∈ manager.listHidDevices,
        left.Takeable → right.Takeable → left = right := by
      intro left leftMember right rightMember leftTakeable rightTakeable
      obtain ⟨leftHandle, leftListed, rfl⟩ := List.mem_map.mp leftMember
      obtain ⟨rightHandle, rightListed, rfl⟩ := List.mem_map.mp rightMember
      rw [single leftHandle leftListed rightHandle rightListed leftTakeable rightTakeable]
    have chosen := Selection.last?_perm_iff.mpr equal other.listHidDevices reordered.perm
    rw [load_of_last chosen]

end Plugin

end Fffb
