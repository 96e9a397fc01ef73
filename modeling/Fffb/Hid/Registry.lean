import Fffb.Hid.Device
import Mathlib.Data.List.Perm.Basic

/-
The devices that the operating system knows, and the list that the driver makes
of them.
-/

namespace Fffb

inductive DeviceProperty where
  | vendorId
  | productId
  | primaryUsagePage
  | primaryUsage
  deriving DecidableEq, Repr

/-- What the system knows: its set of devices, in the order in which one visit
comes to them, and their properties.  A property that a device does not have, or
that is no number, is `none`. -/
structure HidManager where
  devices : List Nat
  distinct : devices.Nodup
  property : Nat → DeviceProperty → Option U32

namespace HidManager

def getPropertyNumber (manager : HidManager) (device : Nat) (property : DeviceProperty) : U32 :=
  (manager.property device property).getD 0

def hidDevice (manager : HidManager) (device : Nat) : HidDevice :=
  { hidDevice := some device
    vendorId := manager.getPropertyNumber device .vendorId
    productId := manager.getPropertyNumber device .productId
    usagePage := manager.getPropertyNumber device .primaryUsagePage
    usage := manager.getPropertyNumber device .primaryUsage }

def listHidDevices (manager : HidManager) : List HidDevice :=
  manager.devices.map manager.hidDevice

theorem ne_null_of_listed {manager : HidManager} {device : HidDevice}
    (listed : device ∈ manager.listHidDevices) : device ≠ .null := by
  obtain ⟨handle, _, rfl⟩ := List.mem_map.mp listed
  intro null
  cases congrArg HidDevice.hidDevice null

/-- The same devices with the same properties, visited in another order. -/
def Reordered (manager other : HidManager) : Prop :=
  other.devices.Perm manager.devices ∧ other.property = manager.property

theorem hidDevice_injective (manager : HidManager) {left right : Nat}
    (same : manager.hidDevice left = manager.hidDevice right) : left = right :=
  Option.some.inj (congrArg HidDevice.hidDevice same)

theorem Reordered.listHidDevices {manager other : HidManager}
    (reordered : manager.Reordered other) :
    other.listHidDevices = other.devices.map manager.hidDevice := by
  unfold HidManager.listHidDevices hidDevice getPropertyNumber
  rw [reordered.2]

theorem Reordered.perm {manager other : HidManager} (reordered : manager.Reordered other) :
    other.listHidDevices.Perm manager.listHidDevices := by
  rw [reordered.listHidDevices]
  exact reordered.1.map manager.hidDevice

theorem exists_reordered (manager : HidManager) {devices : List HidDevice}
    (perm : devices.Perm manager.listHidDevices) :
    ∃ other, manager.Reordered other ∧ other.listHidDevices = devices := by
  have mapped := congrFun (congrFun (List.eq_map_comp_perm manager.hidDevice) devices)
    manager.devices
  obtain ⟨order, rfl, visited⟩ := mapped.mpr perm
  let other : HidManager :=
    { devices := order
      distinct := visited.nodup_iff.mpr manager.distinct
      property := manager.property }
  have reordered : manager.Reordered other := ⟨visited, rfl⟩
  exact ⟨other, reordered, reordered.listHidDevices⟩

end HidManager

end Fffb
