import Fffb.Joy.WheelCalibration

/-
What the wheel object does when the plugin is unloaded.
-/

namespace Fffb.Wheel

def destroy : WheelM Unit := do
  if (← get).wheel.device.isPresent then
    let _ ← stopForces
    let _ ← enableAutocenter

/-- The transactions of the destructor of a wheel that holds a device. -/
def destroyBatches (wheel : Wheel) : List (List Report) :=
  [wheel.stopBatch, [Protocol.enableAutocenter wheel.protocol 0x0F]]

theorem destroy_run_of_absent (rig : Rig) (absent : rig.wheel.device.isPresent = false) :
    destroy.run rig = ((), rig) := by
  unfold destroy
  simp only [StateT.run_bind]
  change (if rig.wheel.device.isPresent = true then _ else _ : WheelM Unit).run rig = _
  rw [absent]
  rfl

theorem destroy_run_of_present (rig : Rig) (present : rig.wheel.device.isPresent = true) :
    (destroy.run rig).2 =
      { wheel := { rig.wheel with playing := false }
        line := rig.line.attemptAll rig.wheel.destroyBatches } := by
  have makes : Makes (do
      let _ ← stopForces
      let _ ← enableAutocenter) (fun wheel => { wheel with playing := false }) destroyBatches :=
    stopForces_makes.dropped (enableAutocenter_makes.dropped (return_makes ()))
  unfold destroy
  change ((if rig.wheel.device.isPresent = true then _ else _ : WheelM Unit).run rig).2 = _
  rw [if_pos present]
  exact makes rig

end Fffb.Wheel
