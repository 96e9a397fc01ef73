import Fffb.Joy.WheelPlaying
import Fffb.Joy.WheelUnload

/-
The operations of a wheel that neither read nor change its queue.
-/

namespace Fffb

/-- The rig without the list of its queue. -/
def Rig.unqueued (rig : Rig) : Rig :=
  { rig with wheel := { rig.wheel with reports := [] } }

namespace Wheel

/-- The operation neither reads nor changes the queue. -/
def Unqueued {α : Type} (operation : WheelM α) : Prop :=
  ∀ rig, operation.run rig.unqueued =
      ((operation.run rig).1, (operation.run rig).2.unqueued) ∧
    (operation.run rig).2.wheel.reports = rig.wheel.reports

theorem unqueued_pure {α : Type} (value : α) : Unqueued (pure value) :=
  fun _ => ⟨rfl, rfl⟩

theorem unqueued_bind {α β : Type} {first : WheelM α} {rest : α → WheelM β}
    (head : Unqueued first) (tail : ∀ value, Unqueued (rest value)) : Unqueued (first >>= rest) := by
  intro rig
  obtain ⟨same, kept⟩ := head rig
  obtain ⟨sameRest, keptRest⟩ := tail (first.run rig).1 (first.run rig).2
  constructor
  · rw [StateT.run_bind, same]
    exact sameRest
  · exact keptRest.trans kept

theorem unqueued_get {α β : Type} (read : Rig → α) {rest : α → WheelM β}
    (same : ∀ rig : Rig, read rig.unqueued = read rig) (tail : ∀ value, Unqueued (rest value)) :
    Unqueued (do rest (read (← get))) := by
  intro rig
  change (rest (read rig.unqueued)).run rig.unqueued = _ ∧ _
  rw [same]
  exact tail (read rig) rig

theorem unqueued_checked {first rest : WheelM Bool} (head : Unqueued first)
    (tail : Unqueued rest) :
    Unqueued (do
      if !(← first) then return false
      rest) := by
  apply unqueued_bind head
  intro succeeded
  cases succeeded with
  | false => exact unqueued_pure false
  | true => exact tail

theorem placeCall_unqueued (call : Bool → Call Report) : Unqueued (placeCall call) :=
  fun _ => ⟨rfl, rfl⟩

theorem writeReport_unqueued (report : Report) : Unqueued (writeReport report) :=
  unqueued_checked (placeCall_unqueued .opening)
    (unqueued_checked (placeCall_unqueued (.writing report))
      (unqueued_checked (placeCall_unqueued .closing) (unqueued_pure true)))

theorem setPlaying_unqueued (playing : Bool) : Unqueued (setPlaying playing) :=
  fun _ => ⟨rfl, rfl⟩

theorem modifyConstant_unqueued (change : ConstantForceParams → ConstantForceParams) :
    Unqueued (modifyConstant change) :=
  fun _ => ⟨rfl, rfl⟩

theorem modifyTrapezoid_unqueued (change : TrapezoidForceParams → TrapezoidForceParams) :
    Unqueued (modifyTrapezoid change) :=
  fun _ => ⟨rfl, rfl⟩

theorem assignEffects_unqueued (constant : ConstantForceParams) (spring : SpringForceParams)
    (damper : DamperForceParams) (trapezoid : TrapezoidForceParams) :
    Unqueued (assignEffects constant spring damper trapezoid) :=
  fun _ => ⟨rfl, rfl⟩

theorem disableAutocenter_unqueued : Unqueued disableAutocenter :=
  unqueued_get (fun rig => Protocol.disableAutocenter rig.wheel.protocol 0x0F) (fun _ => rfl)
    writeReport_unqueued

theorem enableAutocenter_unqueued : Unqueued enableAutocenter :=
  unqueued_get (fun rig => Protocol.enableAutocenter rig.wheel.protocol 0x0F) (fun _ => rfl)
    writeReport_unqueued

theorem setLedPattern_unqueued (pattern : U8) : Unqueued (setLedPattern pattern) :=
  unqueued_get (fun rig => Protocol.setLedPattern rig.wheel.protocol pattern) (fun _ => rfl)
    writeReport_unqueued

theorem playForces_unqueued : Unqueued playForces :=
  unqueued_bind (setPlaying_unqueued true) fun _ =>
    unqueued_get (fun rig => Protocol.playForce rig.wheel.protocol rig.wheel.enabledSlots)
      (fun _ => rfl) writeReport_unqueued

theorem stopForces_unqueued : Unqueued stopForces :=
  unqueued_bind (setPlaying_unqueued false) fun _ =>
    unqueued_get (fun rig => Protocol.stopForce rig.wheel.protocol 0x0F) (fun _ => rfl)
      writeReport_unqueued

theorem returnToCenter_unqueued : Unqueued returnToCenter :=
  unqueued_bind stopForces_unqueued fun _ => unqueued_bind enableAutocenter_unqueued fun _ =>
    unqueued_bind disableAutocenter_unqueued fun _ => unqueued_pure ()

theorem destroy_unqueued : Unqueued destroy := by
  let ending : Bool → WheelM Unit := fun present =>
    if present = true then do
      let _ ← stopForces
      let _ ← enableAutocenter
    else
      return ()
  have each : ∀ present, Unqueued (ending present) := by
    intro present
    cases present with
    | false => exact unqueued_pure ()
    | true =>
        exact unqueued_bind stopForces_unqueued fun _ =>
          unqueued_bind enableAutocenter_unqueued fun _ => unqueued_pure ()
  exact unqueued_get (fun rig => rig.wheel.device.isPresent) (fun _ => rfl) each

theorem writeEach_unqueued (reports : List Report) : Unqueued (writeEach reports) := by
  induction reports with
  | nil => exact unqueued_pure true
  | cons report rest ih => exact unqueued_checked (placeCall_unqueued (.writing report)) ih

theorem writeReports_unqueued (reports : List Report) : Unqueued (writeReports reports) :=
  unqueued_checked (placeCall_unqueued .opening)
    (unqueued_checked (writeEach_unqueued reports)
      (unqueued_checked (placeCall_unqueued .closing) (unqueued_pure true)))

end Wheel

end Fffb
