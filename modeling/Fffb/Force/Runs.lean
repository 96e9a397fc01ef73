import Fffb.Force.Exact

/-
Runs of `update_forces`.

Every updater starts from the default parameters of its effect, and both
branches of the trapezoid's keep the deflections of this update.  So after any
number of updates the forces show the last telemetry and the deflections of the
one before it, and nothing older.
-/

namespace Fffb.Simulator

open FloatArith

variable {F : Type} [FloatArith F]

def updateAll (telemetries : List (TelemetryState F)) (session : Session F) : Session F :=
  telemetries.foldl (fun session telemetry => ((updateForces telemetry).run session).2) session

/-- The deflections that the update after these compares with: those of the
last telemetry, or what the simulator held before the first one. -/
def deflectionsBefore (session : Session F) (earlier : List (TelemetryState F)) : F × F :=
  match earlier.getLast? with
  | none => (session.simulator.prevDeflectionL, session.simulator.prevDeflectionR)
  | some last => (last.suspensionDeflectionL, last.suspensionDeflectionR)

/-- The force that an update makes of an effect on a simulator as it is
constructed, with these deflections before it. -/
def updatedForce (telemetry : TelemetryState F) (deflections : F × F) (effect : Effect) : Force :=
  (updateEffects telemetry
    { wheel := Wheel.initial
      prevDeflectionL := deflections.1
      prevDeflectionR := deflections.2 }).wheel.force effect

theorem updateForces_simulator (telemetry : TelemetryState F) (session : Session F) :
    ((updateForces telemetry).run session).2.simulator =
      { updateEffects telemetry session.simulator with
        wheel := { (updateEffects telemetry session.simulator).wheel with playing := true } } := by
  have refreshed := Wheel.refreshForces_makes.wheel
    { wheel := (updateEffects telemetry session.simulator).wheel
      line := session.line }
  calc ((updateForces telemetry).run session).2.simulator
      = { updateEffects telemetry session.simulator with
          wheel := (Wheel.refreshForces.run
            { wheel := (updateEffects telemetry session.simulator).wheel
              line := session.line }).2.wheel } := rfl
    _ = _ := by rw [refreshed]

/-- No branch of an updater leaves a field of the effect it found. -/
theorem updateEffects_force (telemetry : TelemetryState F) (simulator : Simulator F)
    (effect : Effect) :
    (updateEffects telemetry simulator).wheel.force effect =
      updatedForce telemetry (simulator.prevDeflectionL, simulator.prevDeflectionR) effect := by
  cases effect with
  | constant => rfl
  | spring => rfl
  | damper => rfl
  | trapezoid => rfl

theorem updateForces_force (telemetry : TelemetryState F) (session : Session F)
    (effect : Effect) :
    ((updateForces telemetry).run session).2.simulator.wheel.force effect =
      updatedForce telemetry
        (session.simulator.prevDeflectionL, session.simulator.prevDeflectionR) effect := by
  rw [updateForces_simulator, ← updateEffects_force]
  cases effect with
  | constant => rfl
  | spring => rfl
  | damper => rfl
  | trapezoid => rfl

theorem updateForces_deflections (telemetry : TelemetryState F) (session : Session F) :
    (((updateForces telemetry).run session).2.simulator.prevDeflectionL,
        ((updateForces telemetry).run session).2.simulator.prevDeflectionR) =
      (telemetry.suspensionDeflectionL, telemetry.suspensionDeflectionR) := by
  rw [updateForces_simulator]
  rfl

theorem updateAll_append (first second : List (TelemetryState F)) (session : Session F) :
    updateAll (first ++ second) session = updateAll second (updateAll first session) :=
  List.foldl_append

theorem updateAll_deflections (session : Session F) (earlier : List (TelemetryState F)) :
    ((updateAll earlier session).simulator.prevDeflectionL,
        (updateAll earlier session).simulator.prevDeflectionR) =
      deflectionsBefore session earlier := by
  rcases List.eq_nil_or_concat' earlier with rfl | ⟨before, last, rfl⟩
  · rfl
  · unfold deflectionsBefore
    rw [updateAll_append, List.getLast?_concat]
    exact updateForces_deflections last (updateAll before session)

theorem updateAll_force (session : Session F) (earlier : List (TelemetryState F))
    (telemetry : TelemetryState F) (effect : Effect) :
    (updateAll (earlier ++ [telemetry]) session).simulator.wheel.force effect =
      updatedForce telemetry (deflectionsBefore session earlier) effect := by
  rw [updateAll_append, ← updateAll_deflections]
  exact updateForces_force telemetry (updateAll earlier session) effect

omit [FloatArith F] in
/-- The initialization sends reports and touches nothing that an update reads. -/
theorem initializeWheel_deflections (session : Session F) :
    ((initializeWheel.run session).2.simulator.prevDeflectionL,
        (initializeWheel.run session).2.simulator.prevDeflectionR) =
      (session.simulator.prevDeflectionL, session.simulator.prevDeflectionR) := by
  unfold initializeWheel
  rw [Checked.run_of_get]
  split
  · rfl
  · rfl

theorem construct_deflections (devices : List HidDevice) (line : Line Report) :
    deflectionsBefore (construct devices line : Session ℚ) [] = (0, 0) := by
  have zero : (lit 0.0 : ℚ) = 0 := by
    rw [lit_rat]
    norm_num
  unfold deflectionsBefore construct
  rw [List.getLast?_nil]
  dsimp only
  rw [initializeWheel_deflections]
  dsimp only
  rw [zero]

theorem amps_updated (telemetry : TelemetryState ℚ) (simulator : Simulator ℚ)
    (rough : telemetry.rough = true) :
    ((updateEffects telemetry simulator).wheel.trapezoid.amplitudeMax,
        (updateEffects telemetry simulator).wheel.trapezoid.amplitudeMin) =
      if 0.005 < max |telemetry.suspensionDeflectionL - simulator.prevDeflectionL|
          |telemetry.suspensionDeflectionR - simulator.prevDeflectionR|
        then (112, 144) else (116, 140) := by
  have amps := trapezoidAmps_eq telemetry simulator.prevDeflectionL simulator.prevDeflectionR
  rw [trapezoid_updated, if_pos rough]
  dsimp only
  split_ifs with bumpy
  · rw [if_pos bumpy, Prod.mk.injEq] at amps
    rw [amps.1, amps.2]
    rfl
  · rw [if_neg bumpy, Prod.mk.injEq] at amps
    rw [amps.1, amps.2]
    rfl

/-- After any run the forces are a function of the last telemetry and of the
deflections of the one before it, which are zero before the first update of a
constructed simulator; the trapezoid is enabled off the road at speed, and its
range is the wide one exactly when a wheel moved. -/
theorem updateAll_forgets (session : Session ℚ) (earlier : List (TelemetryState ℚ))
    (telemetry : TelemetryState ℚ) (devices : List HidDevice) (line : Line Report) :
    let previous := deflectionsBefore session earlier
    let wheel := (updateAll (earlier ++ [telemetry]) session).simulator.wheel
    (∀ effect, wheel.force effect = updatedForce telemetry previous effect) ∧
    (wheel.trapezoid.enabled = true ↔
      (telemetry.substanceL ≠ 0 ∨ telemetry.substanceR ≠ 0) ∧ 0.5 ≤ |telemetry.speed|) ∧
    (wheel.trapezoid.enabled = true →
      (wheel.trapezoid.amplitudeMax, wheel.trapezoid.amplitudeMin) =
        if 0.005 < max |telemetry.suspensionDeflectionL - previous.1|
            |telemetry.suspensionDeflectionR - previous.2|
          then (112, 144) else (116, 140)) ∧
    deflectionsBefore (construct devices line : Session ℚ) [] = (0, 0) := by
  intro previous wheel
  have before := updateAll_deflections session earlier
  have trapezoid : wheel.trapezoid =
      (updateEffects telemetry (updateAll earlier session).simulator).wheel.trapezoid := by
    unfold wheel
    rw [updateAll_append]
    change ((updateForces telemetry).run (updateAll earlier session)).2.simulator.wheel.trapezoid = _
    rw [updateForces_simulator]
  have flag : wheel.trapezoid.enabled = telemetry.rough := by
    rw [trapezoid]
    exact updateEffects_enabled telemetry _ .trapezoid
  refine ⟨updateAll_force session earlier telemetry, ?_, ?_, construct_deflections devices line⟩
  · rw [flag, TelemetryState.rough_iff]
  · intro enabled
    rw [flag] at enabled
    rw [trapezoid, amps_updated telemetry _ enabled]
    unfold previous
    rw [← before]

/-- A truck that leaves the road, with one wheel a centimetre lower. -/
def bump : TelemetryState ℚ :=
  { TelemetryState.zeroed with
    speed := -10
    substanceR := 1
    suspensionDeflectionL := 1 / 100 }

theorem updateAll_forgets_at_bump :
    let wheel := (updateAll [.zeroed, bump] (construct [] (.idle fun _ => true))).simulator.wheel
    wheel.trapezoid.enabled = true ∧
      (wheel.trapezoid.amplitudeMax, wheel.trapezoid.amplitudeMin) = (112, 144) := by
  intro wheel
  obtain ⟨_, enables, amps, _⟩ := updateAll_forgets (construct [] (.idle fun _ => true)) [.zeroed]
    bump [] (.idle fun _ => true)
  have enabled : wheel.trapezoid.enabled = true := enables.mpr (by decide +kernel)
  exact ⟨enabled, (amps enabled).trans (if_pos (by decide +kernel))⟩

end Fffb.Simulator
