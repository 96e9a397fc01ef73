import Fffb.Joy.Calibration

/-
What the slots of the wheel hold after one load after the other, and after a
calibration, by the effects to which the README gives them.
-/

namespace Fffb

namespace Slot

theorem content_append (before : Fin 4 → Vector U8 7) (first second : List Report) :
    content before (first ++ second) = content (content before first) second :=
  Overlay.writeAll_append loads Report.payload before first second

theorem loads_of_isLoad {report : Report} (other : report.isLoad = false) (slot : Fin 4) :
    loads report slot = false := by
  unfold Report.isLoad Report.isRefresh at other
  obtain ⟨download, refresh⟩ := Bool.or_eq_false_iff.mp other
  unfold loads
  rw [refresh, Bool.or_false]
  -- an empty report has the opcode of a download, but it names no slot
  rcases Bool.and_eq_false_iff.mp download with opcode | slots
  · rw [opcode]
    rfl
  · have unnamed : report.slots = 0 := bne_eq_false_iff_eq.mp slots
    unfold Report.names
    rw [unnamed]
    simp

theorem content_of_others (before : Fin 4 → Vector U8 7) {reports : List Report}
    (others : ∀ report ∈ reports, report.isLoad = false) : content before reports = before := by
  funext slot
  exact Overlay.writeAll_uncovered loads Report.payload before reports slot
    fun report member => loads_of_isLoad (others report member) slot

def held (before : Fin 4 → Vector U8 7) (reports : List Report) (effect : Effect) : Vector U8 7 :=
  content before reports effect.readmeSlot

theorem held_append_others (before : Fin 4 → Vector U8 7) (reports : List Report)
    {more : List Report} (others : ∀ report ∈ more, report.isLoad = false) :
    held before (reports ++ more) = held before reports := by
  funext effect
  unfold held
  rw [content_append, content_of_others _ others]

def bytes (force : Force) : Vector U8 7 :=
  (Protocol.downloadForce .logitechClassic force).payload

/-- What a slot holds once this force has been loaded, if it is enabled. -/
def load (force : Force) (current : Vector U8 7) : Vector U8 7 :=
  if force.params.enabled then bytes force else current

theorem load_of_enabled {force : Force} (enabled : force.params.enabled = true)
    (current : Vector U8 7) : load force current = bytes force := if_pos enabled

theorem load_of_disabled {force : Force} (disabled : force.params.enabled = false)
    (current : Vector U8 7) : load force current = current := by
  unfold load
  rw [disabled]
  rfl

theorem load_load (force : Force) (current : Vector U8 7) :
    load force (load force current) = load force current := by
  cases enabled : force.params.enabled with
  | true => rw [load_of_enabled enabled, load_of_enabled enabled]
  | false => rw [load_of_disabled enabled]

/-- What the slots hold once these forces have been loaded: the spring, which
comes later, is loaded into the slot of the constant force too. -/
def loaded (forces : Effect → Force) (held : Effect → Vector U8 7) : Effect → Vector U8 7
  | .constant => load (forces .spring) (load (forces .constant) (held .constant))
  | .spring => load (forces .spring) (held .spring)
  | .damper => load (forces .damper) (held .damper)
  | .trapezoid => load (forces .trapezoid) (held .trapezoid)

/-- What the slots hold after a calibration with these forces: what its last
turn and its shake loaded, and what was enabled besides. -/
def calibrated (forces : Effect → Force) (held : Effect → Vector U8 7) : Effect → Vector U8 7
  | .constant => load (forces .spring) (Wheel.turnReport .logitechClassic 160).payload
  | .spring => load (forces .spring) (held .spring)
  | .damper => load (forces .damper) (held .damper)
  | .trapezoid => (Wheel.shakeReport .logitechClassic).payload

/-- The constant force and the trapezoid a calibration sets itself. -/
theorem calibrated_congr {left right : Effect → Force} (spring : left .spring = right .spring)
    (damper : left .damper = right .damper) (held : Effect → Vector U8 7) :
    calibrated left held = calibrated right held := by
  funext effect
  cases effect with
  | constant => exact congrArg (load · _) spring
  | spring => exact congrArg (load · _) spring
  | damper => exact congrArg (load · _) damper
  | trapezoid => rfl

end Slot

namespace Wheel

theorem held_append_loads {build : FfbProtocol → Force → Report} (loadsForce : LoadsForce build)
    {wheel : Wheel} (classic : wheel.protocol = .logitechClassic)
    (defaultSlots : wheel.DefaultSlots) (before : Fin 4 → Vector U8 7) (reports : List Report) :
    Slot.held before (reports ++ wheel.enabledReports build) =
      Slot.loaded wheel.force (Slot.held before reports) := by
  funext effect
  unfold Slot.held
  rw [Slot.content_append, loadsForce.content_classic classic defaultSlots]
  cases effect with
  | constant =>
      cases springOn : wheel.enabled .spring with
      | true =>
          rw [if_pos ⟨rfl, rfl⟩]
          exact (Slot.load_of_enabled springOn _).symm
      | false =>
          rw [if_neg fun both => Bool.false_ne_true both.2]
          exact (Slot.load_of_disabled springOn _).symm
  | spring => exact if_neg nofun
  | damper => exact if_neg nofun
  | trapezoid => exact if_neg nofun

/-! ### A calibration -/

theorem calibrationBatches_loads (wheel : Wheel) :
    wheel.calibrationBatches.flatten =
      [Protocol.disableAutocenter wheel.protocol 0x0F, Protocol.stopForce wheel.protocol 0x0F] ++
        (wheel.turning 96).enabledReports Protocol.downloadForce ++ (wheel.turning 96).playBatch ++
        (wheel.turning 160).enabledReports Protocol.refreshForce ++ wheel.stopBatch ++
        (wheel.turning 160).shaking.enabledReports Protocol.downloadForce ++
        ((wheel.turning 160).shaking.playBatch ++ wheel.stopBatch ++
          wheel.returnToCenterBatches.flatten ++ wheel.stopBatch) := by
  unfold calibrationBatches turnRightBatches turnLeftBatches shakeItBatches
  simp only [List.flatten_append, List.flatten_cons, List.flatten_nil, List.append_nil,
    List.append_assoc]
  rfl

theorem stopBatch_isLoad (wheel : Wheel) : ∀ report ∈ wheel.stopBatch, report.isLoad = false :=
  fun _ member => List.mem_singleton.mp member ▸ Protocol.stopForce_isLoad _ _

theorem playBatch_isLoad (wheel : Wheel) : ∀ report ∈ wheel.playBatch, report.isLoad = false :=
  fun _ member => List.mem_singleton.mp member ▸ Protocol.playForce_isLoad _ _

theorem returnToCenterBatches_isLoad (wheel : Wheel) :
    ∀ report ∈ wheel.returnToCenterBatches.flatten, report.isLoad = false := by
  unfold returnToCenterBatches stopBatch
  simp only [List.flatten_cons, List.flatten_nil, List.append_nil, List.mem_append,
    List.mem_singleton]
  rintro report (rfl | rfl | rfl)
  · exact Protocol.stopForce_isLoad _ _
  · exact Protocol.enableAutocenter_isLoad _ _
  · exact Protocol.disableAutocenter_isLoad _ _

theorem loaded_calibration (wheel : Wheel) (held : Effect → Vector U8 7) :
    Slot.loaded (wheel.turning 160).shaking.force
        (Slot.loaded (wheel.turning 160).force (Slot.loaded (wheel.turning 96).force held)) =
      Slot.calibrated wheel.force held := by
  have turned : ((wheel.turning 160).force .constant).params.enabled = true := rfl
  have freed : ((wheel.turning 160).shaking.force .constant).params.enabled = false := rfl
  have shaken : ((wheel.turning 160).shaking.force .trapezoid).params.enabled = true := rfl
  funext effect
  cases effect with
  | constant =>
      unfold Slot.loaded
      dsimp only
      rw [Slot.load_of_disabled freed, Slot.load_of_enabled turned]
      exact Slot.load_load (wheel.force .spring) _
  | spring =>
      exact (Slot.load_load (wheel.force .spring) _).trans
        (Slot.load_load (wheel.force .spring) (held .spring))
  | damper =>
      exact (Slot.load_load (wheel.force .damper) _).trans
        (Slot.load_load (wheel.force .damper) (held .damper))
  | trapezoid => exact Slot.load_of_enabled shaken _

theorem held_append_calibration {wheel : Wheel} (classic : wheel.protocol = .logitechClassic)
    (defaultSlots : wheel.DefaultSlots) (before : Fin 4 → Vector U8 7) (reports : List Report) :
    Slot.held before (reports ++ wheel.calibrationBatches.flatten) =
      Slot.calibrated wheel.force (Slot.held before reports) := by
  have turningSlots : ∀ amplitude, (wheel.turning amplitude).DefaultSlots := by
    intro amplitude
    refine defaultSlots.of_slot fun effect => ?_
    cases effect <;> rfl
  have shakingSlots : (wheel.turning 160).shaking.DefaultSlots := by
    refine defaultSlots.of_slot fun effect => ?_
    cases effect <;> rfl
  have opening : ∀ report ∈ [Protocol.disableAutocenter wheel.protocol 0x0F,
      Protocol.stopForce wheel.protocol 0x0F], report.isLoad = false := by
    simp only [List.mem_cons, List.not_mem_nil, or_false]
    rintro report (rfl | rfl)
    · exact Protocol.disableAutocenter_isLoad _ _
    · exact Protocol.stopForce_isLoad _ _
  have closing : ∀ report ∈ (wheel.turning 160).shaking.playBatch ++ wheel.stopBatch ++
      wheel.returnToCenterBatches.flatten ++ wheel.stopBatch, report.isLoad = false := by
    simp only [List.mem_append]
    rintro report (((play | stop) | center) | stop)
    · exact playBatch_isLoad _ report play
    · exact stopBatch_isLoad _ report stop
    · exact returnToCenterBatches_isLoad _ report center
    · exact stopBatch_isLoad _ report stop
  have turning : ∀ amplitude, (wheel.turning amplitude).protocol = .logitechClassic :=
    fun _ => classic
  have shaking : (wheel.turning 160).shaking.protocol = .logitechClassic := classic
  rw [calibrationBatches_loads, ← List.append_assoc, Slot.held_append_others _ _ closing,
    ← List.append_assoc, held_append_loads downloadForce_loadsForce shaking shakingSlots,
    ← List.append_assoc, Slot.held_append_others _ _ (stopBatch_isLoad wheel),
    ← List.append_assoc, held_append_loads refreshForce_loadsForce (turning 160) (turningSlots 160),
    ← List.append_assoc, Slot.held_append_others _ _ (playBatch_isLoad _),
    ← List.append_assoc, held_append_loads downloadForce_loadsForce (turning 96) (turningSlots 96),
    Slot.held_append_others _ _ opening, loaded_calibration]

end Wheel

end Fffb
