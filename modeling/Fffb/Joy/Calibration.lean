import Fffb.Joy.WheelSlots

/-
What a calibration sends, as far as it depends on the effects.

Calibration sets the constant force and the trapezoid before it loads them, but
its first loads also carry whatever else is enabled.  So its reports are a
function of the download reports of the other effects, and they reveal these.
-/

namespace Fffb

/-- The report with its command nibble overwritten by that of a refresh. -/
def Report.refreshed (report : Report) : Report :=
  report.setCommand ((report.command &&& 0xF0) ||| 0x0C)

def Report.masks (reports : List Report) : U8 :=
  reports.foldr (fun report mask => report.slots ||| mask) 0

/-- Among reports with an empty command nibble no two become the same refresh. -/
theorem Report.refreshed_injective {left right : Report} (leftDownload : left.opcode = 0)
    (rightDownload : right.opcode = 0) (same : left.refreshed = right.refreshed) :
    left = right := by
  have restored : ∀ byte : U8, Nibble.low byte = 0 →
      ((byte &&& 0xF0) ||| 0x0C) &&& 0xF0 = byte := by
    decide
  have bytes := congrArg Report.command same
  have tails := congrArg Report.payload same
  unfold refreshed at bytes tails
  rw [setCommand_command, setCommand_command] at bytes
  rw [setCommand_payload, setCommand_payload] at tails
  apply ext_of_payload _ tails
  rw [← restored _ leftDownload, ← restored _ rightDownload, bytes]

theorem Protocol.refreshForce_eq_refreshed (protocol : FfbProtocol) (force : Force) :
    refreshForce protocol force = (downloadForce protocol force).refreshed := rfl

namespace Wheel

def downloads (effects : List Effect) (wheel : Wheel) : List Report :=
  (effects.filter wheel.enabled).map fun effect =>
    Protocol.downloadForce wheel.protocol (wheel.force effect)

theorem downloads_append (first second : List Effect) (wheel : Wheel) :
    wheel.downloads (first ++ second) = wheel.downloads first ++ wheel.downloads second := by
  unfold downloads
  rw [List.filter_append, List.map_append]

theorem downloads_congr {effects : List Effect} {left right : Wheel}
    (sameProtocol : left.protocol = right.protocol)
    (sameForces : ∀ effect ∈ effects, left.force effect = right.force effect) :
    left.downloads effects = right.downloads effects := by
  have filtered : effects.filter left.enabled = effects.filter right.enabled := by
    apply List.filter_congr
    intro effect member
    unfold enabled
    rw [sameForces effect member]
  unfold downloads
  rw [filtered]
  apply List.map_congr_left
  intro effect member
  rw [sameProtocol, sameForces effect (List.mem_filter.mp member).1]

theorem downloads_opcode {effects : List Effect} {wheel : Wheel} {report : Report}
    (member : report ∈ wheel.downloads effects) : report.opcode = 0 := by
  obtain ⟨effect, _, rfl⟩ := List.mem_map.mp member
  exact Protocol.downloadForce_opcode _ _

theorem enabledReports_download (wheel : Wheel) :
    wheel.enabledReports Protocol.downloadForce = wheel.downloads Effect.all :=
  enabledReports_eq _ wheel

theorem enabledReports_refresh (wheel : Wheel) :
    wheel.enabledReports Protocol.refreshForce =
      (wheel.downloads Effect.all).map Report.refreshed := by
  rw [enabledReports_eq]
  unfold downloads
  rw [List.map_map]
  exact List.map_congr_left fun effect _ =>
    Protocol.refreshForce_eq_refreshed wheel.protocol (wheel.force effect)

/-- Under the classic protocol the downloads name what the play mask holds. -/
theorem masks_downloads {wheel : Wheel} (classic : wheel.protocol = .logitechClassic)
    (defaultSlots : wheel.DefaultSlots) :
    Report.masks (wheel.downloads Effect.all) = wheel.enabledSlots := by
  have named : ∀ effect, (Protocol.downloadForce wheel.protocol (wheel.force effect)).slots =
      wheel.slot effect := by
    intro effect
    rw [classic, Protocol.downloadForce_slots _ (force_type_ne_count wheel effect)]
    change Nibble.low (wheel.slot effect) = wheel.slot effect
    rw [defaultSlots effect]
    cases effect <;> decide
  rw [enabledSlots_eq]
  unfold downloads Effect.all Report.masks
  cases first : wheel.enabled .constant <;> cases second : wheel.enabled .spring <;>
    cases third : wheel.enabled .damper <;> cases fourth : wheel.enabled .trapezoid <;>
    simp [first, second, third, fourth, named, BitVec.or_assoc]

def turnReport (protocol : FfbProtocol) (amplitude : U8) : Report :=
  Protocol.downloadForce protocol
    (.ofConstant { slot := FFFB_FORCE_SLOT_CONSTANT, enabled := true, amplitude := amplitude })

def shakeReport (protocol : FfbProtocol) : Report :=
  Protocol.downloadForce protocol
    (.ofTrapezoid
      { slot := FFFB_FORCE_SLOT_TRAPEZOID
        enabled := true
        amplitudeMax := 96
        amplitudeMin := 160
        tAtMax := 32
        tAtMin := 32
        slopeStepX := 6
        slopeStepY := 6 })

/-- The reports of a calibration, from the downloads of the spring and the
damper and from that of the trapezoid. -/
def calibrationTrace (protocol : FfbProtocol) (pair trapezoid : List Report) : List Report :=
  let turns : U8 → List Report := fun amplitude =>
    [turnReport protocol amplitude] ++ pair ++ trapezoid
  let shakes := pair ++ [shakeReport protocol]
  let stop := Protocol.stopForce protocol 0x0F
  [Protocol.disableAutocenter protocol 0x0F, stop] ++ turns 96 ++
    [Protocol.playForce protocol (Report.masks (turns 96))] ++
    (turns 160).map Report.refreshed ++ [stop] ++ shakes ++
    [Protocol.playForce protocol (Report.masks shakes), stop, stop,
      Protocol.enableAutocenter protocol 0x0F, Protocol.disableAutocenter protocol 0x0F, stop]

theorem playForce_masks {wheel : Wheel} (defaultSlots : wheel.DefaultSlots) :
    Protocol.playForce wheel.protocol (Report.masks (wheel.downloads Effect.all)) =
      Protocol.playForce wheel.protocol wheel.enabledSlots := by
  by_cases classic : wheel.protocol = .logitechClassic
  · rw [masks_downloads classic defaultSlots]
  · rw [Protocol.playForce_of_unsupported classic, Protocol.playForce_of_unsupported classic]

theorem turning_downloads {wheel : Wheel} (defaultSlots : wheel.DefaultSlots) (amplitude : U8) :
    (wheel.turning amplitude).downloads Effect.all =
      [turnReport wheel.protocol amplitude] ++ wheel.downloads [.spring, .damper] ++
        wheel.downloads [.trapezoid] := by
  have slot : wheel.constant.slot = FFFB_FORCE_SLOT_CONSTANT := defaultSlots .constant
  have constant : (wheel.turning amplitude).downloads [.constant] =
      [turnReport wheel.protocol amplitude] := by
    unfold turnReport
    rw [← slot]
    rfl
  have others : (wheel.turning amplitude).downloads [.spring, .damper, .trapezoid] =
      wheel.downloads [.spring, .damper, .trapezoid] := by
    refine downloads_congr ?_ ?_
    · rfl
    · simp [force, turning]
  have all : Effect.all = [.constant] ++ [.spring, .damper, .trapezoid] := rfl
  have parts : [Effect.spring, .damper, .trapezoid] = [.spring, .damper] ++ [.trapezoid] := rfl
  rw [all, downloads_append, constant, others, parts, downloads_append, List.append_assoc]

theorem shaking_downloads {wheel : Wheel} (defaultSlots : wheel.DefaultSlots) (amplitude : U8) :
    (wheel.turning amplitude).shaking.downloads Effect.all =
      wheel.downloads [.spring, .damper] ++ [shakeReport wheel.protocol] := by
  have slot : wheel.trapezoid.slot = FFFB_FORCE_SLOT_TRAPEZOID := defaultSlots .trapezoid
  have constant : (wheel.turning amplitude).shaking.downloads [.constant] = [] := rfl
  have pair : (wheel.turning amplitude).shaking.downloads [.spring, .damper] =
      wheel.downloads [.spring, .damper] := by
    refine downloads_congr ?_ ?_
    · rfl
    · simp [force, turning, shaking]
  have trapezoid : (wheel.turning amplitude).shaking.downloads [.trapezoid] =
      [shakeReport wheel.protocol] := by
    unfold shakeReport
    rw [← slot]
    rfl
  have all : Effect.all = [.constant] ++ [.spring, .damper] ++ [.trapezoid] := rfl
  rw [all, downloads_append, downloads_append, constant, pair, trapezoid, List.nil_append]

theorem turning_defaultSlots {wheel : Wheel} (defaultSlots : wheel.DefaultSlots) (amplitude : U8) :
    (wheel.turning amplitude).DefaultSlots := by
  apply defaultSlots.of_slot
  intro effect
  cases effect <;> rfl

theorem shaking_defaultSlots {wheel : Wheel} (defaultSlots : wheel.DefaultSlots) :
    wheel.shaking.DefaultSlots := by
  apply defaultSlots.of_slot
  intro effect
  cases effect <;> rfl

/-- A calibration depends on the other effects through their downloads only. -/
theorem calibrationBatches_trace {wheel : Wheel} (defaultSlots : wheel.DefaultSlots) :
    wheel.calibrationBatches.flatten =
      calibrationTrace wheel.protocol (wheel.downloads [.spring, .damper])
        (wheel.downloads [.trapezoid]) := by
  have right := turning_downloads defaultSlots 96
  have left := turning_downloads defaultSlots 160
  have shake := shaking_downloads defaultSlots 160
  have turnMask := playForce_masks (turning_defaultSlots defaultSlots 96)
  have shakeMask := playForce_masks (shaking_defaultSlots (turning_defaultSlots defaultSlots 160))
  rw [right] at turnMask
  rw [shake] at shakeMask
  unfold calibrationTrace calibrationBatches turnRightBatches turnLeftBatches shakeItBatches
    returnToCenterBatches stopBatch playBatch
  rw [enabledReports_download, enabledReports_refresh, enabledReports_download, right, left, shake,
    ← turnMask, ← shakeMask]
  simp only [List.cons_append, List.nil_append, List.flatten_cons, List.flatten_nil,
    List.append_nil, List.append_assoc]
  rfl

/-! ### What a calibration reveals -/

theorem isRefresh_of_notLoad {report : Report} (notLoad : report.isLoad = false) :
    report.isRefresh = false :=
  (Bool.or_eq_false_iff.mp notLoad).2

theorem isRefresh_of_download {report : Report} (download : report.opcode = 0) :
    report.isRefresh = false := by
  unfold Report.isRefresh
  rw [download]
  rfl

theorem refreshed_isRefresh (report : Report) : report.refreshed.isRefresh = true := by
  have overwritten : ∀ byte : U8, Nibble.low ((byte &&& 0xF0) ||| 0x0C) = 0x0C := by
    decide
  unfold Report.isRefresh Report.opcode Report.refreshed
  rw [Report.setCommand_command, overwritten]
  rfl

theorem filter_isRefresh_refreshed (reports : List Report) :
    (reports.map Report.refreshed).filter Report.isRefresh = reports.map Report.refreshed := by
  rw [List.filter_eq_self]
  intro report member
  obtain ⟨download, _, rfl⟩ := List.mem_map.mp member
  exact refreshed_isRefresh download

theorem filter_isRefresh_downloads {reports : List Report}
    (downloads : ∀ report ∈ reports, report.opcode = 0) :
    reports.filter Report.isRefresh = [] := by
  rw [List.filter_eq_nil_iff]
  intro report member
  rw [isRefresh_of_download (downloads report member)]
  exact Bool.false_ne_true

theorem map_refreshed_injective {left right : List Report}
    (leftDownloads : ∀ report ∈ left, report.opcode = 0)
    (rightDownloads : ∀ report ∈ right, report.opcode = 0)
    (same : left.map Report.refreshed = right.map Report.refreshed) : left = right := by
  induction left generalizing right with
  | nil => exact (List.map_eq_nil_iff.mp same.symm).symm
  | cons first rest ih =>
      cases right with
      | nil => cases same
      | cons other others =>
          obtain ⟨heads, tails⟩ := List.cons.inj same
          have firsts := Report.refreshed_injective (leftDownloads first List.mem_cons_self)
            (rightDownloads other List.mem_cons_self) heads
          have rests := ih (fun report member => leftDownloads report (List.mem_cons_of_mem _ member))
            (fun report member => rightDownloads report (List.mem_cons_of_mem _ member)) tails
          rw [firsts, rests]

theorem calibrationTrace_refreshes (protocol : FfbProtocol) {pair trapezoid : List Report}
    (downloads : ∀ report ∈ pair ++ trapezoid, report.opcode = 0) :
    (calibrationTrace protocol pair trapezoid).filter Report.isRefresh =
      (turnReport protocol 160 :: (pair ++ trapezoid)).map Report.refreshed := by
  have turn : ∀ amplitude, (turnReport protocol amplitude).opcode = 0 :=
    fun amplitude => Protocol.downloadForce_opcode _ _
  have shake : (shakeReport protocol).opcode = 0 := Protocol.downloadForce_opcode _ _
  have pairs : pair.filter Report.isRefresh = [] := filter_isRefresh_downloads
    fun report member => downloads report (List.mem_append_left _ member)
  have trapezoids : trapezoid.filter Report.isRefresh = [] := filter_isRefresh_downloads
    fun report member => downloads report (List.mem_append_right _ member)
  unfold calibrationTrace
  simp only [List.filter_append, filter_isRefresh_refreshed, pairs, trapezoids,
    List.filter_cons, List.filter_nil, isRefresh_of_download (turn _), isRefresh_of_download shake,
    isRefresh_of_notLoad (Protocol.disableAutocenter_isLoad _ _),
    isRefresh_of_notLoad (Protocol.enableAutocenter_isLoad _ _),
    isRefresh_of_notLoad (Protocol.stopForce_isLoad _ _),
    isRefresh_of_notLoad (Protocol.playForce_isLoad _ _), Bool.false_eq_true, if_false,
    List.append_nil, List.nil_append, List.append_assoc, List.cons_append]

theorem calibrationTrace_length (protocol : FfbProtocol) (pair trapezoid : List Report) :
    (calibrationTrace protocol pair trapezoid).length =
      3 * pair.length + 2 * trapezoid.length + 13 := by
  unfold calibrationTrace
  simp only [List.length_append, List.length_map, List.length_cons, List.length_nil]
  omega

/-- The reports of a calibration reveal the downloads that it depends on. -/
theorem calibrationTrace_injective {protocol : FfbProtocol}
    {leftPair leftTrapezoid rightPair rightTrapezoid : List Report}
    (leftDownloads : ∀ report ∈ leftPair ++ leftTrapezoid, report.opcode = 0)
    (rightDownloads : ∀ report ∈ rightPair ++ rightTrapezoid, report.opcode = 0)
    (same : calibrationTrace protocol leftPair leftTrapezoid =
      calibrationTrace protocol rightPair rightTrapezoid) :
    leftPair = rightPair ∧ leftTrapezoid = rightTrapezoid := by
  have refreshes := congrArg (List.filter Report.isRefresh) same
  rw [calibrationTrace_refreshes protocol leftDownloads,
    calibrationTrace_refreshes protocol rightDownloads] at refreshes
  obtain ⟨_, tails⟩ := List.cons.inj refreshes
  have together := map_refreshed_injective leftDownloads rightDownloads tails
  have lengths := congrArg List.length same
  have sums := congrArg List.length together
  rw [calibrationTrace_length, calibrationTrace_length] at lengths
  rw [List.length_append, List.length_append] at sums
  exact List.append_inj together (by omega)

end Wheel

end Fffb
