import Fffb.Joy.Protocol

/-
The command byte of every report the builders make: which opcode its low
nibble carries and which slots its high nibble names.
-/

namespace Fffb

namespace Nibble

theorem shift_eq_pack (upper : Byte) : upper <<< 4 = pack upper 0 :=
  BitVec.or_zero.symm

theorem low_shift (upper : Byte) : low (upper <<< 4) = 0 := by
  rw [shift_eq_pack, low_pack]
  rfl

theorem high_shift (upper : Byte) : high (upper <<< 4) = low upper := by
  rw [shift_eq_pack, high_pack]
  exact BitVec.or_zero

theorem overwrite_eq_pack (byte lower : Byte) : (byte &&& 0xF0) ||| lower = pack (high byte) lower := by
  have kept : byte &&& (0xF0 : Byte) = high byte <<< 4 := by
    revert byte
    decide
  rw [kept]
  rfl

end Nibble

namespace Report

def isPlay (report : Report) : Bool := report.opcode == 0x02

def isStop (report : Report) : Bool := report.opcode == 0x03

def isRefresh (report : Report) : Bool := report.opcode == 0x0C

/-- A download names a slot; the empty report, whose opcode is zero as well,
does not. -/
def isDownload (report : Report) : Bool := report.opcode == 0x00 && report.slots != 0

def isLoad (report : Report) : Bool := report.isDownload || report.isRefresh

def names (report : Report) (slot : Fin 4) : Bool := report.slots.getLsbD slot

def Quiet (report : Report) : Prop := report.isPlay = false ∧ report.isStop = false

theorem quiet_of_opcode {report : Report} {opcode : U8} (command : report.opcode = opcode)
    (notPlay : opcode ≠ 0x02) (notStop : opcode ≠ 0x03) : report.Quiet := by
  constructor
  · unfold isPlay
    rw [command]
    exact beq_eq_false_iff_ne.mpr notPlay
  · unfold isStop
    rw [command]
    exact beq_eq_false_iff_ne.mpr notStop

theorem quiet_singleton {report : Report} (quiet : report.Quiet) :
    ∀ other ∈ [report], other.Quiet := by
  intro other member
  rw [List.mem_singleton.mp member]
  exact quiet

theorem empty_opcode : empty.opcode = 0 := rfl

theorem empty_slots : empty.slots = 0 := rfl

theorem isLoad_of_opcode {report : Report} {opcode : U8} (command : report.opcode = opcode)
    (notDownload : opcode ≠ 0x00) (notRefresh : opcode ≠ 0x0C) : report.isLoad = false := by
  unfold isLoad isDownload isRefresh
  rw [command, beq_eq_false_iff_ne.mpr notDownload, beq_eq_false_iff_ne.mpr notRefresh]
  rfl

theorem empty_isLoad : empty.isLoad = false := rfl

theorem empty_quiet : empty.Quiet := quiet_of_opcode empty_opcode (by decide) (by decide)

end Report

namespace Protocol

/-! ### Protocols without builders -/

section

variable {protocol : FfbProtocol} (unsupported : protocol ≠ .logitechClassic)

include unsupported

theorem empty_of_unsupported (builder : FfbProtocol → Report)
    (hidpp : builder .logitechHidpp = .empty) (count : builder .count = .empty) :
    builder protocol = .empty := by
  cases protocol with
  | logitechClassic => exact False.elim (unsupported rfl)
  | logitechHidpp => exact hidpp
  | count => exact count

theorem setLedPattern_of_unsupported (pattern : U8) : setLedPattern protocol pattern = .empty :=
  empty_of_unsupported unsupported (fun protocol => setLedPattern protocol pattern) rfl rfl

theorem setRange_of_unsupported (range : U16) : setRange protocol range = .empty :=
  empty_of_unsupported unsupported (fun protocol => setRange protocol range) rfl rfl

theorem disableAutocenter_of_unsupported (slots : U8) :
    disableAutocenter protocol slots = .empty :=
  empty_of_unsupported unsupported (fun protocol => disableAutocenter protocol slots) rfl rfl

theorem enableAutocenter_of_unsupported (slots : U8) :
    enableAutocenter protocol slots = .empty :=
  empty_of_unsupported unsupported (fun protocol => enableAutocenter protocol slots) rfl rfl

theorem setAutocenter_of_unsupported (force : Force) : setAutocenter protocol force = .empty :=
  empty_of_unsupported unsupported (fun protocol => setAutocenter protocol force) rfl rfl

theorem constantForce_of_unsupported (force : Force) : constantForce protocol force = .empty :=
  empty_of_unsupported unsupported (fun protocol => constantForce protocol force) rfl rfl

theorem springForce_of_unsupported (force : Force) : springForce protocol force = .empty :=
  empty_of_unsupported unsupported (fun protocol => springForce protocol force) rfl rfl

theorem damperForce_of_unsupported (force : Force) : damperForce protocol force = .empty :=
  empty_of_unsupported unsupported (fun protocol => damperForce protocol force) rfl rfl

theorem trapezoidForce_of_unsupported (force : Force) : trapezoidForce protocol force = .empty :=
  empty_of_unsupported unsupported (fun protocol => trapezoidForce protocol force) rfl rfl

theorem downloadForce_of_unsupported (force : Force) :
    downloadForce protocol force = .empty := by
  unfold downloadForce
  cases force.type with
  | constant => exact constantForce_of_unsupported unsupported force
  | spring => exact springForce_of_unsupported unsupported force
  | damper => exact damperForce_of_unsupported unsupported force
  | trapezoid => exact trapezoidForce_of_unsupported unsupported force
  | count => rfl

theorem playForce_of_unsupported (slots : U8) : playForce protocol slots = .empty :=
  empty_of_unsupported unsupported (fun protocol => playForce protocol slots) rfl rfl

theorem stopForce_of_unsupported (slots : U8) : stopForce protocol slots = .empty :=
  empty_of_unsupported unsupported (fun protocol => stopForce protocol slots) rfl rfl

end

/-- What holds of the empty report holds under every protocol, if it does under
the classic one. -/
theorem of_classic (builder : FfbProtocol → Report) (Holds : Report → Prop)
    (empty : Holds .empty)
    (rejects : ∀ protocol, protocol ≠ .logitechClassic → builder protocol = .empty)
    (classic : Holds (builder .logitechClassic)) (protocol : FfbProtocol) :
    Holds (builder protocol) := by
  by_cases supported : protocol = .logitechClassic
  · subst supported
    exact classic
  · rw [rejects protocol supported]
    exact empty

theorem downloadForce_classic_command (force : Force) (known : force.type ≠ .count) :
    (downloadForce .logitechClassic force).command = force.params.slot <<< 4 := by
  unfold downloadForce
  cases kind : force.type with
  | count => exact False.elim (known kind)
  | constant => rfl
  | spring => rfl
  | damper => rfl
  | trapezoid => rfl

theorem downloadForce_opcode (protocol : FfbProtocol) (force : Force) :
    (downloadForce protocol force).opcode = 0 := by
  by_cases classic : protocol = .logitechClassic
  · subst classic
    by_cases known : force.type = .count
    · have rejected : downloadForce .logitechClassic force = .empty := by
        unfold downloadForce
        rw [known]
      rw [rejected]
      rfl
    · unfold Report.opcode
      rw [downloadForce_classic_command force known, Nibble.low_shift]
  · rw [downloadForce_of_unsupported classic]
    rfl

theorem downloadForce_slots (force : Force) (known : force.type ≠ .count) :
    (downloadForce .logitechClassic force).slots = Nibble.low force.params.slot := by
  unfold Report.slots
  rw [downloadForce_classic_command force known, Nibble.high_shift]

theorem refreshForce_command (protocol : FfbProtocol) (force : Force) :
    (refreshForce protocol force).command =
      Nibble.pack (downloadForce protocol force).slots 0x0C := by
  unfold refreshForce
  rw [Report.setCommand_command, Nibble.overwrite_eq_pack]
  rfl

/-- A refresh report differs from the download report in its opcode alone. -/
theorem refreshForce_opcode (protocol : FfbProtocol) (force : Force) :
    (refreshForce protocol force).opcode = 0x0C := by
  unfold Report.opcode
  rw [refreshForce_command, Nibble.low_pack]
  rfl

theorem refreshForce_slots (protocol : FfbProtocol) (force : Force) :
    (refreshForce protocol force).slots = (downloadForce protocol force).slots := by
  have short : Nibble.low (downloadForce protocol force).slots =
      (downloadForce protocol force).slots := by
    unfold Report.slots
    generalize (downloadForce protocol force).command = byte
    revert byte
    decide
  unfold Report.slots at *
  rw [refreshForce_command, Nibble.high_pack]
  unfold Report.slots
  rw [short]
  exact BitVec.or_zero

theorem refreshForce_payload (protocol : FfbProtocol) (force : Force) :
    (refreshForce protocol force).payload = (downloadForce protocol force).payload :=
  Report.setCommand_payload _ _

theorem playForce_opcode (slots : U8) : (playForce .logitechClassic slots).opcode = 0x02 :=
  Nibble.low_pack_of_lt slots (by decide)

theorem playForce_slots (slots : U8) :
    (playForce .logitechClassic slots).slots = Nibble.low slots :=
  Nibble.high_pack_of_lt slots (by decide)

theorem stopForce_opcode (slots : U8) : (stopForce .logitechClassic slots).opcode = 0x03 :=
  Nibble.low_pack_of_lt slots (by decide)

theorem stopForce_slots (slots : U8) :
    (stopForce .logitechClassic slots).slots = Nibble.low slots :=
  Nibble.high_pack_of_lt slots (by decide)

theorem enableAutocenter_opcode (slots : U8) :
    (enableAutocenter .logitechClassic slots).opcode = 0x04 :=
  Nibble.low_pack_of_lt slots (by decide)

theorem enableAutocenter_slots (slots : U8) :
    (enableAutocenter .logitechClassic slots).slots = Nibble.low slots :=
  Nibble.high_pack_of_lt slots (by decide)

theorem disableAutocenter_opcode (slots : U8) :
    (disableAutocenter .logitechClassic slots).opcode = 0x05 :=
  Nibble.low_pack_of_lt slots (by decide)

theorem disableAutocenter_slots (slots : U8) :
    (disableAutocenter .logitechClassic slots).slots = Nibble.low slots :=
  Nibble.high_pack_of_lt slots (by decide)

theorem setLedPattern_opcode (pattern : U8) :
    (setLedPattern .logitechClassic pattern).opcode = 0x08 := by
  simp [setLedPattern, Report.opcode, Nibble.low]

theorem setRange_opcode (range : U16) : (setRange .logitechClassic range).opcode = 0x08 := by
  simp [setRange, Report.opcode, Nibble.low]

theorem playForce_isPlay (slots : U8) : (playForce .logitechClassic slots).isPlay = true := by
  unfold Report.isPlay
  rw [playForce_opcode]
  rfl

theorem playForce_isStop (slots : U8) : (playForce .logitechClassic slots).isStop = false := by
  unfold Report.isStop
  rw [playForce_opcode]
  rfl

theorem stopForce_isPlay (slots : U8) : (stopForce .logitechClassic slots).isPlay = false := by
  unfold Report.isPlay
  rw [stopForce_opcode]
  rfl

theorem stopForce_isStop (slots : U8) : (stopForce .logitechClassic slots).isStop = true := by
  unfold Report.isStop
  rw [stopForce_opcode]
  rfl

theorem downloadForce_quiet (protocol : FfbProtocol) (force : Force) :
    (downloadForce protocol force).Quiet :=
  Report.quiet_of_opcode (downloadForce_opcode protocol force) (by decide) (by decide)

theorem refreshForce_quiet (protocol : FfbProtocol) (force : Force) :
    (refreshForce protocol force).Quiet :=
  Report.quiet_of_opcode (refreshForce_opcode protocol force) (by decide) (by decide)

theorem enableAutocenter_quiet (protocol : FfbProtocol) (slots : U8) :
    (enableAutocenter protocol slots).Quiet := by
  refine of_classic (fun protocol => enableAutocenter protocol slots) Report.Quiet Report.empty_quiet ?_ ?_ protocol
  · exact fun _ unsupported => enableAutocenter_of_unsupported unsupported slots
  · exact Report.quiet_of_opcode (enableAutocenter_opcode slots) (by decide) (by decide)

theorem disableAutocenter_quiet (protocol : FfbProtocol) (slots : U8) :
    (disableAutocenter protocol slots).Quiet := by
  refine of_classic (fun protocol => disableAutocenter protocol slots) Report.Quiet Report.empty_quiet ?_ ?_ protocol
  · exact fun _ unsupported => disableAutocenter_of_unsupported unsupported slots
  · exact Report.quiet_of_opcode (disableAutocenter_opcode slots) (by decide) (by decide)

theorem setLedPattern_quiet (protocol : FfbProtocol) (pattern : U8) :
    (setLedPattern protocol pattern).Quiet := by
  refine of_classic (fun protocol => setLedPattern protocol pattern) Report.Quiet Report.empty_quiet ?_ ?_ protocol
  · exact fun _ unsupported => setLedPattern_of_unsupported unsupported pattern
  · exact Report.quiet_of_opcode (setLedPattern_opcode pattern) (by decide) (by decide)

theorem playForce_isLoad (protocol : FfbProtocol) (slots : U8) :
    (playForce protocol slots).isLoad = false := by
  refine of_classic (fun protocol => playForce protocol slots) (fun report => report.isLoad = false)
    Report.empty_isLoad ?_ ?_ protocol
  · exact fun _ unsupported => playForce_of_unsupported unsupported slots
  · exact Report.isLoad_of_opcode (playForce_opcode slots) (by decide) (by decide)

theorem stopForce_isLoad (protocol : FfbProtocol) (slots : U8) :
    (stopForce protocol slots).isLoad = false := by
  refine of_classic (fun protocol => stopForce protocol slots) (fun report => report.isLoad = false)
    Report.empty_isLoad ?_ ?_ protocol
  · exact fun _ unsupported => stopForce_of_unsupported unsupported slots
  · exact Report.isLoad_of_opcode (stopForce_opcode slots) (by decide) (by decide)

theorem enableAutocenter_isLoad (protocol : FfbProtocol) (slots : U8) :
    (enableAutocenter protocol slots).isLoad = false := by
  refine of_classic (fun protocol => enableAutocenter protocol slots) (fun report => report.isLoad = false)
    Report.empty_isLoad ?_ ?_ protocol
  · exact fun _ unsupported => enableAutocenter_of_unsupported unsupported slots
  · exact Report.isLoad_of_opcode (enableAutocenter_opcode slots) (by decide) (by decide)

theorem disableAutocenter_isLoad (protocol : FfbProtocol) (slots : U8) :
    (disableAutocenter protocol slots).isLoad = false := by
  refine of_classic (fun protocol => disableAutocenter protocol slots) (fun report => report.isLoad = false)
    Report.empty_isLoad ?_ ?_ protocol
  · exact fun _ unsupported => disableAutocenter_of_unsupported unsupported slots
  · exact Report.isLoad_of_opcode (disableAutocenter_opcode slots) (by decide) (by decide)

theorem setLedPattern_isLoad (protocol : FfbProtocol) (pattern : U8) :
    (setLedPattern protocol pattern).isLoad = false := by
  refine of_classic (fun protocol => setLedPattern protocol pattern) (fun report => report.isLoad = false)
    Report.empty_isLoad ?_ ?_ protocol
  · exact fun _ unsupported => setLedPattern_of_unsupported unsupported pattern
  · exact Report.isLoad_of_opcode (setLedPattern_opcode pattern) (by decide) (by decide)

theorem mem_initSequence {protocol : FfbProtocol} {deviceId : U32} {report : Report}
    (member : report ∈ initSequence protocol deviceId) :
    report = .of 0x30 0xf8 0x09 0x05 0x01 ∨ report = setRange .logitechClassic 900 := by
  unfold initSequence at member
  split at member
  · next classic =>
      subst classic
      split at member
      · simpa using member
      · split at member
        · simpa using member
        · cases member
  · cases member

theorem initSequence_quiet (protocol : FfbProtocol) (deviceId : U32) :
    ∀ report ∈ initSequence protocol deviceId, report.Quiet := by
  intro report member
  rcases mem_initSequence member with rfl | rfl
  · exact Report.quiet_of_opcode rfl (by decide) (by decide)
  · exact Report.quiet_of_opcode (setRange_opcode 900) (by decide) (by decide)

end Protocol

end Fffb
