import Fffb.Foundation.Nibble

/-
The fixed-width integers of the driver and the eight-byte output report.
-/

namespace Fffb

abbrev U8 := BitVec 8
abbrev U16 := BitVec 16
abbrev U32 := BitVec 32
abbrev U64 := BitVec 64

abbrev FFFB_REPORT_MAX_LEN : Nat := 8

structure Report where
  data : Vector U8 FFFB_REPORT_MAX_LEN
  deriving DecidableEq, Repr

namespace Report

/-- A brace-initialized report; bytes that are not given are zero. -/
def of (byte0 : U8) (byte1 byte2 byte3 byte4 byte5 byte6 byte7 : U8 := 0) : Report :=
  { data := #v[byte0, byte1, byte2, byte3, byte4, byte5, byte6, byte7] }

/-- The report `{}` that every builder returns for a request it rejects. -/
def empty : Report := .of 0

/-- The first byte: a slot mask above a command nibble. -/
def command (report : Report) : U8 := report.data[0]

def setCommand (report : Report) (byte : U8) : Report :=
  { data := report.data.set 0 byte }

def opcode (report : Report) : U8 := Nibble.low report.command

def slots (report : Report) : U8 := Nibble.high report.command

/-- The second byte, which opens the parameters of a load. -/
def typeByte (report : Report) : U8 := report.data[1]

def payload (report : Report) : Vector U8 7 :=
  #v[report.data[1], report.data[2], report.data[3], report.data[4],
    report.data[5], report.data[6], report.data[7]]

@[simp] theorem of_command (byte0 byte1 byte2 byte3 byte4 byte5 byte6 byte7 : U8) :
    (Report.of byte0 byte1 byte2 byte3 byte4 byte5 byte6 byte7).command = byte0 := rfl

@[simp] theorem setCommand_command (report : Report) (byte : U8) :
    (report.setCommand byte).command = byte :=
  Vector.getElem_set_self _

@[simp] theorem setCommand_payload (report : Report) (byte : U8) :
    (report.setCommand byte).payload = report.payload := by
  unfold setCommand payload
  simp only [Vector.getElem_set_ne, ne_eq, OfNat.zero_ne_ofNat, not_false_eq_true,
    zero_ne_one]

theorem ext_of_payload {left right : Report} (commands : left.command = right.command)
    (payloads : left.payload = right.payload) : left = right := by
  obtain ⟨leftData⟩ := left
  obtain ⟨rightData⟩ := right
  unfold command at commands
  unfold payload at payloads
  simp only [Vector.mk.injEq, Array.mk.injEq, List.cons.injEq] at payloads
  obtain ⟨one, two, three, four, five, six, seven, -⟩ := payloads
  have datas : leftData = rightData := by
    apply Vector.ext
    intro index inside
    match index, inside with
    | 0, _ => exact commands
    | 1, _ => exact one
    | 2, _ => exact two
    | 3, _ => exact three
    | 4, _ => exact four
    | 5, _ => exact five
    | 6, _ => exact six
    | 7, _ => exact seven
  exact congrArg Report.mk datas

end Report

end Fffb
