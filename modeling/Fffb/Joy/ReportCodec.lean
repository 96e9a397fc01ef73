import Fffb.Joy.Commands

/-
A decoder for the reports of the classic protocol.

A request is one call of a builder with its arguments; its command is what the
report can carry of them.  The builders keep three bits of a slope and one bit
of an invert flag, so a request is in range when nothing of it is cut off.
-/

namespace Fffb

inductive EncodedForce where
  | constant (amplitude : U8)
  | spring (deadStart deadEnd slopeLeft slopeRight invertLeft invertRight amplitude : U8)
  | damper (slopeLeft slopeRight invertLeft invertRight : U8)
  | trapezoid (amplitudeMax amplitudeMin tAtMax tAtMin slopeStepX slopeStepY : U8)
  deriving DecidableEq, Repr

inductive Command where
  | download (slot : U8) (force : EncodedForce)
  | refresh (slot : U8) (force : EncodedForce)
  | play (slots : U8)
  | stop (slots : U8)
  | enableAutocenter (slots : U8)
  | disableAutocenter (slots : U8)
  | setLedPattern (pattern : U8)
  | setRange (range : U16)
  deriving DecidableEq, Repr

inductive Request where
  | download (force : Force)
  | refresh (force : Force)
  | play (slots : U8)
  | stop (slots : U8)
  | enableAutocenter (slots : U8)
  | disableAutocenter (slots : U8)
  | setLedPattern (pattern : U8)
  | setRange (range : U16)
  deriving DecidableEq, Repr

namespace Force

/-- What a report encodes of a force; the type `count` has no encoding. -/
def encoded? (force : Force) : Option EncodedForce :=
  match force.type with
  | .constant => some (.constant force.constant.amplitude)
  | .spring =>
      some (.spring force.spring.deadStart force.spring.deadEnd force.spring.slopeLeft
        force.spring.slopeRight force.spring.invertLeft force.spring.invertRight
        force.spring.amplitude)
  | .damper =>
      some (.damper force.damper.slopeLeft force.damper.slopeRight force.damper.invertLeft
        force.damper.invertRight)
  | .trapezoid =>
      some (.trapezoid force.trapezoid.amplitudeMax force.trapezoid.amplitudeMin
        force.trapezoid.tAtMax force.trapezoid.tAtMin force.trapezoid.slopeStepX
        force.trapezoid.slopeStepY)
  | .count => none

def InRange (force : Force) : Prop :=
  force.params.slot < 16 ∧
    match force.type with
    | .constant => True
    | .spring =>
        force.spring.slopeLeft < 8 ∧ force.spring.slopeRight < 8 ∧
          force.spring.invertLeft < 2 ∧ force.spring.invertRight < 2
    | .damper =>
        force.damper.slopeLeft < 8 ∧ force.damper.slopeRight < 8 ∧
          force.damper.invertLeft < 2 ∧ force.damper.invertRight < 2
    | .trapezoid => force.trapezoid.slopeStepX < 16 ∧ force.trapezoid.slopeStepY < 16
    | .count => False

end Force

namespace Request

def report : Request → Report
  | .download force => Protocol.downloadForce .logitechClassic force
  | .refresh force => Protocol.refreshForce .logitechClassic force
  | .play slots => Protocol.playForce .logitechClassic slots
  | .stop slots => Protocol.stopForce .logitechClassic slots
  | .enableAutocenter slots => Protocol.enableAutocenter .logitechClassic slots
  | .disableAutocenter slots => Protocol.disableAutocenter .logitechClassic slots
  | .setLedPattern pattern => Protocol.setLedPattern .logitechClassic pattern
  | .setRange range => Protocol.setRange .logitechClassic range

def command? : Request → Option Command
  | .download force => force.encoded?.map (.download force.params.slot)
  | .refresh force => force.encoded?.map (.refresh force.params.slot)
  | .play slots => some (.play slots)
  | .stop slots => some (.stop slots)
  | .enableAutocenter slots => some (.enableAutocenter slots)
  | .disableAutocenter slots => some (.disableAutocenter slots)
  | .setLedPattern pattern => some (.setLedPattern pattern)
  | .setRange range => some (.setRange range)

def InRange : Request → Prop
  | .download force => force.InRange
  | .refresh force => force.InRange
  | .play slots => slots < 16
  | .stop slots => slots < 16
  | .enableAutocenter slots => slots < 16
  | .disableAutocenter slots => slots < 16
  | .setLedPattern pattern => pattern < 32
  | .setRange _ => True

end Request

namespace Report

/-! ### The decoder -/

def decodeForce (payload : Vector U8 7) : Option EncodedForce :=
  if payload[0] = 0x00 then
    some (.constant payload[1])
  else if payload[0] = 0x01 then
    some (.spring payload[1] payload[2] (Nibble.low payload[3]) (Nibble.high payload[3])
      (Nibble.low payload[4]) (Nibble.high payload[4]) payload[5])
  else if payload[0] = 0x02 then
    some (.damper payload[1] payload[3] payload[2] payload[4])
  else if payload[0] = 0x06 then
    some (.trapezoid payload[1] payload[2] payload[3] payload[4] (Nibble.high payload[5])
      (Nibble.low payload[5]))
  else
    none

/-- The commands under opcode eight, told apart by the next byte. -/
def decodeExtended (payload : Vector U8 7) : Option Command :=
  if payload[0] = 0x12 then
    some (.setLedPattern payload[1])
  else if payload[0] = 0x81 then
    some (.setRange (payload[2] ++ payload[1]))
  else
    none

def decode (report : Report) : Option Command :=
  if report.opcode = 0x00 then
    (decodeForce report.payload).map (.download report.slots)
  else if report.opcode = 0x0C then
    (decodeForce report.payload).map (.refresh report.slots)
  else if report.opcode = 0x02 then
    some (.play report.slots)
  else if report.opcode = 0x03 then
    some (.stop report.slots)
  else if report.opcode = 0x04 then
    some (.enableAutocenter report.slots)
  else if report.opcode = 0x05 then
    some (.disableAutocenter report.slots)
  else if report.opcode = 0x08 then
    decodeExtended report.payload
  else
    none

theorem three_bits (slope : U8) (fits : slope < 8) : slope &&& 0b0111 = slope := by
  revert slope
  decide

theorem one_bit (flag : U8) (fits : flag < 2) : flag &&& 0b0001 = flag := by
  revert flag
  decide

theorem five_bits (pattern : U8) (fits : pattern < 32) : pattern &&& 0b00011111 = pattern := by
  revert pattern
  decide

theorem lt_sixteen {byte bound : U8} (small : bound ≤ 16) (fits : byte < bound) : byte < 16 := by
  rw [BitVec.lt_def] at *
  rw [BitVec.le_def] at small
  omega

theorem range_halves (range : U16) :
    ((range &&& 0xFF00) >>> 8).truncate 8 ++ (range &&& 0x00FF).truncate 8 = range := by
  have lowMask : ∀ index < 8, (0x00FF : U16).getLsbD index = true := by decide
  have highMask : ∀ index < 8, (0xFF00 : U16).getLsbD (8 + index) = true := by decide
  apply BitVec.eq_of_getLsbD_eq
  intro index inside
  rw [BitVec.getLsbD_append]
  by_cases inLow : index < 8
  · rw [if_pos inLow, BitVec.truncate_eq_setWidth, BitVec.getLsbD_setWidth, BitVec.getLsbD_and,
      lowMask index inLow]
    simp [inLow]
  · have position : 8 + (index - 8) = index := by omega
    have inHigh : index - 8 < 8 := by omega
    rw [if_neg inLow, BitVec.truncate_eq_setWidth, BitVec.getLsbD_setWidth,
      BitVec.getLsbD_ushiftRight, BitVec.getLsbD_and, highMask _ inHigh, position]
    simp [inHigh]

theorem nibbles_packed {upper lower : U8} (upperFits : upper < 16) (lowerFits : lower < 16) :
    Nibble.low (Nibble.pack upper lower) = lower ∧
      Nibble.high (Nibble.pack upper lower) = upper := by
  constructor
  · exact Nibble.low_pack_of_lt upper lowerFits
  · rw [Nibble.high_pack_of_lt upper lowerFits, Nibble.low_of_lt upper upperFits]

theorem decodeForce_spring (force : Force)
    (slopeLeft : force.spring.slopeLeft < 8) (slopeRight : force.spring.slopeRight < 8)
    (invertLeft : force.spring.invertLeft < 2) (invertRight : force.spring.invertRight < 2) :
    decodeForce (Protocol.springForce .logitechClassic force).payload =
      some (.spring force.spring.deadStart force.spring.deadEnd force.spring.slopeLeft
        force.spring.slopeRight force.spring.invertLeft force.spring.invertRight
        force.spring.amplitude) := by
  let slopes := Nibble.pack (force.spring.slopeRight &&& 0b0111) (force.spring.slopeLeft &&& 0b0111)
  let inverts :=
    Nibble.pack (force.spring.invertRight &&& 0b0001) (force.spring.invertLeft &&& 0b0001)
  have slopesRead : Nibble.low slopes = force.spring.slopeLeft ∧
      Nibble.high slopes = force.spring.slopeRight := by
    unfold slopes
    rw [three_bits _ slopeLeft, three_bits _ slopeRight]
    exact nibbles_packed (lt_sixteen (by decide) slopeRight) (lt_sixteen (by decide) slopeLeft)
  have invertsRead : Nibble.low inverts = force.spring.invertLeft ∧
      Nibble.high inverts = force.spring.invertRight := by
    unfold inverts
    rw [one_bit _ invertLeft, one_bit _ invertRight]
    exact nibbles_packed (lt_sixteen (by decide) invertRight) (lt_sixteen (by decide) invertLeft)
  change some (EncodedForce.spring force.spring.deadStart force.spring.deadEnd
    (Nibble.low slopes) (Nibble.high slopes) (Nibble.low inverts) (Nibble.high inverts)
    force.spring.amplitude) = _
  rw [slopesRead.1, slopesRead.2, invertsRead.1, invertsRead.2]

theorem decodeForce_damper (force : Force)
    (slopeLeft : force.damper.slopeLeft < 8) (slopeRight : force.damper.slopeRight < 8)
    (invertLeft : force.damper.invertLeft < 2) (invertRight : force.damper.invertRight < 2) :
    decodeForce (Protocol.damperForce .logitechClassic force).payload =
      some (.damper force.damper.slopeLeft force.damper.slopeRight force.damper.invertLeft
        force.damper.invertRight) := by
  change some (EncodedForce.damper (force.damper.slopeLeft &&& 0b0111)
    (force.damper.slopeRight &&& 0b0111) (force.damper.invertLeft &&& 0b0001)
    (force.damper.invertRight &&& 0b0001)) = _
  rw [three_bits _ slopeLeft, three_bits _ slopeRight, one_bit _ invertLeft,
    one_bit _ invertRight]

theorem decodeForce_trapezoid (force : Force)
    (stepX : force.trapezoid.slopeStepX < 16) (stepY : force.trapezoid.slopeStepY < 16) :
    decodeForce (Protocol.trapezoidForce .logitechClassic force).payload =
      some (.trapezoid force.trapezoid.amplitudeMax force.trapezoid.amplitudeMin
        force.trapezoid.tAtMax force.trapezoid.tAtMin force.trapezoid.slopeStepX
        force.trapezoid.slopeStepY) := by
  let steps := Nibble.pack force.trapezoid.slopeStepX force.trapezoid.slopeStepY
  obtain ⟨lowRead, highRead⟩ := nibbles_packed stepX stepY
  change some (EncodedForce.trapezoid force.trapezoid.amplitudeMax force.trapezoid.amplitudeMin
    force.trapezoid.tAtMax force.trapezoid.tAtMin (Nibble.high steps) (Nibble.low steps)) = _
  unfold steps
  rw [lowRead, highRead]

theorem decodeForce_download (force : Force) (inRange : force.InRange) :
    decodeForce (Protocol.downloadForce .logitechClassic force).payload = force.encoded? := by
  obtain ⟨_, limits⟩ := inRange
  unfold Protocol.downloadForce Force.encoded?
  cases kind : force.type with
  | constant => rfl
  | spring =>
      rw [kind] at limits
      obtain ⟨slopeLeft, slopeRight, invertLeft, invertRight⟩ := limits
      exact decodeForce_spring force slopeLeft slopeRight invertLeft invertRight
  | damper =>
      rw [kind] at limits
      obtain ⟨slopeLeft, slopeRight, invertLeft, invertRight⟩ := limits
      exact decodeForce_damper force slopeLeft slopeRight invertLeft invertRight
  | trapezoid =>
      rw [kind] at limits
      exact decodeForce_trapezoid force limits.1 limits.2
  | count =>
      rw [kind] at limits
      exact False.elim limits

theorem slots_download (force : Force) (inRange : force.InRange) :
    (Protocol.downloadForce .logitechClassic force).slots = force.params.slot := by
  obtain ⟨slotFits, limits⟩ := inRange
  have known : force.type ≠ .count := by
    intro unknown
    rw [unknown] at limits
    exact limits
  rw [Protocol.downloadForce_slots force known, Nibble.low_of_lt _ slotFits]

/-! ### Round trip -/

theorem decode_request (request : Request) (inRange : request.InRange) :
    decode request.report = request.command? := by
  cases request with
  | download force =>
      have opcode : (Request.download force).report.opcode = 0x00 :=
        Protocol.downloadForce_opcode _ force
      unfold decode
      rw [if_pos opcode]
      unfold Request.report Request.command?
      rw [decodeForce_download force inRange, slots_download force inRange]
  | refresh force =>
      have opcode : (Request.refresh force).report.opcode = 0x0C :=
        Protocol.refreshForce_opcode _ force
      unfold decode
      rw [opcode, if_neg (by decide), if_pos rfl]
      unfold Request.report Request.command?
      rw [Protocol.refreshForce_payload, Protocol.refreshForce_slots,
        decodeForce_download force inRange, slots_download force inRange]
  | play slots =>
      have opcode : (Request.play slots).report.opcode = 0x02 := Protocol.playForce_opcode slots
      have named : (Request.play slots).report.slots = slots :=
        (Protocol.playForce_slots slots).trans (Nibble.low_of_lt slots inRange)
      unfold decode
      rw [opcode, named]
      rfl
  | stop slots =>
      have opcode : (Request.stop slots).report.opcode = 0x03 := Protocol.stopForce_opcode slots
      have named : (Request.stop slots).report.slots = slots :=
        (Protocol.stopForce_slots slots).trans (Nibble.low_of_lt slots inRange)
      unfold decode
      rw [opcode, named]
      rfl
  | enableAutocenter slots =>
      have opcode : (Request.enableAutocenter slots).report.opcode = 0x04 :=
        Protocol.enableAutocenter_opcode slots
      have named : (Request.enableAutocenter slots).report.slots = slots :=
        (Protocol.enableAutocenter_slots slots).trans (Nibble.low_of_lt slots inRange)
      unfold decode
      rw [opcode, named]
      rfl
  | disableAutocenter slots =>
      have opcode : (Request.disableAutocenter slots).report.opcode = 0x05 :=
        Protocol.disableAutocenter_opcode slots
      have named : (Request.disableAutocenter slots).report.slots = slots :=
        (Protocol.disableAutocenter_slots slots).trans (Nibble.low_of_lt slots inRange)
      unfold decode
      rw [opcode, named]
      rfl
  | setLedPattern pattern =>
      have opcode : (Request.setLedPattern pattern).report.opcode = 0x08 :=
        Protocol.setLedPattern_opcode pattern
      have extended : decodeExtended (Request.setLedPattern pattern).report.payload =
          some (.setLedPattern (pattern &&& 0b00011111)) := rfl
      unfold decode
      rw [opcode, extended, five_bits pattern inRange]
      rfl
  | setRange range =>
      have opcode : (Request.setRange range).report.opcode = 0x08 := Protocol.setRange_opcode range
      have extended : decodeExtended (Request.setRange range).report.payload =
          some (.setRange
            (((range &&& 0xFF00) >>> 8).truncate 8 ++ (range &&& 0x00FF).truncate 8)) := rfl
      unfold decode
      rw [opcode, extended, range_halves range]
      rfl

theorem command_isSome (request : Request) (inRange : request.InRange) :
    ∃ command, request.command? = some command := by
  have encodes : ∀ force : Force, force.InRange → ∃ encoded, force.encoded? = some encoded := by
    rintro force ⟨_, limits⟩
    unfold Force.encoded?
    cases kind : force.type with
    | constant => exact ⟨_, rfl⟩
    | spring => exact ⟨_, rfl⟩
    | damper => exact ⟨_, rfl⟩
    | trapezoid => exact ⟨_, rfl⟩
    | count =>
        rw [kind] at limits
        exact False.elim limits
  cases request with
  | download force =>
      obtain ⟨encoded, known⟩ := encodes force inRange
      refine ⟨.download force.params.slot encoded, ?_⟩
      simp only [Request.command?, known, Option.map_some]
  | refresh force =>
      obtain ⟨encoded, known⟩ := encodes force inRange
      refine ⟨.refresh force.params.slot encoded, ?_⟩
      simp only [Request.command?, known, Option.map_some]
  | play slots => exact ⟨_, rfl⟩
  | stop slots => exact ⟨_, rfl⟩
  | enableAutocenter slots => exact ⟨_, rfl⟩
  | disableAutocenter slots => exact ⟨_, rfl⟩
  | setLedPattern pattern => exact ⟨_, rfl⟩
  | setRange range => exact ⟨_, rfl⟩

/-- One decoder recovers command and arguments from the report of every request
in range, so reports are equal only when both are; and a refresh differs from
the download of the same force in its command nibble and nowhere else. -/
theorem reports_decodable :
    (∀ request : Request, request.InRange →
      ∃ command, request.command? = some command ∧ decode request.report = some command) ∧
    (∀ left right : Request, left.InRange → right.InRange →
      left.report = right.report → left.command? = right.command?) ∧
    ∀ force : Force,
      (Request.refresh force).report.opcode ≠ (Request.download force).report.opcode ∧
        (Request.refresh force).report.slots = (Request.download force).report.slots ∧
        (Request.refresh force).report.payload = (Request.download force).report.payload := by
  refine ⟨?_, ?_, ?_⟩
  · intro request inRange
    obtain ⟨command, known⟩ := command_isSome request inRange
    exact ⟨command, known, (decode_request request inRange).trans known⟩
  · intro left right leftInRange rightInRange same
    rw [← decode_request left leftInRange, ← decode_request right rightInRange, same]
  · intro force
    refine ⟨?_, Protocol.refreshForce_slots _ force, Protocol.refreshForce_payload _ force⟩
    have refreshed : (Request.refresh force).report.opcode = 0x0C :=
      Protocol.refreshForce_opcode _ force
    have downloaded : (Request.download force).report.opcode = 0x00 :=
      Protocol.downloadForce_opcode _ force
    rw [refreshed, downloaded]
    decide

def skewedSpring : Force :=
  .ofSpring
    { slot := FFFB_FORCE_SLOT_SPRING
      enabled := true
      deadStart := 126
      deadEnd := 130
      slopeLeft := 5
      slopeRight := 7
      invertLeft := 0
      invertRight := 1
      amplitude := 240 }

theorem reports_decodable_at_skewedSpring :
    ∃ command, (Request.refresh skewedSpring).command? = some command ∧
      decode (Request.refresh skewedSpring).report = some command :=
  reports_decodable.1 (.refresh skewedSpring)
    ⟨by decide, by decide, by decide, by decide, by decide⟩

end Report

end Fffb
