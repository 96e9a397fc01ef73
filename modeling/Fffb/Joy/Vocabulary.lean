import Fffb.Joy.Calibration
import Fffb.Joy.ReportCodec

/-
What the driver says to a wheel of the classic protocol.

Of all commands of the protocol it uses some, with some arguments: it loads each
effect into the slots of that effect, plays a union of such slots, stops and
recenters all of them, shows a pattern of at most five LEDs and sets one range.
-/

namespace Fffb

namespace Nibble

theorem low_lt (byte : Byte) : low byte < 16 := by
  revert byte
  decide

theorem high_lt (byte : Byte) : high byte < 16 := by
  revert byte
  decide

end Nibble

namespace EncodedForce

def effect : EncodedForce → Effect
  | .constant _ => .constant
  | .spring _ _ _ _ _ _ _ => .spring
  | .damper _ _ _ _ => .damper
  | .trapezoid _ _ _ _ _ _ => .trapezoid

/-- Every parameter fits its field.  The bytes of the constant force and the
nibbles of the trapezoid always do. -/
def Fits : EncodedForce → Prop
  | .constant _ => True
  | .spring _ _ slopeLeft slopeRight invertLeft invertRight _ =>
      slopeLeft < 8 ∧ slopeRight < 8 ∧ invertLeft < 2 ∧ invertRight < 2
  | .damper slopeLeft slopeRight invertLeft invertRight =>
      slopeLeft < 8 ∧ slopeRight < 8 ∧ invertLeft < 2 ∧ invertRight < 2
  | .trapezoid _ _ _ _ slopeStepX slopeStepY => slopeStepX < 16 ∧ slopeStepY < 16

end EncodedForce

def Effect.slotsOf (chosen : Effect → Bool) : U8 :=
  (if chosen .constant then Effect.constant.defaultSlot else 0) |||
    (if chosen .spring then Effect.spring.defaultSlot else 0) |||
    (if chosen .damper then Effect.damper.defaultSlot else 0) |||
    (if chosen .trapezoid then Effect.trapezoid.defaultSlot else 0)

/-- The commands that the driver uses, with the arguments that it gives them. -/
def Command.Spoken : Command → Prop
  | .download slot force => slot = force.effect.defaultSlot ∧ force.Fits
  | .refresh slot force => slot = force.effect.defaultSlot ∧ force.Fits
  | .play slots => ∃ chosen, slots = Effect.slotsOf chosen
  | .stop slots => slots = 0x0F
  | .enableAutocenter slots => slots = 0x0F
  | .disableAutocenter slots => slots = 0x0F
  | .setLedPattern pattern => pattern < 32
  | .setRange range => range = 900

namespace Report

def nativeMode : Report := .of 0x30 0xf8 0x09 0x05 0x01

def Spoken (report : Report) : Prop :=
  report = nativeMode ∨ ∃ command, report.decode = some command ∧ command.Spoken

theorem three_bits_lt (byte : U8) : byte &&& 0b0111 < 8 := by
  revert byte
  decide

theorem one_bit_lt (byte : U8) : byte &&& 0b0001 < 2 := by
  revert byte
  decide

theorem five_bits_lt (byte : U8) : byte &&& 0b00011111 < 32 := by
  revert byte
  decide

/-- The builders cut a parameter off to its field, so that every force can be
read back as one that fits. -/
theorem decodeForce_springForce (force : Force) :
    ∃ encoded, decodeForce (Protocol.springForce .logitechClassic force).payload = some encoded ∧
      encoded.effect = .spring ∧ encoded.Fits := by
  let slopes := Nibble.pack (force.spring.slopeRight &&& 0b0111) (force.spring.slopeLeft &&& 0b0111)
  let inverts :=
    Nibble.pack (force.spring.invertRight &&& 0b0001) (force.spring.invertLeft &&& 0b0001)
  have slopeLeft := three_bits_lt force.spring.slopeLeft
  have slopeRight := three_bits_lt force.spring.slopeRight
  have invertLeft := one_bit_lt force.spring.invertLeft
  have invertRight := one_bit_lt force.spring.invertRight
  obtain ⟨slopesLow, slopesHigh⟩ :=
    nibbles_packed (lt_sixteen (by decide) slopeRight) (lt_sixteen (by decide) slopeLeft)
  obtain ⟨invertsLow, invertsHigh⟩ :=
    nibbles_packed (lt_sixteen (by decide) invertRight) (lt_sixteen (by decide) invertLeft)
  refine ⟨.spring force.spring.deadStart force.spring.deadEnd (Nibble.low slopes)
    (Nibble.high slopes) (Nibble.low inverts) (Nibble.high inverts) force.spring.amplitude,
    rfl, rfl, ?_⟩
  unfold EncodedForce.Fits slopes inverts
  dsimp only
  rw [slopesLow, slopesHigh, invertsLow, invertsHigh]
  exact ⟨slopeLeft, slopeRight, invertLeft, invertRight⟩

theorem decodeForce_damperForce (force : Force) :
    ∃ encoded, decodeForce (Protocol.damperForce .logitechClassic force).payload = some encoded ∧
      encoded.effect = .damper ∧ encoded.Fits :=
  ⟨.damper (force.damper.slopeLeft &&& 0b0111) (force.damper.slopeRight &&& 0b0111)
    (force.damper.invertLeft &&& 0b0001) (force.damper.invertRight &&& 0b0001), rfl, rfl,
    three_bits_lt _, three_bits_lt _, one_bit_lt _, one_bit_lt _⟩

theorem decodeForce_trapezoidForce (force : Force) :
    ∃ encoded, decodeForce (Protocol.trapezoidForce .logitechClassic force).payload =
        some encoded ∧ encoded.effect = .trapezoid ∧ encoded.Fits := by
  let steps := Nibble.pack force.trapezoid.slopeStepX force.trapezoid.slopeStepY
  exact ⟨.trapezoid force.trapezoid.amplitudeMax force.trapezoid.amplitudeMin
    force.trapezoid.tAtMax force.trapezoid.tAtMin (Nibble.high steps) (Nibble.low steps), rfl, rfl,
    Nibble.high_lt steps, Nibble.low_lt steps⟩

theorem decodeForce_effect (wheel : Wheel) (effect : Effect) :
    ∃ encoded, decodeForce (Protocol.downloadForce .logitechClassic (wheel.force effect)).payload =
        some encoded ∧ encoded.effect = effect ∧ encoded.Fits := by
  cases effect with
  | constant => exact ⟨.constant wheel.constant.amplitude, rfl, rfl, trivial⟩
  | spring => exact decodeForce_springForce _
  | damper => exact decodeForce_damperForce _
  | trapezoid => exact decodeForce_trapezoidForce _

theorem slots_effect {wheel : Wheel} (defaultSlots : wheel.DefaultSlots) (effect : Effect) :
    (Protocol.downloadForce .logitechClassic (wheel.force effect)).slots =
      effect.defaultSlot := by
  have known : (wheel.force effect).type ≠ .count := by
    cases effect <;> exact ForceType.noConfusion
  have slot : (wheel.force effect).params.slot = effect.defaultSlot := defaultSlots effect
  rw [Protocol.downloadForce_slots _ known, slot]
  cases effect <;> decide

theorem download_spoken {wheel : Wheel} (defaultSlots : wheel.DefaultSlots) (effect : Effect) :
    Spoken (Protocol.downloadForce .logitechClassic (wheel.force effect)) := by
  obtain ⟨encoded, decoded, rfl, fits⟩ := decodeForce_effect wheel effect
  have slots := slots_effect defaultSlots encoded.effect
  refine Or.inr ⟨.download encoded.effect.defaultSlot encoded, ?_, rfl, fits⟩
  unfold decode
  rw [if_pos (Protocol.downloadForce_opcode _ _), decoded, slots]
  rfl

theorem refresh_spoken {wheel : Wheel} (defaultSlots : wheel.DefaultSlots) (effect : Effect) :
    Spoken (Protocol.refreshForce .logitechClassic (wheel.force effect)) := by
  obtain ⟨encoded, decoded, rfl, fits⟩ := decodeForce_effect wheel effect
  have slots := slots_effect defaultSlots encoded.effect
  refine Or.inr ⟨.refresh encoded.effect.defaultSlot encoded, ?_, rfl, fits⟩
  unfold decode
  rw [Protocol.refreshForce_opcode, if_neg (by decide), if_pos rfl,
    Protocol.refreshForce_payload, Protocol.refreshForce_slots, decoded, slots]
  rfl

theorem request_spoken {request : Request} {command : Command} (inRange : request.InRange)
    (known : request.command? = some command) (spoken : command.Spoken) :
    Spoken request.report :=
  Or.inr ⟨command, (decode_request request inRange).trans known, spoken⟩

theorem slotsOf_lt (chosen : Effect → Bool) : Effect.slotsOf chosen < 16 := by
  unfold Effect.slotsOf
  cases chosen .constant <;> cases chosen .spring <;> cases chosen .damper <;>
    cases chosen .trapezoid <;> decide

theorem stop_spoken : Spoken (Protocol.stopForce .logitechClassic 0x0F) :=
  @request_spoken (.stop 0x0F) _ (by decide : (0x0F : U8) < 16) rfl rfl

theorem enableAutocenter_spoken : Spoken (Protocol.enableAutocenter .logitechClassic 0x0F) :=
  @request_spoken (.enableAutocenter 0x0F) _ (by decide : (0x0F : U8) < 16) rfl rfl

theorem disableAutocenter_spoken : Spoken (Protocol.disableAutocenter .logitechClassic 0x0F) :=
  @request_spoken (.disableAutocenter 0x0F) _ (by decide : (0x0F : U8) < 16) rfl rfl

/-- A longer pattern is cut off to the five LEDs. -/
theorem setLedPattern_spoken (pattern : U8) :
    Spoken (Protocol.setLedPattern .logitechClassic pattern) := by
  refine Or.inr ⟨.setLedPattern (pattern &&& 0b00011111), ?_, five_bits_lt pattern⟩
  unfold decode
  rw [Protocol.setLedPattern_opcode]
  rfl

theorem initSequence_spoken {protocol : FfbProtocol} {deviceId : U32} {report : Report}
    (member : report ∈ Protocol.initSequence protocol deviceId) : Spoken report := by
  rcases Protocol.mem_initSequence member with rfl | rfl
  · exact Or.inl rfl
  · exact @request_spoken (.setRange 900) _ trivial rfl rfl

end Report

/-! ### The transactions of a wheel -/

namespace Wheel

open Report

variable {wheel : Wheel}

theorem playBatch_spoken (defaultSlots : wheel.DefaultSlots)
    (classic : wheel.protocol = .logitechClassic) : ∀ report ∈ wheel.playBatch, Spoken report := by
  intro report member
  unfold playBatch at member
  have mask : wheel.enabledSlots = Effect.slotsOf wheel.enabled := by
    rw [enabledSlots_eq, defaultSlots, defaultSlots, defaultSlots, defaultSlots]
    rfl
  rw [List.mem_singleton.mp member, classic, mask]
  exact @request_spoken (.play _) _ (slotsOf_lt wheel.enabled) rfl ⟨wheel.enabled, rfl⟩

theorem downloads_spoken (defaultSlots : wheel.DefaultSlots)
    (classic : wheel.protocol = .logitechClassic) :
    ∀ report ∈ wheel.enabledReports Protocol.downloadForce, Spoken report := by
  intro report member
  obtain ⟨effect, _, rfl⟩ := (mem_enabledReports_iff _ wheel report).mp member
  rw [classic]
  exact download_spoken defaultSlots effect

theorem refreshes_spoken (defaultSlots : wheel.DefaultSlots)
    (classic : wheel.protocol = .logitechClassic) :
    ∀ report ∈ wheel.enabledReports Protocol.refreshForce, Spoken report := by
  intro report member
  obtain ⟨effect, _, rfl⟩ := (mem_enabledReports_iff _ wheel report).mp member
  rw [classic]
  exact refresh_spoken defaultSlots effect

theorem refreshBatch_spoken (defaultSlots : wheel.DefaultSlots)
    (classic : wheel.protocol = .logitechClassic) :
    ∀ report ∈ wheel.refreshBatch, Spoken report := by
  unfold refreshBatch
  split
  · exact refreshes_spoken defaultSlots classic
  · exact playBatch_spoken defaultSlots classic

theorem stopBatch_spoken (classic : wheel.protocol = .logitechClassic) :
    ∀ report ∈ wheel.stopBatch, Spoken report := by
  intro report member
  unfold stopBatch at member
  rw [List.mem_singleton.mp member, classic]
  exact stop_spoken

theorem calibrationBatches_spoken (defaultSlots : wheel.DefaultSlots)
    (classic : wheel.protocol = .logitechClassic) :
    ∀ report ∈ wheel.calibrationBatches.flatten, Spoken report := by
  have turning := turning_defaultSlots defaultSlots
  have shaking := shaking_defaultSlots (turning 160)
  have stop := stopBatch_spoken classic
  intro report member
  unfold calibrationBatches turnRightBatches turnLeftBatches shakeItBatches
    returnToCenterBatches at member
  simp only [List.cons_append, List.nil_append, List.flatten_cons, List.flatten_nil,
    List.mem_append, List.mem_cons, List.not_mem_nil, or_false, classic] at member
  rcases member with rfl | stops | right | play | left | stops | shake | play | stops | stops |
    rfl | rfl | stops
  · exact disableAutocenter_spoken
  · exact stop report stops
  · exact downloads_spoken (turning 96) classic report right
  · exact playBatch_spoken (turning 96) classic report play
  · exact refreshes_spoken (turning 160) classic report left
  · exact stop report stops
  · exact downloads_spoken shaking classic report shake
  · exact playBatch_spoken shaking classic report play
  · exact stop report stops
  · exact stop report stops
  · exact enableAutocenter_spoken
  · exact disableAutocenter_spoken
  · exact stop report stops

end Wheel

end Fffb
