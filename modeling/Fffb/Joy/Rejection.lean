import Fffb.Joy.Commands

/-
What the builders return for a request that they reject.

A builder rejects a protocol without reports, a force of no known type, and a
command that is meant for the other overload; each of these branches returns
the empty report.  A refresh rewrites the command byte of the download it is
built on, and it does so for a rejected download as well.
-/

namespace Fffb

inductive BuilderCall where
  | buildReportForSlots (cmdType : CommandType) (slots : U8)
  | buildReportForForce (cmdType : CommandType) (force : Force)
  | downloadForce (force : Force)
  | refreshForce (force : Force)
  | constantForce (force : Force)
  | springForce (force : Force)
  | damperForce (force : Force)
  | trapezoidForce (force : Force)
  | setAutocenter (force : Force)
  | playForce (slots : U8)
  | stopForce (slots : U8)
  | enableAutocenter (slots : U8)
  | disableAutocenter (slots : U8)
  | setLedPattern (pattern : U8)
  | setRange (range : U16)
  deriving DecidableEq, Repr

namespace BuilderCall

def report (protocol : FfbProtocol) : BuilderCall → Report
  | .buildReportForSlots cmdType slots => Protocol.buildReportForSlots protocol cmdType slots
  | .buildReportForForce cmdType force => Protocol.buildReportForForce protocol cmdType force
  | .downloadForce force => Protocol.downloadForce protocol force
  | .refreshForce force => Protocol.refreshForce protocol force
  | .constantForce force => Protocol.constantForce protocol force
  | .springForce force => Protocol.springForce protocol force
  | .damperForce force => Protocol.damperForce protocol force
  | .trapezoidForce force => Protocol.trapezoidForce protocol force
  | .setAutocenter force => Protocol.setAutocenter protocol force
  | .playForce slots => Protocol.playForce protocol slots
  | .stopForce slots => Protocol.stopForce protocol slots
  | .enableAutocenter slots => Protocol.enableAutocenter protocol slots
  | .disableAutocenter slots => Protocol.disableAutocenter protocol slots
  | .setLedPattern pattern => Protocol.setLedPattern protocol pattern
  | .setRange range => Protocol.setRange protocol range

def rejectsProtocol (protocol : FfbProtocol) : Bool := decide (protocol ≠ .logitechClassic)

def rejectsForce (protocol : FfbProtocol) (force : Force) : Bool :=
  decide (force.type = .count) || rejectsProtocol protocol

def rejects (protocol : FfbProtocol) : BuilderCall → Bool
  | .buildReportForSlots cmdType _ =>
      match cmdType with
      | .autoOff => rejectsProtocol protocol
      | .autoOn => rejectsProtocol protocol
      | .playForce => rejectsProtocol protocol
      | .stopForce => rejectsProtocol protocol
      | _ => true
  | .buildReportForForce cmdType force =>
      match cmdType with
      | .autoSet => rejectsProtocol protocol
      | .dlForce => rejectsForce protocol force
      | .refreshForce => rejectsForce protocol force
      | _ => true
  | .downloadForce force => rejectsForce protocol force
  | .refreshForce force => rejectsForce protocol force
  | _ => rejectsProtocol protocol

def refreshes : BuilderCall → Bool
  | .buildReportForForce .refreshForce _ => true
  | .refreshForce _ => true
  | _ => false

/-- If the call is rejected, its report is the empty one and so has no live
command byte. -/
def RejectsCleanly (protocol : FfbProtocol) (call : BuilderCall) : Prop :=
  call.rejects protocol = true →
    call.report protocol = .empty ∧ (call.report protocol).command = 0

end BuilderCall

namespace Protocol

open BuilderCall

theorem downloadForce_of_rejected {protocol : FfbProtocol} {force : Force}
    (rejected : rejectsForce protocol force = true) : downloadForce protocol force = .empty := by
  unfold rejectsForce rejectsProtocol at rejected
  simp only [Bool.or_eq_true, decide_eq_true_eq] at rejected
  rcases rejected with unknown | unsupported
  · unfold downloadForce
    rw [unknown]
  · exact downloadForce_of_unsupported unsupported force

theorem refreshForce_of_rejected {protocol : FfbProtocol} {force : Force}
    (rejected : rejectsForce protocol force = true) :
    refreshForce protocol force = .of 0x0C := by
  unfold refreshForce
  rw [downloadForce_of_rejected rejected]
  decide

end Protocol

namespace BuilderCall

open Protocol

/-- Every rejecting branch returns the empty report, but for a refresh. -/
theorem report_of_rejected {protocol : FfbProtocol} {call : BuilderCall}
    (rejected : call.rejects protocol = true) :
    call.report protocol = if call.refreshes then .of 0x0C else .empty := by
  have unsupported : rejectsProtocol protocol = true → protocol ≠ .logitechClassic :=
    of_decide_eq_true
  cases call with
  | buildReportForSlots cmdType slots =>
      cases cmdType with
      | autoOn => exact enableAutocenter_of_unsupported (unsupported rejected) slots
      | autoOff => exact disableAutocenter_of_unsupported (unsupported rejected) slots
      | playForce => exact playForce_of_unsupported (unsupported rejected) slots
      | stopForce => exact stopForce_of_unsupported (unsupported rejected) slots
      | _ => rfl
  | buildReportForForce cmdType force =>
      cases cmdType with
      | autoSet => exact setAutocenter_of_unsupported (unsupported rejected) force
      | dlForce => exact downloadForce_of_rejected rejected
      | refreshForce => exact refreshForce_of_rejected rejected
      | _ => rfl
  | downloadForce force => exact downloadForce_of_rejected rejected
  | refreshForce force => exact refreshForce_of_rejected rejected
  | setAutocenter force => exact setAutocenter_of_unsupported (unsupported rejected) force
  | playForce slots => exact playForce_of_unsupported (unsupported rejected) slots
  | stopForce slots => exact stopForce_of_unsupported (unsupported rejected) slots
  | enableAutocenter slots => exact enableAutocenter_of_unsupported (unsupported rejected) slots
  | disableAutocenter slots => exact disableAutocenter_of_unsupported (unsupported rejected) slots
  | setLedPattern pattern => exact setLedPattern_of_unsupported (unsupported rejected) pattern
  | setRange range => exact setRange_of_unsupported (unsupported rejected) range
  | constantForce force => exact constantForce_of_unsupported (unsupported rejected) force
  | springForce force => exact springForce_of_unsupported (unsupported rejected) force
  | damperForce force => exact damperForce_of_unsupported (unsupported rejected) force
  | trapezoidForce force => exact trapezoidForce_of_unsupported (unsupported rejected) force

/-- A rejected call is clean just when it asks for no refresh. -/
theorem rejectsCleanly_iff (protocol : FfbProtocol) (call : BuilderCall) :
    call.RejectsCleanly protocol ↔ (call.rejects protocol = true → call.refreshes = false) := by
  have live : (Report.of 0x0C).command ≠ 0 := by decide
  constructor
  · intro clean rejected
    have command := (clean rejected).2
    rw [report_of_rejected rejected] at command
    cases refreshing : call.refreshes with
    | false => rfl
    | true =>
        rw [refreshing, if_pos rfl] at command
        exact False.elim (live command)
  · intro condition rejected
    rw [report_of_rejected rejected, condition rejected]
    exact ⟨rfl, rfl⟩

def restingForce : Force :=
  .ofConstant
    { slot := FFFB_FORCE_SLOT_CONSTANT
      enabled := true
      amplitude := 0x80 }

/-- For a protocol without reports a refresh still makes a command. -/
theorem refresh_rejects_uncleanly :
    ¬ ∀ (protocol : FfbProtocol) (call : BuilderCall), call.RejectsCleanly protocol := by
  intro clean
  have command := (clean .count (.refreshForce restingForce) (by decide)).2
  have live : (Protocol.refreshForce .count restingForce).command ≠ 0 := by decide
  exact live command

end BuilderCall

end Fffb
