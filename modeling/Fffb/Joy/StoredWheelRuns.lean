import Fffb.Foundation.Simulation
import Fffb.Joy.StoredWheel
import Fffb.Joy.WheelUnqueued
import Fffb.Uti.VectorHeld

/-
The wheel with its vectors in memory does what the wheel with lists does, as
long as every request for memory is granted.
-/

namespace Fffb

open Simulation

namespace StoredWheel

/-- A rig in memory stands for a rig with a list. -/
structure Stores (outside : Nat → Option (List (Option Report))) (stored : StoredRig) (rig : Rig) :
    Prop where
  reliable : stored.heap.Reliable
  same : stored.rig = rig.unqueued
  queue : Uti.Holds outside stored.heap stored.reports rig.wheel.reports

section

variable {outside : Nat → Option (List (Option Report))}

theorem simulates_unstored {α : Type} {operation : WheelM α} (unqueued : Wheel.Unqueued operation) :
    Simulates (Stores outside) (unstored operation) operation := by
  intro stored rig stores
  obtain ⟨same, kept⟩ := unqueued rig
  refine ⟨{ stored with rig := (operation.run rig).2.unqueued }, ?_, ?_⟩
  · change some ((operation.run stored.rig).1,
      { stored with rig := (operation.run stored.rig).2 }) = _
    rw [stores.same, same]
  · exact
      { reliable := stores.reliable
        same := rfl
        queue := by
          rw [kept]
          exact stores.queue }

end

/-! ### Writing from memory -/

/-- The same rig, beside a queue and a memory that stay as they are. -/
def Beside (reports : Uti.Vector) (heap : Heap Report) (stored : StoredRig) (rig : Rig) : Prop :=
  stored = { rig := rig, reports := reports, heap := heap }

section

variable {reports : Uti.Vector} {heap : Heap Report}

theorem unstored_beside {α : Type} (operation : WheelM α) :
    Simulates (Beside reports heap) (unstored operation) operation := by
  rintro stored rig rfl
  exact ⟨_, rfl, rfl⟩

theorem memory_beside {α β : Type} {operation : HeapM Report α} {value : α}
    (ends : operation.run heap = some (value, heap)) {concrete : α → StoredM β}
    {abstract : WheelM β} (rest : Simulates (Beside reports heap) (concrete value) abstract) :
    Simulates (Beside reports heap) (memory operation >>= concrete) abstract := by
  rintro stored rig rfl
  obtain ⟨after, continued, beside⟩ := rest _ rig rfl
  refine ⟨after, ?_, beside⟩
  have stepped : (memory operation).run ⟨rig, reports, heap⟩ =
      some (value, ⟨rig, reports, heap⟩) := by
    change (operation.run heap).map _ = _
    rw [ends]
    rfl
  rw [StateT.run_bind, stepped]
  exact continued

theorem writeEach_beside {position : Pointer} {count : Nat} {values : List Report}
    (reads : heap.read position count = some values) :
    Simulates (Beside reports heap) (writeEach position count) (Wheel.writeEach values) := by
  induction count generalizing position values with
  | zero =>
      cases reads
      exact simulates_pure true
  | succ count ih =>
      obtain ⟨value, next, rest, rfl, peeked, advanced, later⟩ := Heap.read_succ_cases reads
      have loaded : (Heap.load position).run heap = some (value, heap) := by
        change (heap.peek position).map _ = _
        rw [peeked]
        rfl
      have moved : (StateT.lift (position.advance 1) : HeapM Report Pointer).run heap =
          some (next, heap) := by
        rw [advanced]
        rfl
      exact memory_beside loaded (simulates_checked (unstored_beside (Wheel.writeDevice value))
        (memory_beside moved (ih later)))

theorem writeReports_beside {vector : Uti.Vector} {values : List Report}
    (reads : heap.read vector.begin vector.size = some values) :
    Simulates (Beside reports heap) (writeReports vector) (Wheel.writeReports values) :=
  simulates_checked (unstored_beside Wheel.openDevice)
    (simulates_checked (writeEach_beside reads)
      (simulates_checked (unstored_beside Wheel.closeDevice) (simulates_pure true)))

end

theorem writeReports_run {stored : StoredRig} {vector : Uti.Vector} {values : List Report}
    (reads : stored.heap.read vector.begin vector.size = some values) :
    (writeReports vector).run stored =
      some (((Wheel.writeReports values).run stored.rig).1,
        { stored with rig := ((Wheel.writeReports values).run stored.rig).2 }) := by
  obtain ⟨after, ran, beside⟩ := writeReports_beside reads stored stored.rig rfl
  rw [ran, beside]

theorem memory_run {α : Type} {operation : HeapM Report α} {stored : StoredRig} {value : α}
    {heap : Heap Report} (ends : operation.run stored.heap = some (value, heap)) :
    (memory operation).run stored = some (value, { stored with heap := heap }) := by
  change (operation.run stored.heap).map _ = _
  rw [ends]
  rfl

theorem emplaceBackEach_run {inside : Nat → Option (List (Option Report))} {stored : StoredRig}
    {vector : Uti.Vector} {items : List Report} (reports : List Report)
    (holds : Uti.Holds inside stored.heap vector items) (reliable : stored.heap.Reliable) :
    ∃ next after, (emplaceBackEach vector reports).run stored =
        some (next, { stored with heap := after }) ∧
      Uti.Holds inside after next (items ++ reports) ∧ after.Reliable := by
  induction reports generalizing stored vector items with
  | nil =>
      rw [List.append_nil]
      exact ⟨vector, stored.heap, rfl, holds, reliable⟩
  | cons report rest ih =>
      obtain ⟨next, middle, pushed, further, still⟩ := holds.emplaceBack reliable report
      have ended : Uti.Holds inside { stored with heap := middle }.heap next (items ++ [report]) :=
        further
      obtain ⟨last, after, ends, final, remains⟩ := ih ended still
      rw [List.append_assoc] at final
      refine ⟨last, after, ?_, final, remains⟩
      rw [emplaceBackEach, StateT.run_bind, memory_run pushed]
      exact ends

section

variable {outside : Nat → Option (List (Option Report))}

/-- A vector of a function's own is filled, written and given back, and the
wheel is left as it would be without it. -/
theorem own_simulates {stored : StoredRig} {rig : Rig} (stores : Stores outside stored rig)
    {vector : Uti.Vector} {heap : Heap Report}
    (holds : Uti.Holds stored.heap.blocks heap vector []) (reliable : heap.Reliable)
    (reports : List Report) :
    ∃ filled middle, (emplaceBackEach vector reports).run { stored with heap := heap } =
        some (filled, { stored with heap := middle }) ∧ filled.size = reports.length ∧
      ∃ after, (writeOwn filled).run { stored with heap := middle } =
          some (((Wheel.writeReports reports).run rig).1, after) ∧
        Stores outside after ((Wheel.writeReports reports).run rig).2 := by
  have start : Uti.Holds stored.heap.blocks { stored with heap := heap }.heap vector [] := holds
  obtain ⟨filled, middle, pushed, full, still⟩ := emplaceBackEach_run reports start reliable
  rw [List.nil_append] at full
  refine ⟨filled, middle, pushed, (Heap.read_length full.reads).symm, ?_⟩
  have read : ({ stored with heap := middle } : StoredRig).heap.read filled.begin filled.size =
      some reports := full.reads
  obtain ⟨freed, destroyed, given, remains⟩ := full.destroy still
  obtain ⟨same, kept⟩ := Wheel.writeReports_unqueued reports rig
  refine ⟨{ stored with rig := ((Wheel.writeReports reports).run rig).2.unqueued, heap := freed },
    ?_, ?_⟩
  · rw [writeOwn, StateT.run_bind, writeReports_run read, stores.same, same]
    let written : StoredRig :=
      { stored with rig := ((Wheel.writeReports reports).run rig).2.unqueued, heap := middle }
    have ended : (memory filled.destroy).run written = some ((), { written with heap := freed }) :=
      memory_run destroyed
    change ((memory filled.destroy).run written).bind _ = _
    rw [ended]
    rfl
  · exact
      { reliable := remains
        same := rfl
        queue := by
          rw [kept]
          exact stores.queue.of_blocks given }

theorem ownFilled_simulates {stored : StoredRig} {rig : Rig} (stores : Stores outside stored rig)
    {vector : Uti.Vector} {heap : Heap Report}
    (holds : Uti.Holds stored.heap.blocks heap vector []) (reliable : heap.Reliable)
    (reports : List Report) :
    ∃ after, (do writeOwn (← emplaceBackEach vector reports)).run { stored with heap := heap } =
        some (((Wheel.writeReports reports).run rig).1, after) ∧
      Stores outside after ((Wheel.writeReports reports).run rig).2 := by
  obtain ⟨filled, middle, pushed, _, after, wrote, left⟩ :=
    own_simulates stores holds reliable reports
  refine ⟨after, ?_, left⟩
  rw [StateT.run_bind, pushed]
  exact wrote

theorem stores_enabledReports {stored : StoredRig} {rig : Rig} (stores : Stores outside stored rig)
    (build : FfbProtocol → Force → Report) :
    stored.rig.wheel.enabledReports build = rig.wheel.enabledReports build := by
  rw [stores.same]
  rfl

theorem enabledReports_simulates {capacity : Nat} (positive : 0 < capacity)
    (bounded : capacity < Uti.i64Max) (build : FfbProtocol → Force → Report) :
    Simulates (Stores outside)
      (do
        let reports ← memory (Uti.Vector.withCapacity capacity)
        let reports ← emplaceBackEach reports ((← get).rig.wheel.enabledReports build)
        writeOwn reports)
      (do Wheel.writeReports ((← get).wheel.enabledReports build)) := by
  intro stored rig stores
  obtain ⟨vector, heap, allocated, holds, reliable⟩ :=
    Uti.holds_withCapacity stored.heap stores.reliable positive bounded
  obtain ⟨after, ran, left⟩ := ownFilled_simulates stores holds reliable
    (rig.wheel.enabledReports build)
  refine ⟨after, ?_, left⟩
  rw [StateT.run_bind, memory_run allocated]
  change (do writeOwn (← emplaceBackEach vector (stored.rig.wheel.enabledReports build))).run
    { stored with heap := heap } = _
  rw [stores_enabledReports stores]
  exact ran

theorem downloadForces_simulates :
    Simulates (Stores outside) downloadForces Wheel.downloadForces :=
  enabledReports_simulates (by decide) (by decide) Protocol.downloadForce

theorem playing_simulates {α : Type} {concrete : Bool → StoredM α} {abstract : Bool → WheelM α}
    (each : ∀ playing, Simulates (Stores outside) (concrete playing) (abstract playing)) :
    Simulates (Stores outside) (do concrete (← get).rig.wheel.playing)
      (do abstract (← get).wheel.playing) := by
  refine simulates_get (fun stored : StoredRig => stored.rig.wheel.playing)
    (fun rig : Rig => rig.wheel.playing) ?_ each
  intro stored rig stores
  rw [stores.same]
  rfl

theorem refreshForces_simulates : Simulates (Stores outside) refreshForces Wheel.refreshForces := by
  let concrete : Bool → StoredM Bool := fun playing =>
    if !playing then
      unstored Wheel.playForces
    else do
      let reports ← memory (Uti.Vector.withCapacity 4)
      let reports ← emplaceBackEach reports
        ((← get).rig.wheel.enabledReports Protocol.refreshForce)
      writeOwn reports
  let abstract : Bool → WheelM Bool := fun playing =>
    if !playing then
      Wheel.playForces
    else do
      Wheel.writeReports ((← get).wheel.enabledReports Protocol.refreshForce)
  have each : ∀ playing, Simulates (Stores outside) (concrete playing) (abstract playing) := by
    intro playing
    cases playing with
    | false => exact simulates_unstored Wheel.playForces_unqueued
    | true => exact enabledReports_simulates (by decide) (by decide) Protocol.refreshForce
  exact playing_simulates each

theorem sequence_simulates (sequence : List Report) :
    Simulates (Stores outside)
      (do
        let sequence ← emplaceBackEach .empty sequence
        if sequence.size = 0 then
          memory sequence.destroy
          return true
        else
          writeOwn sequence)
      (do
        if sequence.isEmpty then return true
        Wheel.writeReports sequence) := by
  intro stored rig stores
  cases sequence with
  | nil => exact ⟨stored, rfl, stores⟩
  | cons report rest =>
      obtain ⟨filled, middle, pushed, size, after, wrote, left⟩ :=
        own_simulates stores (Uti.holds_empty stored.heap) stores.reliable (report :: rest)
      have some : ¬ filled.size = 0 := by
        rw [size]
        exact Nat.succ_ne_zero _
      refine ⟨after, ?_, left⟩
      rw [StateT.run_bind, pushed]
      exact (congrArg (fun sent : StoredM Bool => sent.run { stored with heap := middle })
        (if_neg some)).trans wrote

theorem initProtocol_simulates : Simulates (Stores outside) initProtocol Wheel.initProtocol := by
  refine simulates_get
    (fun stored : StoredRig =>
      Protocol.initSequence stored.rig.wheel.protocol stored.rig.wheel.device.deviceId)
    (fun rig : Rig => Protocol.initSequence rig.wheel.protocol rig.wheel.device.deviceId)
    ?_ sequence_simulates
  intro stored rig stores
  rw [stores.same]
  rfl

theorem enqueue_simulates (report : Report) :
    Simulates (Stores outside) (enqueue report) (Wheel.enqueue report) := by
  intro stored rig stores
  obtain ⟨next, heap, pushed, holds, reliable⟩ := stores.queue.emplaceBack stores.reliable report
  refine ⟨{ stored with reports := next, heap := heap }, ?_, ?_⟩
  · change ((memory (stored.reports.emplaceBack report)).run stored).bind _ = _
    rw [memory_run pushed]
    rfl
  · exact
      { reliable := reliable
        same := stores.same
        queue := holds }

theorem enqueueEach_simulates (reports : List Report) :
    Simulates (Stores outside) (enqueueEach reports) (Wheel.enqueueEach reports) := by
  induction reports with
  | nil => exact simulates_pure ()
  | cons report rest ih => exact simulates_bind (enqueue_simulates report) fun _ => ih

theorem flushReports_simulates : Simulates (Stores outside) flushReports Wheel.flushReports := by
  intro stored rig stores
  have read := stores.queue.reads
  obtain ⟨same, kept⟩ := Wheel.writeReports_unqueued rig.wheel.reports rig
  refine ⟨{ stored with
    rig := ((Wheel.writeReports rig.wheel.reports).run rig).2.unqueued
    reports := stored.reports.clear }, ?_, ?_⟩
  · change ((writeReports stored.reports).run stored).bind _ = _
    rw [writeReports_run read, stores.same, same]
    rfl
  · exact
      { reliable := stores.reliable
        same := rfl
        queue := stores.queue.clear }

theorem enqueueRead_simulates (build : Wheel → Report)
    (unqueued : ∀ rig : Rig, build rig.unqueued.wheel = build rig.wheel) :
    Simulates (Stores outside) (do enqueue (build (← get).rig.wheel))
      (do Wheel.enqueue (build (← get).wheel)) := by
  refine simulates_get (fun stored : StoredRig => build stored.rig.wheel)
    (fun rig : Rig => build rig.wheel) ?_ enqueue_simulates
  intro stored rig stores
  rw [stores.same, unqueued]

theorem enqueueEnabled_simulates (build : FfbProtocol → Force → Report) :
    Simulates (Stores outside) (do enqueueEach ((← get).rig.wheel.enabledReports build))
      (do Wheel.enqueueEach ((← get).wheel.enabledReports build)) :=
  simulates_get (fun stored : StoredRig => stored.rig.wheel.enabledReports build)
    (fun rig : Rig => rig.wheel.enabledReports build)
    (fun _ _ stores => stores_enabledReports stores build) enqueueEach_simulates

theorem qPlayForces_simulates : Simulates (Stores outside) qPlayForces Wheel.qPlayForces :=
  simulates_bind (simulates_unstored (Wheel.setPlaying_unqueued true)) fun _ =>
    enqueueRead_simulates (fun wheel => Protocol.playForce wheel.protocol wheel.enabledSlots)
      fun _ => rfl

theorem qRefreshForces_simulates :
    Simulates (Stores outside) qRefreshForces Wheel.qRefreshForces := by
  let concrete : Bool → StoredM Unit := fun playing => do
    if !playing then qPlayForces
    enqueueEach ((← get).rig.wheel.enabledReports Protocol.refreshForce)
  let abstract : Bool → WheelM Unit := fun playing => do
    if !playing then Wheel.qPlayForces
    Wheel.enqueueEach ((← get).wheel.enabledReports Protocol.refreshForce)
  have each : ∀ playing, Simulates (Stores outside) (concrete playing) (abstract playing) := by
    intro playing
    cases playing with
    | false =>
        exact simulates_bind qPlayForces_simulates fun _ =>
          enqueueEnabled_simulates Protocol.refreshForce
    | true => exact enqueueEnabled_simulates Protocol.refreshForce
  exact playing_simulates each

theorem performQueued_simulates (queued : Wheel.Queued) :
    Simulates (Stores outside) (performQueued queued) queued.perform := by
  cases queued with
  | disableAutocenter =>
      exact enqueueRead_simulates (fun wheel => Protocol.disableAutocenter wheel.protocol 0x0F)
        fun _ => rfl
  | enableAutocenter =>
      exact enqueueRead_simulates (fun wheel => Protocol.enableAutocenter wheel.protocol 0x0F)
        fun _ => rfl
  | downloadForces => exact enqueueEnabled_simulates Protocol.downloadForce
  | playForces => exact qPlayForces_simulates
  | stopForces =>
      exact simulates_bind (simulates_unstored (Wheel.setPlaying_unqueued false)) fun _ =>
        enqueueRead_simulates (fun wheel => Protocol.stopForce wheel.protocol 0x0F) fun _ => rfl
  | refreshForces => exact qRefreshForces_simulates
  | setLedPattern pattern =>
      exact enqueueRead_simulates (fun wheel => Protocol.setLedPattern wheel.protocol pattern)
        fun _ => rfl
  | assign constant spring damper trapezoid =>
      exact simulates_unstored (Wheel.assignEffects_unqueued constant spring damper trapezoid)

theorem turnRight_simulates : Simulates (Stores outside) turnRight Wheel.turnRight :=
  simulates_dropped (simulates_unstored (Wheel.modifyConstant_unqueued _))
    (simulates_dropped downloadForces_simulates
      (simulates_dropped (simulates_unstored Wheel.playForces_unqueued) (simulates_pure ())))

theorem turnLeft_simulates : Simulates (Stores outside) turnLeft Wheel.turnLeft :=
  simulates_dropped (simulates_unstored (Wheel.modifyConstant_unqueued _))
    (simulates_dropped refreshForces_simulates (simulates_pure ()))

theorem shakeIt_simulates : Simulates (Stores outside) shakeIt Wheel.shakeIt :=
  simulates_dropped (simulates_unstored Wheel.stopForces_unqueued)
    (simulates_dropped (simulates_unstored (Wheel.modifyConstant_unqueued _))
      (simulates_dropped (simulates_unstored (Wheel.modifyTrapezoid_unqueued _))
        (simulates_dropped downloadForces_simulates
          (simulates_dropped (simulates_unstored Wheel.playForces_unqueued)
            (simulates_dropped (simulates_unstored Wheel.stopForces_unqueued)
              (simulates_unstored (Wheel.modifyTrapezoid_unqueued _)))))))

theorem calibrate_simulates : Simulates (Stores outside) calibrate Wheel.calibrate := by
  let concrete : Bool → StoredM Bool := fun present => do
    if !present then return false
    if !(← unstored Wheel.disableAutocenter) then return false
    if !(← unstored Wheel.stopForces) then return false
    turnRight
    turnLeft
    shakeIt
    unstored Wheel.returnToCenter
    if !(← unstored Wheel.stopForces) then return false
    return true
  let abstract : Bool → WheelM Bool := fun present => do
    if !present then return false
    if !(← Wheel.disableAutocenter) then return false
    if !(← Wheel.stopForces) then return false
    Wheel.turnRight
    Wheel.turnLeft
    Wheel.shakeIt
    Wheel.returnToCenter
    if !(← Wheel.stopForces) then return false
    return true
  have stopped := @simulates_unstored outside _ _ Wheel.stopForces_unqueued
  have each : ∀ present, Simulates (Stores outside) (concrete present) (abstract present) := by
    intro present
    cases present with
    | false => exact simulates_pure false
    | true =>
        exact simulates_checked (simulates_unstored Wheel.disableAutocenter_unqueued)
          (simulates_checked stopped
            (simulates_dropped turnRight_simulates
              (simulates_dropped turnLeft_simulates
                (simulates_dropped shakeIt_simulates
                  (simulates_dropped (simulates_unstored Wheel.returnToCenter_unqueued)
                    (simulates_checked stopped (simulates_pure true)))))))
  refine simulates_get (fun stored : StoredRig => stored.rig.wheel.device.isPresent)
    (fun rig : Rig => rig.wheel.device.isPresent) ?_ each
  intro stored rig stores
  rw [stores.same]
  rfl

/-! ### A whole life -/

theorem perform_simulates (command : Wheel.Command) :
    Simulates (Stores outside) (perform command) (Wheel.perform command) := by
  cases command with
  | calibrate => exact calibrate_simulates
  | disableAutocenter => exact simulates_unstored Wheel.disableAutocenter_unqueued
  | enableAutocenter => exact simulates_unstored Wheel.enableAutocenter_unqueued
  | downloadForces => exact downloadForces_simulates
  | playForces => exact simulates_unstored Wheel.playForces_unqueued
  | stopForces => exact simulates_unstored Wheel.stopForces_unqueued
  | refreshForces => exact refreshForces_simulates
  | setLedPattern pattern => exact simulates_unstored (Wheel.setLedPattern_unqueued pattern)
  | queue queued =>
      exact simulates_bind (performQueued_simulates queued) fun _ => simulates_pure true
  | flushReports => exact flushReports_simulates

theorem performAll_simulates (commands : List Wheel.Command) :
    Simulates (Stores outside) (performAll commands) (Wheel.performAll commands) := by
  induction commands with
  | nil => exact simulates_pure []
  | cons command rest ih =>
      exact simulates_bind (perform_simulates command) fun _ =>
        simulates_bind ih fun _ => simulates_pure _

theorem destroy_simulates {stored : StoredRig} {rig : Rig} (stores : Stores outside stored rig) :
    ∃ freed, destroy.run stored = some ((), freed) ∧
      freed.rig = (Wheel.destroy.run rig).2.unqueued ∧ freed.heap.blocks = outside := by
  obtain ⟨after, ended, left⟩ := simulates_unstored Wheel.destroy_unqueued stored rig stores
  obtain ⟨heap, destroyed, given, _⟩ := left.queue.destroy left.reliable
  refine ⟨{ after with heap := heap }, ?_, left.same, given⟩
  rw [destroy, StateT.run_bind, ended]
  exact memory_run destroyed

end

/-- The constructor leaves a rig in memory that stands for the one it leaves
without. -/
theorem construct_stores (devices : List HidDevice) (line : Line Report) {heap : Heap Report}
    (reliable : heap.Reliable) :
    ∃ stored, construct devices line heap = some stored ∧
      Stores heap.blocks stored (Wheel.construct devices line) := by
  obtain ⟨device, protocol, folded, _⟩ := Wheel.foldl_consider devices Wheel.initial
  let rig : Rig := { wheel := devices.foldl Wheel.consider Wheel.initial, line := line }
  let start : StoredRig := { rig := rig, reports := .empty, heap := heap }
  have stores : Stores heap.blocks start rig :=
    { reliable := reliable
      same := by
        change rig = rig.unqueued
        dsimp only [rig]
        rw [folded]
        rfl
      queue := by
        change Uti.Holds heap.blocks heap .empty rig.wheel.reports
        dsimp only [rig]
        rw [folded]
        exact Uti.holds_empty heap }
  rw [Wheel.construct_eq]
  change ∃ stored, (if rig.wheel.device.isPresent = true then _ else _) = some stored ∧ _
  cases present : rig.wheel.device.isPresent with
  | false =>
      rw [if_neg Bool.false_ne_true, if_neg Bool.false_ne_true]
      exact ⟨start, rfl, stores⟩
  | true =>
      obtain ⟨after, sent, left⟩ := initProtocol_simulates start rig stores
      rw [if_pos rfl, if_pos rfl]
      refine ⟨after, ?_, left⟩
      change (initProtocol.run start).map _ = _
      rw [sent]
      rfl

/-- From its construction to its destruction, whatever is listed, asked of it
and answered by the device, a wheel whose vectors lie in memory is defined,
returns and sends what the wheel with lists does, and gives back all of its
memory. -/
theorem life_simulates (devices : List HidDevice) (line : Line Report) {heap : Heap Report}
    (reliable : heap.Reliable) (commands : List Wheel.Command) :
    ∃ constructed used freed, construct devices line heap = some constructed ∧
      (performAll commands).run constructed =
        some (((Wheel.performAll commands).run (Wheel.construct devices line)).1, used) ∧
      destroy.run used = some ((), freed) ∧
      used.rig = ((Wheel.performAll commands).run (Wheel.construct devices line)).2.unqueued ∧
      used.reports.items.run used.heap =
        some (((Wheel.performAll commands).run (Wheel.construct devices line)).2.wheel.reports,
          used.heap) ∧
      freed.rig.line =
        (Wheel.destroy.run
          ((Wheel.performAll commands).run (Wheel.construct devices line)).2).2.line ∧
      freed.heap.blocks = heap.blocks := by
  obtain ⟨constructed, built, stores⟩ := construct_stores devices line reliable
  obtain ⟨used, performed, left⟩ := performAll_simulates commands _ _ stores
  obtain ⟨freed, destroyed, ended, given⟩ := destroy_simulates left
  refine ⟨constructed, used, freed, built, performed, destroyed, left.same, ?_, ?_, given⟩
  · change (used.heap.read used.reports.begin used.reports.size).map _ = _
    rw [left.queue.reads]
    rfl
  · rw [ended]
    rfl

/-- A G29 that is calibrated, queued for and flushed, on a line where every
third call fails. -/
theorem life_simulates_g29 :
    ∃ constructed used freed,
      construct [.g29] (.idle fun position => position % 3 != 2) (.initial fun _ => true) =
        some constructed ∧
      (performAll [.calibrate, .queue .stopForces, .flushReports]).run constructed =
        some (((Wheel.performAll [.calibrate, .queue .stopForces, .flushReports]).run
          (Wheel.construct [.g29] (.idle fun position => position % 3 != 2))).1, used) ∧
      destroy.run used = some ((), freed) ∧
      freed.heap.blocks = (Heap.initial fun _ => true : Heap Report).blocks := by
  have reliable : (Heap.initial fun _ => true : Heap Report).Reliable := fun _ _ => rfl
  obtain ⟨constructed, used, freed, built, performed, destroyed, _, _, _, given⟩ :=
    life_simulates [.g29] (.idle fun position => position % 3 != 2) reliable
      [.calibrate, .queue .stopForces, .flushReports]
  exact ⟨constructed, used, freed, built, performed, destroyed, given⟩

end StoredWheel

end Fffb
