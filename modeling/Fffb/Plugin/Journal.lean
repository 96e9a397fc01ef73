import Fffb.Plugin.Silence

/-
What the game's log tells.

Every call adds its own texts to the log and reads none of it.  The errors
among them stand for a failed initialization or for a frame without a wheel; the
warnings are about the game, which makes no difference otherwise.
-/

namespace Fffb

open FloatArith

variable {F : Type}

namespace Plugin

def withLogged (logged : List (ScsLogType × String)) (plugin : Plugin F) : Plugin F :=
  { plugin with logged := logged }

def versionWarnings (gameVersion minVersion impldVersion : U32) : List (ScsLogType × String) :=
  (if gameVersion < minVersion then
    [(.warning, "fffb::warning : game version too old, some stuff might be broken")] else []) ++
  (if scsGetMajorVersion gameVersion > scsGetMajorVersion impldVersion then
    [(.warning, "fffb::warning : game major version too new, some stuff might be broken")] else [])

def gameWarnings (params : InitParams) : List (ScsLogType × String) :=
  if params.gameId == SCS_GAME_ID_EUT2 then
    versionWarnings params.gameVersion SCS_TELEMETRY_EUT2_GAME_VERSION_1_00
      SCS_TELEMETRY_EUT2_GAME_VERSION_CURRENT
  else if params.gameId == SCS_GAME_ID_ATS then
    versionWarnings params.gameVersion SCS_TELEMETRY_ATS_GAME_VERSION_1_00
      SCS_TELEMETRY_ATS_GAME_VERSION_CURRENT
  else
    [(.warning, "fffb::warning : unknown game, some stuff might be broken")]

def outcomeTexts (registered calibrated : Bool) : List (ScsLogType × String) :=
  [(.message, "fffb::info : version checks passed"),
    (.message, "fffb::info : registering to events...")] ++
  if registered then
    [(.message, "fffb::info : event registration successful"),
      (.message, "fffb::info : registering to channels..."),
      (.message, "fffb::info : channel registration completed"),
      (.message, "fffb::info : initializing wheel...")] ++
    if calibrated then
      [(.message, "fffb::info : wheel calibration successful"),
        (.message, "fffb::info : wheel initialization successful"),
        (.message, "fffb::info : successfully initialized")]
    else
      [(.error, "fffb::error : wheel calibration failed!"),
        (.error, "fffb::error : failed to initialize wheel!")]
  else
    [(.error, "fffb::error : failed to register event callbacks!")]

def initTexts (params : InitParams) (calibrated : Bool) : List (ScsLogType × String) :=
  (.message, "fffb::info : version 0.1.2 starting initialization...") ::
    (gameWarnings params ++ outcomeTexts (eventsRegistered params) calibrated)

def initResult (registered calibrated : Bool) : ScsResult :=
  if registered && calibrated then .ok else .genericError

variable [FloatArith F]

/-- What an initialization of the right version makes of the state, but for the
log. -/
def initEnded (registered : Bool) (plugin : Plugin F) : Plugin F :=
  let logging : Plugin F := { plugin with gameLog := true }
  if registered then
    let ended := Wheel.calibrate.run plugin.rig
    if ended.1 then (logging.withRig ended.2).opened else logging.withRig ended.2
  else
    logging

omit [FloatArith F] in
theorem gameLogPrint_run_if {plugin : Plugin F} (logging : plugin.gameLog = true)
    (condition : Prop) [Decidable condition] (type : ScsLogType) (text : String) :
    (if condition then gameLogPrint type text else return () : PluginM F Unit).run plugin =
      some ((), plugin.log (if condition then [(type, text)] else [])) := by
  split
  · exact gameLogPrint_run logging type text
  · rw [log_nil]
    rfl

omit [FloatArith F] in
theorem checkGameVersion_run {plugin : Plugin F} (logging : plugin.gameLog = true)
    (gameVersion minVersion impldVersion : U32) :
    (checkGameVersion gameVersion minVersion impldVersion).run plugin =
      some ((), plugin.log (versionWarnings gameVersion minVersion impldVersion)) := by
  have tooNew : ∀ before : List (ScsLogType × String), _ := fun before =>
    @gameLogPrint_run_if F (plugin.log before) logging
      (scsGetMajorVersion gameVersion > scsGetMajorVersion impldVersion) _ .warning
      "fffb::warning : game major version too new, some stuff might be broken"
  unfold checkGameVersion versionWarnings
  by_cases old : gameVersion < minVersion
  · rw [if_pos old, if_pos old, run_bind_of_some (gameLogPrint_run logging _ _), ← log_log]
    exact tooNew _
  · rw [if_neg old, if_neg old, List.nil_append]
    exact gameLogPrint_run_if logging _ _ _

omit [FloatArith F] in
theorem checkVersions_run {plugin : Plugin F} (logging : plugin.gameLog = true)
    (params : InitParams) :
    (checkVersions params).run plugin = some ((), plugin.log (gameWarnings params)) := by
  unfold checkVersions gameWarnings
  split
  · exact checkGameVersion_run logging _ _ _
  · split
    · exact checkGameVersion_run logging _ _ _
    · exact gameLogPrint_run logging _ _

omit [FloatArith F] in
theorem initWheel_logs {plugin : Plugin F} (logging : plugin.gameLog = true) :
    initWheel.run plugin =
      some ((Wheel.calibrate.run plugin.rig).1,
        (plugin.withRig (Wheel.calibrate.run plugin.rig).2).log
          [if (Wheel.calibrate.run plugin.rig).1 then
            (.message, "fffb::info : wheel calibration successful")
          else
            (.error, "fffb::error : wheel calibration failed!")]) := by
  unfold initWheel
  rw [run_bind_of_some (onWheel_run Wheel.calibrate plugin)]
  cases (Wheel.calibrate.run plugin.rig).1 with
  | false =>
      rw [if_pos (by decide), run_bind_of_some (gameLogPrint_run (by exact logging) _ _)]
      rfl
  | true =>
      rw [if_neg (by decide), run_bind_of_some (gameLogPrint_run (by exact logging) _ _)]
      rfl

theorem scsTelemetryInit_run (params : InitParams) (plugin : Plugin F) :
    (scsTelemetryInit SCS_TELEMETRY_VERSION_1_01 params).run plugin =
      some (initResult (eventsRegistered params) (Wheel.calibrate.run plugin.rig).1,
        (plugin.initEnded (eventsRegistered params)).log
          (initTexts params (Wheel.calibrate.run plugin.rig).1)) := by
  let logging : Plugin F := { plugin with gameLog := true }
  have set : (modify fun plugin : Plugin F => { plugin with gameLog := true } :
      PluginM F Unit).run plugin = some ((), logging) := rfl
  unfold scsTelemetryInit initEnded initTexts outcomeTexts initResult
  rw [if_neg (not_not_intro rfl), run_bind_of_some set, run_bind_of_some (gameLogPrint_run rfl _ _),
    run_bind_of_some (checkVersions_run rfl params), run_bind_of_some (gameLogPrint_run rfl _ _),
    run_bind_of_some (gameLogPrint_run rfl _ _)]
  simp only [log_log]
  cases eventsRegistered params with
  | false =>
      rw [if_pos (by decide), run_bind_of_some (gameLogPrint_run rfl _ _), log_log]
      simp only [List.append_assoc]
      rfl
  | true =>
      rw [if_neg (by decide), run_bind_of_some (gameLogPrint_run rfl _ _),
        run_bind_of_some (gameLogPrint_run rfl _ _), run_bind_of_some (gameLogPrint_run rfl _ _),
        run_bind_of_some (gameLogPrint_run rfl _ _), run_bind_of_some (initWheel_logs rfl)]
      simp only [log_log, log_withRig]
      have sameRig : ∀ texts, (logging.log texts).rig = plugin.rig := fun _ => rfl
      rw [sameRig]
      cases calibrated : (Wheel.calibrate.run plugin.rig).1 with
      | false =>
          rw [if_pos (by decide), run_bind_of_some (gameLogPrint_run rfl _ _), log_log]
          simp only [List.append_assoc]
          rfl
      | true =>
          have reset : ∀ entered : Plugin F, (modify fun plugin : Plugin F =>
              { plugin with
                telemetryState := .zeroed
                lastTimestamp := -1
                telemetryPaused := true } : PluginM F Unit).run entered =
              some ((), entered.opened) := fun _ => rfl
          rw [if_neg (by decide), run_bind_of_some (gameLogPrint_run rfl _ _), log_log,
            run_bind_of_some (reset _), run_bind_of_some (gameLogPrint_run rfl _ _)]
          have moved : ∀ texts (entered : Plugin F),
              (entered.log texts).opened = entered.opened.log texts := fun _ _ => rfl
          rw [moved, log_log]
          simp only [List.append_assoc]
          rfl

/-! ### The texts of every call -/

def entries (plugin : Plugin F) : Callback F → List (ScsLogType × String)
  | .telemetryInit version params =>
      if version ≠ SCS_TELEMETRY_VERSION_1_01 then []
      else initTexts params (Wheel.calibrate.run plugin.rig).1
  | .frameEnd =>
      if !plugin.telemetryPaused && !plugin.simulator.wheel.device.isPresent then
        [(.error, "fffb::error : failed updating force feedback!")]
      else []
  | .paused => [(.message, "fffb::info : telemetry paused, force feedback stopped")]
  | .started => [(.message, "fffb::info : telemetry unpaused, resuming force feedback")]
  | _ => []

/-- The step as it is when the log behind it is another one. -/
def Writes (plugin : Plugin F) (callback : Callback F) : Prop :=
  ∀ logged, step (plugin.withLogged logged) callback =
    (step plugin callback).map (withLogged (logged ++ plugin.entries callback))

theorem telemetryInit_writes (plugin : Plugin F) (version : U32) (params : InitParams) :
    Writes plugin (.telemetryInit version params) := by
  intro logged
  unfold entries
  dsimp only
  by_cases supported : version = SCS_TELEMETRY_VERSION_1_01
  · subst supported
    rw [if_neg (not_not_intro rfl), step_of_telemetryInit (scsTelemetryInit_run params plugin),
      step_of_telemetryInit (scsTelemetryInit_run params (plugin.withLogged logged))]
    have ended : (plugin.withLogged logged).initEnded (eventsRegistered params) =
        (plugin.initEnded (eventsRegistered params)).withLogged logged := by
      unfold initEnded
      have sameRig : (plugin.withLogged logged).rig = plugin.rig := rfl
      rw [sameRig]
      dsimp only
      split
      · split
        · rfl
        · rfl
      · rfl
    rw [ended]
    rfl
  · rw [if_pos supported, List.append_nil,
      step_of_telemetryInit (scsTelemetryInit_run_of_unsupported supported params plugin),
      step_of_telemetryInit
        (scsTelemetryInit_run_of_unsupported supported params (plugin.withLogged logged))]
    rfl

theorem frameEnd_writes (plugin : Plugin F) : Writes plugin .frameEnd := by
  intro logged
  unfold entries
  cases paused : plugin.telemetryPaused with
  | true =>
      rw [step_frameEnd_of_paused plugin paused,
        step_frameEnd_of_paused (plugin.withLogged logged) paused]
      simp only [Bool.not_true, Bool.false_and, Bool.false_eq_true, if_false, List.append_nil]
      rfl
  | false =>
      cases present : plugin.simulator.wheel.device.isPresent with
      | false =>
          cases logging : plugin.gameLog with
          | false =>
              rw [step_frameEnd_of_running plugin paused (updateFfb_run_of_absent plugin _ present),
                step_frameEnd_of_running (plugin.withLogged logged) paused
                  (updateFfb_run_of_absent (plugin.withLogged logged) _ present),
                if_neg Bool.false_ne_true, gameLogPrint_run_of_null (by exact logging),
                gameLogPrint_run_of_null (by exact logging)]
              rfl
          | true =>
              rw [step_frameEnd_of_absent plugin paused present logging,
                step_frameEnd_of_absent (plugin.withLogged logged) paused present logging]
              rfl
      | true =>
          simp only [Bool.not_true, Bool.and_false, Bool.false_eq_true, if_false, List.append_nil]
          by_cases reached : plugin.ffbRateCount - 1 = 0
          · rw [step_frameEnd_of_due plugin ⟨paused, present, reached⟩,
              step_frameEnd_of_due (plugin.withLogged logged) ⟨paused, present, reached⟩]
            rfl
          · rw [step_frameEnd_of_waiting plugin paused present reached,
              step_frameEnd_of_waiting (plugin.withLogged logged) paused present reached]
            rfl

theorem paused_writes (plugin : Plugin F) : Writes plugin .paused := by
  intro logged
  cases logging : plugin.gameLog with
  | false =>
      rw [step_paused_of_null plugin logging, step_paused_of_null (plugin.withLogged logged) logging]
      rfl
  | true =>
      rw [step_paused plugin logging, step_paused (plugin.withLogged logged) logging]
      rfl

theorem started_writes (plugin : Plugin F) : Writes plugin .started := by
  intro logged
  cases logging : plugin.gameLog with
  | false =>
      rw [step_started_of_null plugin logging,
        step_started_of_null (plugin.withLogged logged) logging]
      rfl
  | true =>
      rw [step_started plugin logging, step_started (plugin.withLogged logged) logging]
      rfl

/-- No call reads the log, and each adds its own texts. -/
theorem step_writes (plugin : Plugin F) (callback : Callback F) : Writes plugin callback := by
  cases callback with
  | telemetryInit version params => exact telemetryInit_writes plugin version params
  | telemetryShutdown =>
      intro logged
      unfold entries
      rw [List.append_nil]
      rfl
  | frameStart info =>
      intro logged
      unfold entries
      rw [List.append_nil]
      rfl
  | frameEnd => exact frameEnd_writes plugin
  | paused => exact paused_writes plugin
  | started => exact started_writes plugin
  | channel registration value =>
      intro logged
      unfold entries
      rw [List.append_nil, step_channel, step_channel, Option.map_map]
      rfl

theorem step_logged {plugin next : Plugin F} {callback : Callback F}
    (stepped : step plugin callback = some next) :
    next.logged = plugin.logged ++ plugin.entries callback := by
  have writes := step_writes plugin callback plugin.logged
  have same : plugin.withLogged plugin.logged = plugin := rfl
  rw [same, stepped] at writes
  exact congrArg logged (Option.some.inj writes)

/-! ### Errors -/

/-- The call at this state ends in an error of its own: an initialization that
does not succeed though the version is right, or a frame that is not paused and
has no wheel. -/
def Troubled (plugin : Plugin F) : Callback F → Prop
  | .telemetryInit version params =>
      ∃ next, (scsTelemetryInit version params).run plugin = some (.genericError, next)
  | .frameEnd =>
      plugin.telemetryPaused = false ∧ plugin.simulator.wheel.device.isPresent = false
  | _ => False

def isError (entry : ScsLogType × String) : Bool := entry.1 == .error

omit [FloatArith F] in
theorem gameWarnings_warn (params : InitParams) :
    ∀ entry ∈ gameWarnings params, entry.1 = .warning := by
  have optional : ∀ (condition : Prop) [Decidable condition] (text : String),
      ∀ entry ∈ (if condition then [(ScsLogType.warning, text)] else []), entry.1 = .warning := by
    intro condition _ text entry member
    split at member
    · rw [List.mem_singleton.mp member]
    · cases member
  have versions : ∀ gameVersion minVersion impldVersion,
      ∀ entry ∈ versionWarnings gameVersion minVersion impldVersion, entry.1 = .warning := by
    intro gameVersion minVersion impldVersion entry member
    rcases List.mem_append.mp member with old | new
    · exact optional _ _ entry old
    · exact optional _ _ entry new
  unfold gameWarnings
  intro entry member
  split at member
  · exact versions _ _ _ entry member
  · split at member
    · exact versions _ _ _ entry member
    · rw [List.mem_singleton.mp member]

omit [FloatArith F] in
theorem initTexts_isError (params : InitParams) (calibrated : Bool) :
    (initTexts params calibrated).any isError = !(eventsRegistered params && calibrated) := by
  have warnings : (gameWarnings params).any isError = false := by
    apply List.any_eq_false.mpr
    intro entry member
    unfold isError
    rw [gameWarnings_warn params entry member]
    decide
  unfold initTexts
  rw [List.any_cons, List.any_append, warnings]
  cases eventsRegistered params <;> cases calibrated <;> rfl

theorem entries_isError_iff (plugin : Plugin F) (callback : Callback F) :
    (plugin.entries callback).any isError = true ↔ plugin.Troubled callback := by
  cases callback with
  | telemetryInit version params =>
      unfold entries Troubled
      dsimp only
      by_cases supported : version = SCS_TELEMETRY_VERSION_1_01
      · subst supported
        rw [if_neg (not_not_intro rfl), initTexts_isError, scsTelemetryInit_run]
        unfold initResult
        cases eventsRegistered params && (Wheel.calibrate.run plugin.rig).1 with
        | false => exact iff_of_true rfl ⟨_, rfl⟩
        | true => exact iff_of_false Bool.false_ne_true fun ⟨_, impossible⟩ => by cases impossible
      · rw [if_pos supported, scsTelemetryInit_run_of_unsupported supported]
        exact iff_of_false Bool.false_ne_true fun ⟨_, impossible⟩ => by cases impossible
  | frameEnd =>
      unfold entries Troubled
      dsimp only
      cases plugin.telemetryPaused with
      | true => exact iff_of_false Bool.false_ne_true fun both => Bool.noConfusion both.1
      | false =>
          cases plugin.simulator.wheel.device.isPresent with
          | true => exact iff_of_false Bool.false_ne_true fun both => Bool.noConfusion both.2
          | false => exact iff_of_true rfl ⟨rfl, rfl⟩
  | telemetryShutdown => exact iff_of_false Bool.false_ne_true id
  | frameStart info => exact iff_of_false Bool.false_ne_true id
  | paused => exact iff_of_false Bool.false_ne_true id
  | started => exact iff_of_false Bool.false_ne_true id
  | channel registration value => exact iff_of_false Bool.false_ne_true id

/-- In every run from the loading on, whatever fails, the log has an error
exactly when some initialization returned one or some frame was not paused and
had no wheel; a failing device adds nothing. -/
theorem errors_logged_iff {devices : List HidDevice} {outcome : Nat → Bool}
    {callbacks : List (Callback F)} {last : Plugin F}
    (ends : run (load devices outcome) callbacks = some last) :
    (∃ text, (.error, text) ∈ last.logged) ↔
      ∃ before callback after middle, callbacks = before ++ callback :: after ∧
        run (load devices outcome) before = some middle ∧ Troubled middle callback := by
  let Up : Plugin F → Prop := fun plugin => plugin.logged.any isError = true
  have kept : ∀ (state : Plugin F) (callback : Callback F) (next : Plugin F), True → True →
      step state callback = some next →
        True ∧ (Up next ↔ Troubled state callback ∨ Up state ∧ ¬ False) := by
    intro state callback next _ _ stepped
    refine ⟨trivial, ?_⟩
    change next.logged.any isError = true ↔ _
    rw [step_logged stepped, List.any_append, Bool.or_eq_true, entries_isError_iff, or_comm,
      and_iff_left not_false]
  have flag := Transition.run_flag_iff kept (fun _ _ => trivial) trivial ends
  have shown : Up last ↔ ∃ text, (.error, text) ∈ last.logged := by
    change last.logged.any isError = true ↔ _
    rw [List.any_eq_true]
    constructor
    · rintro ⟨⟨type, text⟩, member, isError⟩
      cases eq_of_beq isError
      exact ⟨text, member⟩
    · rintro ⟨text, member⟩
      exact ⟨_, member, rfl⟩
  rw [← shown, flag]
  constructor
  · rintro (⟨up, _⟩ | ⟨before, callback, after, middle, split, reached, troubled, _⟩)
    · cases up
    · exact ⟨before, callback, after, middle, split, reached, troubled⟩
  · rintro ⟨before, callback, after, middle, split, reached, troubled⟩
    exact Or.inr ⟨before, callback, after, middle, split, reached, troubled, fun _ _ => not_false⟩

def wheelless : List (Callback ℚ) :=
  [.telemetryInit SCS_TELEMETRY_VERSION_1_01 acceptingGame, .started, .frameEnd]

theorem errors_logged_iff_in_wheelless :
    ∃ last : Plugin ℚ, run (load [] fun _ => true) wheelless = some last ∧
      ((∃ text, (.error, text) ∈ last.logged) ↔
        ∃ before callback after middle, wheelless = before ++ callback :: after ∧
          run (load [] fun _ => true) before = some middle ∧ Troubled middle callback) := by
  have survives : (run (load [] fun _ => true : Plugin ℚ) wheelless).isSome = true := by
    decide +kernel
  obtain ⟨last, ends⟩ := Option.isSome_iff_exists.mp survives
  exact ⟨last, ends, errors_logged_iff ends⟩

/-! ### The game -/

/-- The same call, though perhaps from another game. -/
inductive SameButGame : Callback F → Callback F → Prop
  | init (version : U32) {params others : InitParams}
      (registers : params.registerForEvent = others.registerForEvent) :
      SameButGame (.telemetryInit version params) (.telemetryInit version others)
  | same (callback : Callback F) : SameButGame callback callback

def notices (logged : List (ScsLogType × String)) : List (ScsLogType × String) :=
  logged.filter fun entry => entry.1 != .warning

/-- The two plugins differ in nothing but the warnings that they have logged. -/
structure SameButWarnings (left right : Plugin F) : Prop where
  state : right = left.withLogged right.logged
  notices : notices right.logged = notices left.logged

omit [FloatArith F] in
theorem notices_append (first second : List (ScsLogType × String)) :
    notices (first ++ second) = notices first ++ notices second :=
  List.filter_append first second

omit [FloatArith F] in
theorem initTexts_notices (params : InitParams) (calibrated : Bool) :
    notices (initTexts params calibrated) =
      notices ((.message, "fffb::info : version 0.1.2 starting initialization...") ::
        outcomeTexts (eventsRegistered params) calibrated) := by
  have warnings : notices (gameWarnings params) = [] := by
    apply List.filter_eq_nil_iff.mpr
    intro entry member
    rw [gameWarnings_warn params entry member]
    decide
  have opening : ∀ text rest, notices ((.message, text) :: rest) =
      (.message, text) :: notices rest := fun _ _ => rfl
  unfold initTexts
  rw [opening, opening, notices_append, warnings, List.nil_append]

omit [FloatArith F] in
theorem entries_notices {left right : Callback F} (same : SameButGame left right)
    (plugin : Plugin F) : notices (plugin.entries right) = notices (plugin.entries left) := by
  cases same with
  | same callback => rfl
  | @init version params others registers =>
      have registered : eventsRegistered others = eventsRegistered params := by
        unfold eventsRegistered
        rw [registers]
      unfold entries
      dsimp only
      split
      · rfl
      · rw [initTexts_notices, initTexts_notices, registered]

/-- But for the log, an initialization is the same for every game. -/
theorem step_sameButGame {left right : Callback F} (same : SameButGame left right)
    (plugin : Plugin F) :
    (step plugin right).map (withLogged []) = (step plugin left).map (withLogged []) := by
  cases same with
  | same callback => rfl
  | @init version params others registers =>
      have registered : eventsRegistered others = eventsRegistered params := by
        unfold eventsRegistered
        rw [registers]
      by_cases supported : version = SCS_TELEMETRY_VERSION_1_01
      · subst supported
        rw [step_of_telemetryInit (scsTelemetryInit_run params plugin),
          step_of_telemetryInit (scsTelemetryInit_run others plugin), registered]
        rfl
      · rw [step_of_telemetryInit (scsTelemetryInit_run_of_unsupported supported params plugin),
          step_of_telemetryInit (scsTelemetryInit_run_of_unsupported supported others plugin)]

theorem SameButWarnings.step {left right : Plugin F} (same : SameButWarnings left right)
    {callback other : Callback F} (game : SameButGame callback other) :
    Option.Rel SameButWarnings (Plugin.step left callback) (Plugin.step right other) := by
  have written := step_writes left other right.logged
  rw [← same.state] at written
  have forgotten := step_sameButGame game left
  have texts := entries_notices game left
  rw [written]
  cases ended : Plugin.step left callback with
  | none =>
      rw [ended, Option.map_none, Option.map_eq_none_iff] at forgotten
      rw [forgotten]
      exact .none
  | some next =>
      rw [ended, Option.map_some, Option.map_eq_some_iff] at forgotten
      obtain ⟨reached, stepped, blank⟩ := forgotten
      rw [stepped]
      refine .some ⟨?_, ?_⟩
      · have relogged : ∀ (plugin : Plugin F) logged,
            (plugin.withLogged []).withLogged logged = plugin.withLogged logged := fun _ _ => rfl
        rw [← relogged reached, blank, relogged]
        rfl
      · change Plugin.notices (right.logged ++ left.entries other) = Plugin.notices next.logged
        rw [step_logged ended, notices_append, notices_append, same.notices, texts]

/-- No game is turned away or served otherwise: with other games in its
initializations a run goes the same way to the same state, and only the warnings
in the log differ. -/
theorem run_ignores_game {callbacks others : List (Callback F)}
    (same : List.Forall₂ SameButGame callbacks others) (plugin : Plugin F) :
    Option.Rel SameButWarnings (run plugin callbacks) (run plugin others) := by
  have kept : ∀ (left right : Plugin F) (callback other : Callback F),
      SameButGame callback other → SameButWarnings left right →
        Option.Rel SameButWarnings (step left callback) (step right other) :=
    fun _ _ _ _ game held => SameButWarnings.step held game
  have alike : SameButWarnings plugin plugin := ⟨rfl, rfl⟩
  exact Transition.run_matched kept same alike

def unknownGame : InitParams :=
  { acceptingGame with gameId := "rail" }

theorem run_ignores_game_from_unknown :
    Option.Rel SameButWarnings
      (run (load [.g29] fun _ => true)
        (.telemetryInit SCS_TELEMETRY_VERSION_1_01 acceptingGame :: pausedDrive))
      (run (load [.g29] fun _ => true)
        (.telemetryInit SCS_TELEMETRY_VERSION_1_01 unknownGame :: pausedDrive)) := by
  have opening : SameButGame (F := ℚ) (.telemetryInit SCS_TELEMETRY_VERSION_1_01 acceptingGame)
      (.telemetryInit SCS_TELEMETRY_VERSION_1_01 unknownGame) := .init _ rfl
  have rest : List.Forall₂ SameButGame pausedDrive pausedDrive :=
    List.forall₂_same.mpr fun callback _ => .same callback
  exact run_ignores_game (.cons opening rest) (load [.g29] fun _ => true)

end Plugin

end Fffb
