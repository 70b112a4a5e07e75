import Chip8.Proofs.Log.RateLimit
import Mathlib.Data.List.TakeWhile

namespace Chip8

/-!
# Logging that is switched off

The level of a category and the global level are what a run gave them last, or
`off` where it gave them none.  While both are `off`, a log call changes nothing
and its message is not made, unless the message itself has the level `off`:
that is not above any level, so the call is enabled and leaves a trace in the
window of its category.
-/

namespace Window

variable {window next : Window} {verdict : Verdict} {limit now : Nat} {kept : Array Nat}

/-- Forgetting times does not make up for the present one. -/
theorem dropWhile_isExpired_append_ne
    (times : List Nat)
    (now : Nat) :
    (times ++ [now]).dropWhile (isExpired now) ≠ times := by
  intro same
  have present : isExpired now now = false := by
    simp [isExpired]
  have forgotten : ((times ++ [now]).takeWhile (isExpired now)).count now = 0 := by
    rw [List.count_eq_zero]
    intro member
    have expired := List.mem_takeWhile_imp member
    rw [present] at expired
    cases expired
  have split :
      (times ++ [now]).takeWhile (isExpired now) ++ (times ++ [now]).dropWhile (isExpired now) =
        times ++ [now] :=
    List.takeWhile_append_dropWhile
  have counts := congrArg (List.count now) split
  rw [List.count_append, forgotten, same, List.count_append, List.count_singleton_self] at counts
  omega

/-- A decision never leaves a window as it was. -/
theorem Decides.next_ne
    (decides : window.Decides limit now kept verdict next)
    (keeps : kept.toList = window.admitted.toList.dropWhile (isExpired now)) :
    next ≠ window := by
  intro same
  have admitted := congrArg (fun window => window.admitted.toList) same
  have dropped := congrArg Window.dropped same
  have lastReport := congrArg Window.lastReport same
  cases decides with
  | pass | passReporting =>
      simp only [Array.toList_push] at admitted
      rw [← admitted] at keeps
      exact dropWhile_isExpired_append_ne _ _ keeps.symm
  | refuse =>
      simp at dropped
  | refuseReporting _ due =>
      have long := (window.mayReport_iff now).mp due now lastReport.symm
      rw [Nat.sub_self] at long
      exact absurd long (by decide)

/-- A window changes with every message that it judges. -/
theorem judge_ne
    (window : Window)
    (limit now : Nat) :
    (window.judge limit now).2 ≠ window :=
  (window.judge_decides limit now).next_ne (window.expire_admitted_toList now)

end Window

namespace Recorder

/-- The level of its own that an operation gives a category. -/
def Operation.ownLevel?
    (category : Category) :
    Operation → Option Level
  | .setLevel other level => if other = category then some level else none
  | .resetLevels => some .off
  | _ => none

/-- The global level that an operation gives. -/
def Operation.globalLevel? : Operation → Option Level
  | .setGlobalLevel level => some level
  | .resetLevels => some .off
  | _ => none

/-- The level that was given last, or `off` where none was given. -/
def lastGiven
    (given? : Operation → Option Level)
    (operations : List Operation) :
    Level :=
  (operations.reverse.findSome? given?).getD .off

/-- Whether an operation makes a message: a log call does when the message passes. -/
def makesMessage
    (recorder : Recorder)
    (operation : Operation) :
    Bool :=
  (recorder.call? operation).any fun call => call.verdict.admitted

/-- An operation that leaves no trace. -/
structure IsSilent
    (recorder : Recorder)
    (operation : Operation) : Prop where
  /-- Nothing is written anywhere. -/
  journal : (recorder.perform operation).journal = recorder.journal
  unmade : recorder.makesMessage operation = false
  /-- No time is kept or forgotten, nothing is counted and no report is noted. -/
  windows : (recorder.perform operation).logger.windows = recorder.logger.windows

variable {recorder : Recorder} {category : Category} {level : Level} {message : Unit → String}
  {operations : List Operation}

/-- A further operation gives its level, or leaves the last one that was given. -/
theorem lastGiven_append_singleton
    (given? : Operation → Option Level)
    (operations : List Operation)
    (operation : Operation) :
    lastGiven given? (operations ++ [operation]) =
      (given? operation).getD (lastGiven given? operations) := by
  rw [lastGiven, List.reverse_append, List.reverse_singleton, List.singleton_append,
    List.findSome?_cons]
  cases given? operation <;> rfl

/-- A log call gives no level. -/
theorem log_levels
    (recorder : Recorder)
    (category : Category)
    (level : Level)
    (message : Unit → String) :
    (recorder.perform (.log category level message)).logger.levels = recorder.logger.levels ∧
      (recorder.perform (.log category level message)).logger.globalLevel =
        recorder.logger.globalLevel := by
  have settings := recorder.log_settings category level message
  simp only [Logger.settings, Logger.mk.injEq] at settings
  exact ⟨settings.2.1, settings.1⟩

/-- The level that a category has of its own changes to what an operation gives it. -/
theorem perform_level
    (recorder : Recorder)
    (category : Category)
    (operation : Operation) :
    (recorder.perform operation).logger.level category =
      (operation.ownLevel? category).getD (recorder.logger.level category) := by
  cases operation with
  | setLevel other level =>
      have place : other.index = category.index ↔ other = category :=
        Category.index_injective.eq_iff
      simp [perform, Logger.setLevel, Logger.level, Operation.ownLevel?, Vector.getElem_set,
        Fin.val_inj, place]
      split <;> rfl
  | resetLevels =>
      cases category <;> rfl
  | log other level message =>
      rw [Logger.level, (recorder.log_levels other level message).1]
      rfl
  | _ =>
      rfl

/-- The global level changes to what an operation gives it. -/
theorem perform_globalLevel
    (recorder : Recorder)
    (operation : Operation) :
    (recorder.perform operation).logger.globalLevel =
      operation.globalLevel?.getD recorder.logger.globalLevel := by
  cases operation with
  | log other level message =>
      exact (recorder.log_levels other level message).2
  | _ =>
      rfl

/-- A level that every operation changes to what it gives is after a run the one given last. -/
theorem performAll_eq_lastGiven
    (view : Recorder → Level)
    {given? : Operation → Option Level}
    (initially : view initial = .off)
    (changes :
      ∀ recorder operation,
        view (recorder.perform operation) = (given? operation).getD (view recorder))
    (operations : List Operation) :
    view (initial.performAll operations) = lastGiven given? operations := by
  induction operations using List.reverseRecOn with
  | nil =>
      exact initially
  | append_singleton operations operation inductionHypothesis =>
      rw [performAll_append_singleton, changes, inductionHypothesis, lastGiven_append_singleton]

/-- After a run the level of a category is the one that it was given last. -/
theorem performAll_level
    (category : Category)
    (operations : List Operation) :
    (initial.performAll operations).logger.level category =
      lastGiven (Operation.ownLevel? category) operations := by
  have initially : initial.logger.level category = .off := by
    cases category <;> rfl
  exact performAll_eq_lastGiven (fun recorder => recorder.logger.level category) initially
    (fun recorder => recorder.perform_level category) operations

/-- After a run the global level is the one that was given last. -/
theorem performAll_globalLevel
    (operations : List Operation) :
    (initial.performAll operations).logger.globalLevel =
      lastGiven Operation.globalLevel? operations :=
  performAll_eq_lastGiven (fun recorder => recorder.logger.globalLevel) rfl perform_globalLevel
    operations

/-- With both levels off, the threshold is off, and only what is itself at `off` is enabled. -/
theorem enabled_iff_of_off
    {logger : Logger}
    (own : logger.level category = .off)
    (globally : logger.globalLevel = .off) :
    logger.enabled category level = true ↔ level = .off := by
  rw [Logger.enabled, decide_eq_true_iff, Logger.threshold, if_pos own, globally]
  cases level <;> decide

/-- A log call is silent exactly when its message is not enabled. -/
theorem isSilent_log_iff :
    recorder.IsSilent (.log category level message) ↔
      ¬recorder.logger.enabled category level = true := by
  have called := recorder.call?_log category level message
  constructor
  · intro silent enabled
    rw [if_pos enabled] at called
    have window := (makes_of_call? called).window_self
    rw [Recorder.window, silent.windows] at window
    exact Window.judge_ne _ _ _ window.symm
  · intro disabled
    rw [if_neg disabled] at called
    have unchanged : recorder.perform (.log category level message) = recorder := by
      simp [perform, log, Logger.log, Logger.judge, disabled]
    constructor
    case unmade =>
      rw [makesMessage, called]
      rfl
    all_goals rw [unchanged]

/--
After every run the levels are those that were given last.  While the level of a
category and the global level are `off`, a log call of the category writes
nothing, makes no message and counts nothing, exactly when its message is not at
`off` itself.
-/
theorem switchedOff_isSilent_iff
    (operations : List Operation)
    (category : Category)
    (level : Level)
    (message : Unit → String) :
    let recorder := initial.performAll operations
    recorder.logger.level category = lastGiven (Operation.ownLevel? category) operations ∧
      recorder.logger.globalLevel = lastGiven Operation.globalLevel? operations ∧
      (recorder.logger.level category = .off →
        recorder.logger.globalLevel = .off →
        (recorder.IsSilent (.log category level message) ↔ level ≠ .off)) := by
  intro recorder
  refine ⟨performAll_level category operations, performAll_globalLevel operations, ?_⟩
  intro own globally
  rw [isSilent_log_iff, enabled_iff_of_off own globally]

/-- Switch a category on, let it write, and switch everything off again. -/
def onAndOff : List Operation :=
  [ .setLimit 1, .setGlobalLevel .trace, .setLevel .cpu .debug, .log .cpu .info fun _ => "heard",
    .resetLevels, .choose "log" ]

/-- Behind such a run the most urgent messages leave no trace. -/
theorem onAndOff_isSilent :
    (initial.performAll onAndOff).logger.level .cpu = .off ∧
      (initial.performAll onAndOff).logger.globalLevel = .off ∧
      (initial.performAll onAndOff).IsSilent (.log .cpu .error fun _ => "unheard") := by
  obtain ⟨own, globally, silent⟩ :=
    switchedOff_isSilent_iff onAndOff .cpu .error fun _ => "unheard"
  have ownOff : lastGiven (Operation.ownLevel? .cpu) onAndOff = .off :=
    rfl
  have globallyOff : lastGiven Operation.globalLevel? onAndOff = .off :=
    rfl
  rw [ownOff] at own
  rw [globallyOff] at globally
  exact ⟨own, globally, (silent own globally).mpr (by decide)⟩

/-- With everything switched off, a message at `off` is still made, written and counted. -/
theorem offMessage_not_isSilent :
    let recorder := initial.performAll [.setGlobalLevel .trace, .resetLevels]
    let operation := Operation.log .cpu .off fun _ => "still here"
    recorder.logger.level .cpu = .off ∧
      recorder.logger.globalLevel = .off ∧
      recorder.makesMessage operation = true ∧
      (recorder.perform operation).journal.console = "still here\n" ∧
      ((recorder.perform operation).window .cpu).admitted = #[0] ∧
      ¬recorder.IsSilent operation := by
  intro recorder operation
  have made : recorder.makesMessage operation = true := by
    decide +kernel
  refine ⟨rfl, rfl, made, by decide +kernel, by decide +kernel, fun silent => ?_⟩
  have unmade := silent.unmade
  rw [made] at unmade
  cases unmade

end Recorder

end Chip8
