import Chip8.Proofs.Log.History

namespace Chip8

/-!
# The rate limit as a sliding window

Whether a message passes depends on nothing but the messages of its category
that passed before it, at most one second ago, and the limit at that time.
Calls of other categories and messages that were held back can be left out of a
run without any effect on it, and under a limit that stays the same no second
holds more messages than it allows.
-/

/-- How many messages of a category passed at certain times. -/
def Call.passed
    (calls : List Call)
    (category : Category)
    (during : Nat → Bool) :
    Nat :=
  calls.countP fun call =>
    call.category = category && call.verdict.admitted && during call.time

/-- Everything about a logger but what its windows hold. -/
def Logger.settings (logger : Logger) : Logger :=
  { logger with windows := Vector.replicate 6 .empty }

/-- The settings are all that the limit, the time and the levels depend on. -/
theorem Logger.agree_of_settings_eq
    {first second : Logger}
    (same : first.settings = second.settings) :
    first.limit = second.limit ∧
      first.now = second.now ∧
      ∀ category level, first.enabled category level = second.enabled category level := by
  obtain ⟨globalLevel, levels, limit, windows, now⟩ := first
  simp only [settings, Logger.mk.injEq] at same
  obtain ⟨rfl, rfl, rfl, _, rfl⟩ := same
  exact ⟨rfl, rfl, fun _ _ => rfl⟩

/-- A message that is held back is not made. -/
theorem Logger.lines_of_not_admitted
    {category : Category}
    {verdict : Verdict}
    (refused : verdict.admitted = false)
    (message other : Unit → String) :
    lines category other verdict = lines category message verdict := by
  simp [lines, refused]

namespace Call

/-- The messages that passed in two parts add up. -/
theorem passed_append
    (before after : List Call)
    (category : Category)
    (during : Nat → Bool) :
    passed (before ++ after) category during =
      passed before category during + passed after category during :=
  List.countP_append

/-- A single call counts when it is of the category, passed, and lies in the time. -/
theorem passed_singleton
    (call : Call)
    (category : Category)
    (during : Nat → Bool) :
    passed [call] category during =
      if call.category = category && call.verdict.admitted && during call.time then 1 else 0 :=
  List.countP_singleton

/-- In a wider time at least as many messages passed. -/
theorem passed_mono
    (calls : List Call)
    (category : Category)
    {during wider : Nat → Bool}
    (covers : ∀ time, during time = true → wider time = true) :
    passed calls category during ≤ passed calls category wider := by
  refine List.countP_mono_left fun call _ counted => ?_
  simp only [Bool.and_eq_true] at counted ⊢
  exact ⟨counted.1, covers call.time counted.2⟩

/-- The messages that passed are counted by their times. -/
theorem passed_eq_countP_admittedTimes
    (calls : List Call)
    (category : Category)
    (during : Nat → Bool) :
    passed calls category during =
      (admittedTimes (calls.filter fun call => call.category = category)).countP during := by
  unfold passed admittedTimes
  rw [List.countP_map, List.countP_filter, List.countP_filter]
  refine List.countP_congr fun call _ => ?_
  simp only [Function.comp_apply, Bool.and_eq_true, decide_eq_true_eq]
  tauto

end Call

namespace Recorder

/-- Whether a message would pass now, if it is enabled. -/
def admits?
    (recorder : Recorder)
    (category : Category)
    (level : Level) :
    Option Bool :=
  (recorder.logger.judge category level).1.map Verdict.admitted

/-- How many messages of a category passed in a run and are at most a second ago at its end. -/
def recent
    (category : Category)
    (operations : List Operation) :
    Nat :=
  Call.passed (initial.calls operations) category fun time =>
    (initial.performAll operations).logger.now - time ≤ second

/-- A log call counts for a category if it lets one of its messages pass; the rest always counts. -/
def counts
    (recorder : Recorder)
    (category : Category) :
    Operation → Bool
  | .log own level _ => own = category && recorder.admits? own level = some true
  | _ => true

/-- A run without the log calls that do not count for a category. -/
def condensed
    (category : Category)
    (recorder : Recorder) :
    List Operation → List Operation
  | [] => []
  | operation :: rest =>
      (if recorder.counts category operation then [operation] else []) ++
        condensed category (recorder.perform operation) rest

variable {recorder : Recorder} {operation : Operation} {call : Call} {category : Category}
  {level : Level} {message : Unit → String} {operations : List Operation}

/-- A message passes when its call would. -/
theorem admits?_eq_map_call?
    (recorder : Recorder)
    (category : Category)
    (level : Level)
    (message : Unit → String) :
    recorder.admits? category level =
      (recorder.call? (.log category level message)).map fun call => call.verdict.admitted := by
  rw [admits?, call?, Option.map_map]
  rfl

/-- The recent messages are counted by the times at which they passed. -/
theorem recent_eq_countP
    (category : Category)
    (operations : List Operation) :
    recent category operations =
      (Call.admittedTimes (history category operations)).countP fun time =>
        (initial.performAll operations).logger.now - time ≤ second :=
  Call.passed_eq_countP_admittedTimes _ _ _

/-- In every run a message passes exactly when fewer than the limit recently did. -/
theorem admitted_iff_recent_lt
    (called : (initial.performAll operations).call? operation = some call) :
    call.verdict.admitted = true ↔
      recent call.category operations < (initial.performAll operations).logger.limit := by
  have makes := makes_of_call? called
  have remembers := performAll_remembers call.category operations
  rw [makes.decides.admitted_iff, recent_eq_countP, List.countP_eq_length_filter,
    ← Array.length_toList, makes.time, remembers.expire_admitted]

/-- After a run an enabled message passes exactly when fewer than the limit recently did. -/
theorem admits?_performAll
    (operations : List Operation)
    (category : Category)
    (level : Level) :
    (initial.performAll operations).admits? category level =
      if (initial.performAll operations).logger.enabled category level then
        some (decide
          (recent category operations < (initial.performAll operations).logger.limit))
      else
        none := by
  rw [admits?_eq_map_call? _ _ _ fun _ => ""]
  have called := call?_log (initial.performAll operations) category level fun _ => ""
  split at called
  next enabled =>
    rw [called, if_pos enabled, Option.map_some, Option.some.injEq, Bool.eq_iff_iff,
      decide_eq_true_iff]
    exact admitted_iff_recent_lt called
  next disabled =>
    rw [called, if_neg disabled, Option.map_none]

/-- A further operation is left out of a run when it does not count there. -/
theorem condensed_append_singleton
    (recorder : Recorder)
    (operations : List Operation)
    (operation : Operation) :
    condensed category recorder (operations ++ [operation]) =
      condensed category recorder operations ++
        if (recorder.performAll operations).counts category operation then [operation] else [] := by
  induction operations generalizing recorder with
  | nil =>
      simp only [List.nil_append, condensed, List.append_nil]
      rfl
  | cons first rest inductionHypothesis =>
      rw [List.cons_append, condensed, inductionHypothesis, condensed, List.append_assoc]
      rfl

/-- A log call leaves the settings as they are. -/
theorem log_settings
    (recorder : Recorder)
    (own : Category)
    (level : Level)
    (message : Unit → String) :
    (recorder.perform (.log own level message)).logger.settings = recorder.logger.settings := by
  simp only [perform, log, Logger.log, Logger.judge]
  by_cases enabled : recorder.logger.enabled own level = true <;>
    simp [enabled, Logger.settings]

/-- What an operation does to the settings depends on the settings only. -/
theorem perform_settings
    {first second : Recorder}
    (same : first.logger.settings = second.logger.settings)
    (operation : Operation) :
    (first.perform operation).logger.settings = (second.perform operation).logger.settings := by
  cases operation with
  | log own level message =>
      rw [log_settings, log_settings, same]
  | _ =>
      obtain ⟨⟨globalLevel, levels, limit, windows, now⟩, journal⟩ := first
      simp only [Logger.settings, Logger.mk.injEq] at same
      obtain ⟨rfl, rfl, rfl, _, rfl⟩ := same
      rfl

/-- A log call adds the time of its message to those of a category exactly when it counts for it. -/
theorem admittedTimes_log
    (recorder : Recorder)
    (category own : Category)
    (level : Level)
    (message : Unit → String) :
    Call.admittedTimes
        ((recorder.call? (.log own level message)).toList.filter fun call =>
          call.category = category) =
      if recorder.counts category (.log own level message) then [recorder.logger.now] else [] := by
  rw [counts, admits?_eq_map_call? _ _ _ message]
  cases called : recorder.call? (.log own level message) with
  | none =>
      simp [Call.admittedTimes]
  | some call =>
      obtain rfl : call.category = own := category_of_call? called
      have time := (makes_of_call? called).time
      by_cases same : call.category = category <;>
        by_cases admitted : call.verdict.admitted = true <;>
        simp [Call.admittedTimes, same, admitted, time]

section SameTimes

variable {first second : List Operation}
  (settings :
    (initial.performAll first).logger.settings = (initial.performAll second).logger.settings)
  (times :
    Call.admittedTimes (history category first) = Call.admittedTimes (history category second))

include settings times

/-- Runs with the same settings and the same times at their ends let the same messages pass. -/
theorem admits?_congr
    (level : Level) :
    (initial.performAll first).admits? category level =
      (initial.performAll second).admits? category level := by
  obtain ⟨limit, now, enabled⟩ := Logger.agree_of_settings_eq settings
  have recents : recent category first = recent category second := by
    rw [recent_eq_countP, recent_eq_countP, times, now]
  rw [admits?_performAll, admits?_performAll, enabled, limit, recents]

/-- From such runs an operation adds the same times. -/
theorem admittedTimes_call?_congr
    (operation : Operation) :
    Call.admittedTimes
        (((initial.performAll first).call? operation).toList.filter fun call =>
          call.category = category) =
      Call.admittedTimes
        (((initial.performAll second).call? operation).toList.filter fun call =>
          call.category = category) := by
  cases operation with
  | log own level message =>
      have counted :
          (initial.performAll first).counts category (.log own level message) =
            (initial.performAll second).counts category (.log own level message) := by
        simp only [counts]
        by_cases same : own = category
        · subst same
          rw [admits?_congr settings times]
        · simp [same]
      obtain ⟨_, now, _⟩ := Logger.agree_of_settings_eq settings
      rw [admittedTimes_log, admittedTimes_log, counted, now]
  | _ =>
      rfl

end SameTimes

/-- Leaving out what does not count changes neither the settings nor when messages passed. -/
theorem condensed_agrees
    (category : Category)
    (operations : List Operation) :
    (initial.performAll (condensed category initial operations)).logger.settings =
        (initial.performAll operations).logger.settings ∧
      Call.admittedTimes (history category (condensed category initial operations)) =
        Call.admittedTimes (history category operations) := by
  induction operations using List.reverseRecOn with
  | nil =>
      exact ⟨rfl, rfl⟩
  | append_singleton operations operation inductionHypothesis =>
      obtain ⟨settings, times⟩ := inductionHypothesis
      rw [condensed_append_singleton]
      generalize condensed category initial operations = short at settings times ⊢
      by_cases counted : (initial.performAll operations).counts category operation = true
      · rw [if_pos counted, performAll_append_singleton, performAll_append_singleton,
          history_append_singleton, history_append_singleton, Call.admittedTimes_append,
          Call.admittedTimes_append, times, admittedTimes_call?_congr settings times]
        exact ⟨perform_settings settings operation, rfl⟩
      · rw [if_neg counted, List.append_nil, performAll_append_singleton,
          history_append_singleton, Call.admittedTimes_append, times]
        cases operation with
        | log own level message =>
            rw [log_settings, admittedTimes_log, if_neg counted, List.append_nil]
            exact ⟨settings, rfl⟩
        | _ =>
            exact absurd rfl counted

/-- The limit stays as it is when an operation sets no other. -/
theorem performAll_limit
    (kept : ∀ limit, Operation.setLimit limit ∈ operations → limit = recorder.logger.limit) :
    (recorder.performAll operations).logger.limit = recorder.logger.limit := by
  induction operations generalizing recorder with
  | nil =>
      rfl
  | cons operation rest inductionHypothesis =>
      have first : (recorder.perform operation).logger.limit = recorder.logger.limit := by
        cases operation with
        | log own level message =>
            exact (Logger.agree_of_settings_eq (recorder.log_settings own level message)).1
        | setLimit limit =>
            exact kept limit (by simp)
        | _ =>
            rfl
      refine (inductionHypothesis fun limit member => ?_).trans first
      rw [first]
      exact kept limit (List.mem_cons_of_mem _ member)

/-- What becomes of a message: it is written behind any report, or it is not even made. -/
structure Settles
    (recorder : Recorder)
    (category : Category)
    (level : Level)
    (message : Unit → String)
    (passes : Prop) : Prop where
  decided : recorder.admits? category level = some true ↔ passes
  /-- Where lines go there is one more, or two when a warning stands before the message. -/
  written :
    passes →
    ∃ report : Option Nat,
      recorder.entries [.log category level message] =
          report.toList.map (fun count => ⟨recorder.journal.chosen, category, .report count⟩) ++
            [⟨recorder.journal.chosen, category, .message (message ())⟩] ∧
        recorder.Adds (recorder.perform (.log category level message))
          (report.toList.map category.warning ++ [message ()])
  /-- Where lines go there is at most a warning more. -/
  withheld :
    ¬passes →
    ∃ report : Option Nat,
      recorder.entries [.log category level message] =
          report.toList.map (fun count => ⟨recorder.journal.chosen, category, .report count⟩) ∧
        recorder.Adds (recorder.perform (.log category level message))
          (report.toList.map category.warning)
  unmade :
    ¬passes →
    ∀ other,
      recorder.perform (.log category level other) = recorder.perform (.log category level message)

/-- The verdict on an enabled message settles what becomes of it. -/
theorem settles_of_enabled
    {passes : Prop}
    (opened : recorder.journal.Opened)
    (enabled : recorder.logger.enabled category level = true)
    (decided : recorder.admits? category level = some true ↔ passes)
    (message : Unit → String) :
    recorder.Settles category level message passes := by
  have called := recorder.call?_log category level message
  rw [if_pos enabled] at called
  have entries := recorder.entries_cons (.log category level message) []
  rw [called, entries_nil, List.append_nil, Option.toList_some, List.flatMap_singleton] at entries
  have admitted :
      ((recorder.window category).judge recorder.logger.limit
        recorder.logger.now).1.admitted = true ↔ passes := by
    rw [← decided, recorder.admits?_eq_map_call? category level message, called]
    simp
  have adds := (makes_of_call? called).adds opened
  refine ⟨decided, ?_, ?_, ?_⟩
  · intro passing
    rw [Call.entries, if_pos (admitted.mpr passing)] at entries adds
    rw [List.map_append, List.map_map] at adds
    exact ⟨_, entries, adds⟩
  · intro held
    rw [Call.entries, if_neg (held ∘ admitted.mp), List.append_nil] at entries adds
    rw [List.map_map] at adds
    exact ⟨_, entries, adds⟩
  · intro held other
    have refused :
        (recorder.logger.windows[category.index].judge recorder.logger.limit
          recorder.logger.now).1.admitted = false :=
      Bool.eq_false_iff.mpr (held ∘ admitted.mp)
    simp only [perform, log, Logger.log, Logger.judge, enabled, if_true]
    rw [Logger.lines_of_not_admitted refused message]

/-- What passed in the last part of a run, and at most a second ago, passed recently. -/
theorem passed_le_recent
    (before during : List Operation)
    (category : Category)
    (within : Nat → Bool)
    (near :
      ∀ time,
        within time = true →
        (initial.performAll (before ++ during)).logger.now - time ≤ second) :
    Call.passed ((initial.performAll before).calls during) category within ≤
      recent category (before ++ during) := by
  rw [recent, calls_append, Call.passed_append]
  exact Nat.le_trans
    (Call.passed_mono _ _ fun time inside => decide_eq_true (near time inside))
    (Nat.le_add_left _ _)

/-- Under a limit that stays the same no second holds more messages than it allows. -/
theorem passed_within_second_le
    (before during : List Operation)
    (kept :
      ∀ limit, .setLimit limit ∈ during → limit = (initial.performAll before).logger.limit)
    (category : Category)
    (start : Nat) :
    Call.passed ((initial.performAll before).calls during) category
        (fun time => start ≤ time && time ≤ start + second) ≤
      (initial.performAll before).logger.limit := by
  induction during using List.reverseRecOn with
  | nil =>
      exact Nat.zero_le _
  | append_singleton during operation inductionHypothesis =>
      have earlier := inductionHypothesis fun limit member =>
        kept limit (List.mem_append_left _ member)
      rw [calls_append_singleton, Call.passed_append, ← performAll_append]
      cases called : (initial.performAll (before ++ during)).call? operation with
      | none =>
          exact earlier
      | some call =>
          rw [Option.toList_some, Call.passed_singleton]
          split
          next added =>
            simp only [Bool.and_eq_true, decide_eq_true_eq] at added
            obtain ⟨⟨rfl, admitted⟩, _, inTime⟩ := added
            have now := (makes_of_call? called).time
            -- All that passed within the second before still counts when this message does.
            have counted := passed_le_recent before during call.category
              (fun time => start ≤ time && time ≤ start + second)
              (fun time inside => by
                simp only [Bool.and_eq_true, decide_eq_true_eq] at inside
                omega)
            have fewer := (admitted_iff_recent_lt called).mp admitted
            rw [performAll_append, performAll_limit fun limit member =>
              kept limit (List.mem_append_left _ member)] at fewer
            omega
          next =>
            exact earlier

/--
The rate limit of a category is a sliding window.  In every run a message that
is enabled is written exactly when fewer messages of its category than the limit
passed at most one second ago; what other categories logged and what was held
back makes no difference to that; and as long as the limit stays the same, no
closed second holds more messages of the category than it allows.
-/
theorem rate_limit_is_sliding_window
    (category : Category) :
    (∀ operations level message,
      (initial.performAll operations).logger.enabled category level = true →
      (initial.performAll operations).Settles category level message
        (recent category operations < (initial.performAll operations).logger.limit)) ∧
    (∀ operations level,
      (initial.performAll (condensed category initial operations)).admits? category level =
        (initial.performAll operations).admits? category level) ∧
    (∀ before during start,
      (∀ limit, .setLimit limit ∈ during → limit = (initial.performAll before).logger.limit) →
      Call.passed ((initial.performAll before).calls during) category
          (fun time => start ≤ time && time ≤ start + second) ≤
        (initial.performAll before).logger.limit) := by
  refine ⟨?_, ?_, ?_⟩
  · intro operations level message enabled
    refine settles_of_enabled (performAll_opened operations) enabled ?_ message
    rw [admits?_performAll, if_pos enabled, Option.some.injEq, decide_eq_true_iff]
  · intro operations level
    obtain ⟨settings, times⟩ := condensed_agrees category operations
    exact admits?_congr settings times level
  · intro before during start kept
    exact passed_within_second_le before during kept category start

/-- Everything is heard, and two messages of a category pass in a second. -/
def twoASecond : List Operation :=
  [.setGlobalLevel .debug, .setLimit 2]

/-- Two messages of a category and one of another in between, up to a second after the first. -/
def twoMessages : List Operation :=
  [ .log .cpu .info fun _ => "first", .log .memory .info fun _ => "elsewhere",
    .elapse (500 * millisecond), .log .cpu .info fun _ => "second",
    .elapse (500 * millisecond) ]

/-- A third message is held back when the first is one second old, and written just after that. -/
theorem thirdMessage_slides :
    (∀ third other,
        (initial.performAll (twoASecond ++ twoMessages)).perform (.log .cpu .info other) =
          (initial.performAll (twoASecond ++ twoMessages)).perform (.log .cpu .info third)) ∧
      ((initial.performAll (twoASecond ++ twoMessages)).perform
          (.log .cpu .info fun _ => "third")).journal.console =
        "first\nelsewhere\nsecond\n" ++
          "[CPU] WARNING: Rate limit exceeded, 1 log message(s) dropped in the last second\n" ∧
      (∀ third, ∃ report : Option Nat,
        ((initial.performAll (twoASecond ++ twoMessages ++ [.elapse 1])).perform
            (.log .cpu .info third)).journal.console =
          "first\nelsewhere\nsecond\n" ++
            String.join
              ((report.toList.map (Category.warning .cpu) ++ [third ()]).map (· ++ "\n"))) ∧
      ((initial.performAll (twoASecond ++ twoMessages ++ [.elapse 1])).perform
          (.log .cpu .info fun _ => "third")).journal.console =
        "first\nelsewhere\nsecond\nthird\n" ∧
      (initial.performAll (condensed .cpu initial (twoASecond ++ twoMessages))).admits? .cpu .info =
        some false ∧
      Call.passed ((initial.performAll twoASecond).calls twoMessages) .cpu
          (fun time => 0 ≤ time && time ≤ 0 + second) ≤ 2 := by
  have held :
      (initial.performAll (twoASecond ++ twoMessages)).logger.enabled .cpu .info = true ∧
        ¬recent .cpu (twoASecond ++ twoMessages) <
          (initial.performAll (twoASecond ++ twoMessages)).logger.limit ∧
        (initial.performAll (twoASecond ++ twoMessages)).admits? .cpu .info = some false := by
    decide +kernel
  have later :
      (initial.performAll (twoASecond ++ twoMessages ++ [.elapse 1])).logger.enabled .cpu .info =
          true ∧
        recent .cpu (twoASecond ++ twoMessages ++ [.elapse 1]) <
          (initial.performAll (twoASecond ++ twoMessages ++ [.elapse 1])).logger.limit ∧
        (initial.performAll (twoASecond ++ twoMessages ++ [.elapse 1])).journal.chosen = none ∧
        (initial.performAll (twoASecond ++ twoMessages ++ [.elapse 1])).journal.text none =
          "first\nelsewhere\nsecond\n" := by
    decide +kernel
  obtain ⟨enabled, passes, chosen, console⟩ := later
  obtain ⟨settles, condenses, bounded⟩ := rate_limit_is_sliding_window .cpu
  refine ⟨?_, ?_, ?_, ?_, ?_, ?_⟩
  · intro third
    exact (settles _ .info third held.1).unmade held.2.1
  · decide +kernel
  · intro third
    obtain ⟨report, -, adds⟩ := (settles _ .info third enabled).written passes
    have text := adds.text none
    rw [console, if_pos chosen] at text
    exact ⟨report, text⟩
  · decide +kernel
  · rw [condenses, held.2.2]
  · exact bounded twoASecond twoMessages 0 (by simp [twoMessages])

end Recorder

end Chip8
