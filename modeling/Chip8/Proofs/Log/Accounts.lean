import Chip8.Proofs.Log.History
import Mathlib.Algebra.Ring.Nat

namespace Chip8

/-!
# Accounts of a log

Every enabled message is either written, or counted in exactly one report, or
still waiting to be counted.  A report tells how many messages of its category
were held back since the one before it; a message that passes brings the report
that is open, and one that is held back brings one at most once in a second.
-/

/-- Whether a line is a message. -/
def Note.isMessage : Note → Bool
  | .message _ => true
  | .report _ => false

/-- How many messages a line reports as held back. -/
def Note.count : Note → Nat
  | .message _ => 0
  | .report count => count

namespace Entry

/-- How many messages of a category are among some lines. -/
def messages
    (entries : List Entry)
    (category : Category) :
    Nat :=
  entries.countP fun entry => entry.category = category && entry.note.isMessage

/-- How many messages of a category some lines report as held back. -/
def reported
    (entries : List Entry)
    (category : Category) :
    Nat :=
  ((entries.filter fun entry => entry.category = category).map fun entry => entry.note.count).sum

/-- The messages of two parts add up. -/
theorem messages_append
    (before after : List Entry)
    (category : Category) :
    messages (before ++ after) category = messages before category + messages after category :=
  List.countP_append

/-- What two parts report adds up. -/
theorem reported_append
    (before after : List Entry)
    (category : Category) :
    reported (before ++ after) category = reported before category + reported after category := by
  simp [reported]

end Entry

namespace Call

/-- What a call adds to the accounts of its category. -/
def account (call : Call) : Nat :=
  call.verdict.admitted.toNat + call.verdict.report.getD 0

/-- The lines of a call add to the accounts of its own category only. -/
theorem account_entries
    (call : Call)
    (category : Category) :
    Entry.messages call.entries category + Entry.reported call.entries category =
      if call.category = category then call.account else 0 := by
  unfold entries account
  by_cases same : call.category = category <;>
    cases report : call.verdict.report <;>
    cases admitted : call.verdict.admitted <;>
    simp [Entry.messages, Entry.reported, Note.isMessage, Note.count, same]

/-- The lines of some calls add up to what the calls of the category add. -/
theorem account_flatMap_entries
    (calls : List Call)
    (category : Category) :
    Entry.messages (calls.flatMap entries) category +
        Entry.reported (calls.flatMap entries) category =
      ((calls.filter fun call => call.category = category).map account).sum := by
  induction calls with
  | nil =>
      rfl
  | cons call rest inductionHypothesis =>
      have first := call.account_entries category
      rw [List.flatMap_cons, Entry.messages_append, Entry.reported_append]
      split at first
      next same =>
        rw [List.filter_cons_of_pos (by simpa using same), List.map_cons, List.sum_cons]
        omega
      next other =>
        rw [List.filter_cons_of_neg (by simpa using other)]
        omega

/-- A report among the lines of a call is that of its verdict. -/
theorem report_of_mem_entries
    {call : Call}
    {entry : Entry}
    {count : Nat}
    (member : entry ∈ call.entries)
    (report : entry.note = .report count) :
    count ∈ call.verdict.report := by
  rcases List.mem_append.mp member with reports | message
  · obtain ⟨reported, found, rfl⟩ := List.mem_map.mp reports
    obtain rfl := Note.report.inj report
    exact Option.mem_toList.mp found
  · split at message
    · rw [List.mem_singleton.mp message] at report
      cases report
    · cases message

/-- What a call writes, by the earlier calls of its category. -/
structure Reports
    (call : Call)
    (before : List Call) : Prop where
  passing :
    call.verdict.admitted = true →
    unreported before = 0 →
    call.entries = [⟨call.place, call.category, .message (call.message ())⟩]
  /-- Right before a message stands how many were held back since the last report. -/
  passingReporting :
    call.verdict.admitted = true →
    0 < unreported before →
    call.entries =
      [ ⟨call.place, call.category, .report (unreported before)⟩,
        ⟨call.place, call.category, .message (call.message ())⟩ ]
  heldBack :
    call.verdict.admitted = false →
    (∃ time ∈ lastReport? before, call.time - time < second) →
    call.entries = []
  /-- A message that is held back is itself among those that its report counts. -/
  heldBackReporting :
    call.verdict.admitted = false →
    (∀ time ∈ lastReport? before, second ≤ call.time - time) →
    call.entries = [⟨call.place, call.category, .report (unreported before + 1)⟩]

/-- A decision of a window that remembers the earlier calls makes its report by them. -/
theorem reports_of_decides
    {call : Call}
    {before : List Call}
    {window next : Window}
    {limit : Nat}
    {kept : Array Nat}
    (remembers : window.Remembers before call.time)
    (decides : window.Decides limit call.time kept call.verdict next) :
    call.Reports before := by
  have due := window.mayReport_iff call.time
  rw [remembers.lastReport] at due
  have dropped := remembers.dropped
  obtain ⟨category, time, place, message, verdict⟩ := call
  cases decides with
  | pass _ nothing =>
      rw [nothing] at dropped
      exact ⟨fun _ _ => rfl, fun _ waiting => absurd dropped (Nat.ne_of_lt waiting),
        fun refused => (nomatch refused), fun refused => (nomatch refused)⟩
  | passReporting _ something =>
      rw [dropped] at something ⊢
      exact ⟨fun _ none => absurd none (Nat.ne_of_gt something), fun _ _ => rfl,
        fun refused => (nomatch refused), fun refused => (nomatch refused)⟩
  | refuse _ early =>
      refine ⟨fun admitted => (nomatch admitted), fun admitted => (nomatch admitted),
        fun _ _ => rfl, fun _ old => ?_⟩
      exact absurd (due.mpr old) (Bool.eq_false_iff.mp early)
  | refuseReporting _ mayReport =>
      rw [dropped]
      refine ⟨fun admitted => (nomatch admitted), fun admitted => (nomatch admitted),
        ?_, fun _ _ => rfl⟩
      rintro _ ⟨time, last, recent⟩
      exact absurd (due.mp mayReport time last) (Nat.not_le.mpr recent)

end Call

/-! ## Warnings -/

namespace Category

/-- Different categories have different names. -/
theorem name_injective : Function.Injective name := by
  intro first second same
  cases first <;> cases second <;> first | rfl | exact absurd same (by decide)

/-- The name of a category stands at the start of a warning, up to the first closing bracket. -/
theorem takeWhile_warning
    (category : Category)
    (count : Nat) :
    (category.warning count).toList.takeWhile (· ≠ ']') = ("[" ++ category.name).toList := by
  cases category <;> simp [warning, name]

/-- The decimal numerals of different numbers differ. -/
theorem repr_injective : Function.Injective Nat.repr := by
  have readsBack :
      Function.LeftInverse (fun text => Nat.ofDigitChars 10 text.toList 0) Nat.repr := by
    intro count
    exact (congrArg (Nat.ofDigitChars 10 · 0) Nat.toList_repr).trans Nat.ofDigitChars_ten_toDigits
  exact readsBack.injective

/-- A warning tells which category it is about and how many messages were held back. -/
theorem warning_injective
    {category other : Category}
    {count otherCount : Nat}
    (same : category.warning count = other.warning otherCount) :
    category = other ∧ count = otherCount := by
  have names := category.takeWhile_warning count
  rw [same, takeWhile_warning] at names
  obtain rfl : category = other :=
    name_injective ((String.append_right_inj "[").mp (String.toList_inj.mp names)).symm
  have numerals : count.repr = otherCount.repr :=
    (String.append_right_inj _).mp ((String.append_left_inj _).mp same)
  exact ⟨rfl, repr_injective numerals⟩

end Category

/-! ## Accounts of a run -/

namespace Recorder

/-- Whether an operation logs a message of a category that is enabled. -/
def isHeard
    (recorder : Recorder)
    (category : Category) :
    Operation → Bool
  | .log own level _ => own = category && recorder.logger.enabled own level
  | _ => false

/-- How many log calls of a category a sequence of operations makes whose messages are enabled. -/
def heard
    (category : Category)
    (recorder : Recorder) :
    List Operation → Nat
  | [] => 0
  | operation :: rest =>
      (recorder.isHeard category operation).toNat +
        heard category (recorder.perform operation) rest

variable {recorder : Recorder} {operation : Operation} {call : Call} {category : Category}
  {operations : List Operation}

/-- Enabled messages are calls. -/
theorem heard_eq_length
    (category : Category)
    (recorder : Recorder)
    (operations : List Operation) :
    heard category recorder operations =
      ((recorder.calls operations).filter fun call => call.category = category).length := by
  induction operations generalizing recorder with
  | nil =>
      rfl
  | cons operation rest inductionHypothesis =>
      have first :
          (recorder.isHeard category operation).toNat =
            ((recorder.call? operation).toList.filter fun call =>
              call.category = category).length := by
        cases operation with
        | log own level message =>
            rw [call?_log, isHeard]
            split
            next enabled =>
              rw [enabled, Bool.and_true]
              by_cases same : own = category <;> simp [same]
            next disabled =>
              simp [disabled]
        | _ =>
            rfl
      rw [heard, calls, List.filter_append, List.length_append, first, inductionHypothesis]

/-- Every call of a category is accounted for, or still waiting to be. -/
theorem length_history
    (category : Category)
    (operations : List Operation) :
    (history category operations).length =
      ((history category operations).map Call.account).sum +
        ((initial.performAll operations).window category).dropped := by
  -- A decision moves a call from those that wait to those accounted for, or adds one to either.
  refine window_invariant
    (fun window calls _ => calls.length = (calls.map Call.account).sum + window.dropped)
    rfl (fun _ _ _ _ balance _ => balance) ?_ category operations
  intro window calls limit call balance decided
  have decides := window.judge_decides limit call.time
  rw [← decided] at decides
  have added := decides.balance
  simp only [List.length_append, List.map_append, List.sum_append, List.length_singleton,
    List.map_singleton, List.sum_singleton, Call.account]
  omega

/-- A report is never about nothing. -/
theorem report_pos_of_mem_calls
    (member : call ∈ recorder.calls operations) :
    ∀ count ∈ call.verdict.report, 0 < count := by
  induction operations generalizing recorder with
  | nil =>
      cases member
  | cons operation rest inductionHypothesis =>
      rcases List.mem_append.mp member with first | later
      · exact (makes_of_call? (Option.mem_toList.mp first)).decides.report_pos
      · exact inductionHypothesis later

/-- A call reports what its window remembers of the calls before it. -/
theorem reports_of_call?
    (called : (initial.performAll operations).call? operation = some call) :
    call.Reports (history call.category operations) := by
  have makes := makes_of_call? called
  have remembers := performAll_remembers call.category operations
  rw [← makes.time] at remembers
  exact Call.reports_of_decides remembers makes.decides

/-- A recorder on which nothing was done yet holds no text anywhere. -/
theorem initial_text
    (place : Option String) :
    initial.journal.text place = "" := by
  cases place <;> rfl

/--
No message that was held back is lost or counted twice.  After every run the
console and the files hold exactly the lines of the run; the enabled messages of
a category are those that were written, those that a report counted and those
that are still waiting; a report counts at least one; the next call adds its
lines, which tell exactly what was held back since the last report; and the
warning that a report is written as tells its category and its count.
-/
theorem heldBack_messages_are_accounted_for
    (operations : List Operation) :
    (∀ place,
      (initial.performAll operations).journal.text place =
        Entry.textAt (initial.entries operations) place) ∧
    (∀ category,
      heard category initial operations =
        Entry.messages (initial.entries operations) category +
          Entry.reported (initial.entries operations) category +
          ((initial.performAll operations).window category).dropped) ∧
    (∀ entry ∈ initial.entries operations, ∀ count, entry.note = .report count → 1 ≤ count) ∧
    (∀ operation call,
      (initial.performAll operations).call? operation = some call →
      call.Reports (history call.category operations) ∧
        (initial.performAll operations).Adds ((initial.performAll operations).perform operation)
          (call.entries.map Entry.line)) ∧
    (∀ (category other : Category) count otherCount,
      category.warning count = other.warning otherCount →
      category = other ∧ count = otherCount) := by
  refine ⟨?_, ?_, ?_, ?_, ?_⟩
  · intro place
    rw [performAll_text initial_opened, initial_text, String.empty_append]
  · intro category
    rw [heard_eq_length, entries, Call.account_flatMap_entries]
    exact length_history category operations
  · intro entry member count report
    obtain ⟨call, made, line⟩ := List.mem_flatMap.mp member
    exact report_pos_of_mem_calls made count (Call.report_of_mem_entries line report)
  · intro operation call called
    exact ⟨reports_of_call? called, (makes_of_call? called).adds (performAll_opened operations)⟩
  · intro category other count otherCount
    exact Category.warning_injective

/-- One message in a second: the first is written, the second reported and the third waits. -/
def oneASecond : List Operation :=
  [ .setGlobalLevel .debug, .setLimit 1, .log .cpu .info fun _ => "first",
    .log .cpu .info fun _ => "second", .log .timers .info fun _ => "elsewhere",
    .log .cpu .trace fun _ => "too detailed", .choose "log", .log .cpu .info fun _ => "third",
    .elapse (second + 1) ]

/-- Behind such a run the next message brings the report of the one that waited. -/
theorem oneASecond_accounts :
    (initial.performAll oneASecond).journal.console =
        "first\n" ++
          "[CPU] WARNING: Rate limit exceeded, 1 log message(s) dropped in the last second\n" ++
          "elsewhere\n" ∧
      heard .cpu initial oneASecond = 3 ∧
      Entry.messages (initial.entries oneASecond) .cpu = 1 ∧
      Entry.reported (initial.entries oneASecond) .cpu = 1 ∧
      ((initial.performAll oneASecond).window .cpu).dropped = 1 ∧
      ∃ call,
        (initial.performAll oneASecond).call? (.log .cpu .info fun _ => "fourth") = some call ∧
          call.entries =
            [ ⟨call.place, call.category, .report 1⟩,
              ⟨call.place, call.category, .message (call.message ())⟩ ] ∧
          ((initial.performAll oneASecond).perform
              (.log .cpu .info fun _ => "fourth")).journal.text (some "log") =
            "[CPU] WARNING: Rate limit exceeded, 1 log message(s) dropped in the last second\n" ++
              "fourth\n" := by
  obtain ⟨texts, balance, _, reports, _⟩ := heldBack_messages_are_accounted_for oneASecond
  have counts :
      heard .cpu initial oneASecond = 3 ∧
        Entry.messages (initial.entries oneASecond) .cpu = 1 ∧
        ((initial.performAll oneASecond).window .cpu).dropped = 1 := by
    decide +kernel
  obtain ⟨heard, messages, dropped⟩ := counts
  have reported : Entry.reported (initial.entries oneASecond) .cpu = 1 := by
    have total := balance .cpu
    omega
  have next :
      ((initial.performAll oneASecond).call? (.log .cpu .info fun _ => "fourth")).map
          (fun call => (call.place, call.category, call.verdict.admitted, call.message ())) =
        some (some "log", .cpu, true, "fourth") := by
    decide +kernel
  have waiting : Call.unreported (history .cpu oneASecond) = 1 := by
    decide +kernel
  have file :
      (initial.performAll oneASecond).journal.chosen = some "log" ∧
        (initial.performAll oneASecond).journal.text (some "log") = "" := by
    decide +kernel
  obtain ⟨chosen, fresh⟩ := file
  obtain ⟨call, called, facts⟩ := Option.map_eq_some_iff.mp next
  simp only [Prod.mk.injEq] at facts
  obtain ⟨place, category, admitted, message⟩ := facts
  have before : Call.unreported (history call.category oneASecond) = 1 := by
    rw [category, waiting]
  obtain ⟨written, adds⟩ := reports _ call called
  have writes := written.passingReporting admitted (before ▸ Nat.one_pos)
  rw [before] at writes
  refine ⟨?_, heard, messages, reported, dropped, call, called, writes, ?_⟩
  · exact (texts none).trans (by decide +kernel)
  · rw [adds.text, fresh, if_pos chosen, writes, place, category, message]
    decide +kernel

end Recorder

end Chip8
