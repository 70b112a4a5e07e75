import Chip8.Log.Logger
import Chip8.Proofs.Log.Decisions
import Chip8.Proofs.Log.Texts
import Mathlib.Data.List.Induction

namespace Chip8

/-!
# Recorders

A recorder is a logger with the journal that its lines go to, and a run is any
sequence of operations on it.  The calls of a run are its log calls that were
enabled, each with its verdict, and the entries are the lines that they wrote.
The console and every file hold exactly the lines of their entries, in order.
-/

/-- A logger and the journal that its lines go to. -/
structure Recorder where
  logger : Logger
  journal : Journal

/-- A log call that was enabled, and what became of it. -/
structure Call where
  category : Category
  /-- The time of the call on the clock of the logger. -/
  time : Nat
  /-- The file that lines went to, or nothing when they went to the console. -/
  place : Option String
  message : Unit → String
  verdict : Verdict

/-- What a line of the log says. -/
inductive Note where
  | message (text : String)
  /-- So many messages were held back. -/
  | report (count : Nat)
  deriving DecidableEq

/-- A line that was written: where it went, and what it says about which category. -/
structure Entry where
  place : Option String
  category : Category
  note : Note
  deriving DecidableEq

/-- The line that warns of the messages of a category that were held back. -/
def Category.warning
    (category : Category)
    (count : Nat) :
    String :=
  "[" ++ category.name ++ "] WARNING: Rate limit exceeded, " ++ toString count ++
    " log message(s) dropped in the last second"

/-- The text of a line. -/
def Entry.line (entry : Entry) : String :=
  match entry.note with
  | .message text => text
  | .report count => entry.category.warning count

/-- The text that a list of lines adds to a place. -/
def Entry.textAt
    (entries : List Entry)
    (place : Option String) :
    String :=
  String.join
    ((entries.filter fun entry => entry.place = place).map fun entry => entry.line ++ "\n")

/-- The lines that a call writes: a report, if its verdict has one, and then its message. -/
def Call.entries (call : Call) : List Entry :=
  (call.verdict.report.toList.map fun count => ⟨call.place, call.category, .report count⟩) ++
    if call.verdict.admitted then
      [⟨call.place, call.category, .message (call.message ())⟩]
    else
      []

/-- The index of a category is its place in the order of all. -/
theorem Category.all_getElem?_index
    (category : Category) :
    Category.all[category.index.val]? = some category := by
  cases category <;> rfl

/-- Different categories have different indices. -/
theorem Category.index_injective : Function.Injective Category.index := by
  intro first second same
  have found := first.all_getElem?_index
  rw [same, second.all_getElem?_index] at found
  exact (Option.some.inj found).symm

/-- What a logger writes of held-back messages is the warning. -/
theorem Logger.reportText_eq_warning
    (category : Category) :
    reportText category = category.warning := by
  funext count
  simp only [reportText, Category.warning, String.append_assoc]
  rfl

/-- A call writes the lines that its verdict calls for. -/
theorem Call.map_line_entries
    (call : Call) :
    call.entries.map Entry.line =
      Logger.lines call.category call.message call.verdict := by
  unfold Call.entries Logger.lines
  rw [List.map_append, List.map_map, Logger.reportText_eq_warning]
  split <;> rfl

/-- The lines of a call go where the recorder wrote at that time. -/
theorem Call.place_of_mem_entries
    {call : Call}
    {entry : Entry}
    (member : entry ∈ call.entries) :
    entry.place = call.place := by
  unfold Call.entries at member
  rcases List.mem_append.mp member with report | message
  · obtain ⟨count, _, rfl⟩ := List.mem_map.mp report
    rfl
  · split at message
    · rw [List.mem_singleton.mp message]
    · cases message

/-- The texts of two parts follow one another. -/
theorem Entry.textAt_append
    (before after : List Entry)
    (place : Option String) :
    textAt (before ++ after) place = textAt before place ++ textAt after place := by
  simp [textAt]

/-- The lines of a call all go to one place. -/
theorem Call.textAt_entries
    (call : Call)
    (place : Option String) :
    Entry.textAt call.entries place =
      if call.place = place then
        String.join ((call.entries.map Entry.line).map (· ++ "\n"))
      else
        "" := by
  unfold Entry.textAt
  split
  next here =>
    rw [List.filter_eq_self.mpr, List.map_map]
    · rfl
    · intro entry member
      exact decide_eq_true ((place_of_mem_entries member).trans here)
  next elsewhere =>
    rw [List.filter_eq_nil_iff.mpr]
    · rfl
    · intro entry member same
      exact elsewhere ((place_of_mem_entries member).symm.trans (of_decide_eq_true same))

namespace Recorder

/-- One operation on a recorder. -/
inductive Operation where
  | setGlobalLevel (level : Level)
  | setLevel (category : Category) (level : Level)
  | resetLevels
  | setLimit (limit : Nat)
  /-- The clock runs on. -/
  | elapse (nanoseconds : Nat)
  /-- Lines go to a file. -/
  | choose (name : String)
  /-- Lines go to the console. -/
  | close
  | log (category : Category) (level : Level) (message : Unit → String)

/-- A recorder on which nothing was done yet. -/
def initial : Recorder where
  logger :=
    Logger.initial
  journal :=
    Journal.empty

/-- Log a message and write the lines. -/
def log
    (recorder : Recorder)
    (category : Category)
    (level : Level)
    (message : Unit → String) :
    Recorder :=
  let (lines, logger) := recorder.logger.log category level message
  { logger, journal := lines.foldl Journal.write recorder.journal }

/-- The recorder after an operation. -/
def perform
    (recorder : Recorder) :
    Operation → Recorder
  | .setGlobalLevel level => { recorder with logger := recorder.logger.setGlobalLevel level }
  | .setLevel category level => { recorder with logger := recorder.logger.setLevel category level }
  | .resetLevels => { recorder with logger := recorder.logger.reset }
  | .setLimit limit => { recorder with logger := recorder.logger.setLimit limit }
  | .elapse nanoseconds => { recorder with logger := recorder.logger.elapse nanoseconds }
  | .choose name => { recorder with journal := recorder.journal.choose name }
  | .close => { recorder with journal := recorder.journal.close }
  | .log category level message => recorder.log category level message

/-- The recorder after a sequence of operations. -/
def performAll
    (recorder : Recorder)
    (operations : List Operation) :
    Recorder :=
  operations.foldl perform recorder

/-- The call that an operation makes, if it logs a message that is enabled. -/
def call?
    (recorder : Recorder) :
    Operation → Option Call
  | .log category level message =>
      (recorder.logger.judge category level).1.map fun verdict =>
        { category
          time := recorder.logger.now
          place := recorder.journal.chosen
          message
          verdict }
  | _ => none

/-- The calls that a sequence of operations makes, in order. -/
def calls
    (recorder : Recorder) :
    List Operation → List Call
  | [] => []
  | operation :: rest =>
      (recorder.call? operation).toList ++ (recorder.perform operation).calls rest

/-- The lines that a sequence of operations writes, in order. -/
def entries
    (recorder : Recorder)
    (operations : List Operation) :
    List Entry :=
  (recorder.calls operations).flatMap Call.entries

/-- The window in which the messages of a category are counted. -/
def window
    (recorder : Recorder)
    (category : Category) :
    Window :=
  recorder.logger.windows.get category.index

/-- A recorder that has written some lines more than another, all where that one writes. -/
structure Adds
    (before after : Recorder)
    (lines : List String) : Prop where
  chosen : after.journal.chosen = before.journal.chosen
  text :
    ∀ place,
      after.journal.text place =
        before.journal.text place ++
          if before.journal.chosen = place then String.join (lines.map (· ++ "\n")) else ""

namespace Adds

variable {before between after : Recorder} {lines more : List String}

/-- A recorder has written nothing more than itself. -/
theorem nothing
    (recorder : Recorder) :
    recorder.Adds recorder [] where
  chosen :=
    rfl
  text place := by
    simp

/-- What is written in two parts is written in all. -/
theorem trans
    (first : before.Adds between lines)
    (second : between.Adds after more) :
    before.Adds after (lines ++ more) where
  chosen :=
    second.chosen.trans first.chosen
  text place := by
    rw [second.text, first.text, first.chosen]
    split <;> simp [String.append_assoc]

end Adds

variable {recorder : Recorder} {operation : Operation} {call : Call}

/-- Two sequences are performed one after the other. -/
theorem performAll_append
    (recorder : Recorder)
    (before after : List Operation) :
    recorder.performAll (before ++ after) = (recorder.performAll before).performAll after :=
  List.foldl_append

/-- A further operation is performed at the end. -/
theorem performAll_append_singleton
    (recorder : Recorder)
    (operations : List Operation)
    (operation : Operation) :
    recorder.performAll (operations ++ [operation]) =
      (recorder.performAll operations).perform operation :=
  recorder.performAll_append operations [operation]

/-- The calls of two parts follow one another, the later ones from where the first part has led. -/
theorem calls_append
    (recorder : Recorder)
    (before after : List Operation) :
    recorder.calls (before ++ after) =
      recorder.calls before ++ (recorder.performAll before).calls after := by
  induction before generalizing recorder with
  | nil =>
      rfl
  | cons operation rest inductionHypothesis =>
      simp only [List.cons_append, calls, inductionHypothesis, List.append_assoc]
      rfl

/-- A further operation adds its call, if it makes one. -/
theorem calls_append_singleton
    (recorder : Recorder)
    (operations : List Operation)
    (operation : Operation) :
    recorder.calls (operations ++ [operation]) =
      recorder.calls operations ++
        ((recorder.performAll operations).call? operation).toList := by
  rw [calls_append]
  simp [calls]

/-- What an operation does that makes a call. -/
structure Makes
    (recorder : Recorder)
    (operation : Operation)
    (call : Call) : Prop where
  time : call.time = recorder.logger.now
  place : call.place = recorder.journal.chosen
  verdict :
    call.verdict =
      ((recorder.window call.category).judge recorder.logger.limit recorder.logger.now).1
  logger :
    (recorder.perform operation).logger =
      { recorder.logger with
        windows := recorder.logger.windows.set call.category.index
          ((recorder.window call.category).judge recorder.logger.limit recorder.logger.now).2 }
  journal :
    (recorder.perform operation).journal =
      (call.entries.map Entry.line).foldl Journal.write recorder.journal

namespace Makes

variable {category : Category}

/-- No time passes during a call. -/
theorem now
    (makes : recorder.Makes operation call) :
    (recorder.perform operation).logger.now = recorder.logger.now := by
  rw [makes.logger]

/-- A call leaves the window of its category as the decision leaves it. -/
theorem window_self
    (makes : recorder.Makes operation call) :
    (recorder.perform operation).window call.category =
      ((recorder.window call.category).judge recorder.logger.limit recorder.logger.now).2 := by
  rw [window, makes.logger]
  exact Vector.getElem_set_self _

/-- The verdict on a call and the window that it leaves are one decision. -/
theorem decides
    (makes : recorder.Makes operation call) :
    (recorder.window call.category).Decides recorder.logger.limit call.time
      ((recorder.window call.category).expire call.time).admitted call.verdict
      ((recorder.perform operation).window call.category) := by
  rw [makes.verdict, makes.window_self, makes.time]
  exact Window.judge_decides _ _ _

/-- A call leaves the windows of the other categories as they are. -/
theorem window_of_ne
    (makes : recorder.Makes operation call)
    (other : call.category ≠ category) :
    (recorder.perform operation).window category = recorder.window category := by
  rw [window, makes.logger]
  exact Vector.getElem_set_ne call.category.index.isLt category.index.isLt
    fun same => other (Category.index_injective (Fin.ext same))

end Makes

/-- A log call is a call exactly when its message is enabled. -/
theorem call?_log
    (recorder : Recorder)
    (category : Category)
    (level : Level)
    (message : Unit → String) :
    recorder.call? (.log category level message) =
      if recorder.logger.enabled category level then
        some
          { category
            time := recorder.logger.now
            place := recorder.journal.chosen
            message
            verdict :=
              ((recorder.window category).judge recorder.logger.limit recorder.logger.now).1 }
      else
        none := by
  simp only [call?, Logger.judge]
  split <;> rfl

/-- A call is of the category that its message was logged for. -/
theorem category_of_call?
    {category : Category}
    {level : Level}
    {message : Unit → String}
    (called : recorder.call? (.log category level message) = some call) :
    call.category = category := by
  rw [call?_log] at called
  split at called
  next =>
    rw [← Option.some.inj called]
  next =>
    cases called

/-- An operation that makes a call does what the verdict on it calls for. -/
theorem makes_of_call?
    (called : recorder.call? operation = some call) :
    recorder.Makes operation call := by
  cases operation with
  | log category level message =>
      rw [call?_log] at called
      split at called
      next enabled =>
        obtain rfl := Option.some.inj called
        constructor
        case journal =>
          rw [Call.map_line_entries]
          simp only [perform, log, Logger.log, Logger.judge, enabled, if_true]
          rfl
        case logger =>
          simp only [perform, log, Logger.log, Logger.judge, enabled, if_true]
          rfl
        all_goals rfl
      next =>
        cases called
  | _ =>
      cases called

/-- What an operation leaves as it is that makes no call. -/
structure Idles
    (recorder : Recorder)
    (operation : Operation) : Prop where
  windows : (recorder.perform operation).logger.windows = recorder.logger.windows
  now : recorder.logger.now ≤ (recorder.perform operation).logger.now
  text :
    ∀ place, (recorder.perform operation).journal.text place = recorder.journal.text place
  opened :
    recorder.journal.Opened → (recorder.perform operation).journal.Opened

/-- An operation that makes no call leaves every window as it is. -/
theorem Idles.window
    (idles : recorder.Idles operation)
    (category : Category) :
    (recorder.perform operation).window category = recorder.window category := by
  rw [Recorder.window, idles.windows, Recorder.window]

/-- An operation that makes no call writes nothing and keeps all windows. -/
theorem idles_of_call?_eq_none
    (silent : recorder.call? operation = none) :
    recorder.Idles operation := by
  cases operation with
  | log category level message =>
      have disabled : ¬recorder.logger.enabled category level = true := by
        intro enabled
        rw [call?_log, if_pos enabled] at silent
        cases silent
      have unchanged : recorder.perform (.log category level message) = recorder := by
        simp [perform, log, Logger.log, Logger.judge, disabled]
      constructor <;> simp [unchanged]
  | choose name =>
      exact ⟨rfl, Nat.le_refl _, recorder.journal.choose_text name,
        fun _ => recorder.journal.choose_opened name⟩
  | close =>
      exact ⟨rfl, Nat.le_refl _, fun place => by cases place <;> rfl,
        fun _ _ chosen => nomatch chosen⟩
  | elapse nanoseconds =>
      exact ⟨rfl, Nat.le_add_right _ _, fun _ => rfl, id⟩
  | _ =>
      exact ⟨rfl, Nat.le_refl _, fun _ => rfl, id⟩

/-- Doing nothing writes nothing. -/
@[simp] theorem entries_nil
    (recorder : Recorder) :
    recorder.entries [] = [] :=
  rfl

/-- The lines of a sequence are those of its first operation and then those of the rest. -/
theorem entries_cons
    (recorder : Recorder)
    (operation : Operation)
    (rest : List Operation) :
    recorder.entries (operation :: rest) =
      (recorder.call? operation).toList.flatMap Call.entries ++
        (recorder.perform operation).entries rest :=
  List.flatMap_append

/-- An operation that makes a call adds the lines of the call where the recorder writes. -/
theorem Makes.adds
    (makes : recorder.Makes operation call)
    (opened : recorder.journal.Opened) :
    recorder.Adds (recorder.perform operation) (call.entries.map Entry.line) where
  chosen := by
    rw [makes.journal, Journal.writeAll_chosen]
  text place := by
    rw [makes.journal, opened.writeAll_text]

/-- An operation adds the lines of its call, if it makes one, and nothing else. -/
theorem perform_text
    (opened : recorder.journal.Opened)
    (operation : Operation) :
    (recorder.perform operation).journal.Opened ∧
      ∀ place,
        (recorder.perform operation).journal.text place =
          recorder.journal.text place ++
            Entry.textAt ((recorder.call? operation).toList.flatMap Call.entries) place := by
  cases called : recorder.call? operation with
  | none =>
      have idles := idles_of_call?_eq_none called
      refine ⟨idles.opened opened, fun place => ?_⟩
      rw [idles.text place]
      simp [Entry.textAt]
  | some call =>
      have makes := makes_of_call? called
      refine ⟨?_, fun place => ?_⟩
      · rw [makes.journal]
        exact opened.writeAll _
      · rw [(makes.adds opened).text, Option.toList_some, List.flatMap_singleton,
          call.textAt_entries, makes.place]

/-- What a place holds after a run is what it held before, and behind it the lines of the run. -/
theorem performAll_text
    (opened : recorder.journal.Opened)
    (operations : List Operation)
    (place : Option String) :
    (recorder.performAll operations).journal.text place =
      recorder.journal.text place ++ Entry.textAt (recorder.entries operations) place := by
  induction operations generalizing recorder with
  | nil =>
      simp [performAll, entries, calls, Entry.textAt]
  | cons operation rest inductionHypothesis =>
      obtain ⟨still, texts⟩ := perform_text opened operation
      rw [entries_cons, Entry.textAt_append, ← String.append_assoc, ← texts place]
      exact inductionHypothesis still

/-- A recorder on which nothing was done yet writes to no file. -/
theorem initial_opened : initial.journal.Opened :=
  fun _ chosen => nomatch chosen

/-- After every run from the beginning the file that lines go to is one of the journal. -/
theorem performAll_opened
    (operations : List Operation) :
    (initial.performAll operations).journal.Opened := by
  induction operations using List.reverseRecOn with
  | nil =>
      exact initial_opened
  | append_singleton operations operation inductionHypothesis =>
      rw [performAll_append_singleton]
      exact (perform_text inductionHypothesis operation).1

end Recorder

end Chip8
