import Chip8.Proofs.Log.Decisions
import Chip8.Proofs.Log.Recorder
import Mathlib.Data.List.TakeWhile

namespace Chip8

/-!
# What a window remembers

A window is a summary of the earlier calls of its category: it holds when
messages passed, less what is more than a second ago, how many were held back
since the last report, and when that was.  Every run from the beginning keeps
this, since only a call of the category changes the window and the clock never
runs backwards.
-/

namespace Call

variable {calls : List Call}

/-- When messages passed. -/
def admittedTimes (calls : List Call) : List Nat :=
  (calls.filter fun call => call.verdict.admitted).map Call.time

/-- How many messages were held back behind the last report. -/
def unreported (calls : List Call) : Nat :=
  (calls.reverse.takeWhile fun call => call.verdict.report.isNone).countP fun call =>
    !call.verdict.admitted

/-- When a report was last made. -/
def lastReport? (calls : List Call) : Option Nat :=
  (calls.reverse.find? fun call => call.verdict.report.isSome).map Call.time

/-- The times of two parts follow one another. -/
theorem admittedTimes_append
    (before after : List Call) :
    admittedTimes (before ++ after) = admittedTimes before ++ admittedTimes after := by
  simp [admittedTimes]

/-- A single call adds its time when its message passes. -/
theorem admittedTimes_singleton
    (call : Call) :
    admittedTimes [call] = if call.verdict.admitted then [call.time] else [] := by
  cases admitted : call.verdict.admitted <;> simp [admittedTimes, admitted]

/-- A report settles what is unreported, and a message that is held back without one adds to it. -/
theorem unreported_append_singleton
    (calls : List Call)
    (call : Call) :
    unreported (calls ++ [call]) =
      if call.verdict.report.isNone then
        unreported calls + (!call.verdict.admitted).toNat
      else
        0 := by
  cases report : call.verdict.report <;> cases admitted : call.verdict.admitted <;>
    simp [unreported, report, admitted]

/-- The last report is that of the last call, unless it makes none. -/
theorem lastReport?_append_singleton
    (calls : List Call)
    (call : Call) :
    lastReport? (calls ++ [call]) =
      if call.verdict.report.isSome then some call.time else lastReport? calls := by
  cases report : call.verdict.report <;> simp [lastReport?, report]

end Call

/-- A window sums up the earlier calls of its category. -/
structure Window.Remembers
    (window : Window)
    (calls : List Call)
    (now : Nat) : Prop where
  sorted : (Call.admittedTimes calls).Pairwise (· ≤ ·)
  past : ∀ time ∈ Call.admittedTimes calls, time ≤ now
  /-- What the window has forgotten is more than a second ago. -/
  admitted :
    ∃ older,
      Call.admittedTimes calls = older ++ window.admitted.toList ∧
        ∀ time ∈ older, second < now - time
  dropped : window.dropped = Call.unreported calls
  lastReport : window.lastReport = Call.lastReport? calls

namespace Window.Remembers

variable {window : Window} {calls : List Call} {call : Call} {limit now later : Nat}

/-- A fresh window remembers that there was no call. -/
theorem empty : Window.empty.Remembers [] 0 where
  sorted :=
    .nil
  past _ member :=
    nomatch member
  admitted :=
    ⟨[], rfl, fun _ member => nomatch member⟩
  dropped :=
    rfl
  lastReport :=
    rfl

/-- A window remembers its calls however much later. -/
theorem mono
    (remembers : window.Remembers calls now)
    (passes : now ≤ later) :
    window.Remembers calls later where
  sorted :=
    remembers.sorted
  past time member :=
    Nat.le_trans (remembers.past time member) passes
  admitted := by
    obtain ⟨older, split, expired⟩ := remembers.admitted
    refine ⟨older, split, fun time member => ?_⟩
    have := expired time member
    omega
  dropped :=
    remembers.dropped
  lastReport :=
    remembers.lastReport

/-- What is left once the window forgets is exactly what passed within the last second. -/
theorem expire_admitted
    (remembers : window.Remembers calls now) :
    (window.expire now).admitted.toList =
      (Call.admittedTimes calls).filter fun time => decide (now - time ≤ second) := by
  obtain ⟨older, split, expired⟩ := remembers.admitted
  have sorted := remembers.sorted
  rw [split] at sorted ⊢
  have forgotten : older.filter (fun time => decide (now - time ≤ second)) = [] := by
    rw [List.filter_eq_nil_iff]
    intro time member recent
    exact absurd (expired time member) (Nat.not_lt.mpr (of_decide_eq_true recent))
  rw [List.filter_append, forgotten, List.nil_append, expire_admitted_toList,
    dropWhile_isExpired_of_sorted (List.pairwise_append.mp sorted).2.1]

/-- The times that the window forgets are more than a second ago, like those that it forgot. -/
theorem expire_split
    (remembers : window.Remembers calls now) :
    ∃ older,
      Call.admittedTimes calls = older ++ (window.expire now).admitted.toList ∧
        ∀ time ∈ older, second < now - time := by
  obtain ⟨older, split, expired⟩ := remembers.admitted
  refine ⟨older ++ window.admitted.toList.takeWhile (isExpired now), ?_, ?_⟩
  · rw [split, expire_admitted_toList, List.append_assoc, List.takeWhile_append_dropWhile]
  · intro time member
    rcases List.mem_append.mp member with forgotten | leaving
    · exact expired time forgotten
    · exact isExpired_iff.mp (List.mem_takeWhile_imp leaving)

/-- A decision leaves a window that remembers the call as well. -/
theorem judge
    (remembers : window.Remembers calls call.time)
    (decided : call.verdict = (window.judge limit call.time).1) :
    (window.judge limit call.time).2.Remembers (calls ++ [call]) call.time := by
  have decides := window.judge_decides limit call.time
  rw [← decided] at decides
  generalize (window.judge limit call.time).2 = next at decides
  have times :
      Call.admittedTimes (calls ++ [call]) =
        Call.admittedTimes calls ++ if call.verdict.admitted then [call.time] else [] := by
    rw [Call.admittedTimes_append, Call.admittedTimes_singleton]
  constructor
  case sorted =>
    rw [times, List.pairwise_append]
    refine ⟨remembers.sorted, ?_, ?_⟩
    · split <;> simp
    · intro earlier member time last
      split at last
      · rw [List.mem_singleton.mp last]
        exact remembers.past earlier member
      · cases last
  case past =>
    intro time member
    rw [times] at member
    rcases List.mem_append.mp member with earlier | last
    · exact remembers.past time earlier
    · split at last
      · exact Nat.le_of_eq (List.mem_singleton.mp last)
      · cases last
  case admitted =>
    -- What expires leaves the window at its front, so the window stays the end of all that passed.
    obtain ⟨older, split, expired⟩ := remembers.expire_split
    exact ⟨older, by rw [times, split, decides.next_admitted, List.append_assoc], expired⟩
  case dropped =>
    rw [Call.unreported_append_singleton, ← remembers.dropped]
    generalize call.verdict = verdict at decides
    cases decides with
    | pass _ nothing =>
        simp [nothing]
    | passReporting | refuse | refuseReporting =>
        rfl
  case lastReport =>
    rw [Call.lastReport?_append_singleton, ← remembers.lastReport]
    generalize call.verdict = verdict at decides
    cases decides <;> rfl

end Window.Remembers

namespace Recorder

/-- The calls of a category in a run from the beginning. -/
def history
    (category : Category)
    (operations : List Operation) :
    List Call :=
  (initial.calls operations).filter fun call => call.category = category

/-- A further operation adds its call to the history of the category of the call. -/
theorem history_append_singleton
    (category : Category)
    (operations : List Operation)
    (operation : Operation) :
    history category (operations ++ [operation]) =
      history category operations ++
        ((initial.performAll operations).call? operation).toList.filter fun call =>
          call.category = category := by
  rw [history, calls_append_singleton, List.filter_append]
  rfl

/--
What a decision preserves, and the passing of time, holds of the window and the
earlier calls of a category after every run.
-/
theorem window_invariant
    (Invariant : Window → List Call → Nat → Prop)
    (initially : Invariant .empty [] 0)
    (later :
      ∀ window calls now later,
        Invariant window calls now → now ≤ later → Invariant window calls later)
    (decided :
      ∀ (window : Window) calls limit (call : Call),
        Invariant window calls call.time →
        call.verdict = (window.judge limit call.time).1 →
        Invariant (window.judge limit call.time).2 (calls ++ [call]) call.time)
    (category : Category)
    (operations : List Operation) :
    Invariant ((initial.performAll operations).window category) (history category operations)
      (initial.performAll operations).logger.now := by
  -- The history grows at its end, so the run is taken apart from there.
  induction operations using List.reverseRecOn with
  | nil =>
      have fresh : initial.window category = .empty := by
        cases category <;> rfl
      rw [performAll, List.foldl_nil, fresh]
      exact initially
  | append_singleton operations operation inductionHypothesis =>
      rw [performAll_append_singleton, history_append_singleton]
      generalize initial.performAll operations = recorder at inductionHypothesis ⊢
      cases called : recorder.call? operation with
      | none =>
          have idles := idles_of_call?_eq_none called
          rw [idles.window, Option.toList_none, List.filter_nil, List.append_nil]
          exact later _ _ _ _ inductionHypothesis idles.now
      | some call =>
          have makes := makes_of_call? called
          rw [makes.now, Option.toList_some]
          by_cases same : call.category = category
          · subst same
            rw [makes.window_self, List.filter_cons_of_pos (by simp), List.filter_nil,
              ← makes.time]
            rw [← makes.time] at inductionHypothesis
            exact decided _ _ _ _ inductionHypothesis (makes.time ▸ makes.verdict)
          · rw [makes.window_of_ne same, List.filter_cons_of_neg (by simpa using same),
              List.filter_nil, List.append_nil]
            exact inductionHypothesis

/-- After every run the window of a category remembers its calls. -/
theorem performAll_remembers
    (category : Category)
    (operations : List Operation) :
    ((initial.performAll operations).window category).Remembers (history category operations)
      (initial.performAll operations).logger.now :=
  window_invariant Window.Remembers Window.Remembers.empty
    (fun _ _ _ _ => Window.Remembers.mono) (fun _ _ _ _ => Window.Remembers.judge)
    category operations

end Recorder

end Chip8
