import Chip8.Log.Window
import Mathlib.Data.List.Pairwise

namespace Chip8.Window

/-!
# Decisions of a window

A window forgets only the times at its front.  Where its times are in order that
leaves exactly those that are at most a second ago.  A decision is then one of
four: a message passes or is held back, and it makes a report or none.
-/

variable {window next : Window} {verdict : Verdict} {limit now : Nat} {kept : Array Nat}

/-- A time is expired when it is more than a second ago, not when it is exactly one. -/
theorem isExpired_iff
    {time : Nat} :
    isExpired now time = true ↔ second < now - time :=
  decide_eq_true_iff

/-- Behind a time that still counts, none that is at least as late is forgotten. -/
theorem dropWhile_isExpired_of_sorted
    {times : List Nat}
    (sorted : times.Pairwise (· ≤ ·)) :
    times.dropWhile (isExpired now) =
      times.filter fun time => decide (now - time ≤ second) := by
  induction times with
  | nil =>
      rfl
  | cons first rest inductionHypothesis =>
      obtain ⟨later, restSorted⟩ := List.pairwise_cons.mp sorted
      by_cases expired : second < now - first
      · rw [List.dropWhile_cons_of_pos (isExpired_iff.mpr expired),
          List.filter_cons_of_neg (by rw [decide_eq_true_iff]; omega),
          inductionHypothesis restSorted]
      · have kept : ∀ time ∈ first :: rest, now - time ≤ second := by
          intro time member
          rcases List.mem_cons.mp member with rfl | member
          · exact Nat.le_of_not_lt expired
          · have := later time member
            omega
        rw [List.dropWhile_cons_of_neg fun forgotten => expired (isExpired_iff.mp forgotten),
          List.filter_eq_self.mpr fun time member => decide_eq_true (kept time member)]

/-- Forgetting takes the expired times off the start. -/
theorem expire_admitted_toList
    (window : Window)
    (now : Nat) :
    (window.expire now).admitted.toList =
      window.admitted.toList.dropWhile (isExpired now) := by
  obtain ⟨⟨times⟩, dropped, lastReport⟩ := window
  rw [List.dropWhile_eq_drop_findIdx_not]
  simp only [expire, List.findIdx_toArray]
  split
  next none =>
    rw [none, List.drop_zero]
  next =>
    simp [List.take_of_length_le]

/-- Forgetting times changes neither the count of held-back messages nor the last report. -/
theorem expire_eq
    (window : Window)
    (now : Nat) :
    window.expire now = { window with admitted := (window.expire now).admitted } := by
  simp only [expire]
  split <;> rfl

/-- A report is due unless one was made less than a second ago. -/
theorem mayReport_iff
    (window : Window)
    (now : Nat) :
    window.mayReport now = true ↔ ∀ time ∈ window.lastReport, second ≤ now - time := by
  unfold mayReport
  cases window.lastReport <;> simp

/-- The ways in which a window that keeps some of its times decides under a limit. -/
inductive Decides
    (window : Window)
    (limit now : Nat)
    (kept : Array Nat) :
    Verdict → Window → Prop where
  | pass
      (room : kept.size < limit)
      (nothing : window.dropped = 0) :
      Decides window limit now kept ⟨true, none⟩ ⟨kept.push now, 0, window.lastReport⟩
  | passReporting
      (room : kept.size < limit)
      (something : 0 < window.dropped) :
      Decides window limit now kept ⟨true, some window.dropped⟩ ⟨kept.push now, 0, some now⟩
  | refuse
      (full : limit ≤ kept.size)
      (early : window.mayReport now = false) :
      Decides window limit now kept ⟨false, none⟩ ⟨kept, window.dropped + 1, window.lastReport⟩
  | refuseReporting
      (full : limit ≤ kept.size)
      (due : window.mayReport now = true) :
      Decides window limit now kept ⟨false, some (window.dropped + 1)⟩ ⟨kept, 0, some now⟩

/-- Judging a message is one of the four decisions on it. -/
theorem judge_decides
    (window : Window)
    (limit now : Nat) :
    Decides window limit now (window.expire now).admitted
      (window.judge limit now).1 (window.judge limit now).2 := by
  unfold judge
  rw [expire_eq]
  generalize (window.expire now).admitted = kept
  dsimp only
  split
  next room =>
    unfold pass
    dsimp only
    split
    next something =>
      exact .passReporting room something
    next nothing =>
      have none : window.dropped = 0 := Nat.eq_zero_of_not_pos nothing
      rw [none]
      exact .pass room none
  next full =>
    unfold refuse
    split
    next due =>
      exact .refuseReporting (Nat.le_of_not_lt full) due
    next early =>
      exact .refuse (Nat.le_of_not_lt full) (Bool.eq_false_iff.mpr early)

/-- A message passes exactly when fewer times than the limit are left. -/
theorem Decides.admitted_iff
    (decides : window.Decides limit now kept verdict next) :
    verdict.admitted = true ↔ kept.size < limit := by
  cases decides with
  | pass room | passReporting room =>
      simpa using room
  | refuse full | refuseReporting full =>
      simpa using full

/-- The time of a message is kept exactly when it passes. -/
theorem Decides.next_admitted
    (decides : window.Decides limit now kept verdict next) :
    next.admitted.toList = kept.toList ++ if verdict.admitted then [now] else [] := by
  cases decides <;> simp

/-- A message, and what was held back before it, is written, reported or still counted. -/
theorem Decides.balance
    (decides : window.Decides limit now kept verdict next) :
    window.dropped + 1 =
      verdict.admitted.toNat + verdict.report.getD 0 + next.dropped := by
  cases decides with
  | pass _ nothing =>
      simp [nothing]
  | passReporting | refuse | refuseReporting =>
      simp [Nat.add_comm]

/-- A report is never about nothing. -/
theorem Decides.report_pos
    (decides : window.Decides limit now kept verdict next) :
    ∀ count ∈ verdict.report, 0 < count := by
  intro count reported
  cases decides with
  | pass | refuse =>
      cases reported
  | passReporting _ something =>
      cases reported
      exact something
  | refuseReporting =>
      cases reported
      exact Nat.succ_pos _

end Chip8.Window
