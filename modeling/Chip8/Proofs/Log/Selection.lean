import Chip8.Proofs.Log.Sharing

namespace Chip8

/-!
# Logs of one category

With one category at `trace`, every other level at `off` and room under the rate
limit, the log holds the messages of that category, all of them and in order.
Time may pass between the log calls, which only makes room.
-/

/-- Everything that belongs to one category is heard and nothing else is. -/
structure Logger.HearsOnly
    (logger : Logger)
    (category : Category) : Prop where
  everything : logger.level category = .trace
  others : ∀ other, other ≠ category → logger.level other = .off
  globally : logger.globalLevel = .off

/-- A logger that hears one category only lets every event of it through, and no other. -/
theorem Logger.HearsOnly.enabled_iff
    {logger : Logger}
    {category : Category}
    (hears : logger.HearsOnly category)
    (event : Event) :
    logger.enabled event.category event.level = true ↔ event.category = category := by
  have loud : ¬event.level ≤ .off := by
    cases event <;> exact of_decide_eq_true rfl
  have quiet : event.level ≤ .trace := by
    cases event <;> exact of_decide_eq_true rfl
  rw [enabled, decide_eq_true_iff, threshold]
  by_cases same : event.category = category
  · rw [same, hears.everything, if_neg (by decide)]
    exact iff_of_true quiet rfl
  · rw [hears.others _ same, if_pos rfl, hears.globally]
    exact iff_of_false loud same

/-- Nothing was held back, and so many messages more pass whenever they come. -/
structure Window.HasRoom
    (window : Window)
    (limit count : Nat) : Prop where
  nothing : window.dropped = 0
  room : window.admitted.size + count ≤ limit

/-- A message passes where there is room and takes one place of it. -/
theorem Window.HasRoom.judge
    {window : Window}
    {limit count : Nat}
    (hasRoom : window.HasRoom limit (count + 1))
    (now : Nat) :
    (window.judge limit now).1 = ⟨true, none⟩ ∧
      (window.judge limit now).2.HasRoom limit count := by
  have forgets : (window.expire now).admitted.size ≤ window.admitted.size := by
    rw [← Array.length_toList, expire_admitted_toList, ← Array.length_toList]
    exact (List.dropWhile_suffix _).length_le
  have places := hasRoom.room
  have decides := window.judge_decides limit now
  generalize (window.judge limit now).1 = verdict at decides ⊢
  generalize (window.judge limit now).2 = next at decides ⊢
  cases decides with
  | pass =>
      refine ⟨rfl, rfl, ?_⟩
      rw [Array.size_push]
      omega
  | passReporting room something =>
      have nothing := hasRoom.nothing
      omega
  | refuse full | refuseReporting full =>
      omega

namespace Recorder

/-- A recorder that writes the next messages of one category, so many of them, and no others. -/
structure Hears
    (recorder : Recorder)
    (category : Category)
    (count : Nat) : Prop where
  opened : recorder.journal.Opened
  only : recorder.logger.HearsOnly category
  room : (recorder.window category).HasRoom recorder.logger.limit count

namespace Hears

variable {recorder : Recorder} {category : Category} {count : Nat} {event : Event}

/-- Time that passes changes neither what is heard nor what was written. -/
theorem elapses
    (hears : recorder.Hears category count)
    {operations : List Operation}
    (elapse : ∀ operation ∈ operations, ∃ nanoseconds, operation = .elapse nanoseconds) :
    (recorder.performAll operations).Hears category count ∧
      recorder.Adds (recorder.performAll operations) [] := by
  induction operations generalizing recorder with
  | nil =>
      exact ⟨hears, .nothing recorder⟩
  | cons operation rest inductionHypothesis =>
      obtain ⟨nanoseconds, rfl⟩ := elapse operation List.mem_cons_self
      have later : (recorder.perform (.elapse nanoseconds)).Hears category count :=
        ⟨hears.opened, ⟨hears.only.everything, hears.only.others, hears.only.globally⟩, hears.room⟩
      obtain ⟨still, adds⟩ :=
        inductionHypothesis later fun operation member =>
          elapse operation (List.mem_cons_of_mem _ member)
      exact ⟨still, adds.chosen, adds.text⟩

/-- What belongs to another category is not even seen. -/
theorem ignores
    (hears : recorder.Hears category count)
    (other : event.category ≠ category) :
    recorder.perform event.operation = recorder := by
  have disabled : ¬recorder.logger.enabled event.category event.level = true :=
    mt (hears.only.enabled_iff event).mp other
  simp [Event.operation, perform, log, Logger.log, Logger.judge, disabled]

/-- A message of the category is written. -/
theorem writes
    (hears : recorder.Hears category (count + 1))
    (same : event.category = category) :
    (recorder.perform event.operation).Hears category count ∧
      recorder.Adds (recorder.perform event.operation) [event.message] := by
  subst same
  have enabled := (hears.only.enabled_iff event).mpr rfl
  have called := recorder.call?_log event.category event.level fun _ => event.message
  rw [if_pos enabled, (hears.room.judge recorder.logger.now).1] at called
  have makes := makes_of_call? called
  have journal :
      (recorder.perform event.operation).journal = recorder.journal.write event.message :=
    makes.journal
  have adds : recorder.Adds (recorder.perform event.operation) [event.message] :=
    makes.adds hears.opened
  have logger :
      (recorder.perform event.operation).logger.levels = recorder.logger.levels ∧
        (recorder.perform event.operation).logger.globalLevel = recorder.logger.globalLevel ∧
        (recorder.perform event.operation).logger.limit = recorder.logger.limit := by
    rw [Event.operation, makes.logger]
    exact ⟨rfl, rfl, rfl⟩
  obtain ⟨levels, globalLevel, limit⟩ := logger
  refine ⟨⟨?_, ⟨?_, ?_, ?_⟩, ?_⟩, adds⟩
  · rw [journal]
    exact hears.opened.write _
  · rw [Logger.level, levels]
    exact hears.only.everything
  · intro other different
    rw [Logger.level, levels]
    exact hears.only.others other different
  · rw [globalLevel]
    exact hears.only.globally
  · rw [limit, Event.operation, makes.window_self]
    exact (hears.room.judge _).2

end Hears

end Recorder

/-- Others let time pass between the log calls and do nothing else. -/
def SharedRecorder.OnlyTimePasses (shared : SharedRecorder) : Prop :=
  ∀ call, ∀ operation ∈ shared.others call, ∃ nanoseconds, operation = .elapse nanoseconds

/-- The messages of the category are written, in order, as long as there is room for them all. -/
theorem Recorder.Hears.logAll
    {shared : SharedRecorder}
    {category : Category}
    {events : List Event}
    (hears :
      shared.recorder.Hears category (events.filter fun event => event.category = category).length)
    (undisturbed : shared.OnlyTimePasses) :
    shared.recorder.Adds (shared.logAll events).recorder
      ((events.filter fun event => event.category = category).map Event.message) := by
  induction events generalizing shared with
  | nil =>
      exact .nothing shared.recorder
  | cons event rest inductionHypothesis =>
      have laterUndisturbed : (shared.log event).OnlyTimePasses :=
        fun call => undisturbed (call + 1)
      obtain ⟨ready, waits⟩ := hears.elapses (undisturbed 0)
      rw [SharedRecorder.logAll_cons]
      by_cases same : event.category = category
      · rw [List.filter_cons_of_pos (by simpa using same)] at ready ⊢
        obtain ⟨next, writes⟩ := ready.writes same
        exact waits.trans (writes.trans (inductionHypothesis next laterUndisturbed))
      · rw [List.filter_cons_of_neg (by simpa using same)] at ready ⊢
        have unseen :
            (shared.log event).recorder = shared.recorder.performAll (shared.others 0) :=
          ready.ignores same
        have adds := inductionHypothesis (by rw [unseen]; exact ready) laterUndisturbed
        rw [unseen] at adds
        exact waits.trans adds

end Chip8
