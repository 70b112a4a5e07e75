import Chip8.Proofs.Log.Recorder

namespace Chip8

/-!
# Shared recorders

A machine does not have the recorder to itself.  Between two of its log calls
time passes, and others may change levels and limits, choose files and log
messages of their own.
-/

/-- A recorder and what others do with it between the log calls of a machine. -/
structure SharedRecorder where
  recorder : Recorder
  /-- What others do before each log call that is still to come, the next one first. -/
  others : Nat → List Recorder.Operation

/-- The log call that announces an event. -/
def Event.operation (event : Event) : Recorder.Operation :=
  .log event.category event.level fun _ => event.message

namespace SharedRecorder

/-- Let others go first and then log an event. -/
def log
    (shared : SharedRecorder)
    (event : Event) :
    SharedRecorder where
  recorder :=
    (shared.recorder.performAll (shared.others 0)).perform event.operation
  others call :=
    shared.others (call + 1)

/-- Log events one after the other. -/
def logAll
    (shared : SharedRecorder)
    (events : List Event) :
    SharedRecorder :=
  events.foldl log shared

/-- A recorder that nobody else uses, on a clock that stands still. -/
def unshared (recorder : Recorder) : SharedRecorder where
  recorder :=
    recorder
  others _ :=
    []

/-- Logging nothing leaves the recorder as it is. -/
@[simp] theorem logAll_nil
    (shared : SharedRecorder) :
    shared.logAll [] = shared :=
  rfl

/-- Events are logged one after the other. -/
@[simp] theorem logAll_cons
    (shared : SharedRecorder)
    (event : Event)
    (rest : List Event) :
    shared.logAll (event :: rest) = (shared.log event).logAll rest :=
  rfl

/-- Two lists of events are logged one after the other. -/
theorem logAll_append
    (shared : SharedRecorder)
    (before after : List Event) :
    shared.logAll (before ++ after) = (shared.logAll before).logAll after :=
  List.foldl_append

end SharedRecorder

/-- A further event is recorded behind the others. -/
theorem Logger.recordAll_append_singleton
    (logger : Logger)
    (events : List Event)
    (event : Event) :
    logger.recordAll (events ++ [event]) =
      ((logger.recordAll events).1 ++ ((logger.recordAll events).2.record event).1,
        ((logger.recordAll events).2.record event).2) := by
  simp [recordAll]

/-- A recorder behind lines that a logger gave for it, with the logger as it is then. -/
def Recorder.behind
    (recorder : Recorder)
    (recorded : Array String × Logger) :
    Recorder where
  logger :=
    recorded.2
  journal :=
    recorded.1.toList.foldl Journal.write recorder.journal

/-- Logging events one by one on a recorder of one's own is recording them all at once. -/
theorem SharedRecorder.unshared_logAll
    (recorder : Recorder)
    (events : List Event) :
    (unshared recorder).logAll events =
      unshared (recorder.behind (recorder.logger.recordAll events)) := by
  induction events using List.reverseRecOn with
  | nil =>
      rfl
  | append_singleton events event inductionHypothesis =>
      rw [logAll_append, inductionHypothesis, Logger.recordAll_append_singleton]
      simp [log, unshared, Recorder.behind, Recorder.performAll, Recorder.perform, Recorder.log,
        Event.operation, Logger.record]

end Chip8
