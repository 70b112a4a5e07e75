import Chip8.Log.Event
import Chip8.Log.Window

namespace Chip8

/-!
# The logger

The logger decides which messages become lines.  A category with a level of its
own follows that level, a category at `off` follows the global level, and each
category has a rate window of its own.  A message that is not enabled leaves no
trace in the logger.
-/

/-- The levels, the rate limit, the rate windows and the clock. -/
structure Logger where
  globalLevel : Level
  levels : Vector Level 6
  /-- How many messages of a category pass within a second. -/
  limit : Nat
  windows : Vector Window 6
  /-- The present time in nanoseconds. -/
  now : Nat
  deriving DecidableEq

namespace Logger

/-- A logger with everything off and sixty messages a second. -/
def initial : Logger where
  globalLevel :=
    .off
  levels :=
    Vector.replicate 6 .off
  limit :=
    60
  windows :=
    Vector.replicate 6 Window.empty
  now :=
    0

/-- The level that a category has of its own. -/
def level
    (logger : Logger)
    (category : Category) :
    Level :=
  logger.levels[category.index]

/-- Change the global level. -/
def setGlobalLevel
    (logger : Logger)
    (level : Level) :
    Logger :=
  { logger with globalLevel := level }

/-- Change the level of a category. -/
def setLevel
    (logger : Logger)
    (category : Category)
    (level : Level) :
    Logger :=
  { logger with levels := logger.levels.set category.index level }

/-- Put the global level and the level of every category to `off`. -/
def reset (logger : Logger) : Logger :=
  { logger with
    globalLevel := .off
    levels := Vector.replicate 6 .off }

/-- Change the number of messages that pass within a second. -/
def setLimit
    (logger : Logger)
    (limit : Nat) :
    Logger :=
  { logger with limit }

/-- Let the clock run on. -/
def elapse
    (logger : Logger)
    (nanoseconds : Nat) :
    Logger :=
  { logger with now := logger.now + nanoseconds }

/-- Let the clock run on by whole milliseconds. -/
def advance
    (logger : Logger)
    (milliseconds : Nat) :
    Logger :=
  logger.elapse (milliseconds * millisecond)

/-- The highest level at which a category is heard. -/
def threshold
    (logger : Logger)
    (category : Category) :
    Level :=
  if logger.level category = .off then
    logger.globalLevel
  else
    logger.level category

/-- Whether messages of a category and level are heard at all. -/
def enabled
    (logger : Logger)
    (category : Category)
    (level : Level) :
    Bool :=
  decide (level ≤ logger.threshold category)

/-- Decide on a message; nothing happens when it is not enabled. -/
def judge
    (logger : Logger)
    (category : Category)
    (level : Level) :
    Option Verdict × Logger :=
  if logger.enabled category level then
    let (verdict, window) := logger.windows[category.index].judge logger.limit logger.now
    (some verdict, { logger with windows := logger.windows.set category.index window })
  else
    (none, logger)

/-- The line that reports held-back messages. -/
def reportText
    (category : Category)
    (count : Nat) :
    String :=
  s!"[{category.name}] WARNING: Rate limit exceeded, " ++
    s!"{count} log message(s) dropped in the last second"

/-- The lines that a verdict calls for; the message is made only when it passes. -/
def lines
    (category : Category)
    (message : Unit → String)
    (verdict : Verdict) :
    List String :=
  (verdict.report.toList.map (reportText category)) ++
    (if verdict.admitted then [message ()] else [])

/-- Log a message: the lines to write and the logger afterwards. -/
def log
    (logger : Logger)
    (category : Category)
    (level : Level)
    (message : Unit → String) :
    List String × Logger :=
  match logger.judge category level with
  | (some verdict, logger) => (lines category message verdict, logger)
  | (none, logger) => ([], logger)

/-- Log one event. -/
def record
    (logger : Logger)
    (event : Event) :
    List String × Logger :=
  logger.log event.category event.level fun _ => event.message

/-- Log events in order. -/
def recordAll
    (logger : Logger)
    (events : List Event) :
    Array String × Logger :=
  events.foldl
    (fun (written, logger) event =>
      let (lines, logger) := logger.record event
      (written ++ lines, logger))
    (#[], logger)

end Logger

end Chip8
