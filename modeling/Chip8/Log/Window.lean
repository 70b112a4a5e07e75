namespace Chip8

/-!
# Rate windows

A window limits how many messages pass within one second.  It keeps the times
of the messages that passed and are not yet older than a second, counts those
it held back, and says from time to time how many that were.  Times are
nanoseconds and never run backwards.
-/

/-- The length of a millisecond on the clock of the logger. -/
def millisecond : Nat := 1000000

/-- The length of a second on the clock of the logger. -/
def second : Nat := 1000 * millisecond

/-- The recent past of one category. -/
structure Window where
  /-- When the messages passed that still count, the earliest first. -/
  admitted : Array Nat
  /--
  How many messages were held back and not yet reported.  A counter as wide as an
  address would do: it starts again with every report, and within a second no
  program logs so many messages that it runs over.
  -/
  dropped : Nat
  /-- When a number of held-back messages was last reported. -/
  lastReport : Option Nat
  deriving Repr, DecidableEq

/-- What becomes of a message. -/
structure Verdict where
  /-- Whether the message passes. -/
  admitted : Bool
  /-- The number of held-back messages to report first. -/
  report : Option Nat
  deriving Repr, DecidableEq

namespace Window

/-- A window that has seen nothing. -/
def empty : Window where
  admitted :=
    #[]
  dropped :=
    0
  lastReport :=
    none

/-- Whether a time is more than a second ago. -/
def isExpired
    (now time : Nat) :
    Bool :=
  decide (second < now - time)

/-- Forget the earliest messages as long as they are more than a second ago. -/
def expire
    (window : Window)
    (now : Nat) :
    Window :=
  let expired := window.admitted.findIdx fun time => !isExpired now time
  if expired = 0 then
    window
  else
    { window with admitted := window.admitted.extract expired window.admitted.size }

/-- Whether the last report is at least a second ago, or there was none. -/
def mayReport
    (window : Window)
    (now : Nat) :
    Bool :=
  match window.lastReport with
  | none => true
  | some time => decide (second ≤ now - time)

/-- Let a message pass, reporting what was held back before it. -/
def pass
    (window : Window)
    (now : Nat) :
    Verdict × Window :=
  let noted := { window with admitted := window.admitted.push now }
  if 0 < window.dropped then
    ( { admitted := true, report := some window.dropped },
      { noted with dropped := 0, lastReport := some now } )
  else
    ({ admitted := true, report := none }, noted)

/-- Hold a message back, reporting it and those before it when a report is due. -/
def refuse
    (window : Window)
    (now : Nat) :
    Verdict × Window :=
  if window.mayReport now then
    ( { admitted := false, report := some (window.dropped + 1) },
      { window with dropped := 0, lastReport := some now } )
  else
    ( { admitted := false, report := none },
      { window with dropped := window.dropped + 1 } )

/-- Decide on a message under a limit of messages a second. -/
def judge
    (window : Window)
    (limit now : Nat) :
    Verdict × Window :=
  let current := window.expire now
  if current.admitted.size < limit then
    current.pass now
  else
    current.refuse now

end Window

end Chip8
