import Chip8.Instruction.Decode
import Chip8.Machine.Execute

namespace Chip8.Machine

/-!
# Steps

A step fetches the word at `pc`, moves `pc` past it and executes it.  A word
that names no operation does nothing more.  When execution gives up, `pc` and
the last word are put back.
-/

/-- The lines that announce why a fetch failed. -/
def fetchEvents
    (address : UInt16) :
    Stop → List Event
  | .fault cause => [.fetchFault address cause]
  | .crash => []

/-- The lines that announce why an execution failed. -/
def faultEvents
    (address word : UInt16) :
    Stop → List Event
  | .fault cause => [.faulted address word cause]
  | .crash => []

/-- The machine as it is after the word at `pc` was fetched. -/
def fetched
    (machine : Machine)
    (word : UInt16) :
    Machine :=
  { machine with lastWord := word, pc := machine.pc + 2 }

/-- Fetch, decode and execute one instruction. -/
def step (machine : Machine) : Reply Machine (Except Stop Unit) :=
  let address := machine.pc
  let previous := machine.lastWord
  match machine.memory.readWord address.toNat with
  | .error stop =>
      (Reply.failed machine stop).announcing (fetchEvents address stop)
  | .ok word =>
      match Instruction.decode? word with
      | none =>
          (Reply.done (machine.fetched word)).announcing [.undefined address word]
      | some instruction =>
          let reply := (machine.fetched word).execute instruction
          let announced := .executed address word instruction :: reply.events
          match reply.result with
          | .ok () =>
              { reply with events := announced }
          | .error stop =>
              { result := .error stop
                state := { reply.state with pc := address, lastWord := previous }
                events := announced ++ faultEvents address word stop }

/-- Take up to `cycles` steps after the announced events, stopping where one fails. -/
def runAnnouncing
    (announced : Array Event) :
    Nat → Machine → Reply Machine (Except Stop Unit)
  | 0, machine =>
      { result := .ok (), state := machine, events := announced.toList }
  | cycles + 1, machine =>
      let reply := machine.step
      match reply.result with
      | .ok () => runAnnouncing (announced ++ reply.events) cycles reply.state
      | .error stop =>
          { result := .error stop
            state := reply.state
            events := (announced ++ reply.events).toList }

/-- Take up to `cycles` steps, stopping where one fails. -/
def run
    (cycles : Nat)
    (machine : Machine) :
    Reply Machine (Except Stop Unit) :=
  runAnnouncing #[] cycles machine

end Chip8.Machine
