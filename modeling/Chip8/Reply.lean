import Chip8.Log.Event

namespace Chip8

/-!
# Replies

Every operation on a machine answers with a result, the state it leaves behind
and the events it announces.  The state is there also when the result is an
error, so what a failed operation leaves behind is part of its meaning.
-/

/-- The answer of an operation. -/
structure Reply (State Result : Type) where
  result : Result
  state : State
  events : List Event

namespace Reply

variable {State Error : Type}

/-- The operation succeeded and announces nothing. -/
def done (state : State) : Reply State (Except Error Unit) where
  result :=
    .ok ()
  state :=
    state
  events :=
    []

/-- The operation gave up and announces nothing. -/
def failed
    (state : State)
    (error : Error) :
    Reply State (Except Error Unit) where
  result :=
    .error error
  state :=
    state
  events :=
    []

/-- The same answer with further events after its own. -/
def announcing
    {Result : Type}
    (reply : Reply State Result)
    (events : List Event) :
    Reply State Result :=
  { reply with events := reply.events ++ events }

/-- An operation that is done succeeds. -/
@[simp] theorem done_result
    (state : State) :
    (done state : Reply State (Except Error Unit)).result = .ok () :=
  rfl

/-- An operation that is done leaves the state that it made. -/
@[simp] theorem done_state
    (state : State) :
    (done state : Reply State (Except Error Unit)).state = state :=
  rfl

/-- An operation that has failed answers its error. -/
@[simp] theorem failed_result
    (state : State)
    (error : Error) :
    (failed state error).result = .error error :=
  rfl

/-- An operation that has failed leaves the state that it was given. -/
@[simp] theorem failed_state
    (state : State)
    (error : Error) :
    (failed state error).state = state :=
  rfl

/-- An announcement does not change the answer. -/
@[simp] theorem announcing_result
    {Result : Type}
    (reply : Reply State Result)
    (events : List Event) :
    (reply.announcing events).result = reply.result :=
  rfl

/-- An announcement does not change the state. -/
@[simp] theorem announcing_state
    {Result : Type}
    (reply : Reply State Result)
    (events : List Event) :
    (reply.announcing events).state = reply.state :=
  rfl

end Reply

end Chip8
