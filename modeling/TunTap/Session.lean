import TunTap.Configure

/-!
# Sessions

A sequence of steps against one kernel. A session remembers the control device that it opened last and the name that
the last successful `configure` gave, and a step may refer to either. Each step has an `Answer`: its result and what
could be seen of it.
-/

namespace TunTap.Session

/-- A step; where the descriptor or the name is left out, it is the one remembered. -/
inductive Step where
  | openDevice (nonBlocking : Bool)
  | configure (route : Route) (fd : Option Descriptor) (name : Option String) (mode : Mode) (packetInfo : Bool)
  | configureTun (fd : Option Descriptor) (name : Option String)

structure State where
  kernel : Kernel
  /-- The control device held open. -/
  held : Option Descriptor
  /-- The text of the name given last, empty at first. -/
  lastName : String

/-- The state before the first step. -/
def State.start (k : Kernel) : State := ⟨k, none, ""⟩

/-- The descriptor meant; `-1` is no file. -/
def State.descriptor (s : State) (fd : Option Descriptor) : Descriptor := (fd <|> s.held).getD (-1)

/-- What a step gives. -/
inductive Value where
  | descriptor (fd : Descriptor)
  | name (n : Name)
  | done
deriving DecidableEq

structure Answer where
  result : Except Error Value
  records : List Record
  calls : List Call
  /-- How many replies to requests and to opens are left. -/
  left : Nat × Nat
  held : Option Descriptor

/-- The answer for a run that leads to the state `s`. -/
def answer (limit : Option Level) (run : Run Value) (s : State) : Answer where
  result := run.result
  records := Event.records limit run.events
  calls := run.calls
  left := (run.kernel.requestReplies.length, run.kernel.openReplies.length)
  held := s.held

/-- A step and its answer. The device held is closed before another one is opened. -/
def step (limit : Option Level) (s : State) : Step → Answer × State
  | .openDevice nonBlocking =>
    let run := openControlDevice nonBlocking s.kernel
    let s' := { s with kernel := run.kernel, held := run.result.toOption }
    (answer limit (run.map .descriptor) s', s')
  | .configure route fd name mode packetInfo =>
    let run := TunTap.configure route (s.descriptor fd) ⟨name.getD s.lastName, mode, packetInfo⟩ s.kernel
    let s' := { s with kernel := run.kernel, lastName := (run.result.toOption.map Name.text).getD s.lastName }
    (answer limit (run.map .name) s', s')
  | .configureTun fd name =>
    let run := TunTap.configureTun (s.descriptor fd) (name.getD s.lastName) s.kernel
    let s' := { s with kernel := run.kernel }
    (answer limit (run.map fun _ => .done) s', s')

/-- The answers to the steps in order. -/
def run (limit : Option Level) : State → List Step → List Answer
  | _, [] => []
  | s, e :: es => (step limit s e).1 :: run limit (step limit s e).2 es

end TunTap.Session
