import TunTap.Log
import TunTap.Request.Image

/-!
# The kernel

The kernel as far as it can be seen: the replies that it will give to the calls to come (`Kernel`). A request takes the
next reply; the kernel may write to the name field even if it refuses. Without a reply left, requests are accepted
unchanged and no file is found.

A request goes by one of two routes (`Route`): by a sender that the caller supplies, which tells of a failure itself,
or by the system call, whose return value `-1` tells that there is an error number to look up. Both tell the same
(`Route.failure?_eq`).
-/

namespace TunTap

/-! ## Replies -/

/-- How a request ends. -/
inductive Outcome where
  /-- With a return value that does not stand for a failure. -/
  | accepted (value : { v : Int32 // v ≠ -1 })
  | refused (number : Int32)

/-- The return value of the system call. -/
def Outcome.returnValue : Outcome → Int32
  | accepted v => v
  | refused _ => -1

/-- The error number left behind. -/
def Outcome.number? : Outcome → Option Int32
  | accepted _ => none
  | refused n => some n

structure RequestReply where
  /-- What is written over the name field. -/
  assigned : Option NameField
  outcome : Outcome

/-- The request as the reply leaves it. -/
def RequestReply.write (reply : RequestReply) (r : Request) : Request :=
  reply.assigned.elim r r.setField

inductive OpenReply where
  | opened (fd : Descriptor)
  | refused (number : Int32)

structure Kernel where
  requestReplies : List RequestReply
  openReplies : List OpenReply

/-- The reply to a request when none is left. -/
def RequestReply.accept : RequestReply := ⟨none, .accepted ⟨0, by decide⟩⟩

namespace Kernel

/-- The reply to the next request. -/
def nextReply (k : Kernel) : RequestReply := k.requestReplies.headD .accept

/-- The kernel after the next request. -/
def afterReply (k : Kernel) : Kernel := { k with requestReplies := k.requestReplies.tail }

end Kernel

/-! ## Calls -/

/-- A call that the kernel received. -/
inductive Call where
  | request (command : Option UInt32) (fd : Descriptor) (image : List UInt8)
  | openFile (path : String) (flags : UInt32)
deriving DecidableEq

/-- The path of the control device. -/
def controlPath : String := "/dev/net/tun"

/-- Opened to read and write, closed when another program is run, and on demand without waiting for packets. -/
def openFlags (nonBlocking : Bool) : UInt32 :=
  0x2 ||| 0x80000 ||| if nonBlocking then 0x800 else 0

/-- The number of the command that binds a descriptor: command 202 of the group `T`, which takes an `int`. -/
def bindCommand : UInt32 := (1 : UInt32) <<< 30 ||| (4 : UInt32) <<< 16 ||| 'T'.val <<< 8 ||| 202

/-! ## Routes -/

/-- The way that a request takes to the kernel. -/
inductive Route where
  | supplied
  | systemCall
deriving DecidableEq

namespace Route

/-- The command number that is sent along. -/
def command? : Route → Option UInt32
  | supplied => none
  | systemCall => some bindCommand

/-- The error that the sender learns of. -/
def failure? : Route → Outcome → Option Errno
  | supplied, o => o.number?.map .ofNumber
  | systemCall, o => if o.returnValue = -1 then some (.ofNumber (o.number?.getD 0)) else none

theorem failure?_eq (o : Outcome) : systemCall.failure? o = supplied.failure? o := by
  cases o with
  | accepted v => simp [failure?, Outcome.returnValue, Outcome.number?, v.2]
  | refused n => rfl

end Route

end TunTap
