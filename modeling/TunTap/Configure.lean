import TunTap.Error
import TunTap.Kernel

/-!
# Opening and binding

`openControlDevice` opens the control device; `configure` binds a descriptor to the device that the parameters
describe and gives the name that the kernel chose; `configureTun` does so for a device without packet information and
keeps the name to itself. Each gives a `Run`: the result with everything that can be seen of the way to it.

A name that is not valid ends a configuration before anything is logged or sent (`configure_of_error`).
-/

namespace TunTap

/-- What an operation comes to, what happened meanwhile, which calls it made and the kernel after it. -/
structure Run (α : Type) where
  result : Except Error α
  events : List Event
  calls : List Call
  kernel : Kernel

/-- The run with another form of the result. -/
def Run.map {α β : Type} (f : α → β) (run : Run α) : Run β := { run with result := run.result.map f }

/-- Opens the control device, again and again as long as that is interrupted; each attempt takes a reply. -/
def openControlDevice (nonBlocking : Bool) (k : Kernel) : Run Descriptor :=
  attempt k.openReplies
where
  call : Call := .openFile controlPath (openFlags nonBlocking)
  /-- The last attempt. -/
  ended (result : Except Error Descriptor) (rest : List OpenReply) : Run Descriptor :=
    ⟨result, [], [call], { k with openReplies := rest }⟩
  /-- The attempts against the replies left. -/
  attempt : List OpenReply → Run Descriptor
    | [] => ended (.error (.system (.code Errno.notFound))) []
    | .opened fd :: rest => ended (.ok fd) rest
    | .refused n :: rest =>
      if n = Errno.interrupted then
        let later := attempt rest
        { later with calls := call :: later.calls }
      else ended (.error (.system (.code n))) rest

/-- Sends the request for the device that the parameters describe, and reads back the name chosen. -/
def configure (route : Route) (fd : Descriptor) (p : Params) (k : Kernel) : Run Name :=
  match Name.ofString p.name with
  | .error e => ⟨.error (.badName e), [], [], k⟩
  | .ok name =>
    let request := Request.new name p.flags
    let call := Call.request route.command? fd request.image
    let begun := [.configuring fd p.mode name, .flagWord request.flags]
    match route.failure? k.nextReply.outcome with
    | some errno => ⟨.error (.refused errno), begun ++ [.refused fd errno], [call], k.afterReply⟩
    | none =>
      let chosen := (k.nextReply.write request).name
      ⟨.ok chosen, begun ++ [.bound fd chosen], [call], k.afterReply⟩

/-- Binds the descriptor to a device for packets without packet information. -/
def configureTun (fd : Descriptor) (name : String) (k : Kernel) : Run Unit :=
  (configure .systemCall fd (.tun name) k).map fun _ => ()

theorem configure_of_error {route fd p k e} (h : Name.ofString p.name = .error e) :
    configure route fd p k = ⟨.error (.badName e), [], [], k⟩ := by
  simp [configure, h]

end TunTap
