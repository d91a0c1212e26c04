import TunTap.Configure
import TunTap.Proofs.Name.Basic

/-!
# One configuration

What a configuration comes to is decided by the text of the name and by one reply. A valid name makes one request,
and by either route the reply to it gives the result (`RequestReply.result`) and the last event
(`RequestReply.event`): this is `configure_of_ok`. A text that is no name gives the error that it is refused for, and
nothing else happens (`configure_of_error`).
-/

namespace TunTap

/-! ## Replies -/

namespace RequestReply

/-- The name that a request for `name` ends with, if it is accepted. -/
def chosen (reply : RequestReply) (name : Name) : Name := reply.assigned.elim name .ofField

/-- What the reply makes of a request for a name. -/
def result (reply : RequestReply) (name : Name) : Except Error Name :=
  match reply.outcome with
  | .accepted _ => .ok (reply.chosen name)
  | .refused n => .error (.refused (.ofNumber n))

/-- What is said of the reply. -/
def event (reply : RequestReply) (fd : Descriptor) (name : Name) : Event :=
  match reply.outcome with
  | .accepted _ => .bound fd (reply.chosen name)
  | .refused n => .refused fd (.ofNumber n)

theorem canonical_chosen (reply : RequestReply) {name : Name} (h : name.Canonical) :
    (reply.chosen name).Canonical := by
  unfold chosen
  cases reply.assigned with
  | none => exact h
  | some f => exact Name.canonical_ofField f

/-- The name read from the request that the reply leaves behind. -/
theorem name_write (reply : RequestReply) {name : Name} (h : name.Canonical) (f : Flags 32) :
    (reply.write (.new name f)).name = reply.chosen name := by
  unfold write chosen
  cases reply.assigned with
  | none => exact h.ofField_field
  | some f => rfl

end RequestReply

/-! ## Configurations -/

theorem Run.map_map {α β γ : Type} (f : α → β) (g : β → γ) (run : Run α) : (run.map f).map g = run.map (g ∘ f) := by
  obtain ⟨result, events, calls, kernel⟩ := run
  cases result <;> rfl

section Configure

variable {route : Route} {fd : Descriptor} {p : Params} {k : Kernel} {name : Name}

/-- Both routes learn of the error number that a request is refused with. -/
theorem Route.failure?_eq_map (route : Route) (o : Outcome) : route.failure? o = o.number?.map .ofNumber := by
  cases route with
  | supplied => rfl
  | systemCall => exact failure?_eq o

/-- A configuration with a valid name. -/
theorem configure_of_ok (h : Name.ofString p.name = .ok name) :
    configure route fd p k =
      ⟨k.nextReply.result name,
        [.configuring fd p.mode name, .flagWord p.flags.narrow, k.nextReply.event fd name],
        [.request route.command? fd (Request.new name p.flags).image], k.afterReply⟩ := by
  have hw := k.nextReply.name_write (Name.canonical_ofString h) p.flags
  simp only [configure, h, route.failure?_eq_map, RequestReply.result, RequestReply.event]
  cases k.nextReply.outcome with
  | accepted v =>
    simp only [Outcome.number?, Option.map_none, hw]
    rfl
  | refused n => rfl

theorem canonical_of_configure (h : (configure route fd p k).result = .ok name) : name.Canonical := by
  cases hn : Name.ofString p.name with
  | error e => rw [configure_of_error hn] at h; cases h
  | ok n =>
    rw [configure_of_ok hn] at h
    simp only [RequestReply.result] at h
    cases ho : k.nextReply.outcome with
    | accepted v =>
      rw [ho] at h
      cases h
      exact k.nextReply.canonical_chosen (Name.canonical_ofString hn)
    | refused m => rw [ho] at h; cases h

end Configure

end TunTap
