import TunTap.Proofs.Session.History

/-!
# Requests and replies

A step makes one request if it binds a descriptor under a valid name, and none otherwise (`length_requests_step`); the
request takes one reply from the script, and nothing else does (`requestReplies_step`). So the replies before a step
are those that the requests so far have left over (`requestReplies_before`), which says of each request of a session
by which reply it is answered (`requests_accounted`).
-/

namespace TunTap

def Call.isRequest : Call → Bool
  | .request .. => true
  | .openFile .. => false

namespace Session

namespace Taken

/-- The requests that the step made. -/
def requests (t : Taken) : List Call := t.answer.calls.filter Call.isRequest

/-- The step binds a descriptor under a valid name. -/
def sends (t : Taken) : Bool := (t.step.binding? t.before).any fun b => Name.Valid b.params.name

/-- The step and the requests before it, `n` in number, agree with a script. -/
structure Accounted (limit : Option Level) (script : List RequestReply) (n : Nat) (t : Taken) : Prop where
  one : t.requests.length = if t.sends then 1 else 0
  opening : t.step.binding? t.before = none → t.requests = []
  binding : (t.step.binding? t.before).isSome → t.requests = t.answer.calls
  /-- The reply is the one in the script, or one that accepts and writes nothing when the script is used up. -/
  answered : ∀ b name, t.step.binding? t.before = some b → Name.ofString b.params.name = .ok name →
    let reply := script[n]?.getD ⟨none, .accepted ⟨0, by decide⟩⟩
    t.answer.result = (reply.result name).map t.step.value ∧
      t.answer.records = Event.records limit
        [.configuring b.fd b.params.mode name, .flagWord b.params.flags.narrow, reply.event b.fd name]
  left : t.answer.left.1 = script.length - (n + t.requests.length)

end Taken

/-- The requests made in a history. -/
def requests (ts : List Taken) : List Call := ts.flatMap Taken.requests

/-! ## One step -/

section Steps

variable {limit : Option Level} {s : State} {e : Step}

theorem requests_of_opening (h : e.binding? s = none) : (taken limit s e).requests = [] := by
  obtain ⟨nonBlocking, rfl⟩ := Step.eq_openDevice h
  rw [Taken.requests, taken, step_openDevice]
  exact List.filter_replicate_of_neg Bool.false_ne_true

theorem requests_of_error {b : Binding} {c : NameError} (h : e.binding? s = some b)
    (hn : Name.ofString b.params.name = .error c) : (taken limit s e).requests = [] := by
  rw [Taken.requests, taken, step_of_error h hn]
  rfl

theorem requests_of_ok {b : Binding} {n : Name} (h : e.binding? s = some b)
    (hn : Name.ofString b.params.name = .ok n) :
    (taken limit s e).requests = [.request b.route.command? b.fd (Request.new n b.params.flags).image] := by
  rw [Taken.requests, taken, step_of_ok h hn]
  rfl

/-- A step that binds makes requests only. -/
theorem requests_eq_calls (h : (e.binding? s).isSome) : (taken limit s e).requests = (taken limit s e).answer.calls := by
  obtain ⟨b, hb⟩ := Option.isSome_iff_exists.1 h
  cases hn : Name.ofString b.params.name with
  | error c => rw [requests_of_error hb hn, taken, step_of_error hb hn]
  | ok n => rw [requests_of_ok hb hn, taken, step_of_ok hb hn]

theorem sends_of_binding {b : Binding} (h : e.binding? s = some b) :
    (taken limit s e).sends = decide (Name.Valid b.params.name) := by
  simp [Taken.sends, taken, h]

/-- A step makes one request or none. -/
theorem length_requests_step (limit : Option Level) (s : State) (e : Step) :
    (taken limit s e).requests.length = if (taken limit s e).sends then 1 else 0 := by
  rcases e.opens_or_binds s with ⟨nonBlocking, rfl⟩ | ⟨b, hb, ⟨c, hn⟩ | ⟨n, hn⟩⟩
  · rw [requests_of_opening rfl]
    rfl
  · have hv : ¬ Name.Valid b.params.name := fun hv => by rw [Name.ofString_of_valid hv] at hn; cases hn
    rw [requests_of_error hb hn, sends_of_binding hb, decide_eq_false hv]
    rfl
  · rw [requests_of_ok hb hn, sends_of_binding hb, decide_eq_true (Name.ofString_eq_ok_iff.1 hn).1]
    rfl

/-- The request takes the next reply. -/
theorem requestReplies_step (limit : Option Level) (s : State) (e : Step) :
    (step limit s e).2.kernel.requestReplies =
      s.kernel.requestReplies.drop (taken limit s e).requests.length := by
  rcases e.opens_or_binds s with ⟨nonBlocking, rfl⟩ | ⟨b, hb, ⟨c, hn⟩ | ⟨n, hn⟩⟩
  · rw [requests_of_opening rfl, step_openDevice]
    rfl
  · rw [requests_of_error hb hn, step_of_error hb hn]
    rfl
  · rw [requests_of_ok hb hn, step_of_ok hb hn]
    exact List.drop_one.symm

end Steps

/-! ## Sessions -/

variable {limit : Option Level}

/-- The replies left before a step. -/
theorem requestReplies_before {t : Taken} {s : State} {es : List Step} {i : Nat}
    (h : (history limit s es)[i]? = some t) :
    t.before.kernel.requestReplies = s.kernel.requestReplies.drop (requests ((history limit s es).take i)).length :=
  queue_before (fun s => s.kernel.requestReplies) Taken.requests (requestReplies_step limit) h

/-- Each step accounts for its own requests. -/
theorem length_requests {ts : List Taken} (h : ∀ t ∈ ts, t = taken limit t.before t.step) :
    (requests ts).length = ts.countP Taken.sends := by
  induction ts with
  | nil => rfl
  | cons t ts ih =>
    have ht := length_requests_step limit t.before t.step
    rw [← h t List.mem_cons_self] at ht
    have hs : (requests (t :: ts)).length = t.requests.length + (requests ts).length := by
      rw [requests, List.flatMap_cons, List.length_append]
      rfl
    rw [hs, ht, ih fun u hu => h u (List.mem_cons_of_mem _ hu), List.countP_cons, Nat.add_comm]

/-- A step in a session, when `n` requests have been made. -/
theorem accounted_taken {script : List RequestReply} {n : Nat} {s : State} (e : Step)
    (h : s.kernel.requestReplies = script.drop n) : (taken limit s e).Accounted limit script n where
  one := length_requests_step limit s e
  opening := requests_of_opening
  binding := requests_eq_calls
  answered := by
    intro b name hb hn reply
    have hb : e.binding? s = some b := hb
    have hr : s.kernel.nextReply = reply := by
      rw [Kernel.nextReply, h, List.headD_eq_head?_getD, List.head?_drop]
      rfl
    rw [taken, step_of_ok hb hn, hr]
    exact ⟨rfl, rfl⟩
  left := by
    show (step limit s e).1.left.1 = _
    rw [left_step, requestReplies_step, h, List.drop_drop, List.length_drop]

/-- **Requests and replies.** -/
theorem requests_accounted (limit : Option Level) (s : State) (es : List Step) :
    (∀ n, (requests ((history limit s es).take n)).length = ((history limit s es).take n).countP Taken.sends) ∧
      ∀ (i : Nat) (t : Taken), (history limit s es)[i]? = some t →
        t.Accounted limit s.kernel.requestReplies (requests ((history limit s es).take i)).length := by
  constructor
  · intro n
    exact length_requests fun t ht => eq_taken_of_mem (List.mem_of_mem_take ht)
  · intro i t h
    rw [eq_taken_of_mem (List.mem_of_getElem? h)]
    exact accounted_taken t.step (requestReplies_before h)

/-- An interrupted request is not made again: the second request of this session takes the second reply, and the step
between them, whose name has a nul byte, takes none. -/
theorem requests_accounted_after_interruption :
    let script : List RequestReply := [⟨none, .refused 4⟩, ⟨some (.ofBytes [0x74, 0x75, 0x6e, 0x37]), .refused 11⟩]
    let es : List Step :=
      [.configure .supplied (some 3) (some "tun0") .tun true, .configureTun (some 3) (some "a\x00"),
        .configureTun (some 3) (some "tun0")]
    let h := history none (.start ⟨script, []⟩) es
    ∃ t, h[2]? = some t ∧ t.Accounted none script (requests (h.take 2)).length ∧ (requests (h.take 2)).length = 1 := by
  intro script es h
  have ha := requests_accounted none (.start ⟨script, []⟩) es
  refine ⟨_, rfl, ha.2 2 _ rfl, ?_⟩
  rw [ha.1 2]
  decide

end Session

end TunTap
