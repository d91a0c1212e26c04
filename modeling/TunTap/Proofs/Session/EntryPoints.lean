import TunTap.Proofs.Session.History

/-!
# Ways to ask for one device

The same configuration can be asked for by either route (`Step.via`), and a plain TUN device by a step that keeps the
name chosen to itself (`Step.short`). By another route nothing changes but the command number sent along
(`step_via`), and the short form gives the same answer but for the name (`step_short`), which it does not remember
either. So any set of steps of a session can be written the other way (`entry_points_agree`).
-/

namespace TunTap

/-- The call with another command number. -/
def Call.withCommand (command : Option UInt32) : Call → Call
  | .request _ fd image => .request command fd image
  | .openFile path flags => .openFile path flags

/-- The route decides on the command number and on nothing else. -/
theorem configure_route (route route' : Route) (fd : Descriptor) (p : Params) (k : Kernel) :
    configure route' fd p k =
      { configure route fd p k with
        calls := (configure route fd p k).calls.map (Call.withCommand route'.command?) } := by
  cases hn : Name.ofString p.name with
  | error e =>
    rw [configure_of_error hn, configure_of_error hn]
    rfl
  | ok n =>
    rw [configure_of_ok hn, configure_of_ok hn]
    rfl

namespace Session

/-! ## Other forms of a step -/

/-- The configuration by this route. -/
def Step.via (route : Route) : Step → Step
  | .configure _ fd name mode packetInfo => .configure route fd name mode packetInfo
  | e => e

/-- The configuration of a plain TUN device, in short form. -/
def Step.short : Step → Step
  | .configure _ fd name _ _ => .configureTun fd name
  | e => e

/-- The answer with the command number that belongs to a route. -/
def Answer.via (route : Route) (a : Answer) : Answer :=
  { a with calls := a.calls.map (Call.withCommand route.command?) }

/-- The answer without the name that it gives. -/
def Answer.short (a : Answer) : Answer := { a with result := a.result.map fun _ => .done }

/-- The step is a configuration that tells the name chosen. -/
def Step.Configures (e : Step) : Prop :=
  ∃ route fd name mode packetInfo, e = .configure route fd name mode packetInfo

/-- The step configures a plain TUN device by the system call. -/
def Step.PlainTun (e : Step) : Prop := ∃ fd name, e = .configure .systemCall fd name .tun false

/-- The step does not use the name given last. -/
def Step.Explicit : Step → Prop
  | .openDevice _ => True
  | .configure _ _ name _ _ => name.isSome
  | .configureTun _ name => name.isSome

/-- The entries of a list, those whose place is in `D` in another form. -/
def replaceAt {α : Type} (D : Nat → Bool) (f : α → α) (l : List α) : List α :=
  l.mapIdx fun i a => if D i then f a else a

theorem replaceAt_cons {α : Type} (D : Nat → Bool) (f : α → α) (a : α) (l : List α) :
    replaceAt D f (a :: l) = (if D 0 then f a else a) :: replaceAt (fun i => D (i + 1)) f l :=
  List.mapIdx_cons

/-! ## One step -/

section Steps

variable {limit : Option Level} {s : State} {e : Step}

theorem step_via (route : Route) (h : e.Configures) :
    step limit s (e.via route) = ((step limit s e).1.via route, (step limit s e).2) := by
  obtain ⟨route', fd, name, mode, packetInfo, rfl⟩ := h
  simp only [step, Step.via]
  rw [configure_route route' route]
  rfl

/-- The short form forgets the name. -/
theorem step_short (h : e.PlainTun) :
    step limit s e.short = ((step limit s e).1.short, { (step limit s e).2 with lastName := s.lastName }) := by
  obtain ⟨fd, name, rfl⟩ := h
  rw [Step.short, step_of_binding (e := .configureTun fd name) rfl,
    step_of_binding (e := .configure .systemCall fd name .tun false) rfl]
  obtain ⟨result, events, calls, kernel⟩ :=
    TunTap.configure .systemCall ((fd <|> s.held).getD (-1)) ⟨name.getD s.lastName, .tun, false⟩ s.kernel
  cases result <;> rfl

/-- A step that does not use the name given last does not depend on it. -/
theorem step_of_explicit (limit : Option Level) (s : State) (h : e.Explicit) (name : String) : ∃ name',
    step limit { s with lastName := name } e =
      ((step limit s e).1, { (step limit s e).2 with lastName := name' }) := by
  cases e with
  | openDevice => exact ⟨_, rfl⟩
  | configure _ _ name _ _ =>
    obtain ⟨name, rfl⟩ := Option.isSome_iff_exists.1 h
    exact ⟨_, rfl⟩
  | configureTun _ name =>
    obtain ⟨name, rfl⟩ := Option.isSome_iff_exists.1 h
    exact ⟨_, rfl⟩

end Steps

/-! ## Sessions -/

variable {limit : Option Level}

theorem run_via (route : Route) {s : State} {es : List Step} {D : Nat → Bool}
    (h : ∀ i e, es[i]? = some e → D i → e.Configures) :
    run limit s (replaceAt D (Step.via route) es) = replaceAt D (Answer.via route) (run limit s es) := by
  induction es generalizing s D with
  | nil => rfl
  | cons e es ih =>
    have ih := ih (s := (step limit s e).2) fun i e' he => h (i + 1) e' he
    simp only [run, replaceAt_cons]
    split
    · next h0 => rw [step_via route (h 0 e rfl h0), ih]
    · rw [ih]

/-- A session with steps in short form, from a state that may differ in the name given last if no step uses it. -/
theorem run_short {es : List Step} {D : Nat → Bool} (s : State) (name : String)
    (hp : ∀ i e, es[i]? = some e → D i → e.PlainTun)
    (hD : ∀ i j e, D i → i < j → es[j]? = some e → e.Explicit)
    (hn : name = s.lastName ∨ ∀ e ∈ es, e.Explicit) :
    run limit { s with lastName := name } (replaceAt D Step.short es) = replaceAt D Answer.short (run limit s es) := by
  induction es generalizing s name D with
  | nil => rfl
  | cons e es ih =>
    have ih s name := ih s name (fun i e' he => hp (i + 1) e' he)
      fun i j e' hi hj he => hD (i + 1) (j + 1) e' hi (Nat.succ_lt_succ hj) he
    -- the step itself, where the name given last differs
    obtain ⟨name', hs, hn'⟩ : ∃ name',
        step limit { s with lastName := name } e =
          ((step limit s e).1, { (step limit s e).2 with lastName := name' }) ∧
        (name' = (step limit s e).2.lastName ∨ ∀ e ∈ es, e.Explicit) := by
      rcases hn with rfl | hn
      · exact ⟨_, rfl, .inl rfl⟩
      · obtain ⟨name', hs⟩ := step_of_explicit limit s (hn e List.mem_cons_self) name
        exact ⟨name', hs, .inr fun e' he => hn e' (List.mem_cons_of_mem _ he)⟩
    simp only [run, replaceAt_cons]
    split
    · next h0 =>
      have he : ∀ e' ∈ es, e'.Explicit := fun e' he => by
        obtain ⟨i, hi⟩ := List.mem_iff_getElem?.1 he
        exact hD 0 (i + 1) e' h0 (Nat.succ_pos i) hi
      rw [step_short (hp 0 e rfl h0), hs]
      exact congrArg _ (ih (step limit s e).2 name (.inr he))
    · rw [hs, ih _ _ hn']

/-- **Ways to ask for one device.** Configurations of a session by another route give the same answers but for the
command number; configurations of plain TUN devices in short form, if no later step uses the name given last, give the
same answers but for the name. -/
theorem entry_points_agree (limit : Option Level) (s : State) (es : List Step) (D : Nat → Bool) :
    ((∀ i e, es[i]? = some e → D i → e.Configures) → ∀ route,
      run limit s (replaceAt D (Step.via route) es) = replaceAt D (Answer.via route) (run limit s es)) ∧
    ((∀ i e, es[i]? = some e → D i → e.PlainTun) →
      (∀ i j e, D i → i < j → es[j]? = some e → e.Explicit) →
      run limit s (replaceAt D Step.short es) = replaceAt D Answer.short (run limit s es)) :=
  ⟨fun h route => run_via route h, fun hp hD => run_short s s.lastName hp hD (.inl rfl)⟩

/-- The first step by the other route, and the second, which uses the name that the first was given, in short form. -/
theorem entry_points_agree_after_assignment :
    let s := State.start ⟨[⟨some (.ofBytes [0x74, 0x75, 0x6e, 0x37]), .accepted ⟨0, by decide⟩⟩], []⟩
    let es : List Step :=
      [.configure .supplied (some 3) (some "tun%d") .tap true, .configure .systemCall (some 3) none .tun false,
        .configureTun (some 4) (some "tun9")]
    ((∀ i e, es[i]? = some e → i == 0 → e.Configures) ∧
      run none s (replaceAt (· == 0) (Step.via .systemCall) es) =
        replaceAt (· == 0) (Answer.via .systemCall) (run none s es)) ∧
    (∀ i e, es[i]? = some e → i == 1 → e.PlainTun) ∧
      (∀ i j e, i == 1 → i < j → es[j]? = some e → e.Explicit) ∧
      run none s (replaceAt (· == 1) Step.short es) = replaceAt (· == 1) Answer.short (run none s es) := by
  intro s es
  have hc : ∀ i e, es[i]? = some e → i == 0 → e.Configures := by
    intro i e he hi
    obtain rfl := eq_of_beq hi
    cases he
    exact ⟨_, _, _, _, _, rfl⟩
  have hp : ∀ i e, es[i]? = some e → i == 1 → e.PlainTun := by
    intro i e he hi
    obtain rfl := eq_of_beq hi
    cases he
    exact ⟨_, _, rfl⟩
  have hD : ∀ i j e, i == 1 → i < j → es[j]? = some e → e.Explicit := by
    intro i j e hi hj he
    obtain rfl := eq_of_beq hi
    match j, hj, he with
    | 2, _, he => cases he; rfl
    | j + 3, _, he => cases he
  exact ⟨⟨hc, (entry_points_agree none s es (· == 0)).1 hc .systemCall⟩, hp, hD,
    (entry_points_agree none s es (· == 1)).2 hp hD⟩

end Session

end TunTap
