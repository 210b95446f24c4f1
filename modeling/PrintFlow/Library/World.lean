import PrintFlow.Library.Interaction

/-!
# Programs in a world with a state

The answers of an environment often depend on what went before. A world has a state and a relation
that says how a call and its answer move it, and `Along` follows it through the events of a run.
`Safely` is the partial correctness of a program in a world: every call finds a state in which it is
allowed, and every end meets the postcondition. It has the rules of `Meets`.
-/

namespace Interaction

variable {Call : Type} {Answer : Call → Type} {α β σ : Type}

/-- The world goes from one state to the other through these events. -/
inductive Along (step : σ → Event Call Answer → σ → Prop) : σ → List (Event Call Answer) → σ → Prop
    where
  | nil (state) : Along step state [] state
  | cons {state event next trace final} :
      step state event next → Along step next trace final → Along step state (event :: trace) final

/-- From this state, every call of the program is allowed where it is made, and every end meets the
postcondition. -/
def Safely (step : σ → Event Call Answer → σ → Prop) (allowed : σ → Call → Prop)
    (p : Program Call Answer α) (post : α → σ → Prop) (state : σ) : Prop :=
  Meets p fun trace result ↦
    (∀ before event rest, trace = before ++ event :: rest →
      ∀ found, Along step state before found → allowed found event.call) ∧
    ∀ final, Along step state trace final → post result final

variable {step : σ → Event Call Answer → σ → Prop}

theorem along_append {state final : σ} {first second : List (Event Call Answer)} :
    Along step state (first ++ second) final ↔
      ∃ middle, Along step state first middle ∧ Along step middle second final := by
  induction first generalizing state with
  | nil =>
      constructor
      · intro h
        exact ⟨state, .nil state, h⟩
      · rintro ⟨middle, hfirst, hsecond⟩
        cases hfirst
        exact hsecond
  | cons event first ih =>
      constructor
      · intro h
        cases h with
        | cons hstep hrest =>
            obtain ⟨middle, hfirst, hsecond⟩ := ih.mp hrest
            exact ⟨middle, .cons hstep hfirst, hsecond⟩
      · rintro ⟨middle, hfirst, hsecond⟩
        cases hfirst with
        | cons hstep hrest => exact .cons hstep (ih.mpr ⟨middle, hrest, hsecond⟩)

/-- A property that every step keeps is kept. -/
theorem Along.invariant {holds : σ → Prop} {state final : σ} {trace : List (Event Call Answer)}
    (h : Along step state trace final)
    (hstep : ∀ event ∈ trace, ∀ before after, step before event after → holds before → holds after)
    (hstart : holds state) : holds final := by
  induction h with
  | nil => exact hstart
  | cons hfirst _ ih =>
      refine ih (fun event hevent ↦ hstep event (List.mem_cons_of_mem _ hevent)) ?_
      exact hstep _ List.mem_cons_self _ _ hfirst hstart

namespace Safely

variable {allowed : σ → Call → Prop} {p : Program Call Answer α}
  {f : α → Program Call Answer β} {post : α → σ → Prop} {postBind : β → σ → Prop} {state : σ}

protected theorem pure {value : α} (h : post value state) :
    Safely step allowed (pure value : Program Call Answer α) post state := by
  refine Meets.pure ⟨?_, ?_⟩
  · intro before event rest hsplit
    exact absurd hsplit (by simp)
  · intro final hfinal
    cases hfinal
    exact h

/-- The second part of a sequence starts in a state the first part ensures. -/
protected theorem bind {P : α → σ → Prop} (hfirst : Safely step allowed p P state)
    (hsecond : ∀ value next, P value next → Safely step allowed (f value) postBind next) :
    Safely step allowed (p >>= f) postBind state := by
  intro trace result hruns
  obtain ⟨first, second, value, rfl, hp, hf⟩ := runs_bind.mp hruns
  obtain ⟨hallowed, hends⟩ := hfirst first value hp
  refine ⟨?_, ?_⟩
  · intro before event rest hsplit found hfound
    rcases List.append_eq_append_iff.mp hsplit.symm with ⟨left, rfl, hleft⟩ | ⟨left, rfl, hleft⟩
    · cases left with
      | nil =>
          rw [List.nil_append] at hleft
          rw [List.append_nil] at hends
          exact (hsecond value found (hends found hfound) second result hf).1 [] event rest
            hleft.symm found (.nil found)
      | cons _ left =>
          obtain ⟨rfl, _⟩ := List.cons.inj hleft
          exact hallowed before event left rfl found hfound
    · obtain ⟨next, hnext, hrest⟩ := along_append.mp hfound
      exact (hsecond value next (hends next hnext) second result hf).1 left event rest hleft found
        hrest
  · intro final hfinal
    obtain ⟨next, hnext, hrest⟩ := along_append.mp hfinal
    exact (hsecond value next (hends next hnext) second result hf).2 final hrest

/-- A call that is allowed, whatever it is answered. -/
protected theorem call {call : Call} {post : Answer call → σ → Prop} (hallowed : allowed state call)
    (h : ∀ answer next, step state ⟨call, answer⟩ next → post answer next) :
    Safely step allowed (Program.call call) post state := by
  refine Meets.call fun answer ↦ ⟨?_, ?_⟩
  · intro before event rest hsplit found hfound
    cases before with
    | nil =>
        obtain ⟨rfl, _⟩ := List.cons.inj hsplit
        cases hfound
        exact hallowed
    | cons _ _ => exact absurd (List.cons.inj hsplit).2 (by simp)
  · intro final hfinal
    cases hfinal with
    | cons hstep hrest =>
        cases hrest
        exact h answer _ hstep

/-- A call that is allowed, and what follows for every answer. -/
theorem call_bind {call : Call} {f : Answer call → Program Call Answer β}
    (hallowed : allowed state call)
    (h : ∀ answer next, step state ⟨call, answer⟩ next →
      Safely step allowed (f answer) postBind next) :
    Safely step allowed (Program.call call >>= f) postBind state :=
  .bind (.call hallowed fun answer next hnext ↦ h answer next hnext) fun _ _ hnext ↦ hnext

/-- A program that starts with a call is that call and what follows. -/
theorem ask {call : Call} {next : Answer call → Program Call Answer β}
    (hallowed : allowed state call)
    (h : ∀ answer following, step state ⟨call, answer⟩ following →
      Safely step allowed (next answer) postBind following) :
    Safely step allowed (.ask call next) postBind state :=
  call_bind hallowed h

theorem mono {weaker : α → σ → Prop} (h : Safely step allowed p post state)
    (himp : ∀ result final, post result final → weaker result final) :
    Safely step allowed p weaker state :=
  Meets.mono h fun _ result hend ↦ ⟨hend.1, fun final hfinal ↦ himp result final (hend.2 final hfinal)⟩

protected theorem ite {c : Prop} [Decidable c] {q : Program Call Answer α}
    (hyes : c → Safely step allowed p post state) (hno : ¬ c → Safely step allowed q post state) :
    Safely step allowed (if c then p else q) post state :=
  Meets.ite hyes hno

/-- A program with calls of one kind, each of which is allowed and keeps a property. -/
theorem of_meets {ensures : α → Prop} (kind : Call → Prop) (holds : σ → Prop)
    (h : Meets p fun trace result ↦ (∀ event ∈ trace, kind event.call) ∧ ensures result)
    (hallowed : ∀ found call, holds found → kind call → allowed found call)
    (hstep : ∀ before event after, kind event.call → step before event after → holds before →
      holds after)
    (hstart : holds state) :
    Safely step allowed p (fun result final ↦ ensures result ∧ holds final) state := by
  refine Meets.mono h ?_
  rintro trace result ⟨hkind, hresult⟩
  refine ⟨?_, ?_⟩
  · rintro before event rest rfl found hfound
    refine hallowed found event.call ?_ (hkind event (by simp))
    refine hfound.invariant (fun event hevent before after ↦ hstep before event after ?_) hstart
    exact hkind event (List.mem_append_left _ hevent)
  · intro final hfinal
    exact ⟨hresult, hfinal.invariant
      (fun event hevent before after ↦ hstep before event after (hkind event hevent)) hstart⟩

/-- The postcondition may speak of the run itself. -/
theorem with_run (h : Safely step allowed p post state) :
    Safely step allowed p (fun result final ↦ post result final ∧
      ∃ trace, Runs p trace result ∧ Along step state trace final) state :=
  fun trace result hruns ↦ ⟨(h trace result hruns).1, fun final hfinal ↦
    ⟨(h trace result hruns).2 final hfinal, trace, hruns, hfinal⟩⟩

end Safely

/-! ## Runs that exist -/

/-- From this state some run of the program ends with the postcondition. -/
def Possibly (step : σ → Event Call Answer → σ → Prop) (p : Program Call Answer α)
    (post : α → σ → Prop) (state : σ) : Prop :=
  ∃ trace result final, Runs p trace result ∧ Along step state trace final ∧ post result final

namespace Possibly

variable {p : Program Call Answer α} {f : α → Program Call Answer β} {post : α → σ → Prop}
  {postBind : β → σ → Prop} {state : σ}

protected theorem pure {value : α} (h : post value state) :
    Possibly step (pure value : Program Call Answer α) post state :=
  ⟨[], value, state, .done value, .nil state, h⟩

protected theorem bind {P : α → σ → Prop} (hfirst : Possibly step p P state)
    (hsecond : ∀ value next, P value next → Possibly step (f value) postBind next) :
    Possibly step (p >>= f) postBind state := by
  obtain ⟨first, value, middle, hp, halong, hmiddle⟩ := hfirst
  obtain ⟨second, result, final, hf, hrest, hpost⟩ := hsecond value middle hmiddle
  exact ⟨first ++ second, result, final, runs_bind.mpr ⟨first, second, value, rfl, hp, hf⟩,
    along_append.mpr ⟨middle, halong, hrest⟩, hpost⟩

/-- A call with one of its answers, and what follows. -/
theorem ask {call : Call} {next : Answer call → Program Call Answer β} {following : σ}
    (answer : Answer call) (hstep : step state ⟨call, answer⟩ following)
    (h : Possibly step (next answer) postBind following) :
    Possibly step (.ask call next) postBind state := by
  obtain ⟨trace, result, final, hruns, halong, hpost⟩ := h
  exact ⟨⟨call, answer⟩ :: trace, result, final, .ask call next answer trace result hruns,
    .cons hstep halong, hpost⟩

theorem call_bind {call : Call} {f : Answer call → Program Call Answer β} {following : σ}
    (answer : Answer call) (hstep : step state ⟨call, answer⟩ following)
    (h : Possibly step (f answer) postBind following) :
    Possibly step (Program.call call >>= f) postBind state :=
  ask answer hstep h

/-- A call with one of its answers. -/
protected theorem call {call : Call} {post : Answer call → σ → Prop} {following : σ}
    (answer : Answer call) (hstep : step state ⟨call, answer⟩ following)
    (h : post answer following) : Possibly step (Program.call call) post state :=
  ask answer hstep (.pure h)

theorem mono {weaker : α → σ → Prop} (h : Possibly step p post state)
    (himp : ∀ result final, post result final → weaker result final) :
    Possibly step p weaker state := by
  obtain ⟨trace, result, final, hruns, halong, hpost⟩ := h
  exact ⟨trace, result, final, hruns, halong, himp result final hpost⟩

end Possibly

end Interaction
