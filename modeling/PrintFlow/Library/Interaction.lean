import Mathlib.Data.List.Basic

/-!
# Programs that converse with an environment

A `Program` makes calls and goes on with what it is answered. `Runs p trace result` says that `p`
ends with `result` after exchanging the events of `trace`, whatever the answers were, so that a
statement about all runs is one about every environment. `Meets` is the partial correctness of a
program, with one rule for each way programs are built; `run_runs` says that each environment gives
a run.
-/

namespace Interaction

/-- A program that makes calls, each of which has its own type of answers. -/
inductive Program (Call : Type) (Answer : Call → Type) (α : Type) where
  | done (result : α)
  | ask (call : Call) (next : Answer call → Program Call Answer α)

/-- A call and its answer. -/
structure Event (Call : Type) (Answer : Call → Type) where
  call : Call
  answer : Answer call

variable {Call : Type} {Answer : Call → Type} {α β : Type}

namespace Program

/-- Run one program after the other. -/
protected def bind : Program Call Answer α → (α → Program Call Answer β) → Program Call Answer β
  | .done result, next => next result
  | .ask call rest, next => .ask call fun answer ↦ (rest answer).bind next

instance : Monad (Program Call Answer) where
  pure := .done
  bind := Program.bind

/-- Make one call. -/
def call (call : Call) : Program Call Answer (Answer call) := .ask call .done

/-- The run in an environment that answers from what was exchanged before. -/
def run (environment : List (Event Call Answer) → (call : Call) → Answer call) :
    List (Event Call Answer) → Program Call Answer α → List (Event Call Answer) × α
  | trace, .done result => (trace, result)
  | trace, .ask call next =>
    let answer := environment trace call
    (next answer).run environment (trace ++ [⟨call, answer⟩])

end Program

/-- `p` ends with a result after exchanging these events. -/
inductive Runs : Program Call Answer α → List (Event Call Answer) → α → Prop where
  | done (result) : Runs (.done result) [] result
  | ask (call next) (answer : Answer call) (trace result) :
      Runs (next answer) trace result →
      Runs (.ask call next) (⟨call, answer⟩ :: trace) result

/-- Every run of the program meets the postcondition. -/
def Meets (p : Program Call Answer α) (post : List (Event Call Answer) → α → Prop) : Prop :=
  ∀ trace result, Runs p trace result → post trace result

/-- Every environment gives a run. -/
theorem run_runs (environment : List (Event Call Answer) → (call : Call) → Answer call)
    (p : Program Call Answer α) (before : List (Event Call Answer)) :
    ∃ trace, (p.run environment before).1 = before ++ trace ∧
      Runs p trace (p.run environment before).2 := by
  induction p generalizing before with
  | done result => exact ⟨[], (List.append_nil before).symm, .done result⟩
  | ask call next ih =>
      obtain ⟨trace, htrace, hruns⟩ :=
        ih (environment before call) (before ++ [⟨call, environment before call⟩])
      refine ⟨⟨call, environment before call⟩ :: trace, ?_, .ask call next _ trace _ hruns⟩
      rw [Program.run, htrace, List.append_assoc]
      rfl

/-- There is a run in which every call is answered in the same way. -/
theorem exists_runs (answer : (call : Call) → Answer call) (p : Program Call Answer α) :
    ∃ trace result, Runs p trace result ∧ ∀ event ∈ trace, event.answer = answer event.call := by
  induction p with
  | done result => exact ⟨[], result, .done result, by simp⟩
  | ask call next ih =>
      obtain ⟨trace, result, hruns, hanswers⟩ := ih (answer call)
      exact ⟨_, result, .ask call next _ trace result hruns,
        List.forall_mem_cons.mpr ⟨rfl, hanswers⟩⟩

variable {p : Program Call Answer α} {f : α → Program Call Answer β}
  {post : List (Event Call Answer) → α → Prop} {postBind : List (Event Call Answer) → β → Prop}

/-- A sequence runs as its parts do, one after the other. -/
theorem runs_bind {trace : List (Event Call Answer)} {result : β} :
    Runs (p >>= f) trace result ↔
      ∃ first second middle, trace = first ++ second ∧ Runs p first middle ∧
        Runs (f middle) second result := by
  constructor
  · intro h
    induction p generalizing trace with
    | done value => exact ⟨[], trace, value, rfl, .done value, h⟩
    | ask call next ih =>
        cases h with
        | ask _ _ answer rest _ hrest =>
            obtain ⟨first, second, middle, rfl, hfirst, hsecond⟩ := ih answer hrest
            exact ⟨⟨call, answer⟩ :: first, second, middle, rfl, .ask _ _ _ _ _ hfirst, hsecond⟩
  · intro ⟨first, second, middle, htrace, hfirst, hsecond⟩
    subst htrace
    induction hfirst with
    | done value => exact hsecond
    | ask call next answer rest value _ ih => exact .ask call _ answer _ _ (ih hsecond)

/-- A call runs with any answer. -/
theorem Runs.call_bind {call : Call} {f : Answer call → Program Call Answer β}
    {answer : Answer call} {trace : List (Event Call Answer)} {result : β}
    (h : Runs (f answer) trace result) :
    Runs (Program.call call >>= f) (⟨call, answer⟩ :: trace) result :=
  .ask call _ answer trace result h

/-! ## Rules -/

theorem Meets.done {value : α} (h : post [] value) :
    Meets (.done value : Program Call Answer α) post := by
  intro trace result hruns
  cases hruns
  exact h

theorem Meets.pure {value : α} (h : post [] value) :
    Meets (pure value : Program Call Answer α) post :=
  .done h

/-- The answer to a call is arbitrary. -/
theorem Meets.call {call : Call} {post : List (Event Call Answer) → Answer call → Prop}
    (h : ∀ answer, post [⟨call, answer⟩] answer) : Meets (Program.call call) post := by
  intro trace result hruns
  cases hruns with
  | ask _ _ _ rest _ hrest =>
      cases hrest
      exact h result

/-- The second part of a sequence starts with what the first part ensures. -/
theorem Meets.bind {P : List (Event Call Answer) → α → Prop} (hfirst : Meets p P)
    (hsecond : ∀ before value, P before value →
      Meets (f value) fun after result ↦ postBind (before ++ after) result) :
    Meets (p >>= f) postBind := by
  intro trace result hruns
  obtain ⟨first, second, middle, rfl, hp, hf⟩ := runs_bind.mp hruns
  exact hsecond first middle (hfirst first middle hp) second result hf

/-- A call and what follows for every answer. -/
theorem Meets.call_bind {call : Call} {f : Answer call → Program Call Answer β}
    (h : ∀ answer, Meets (f answer) fun after result ↦ postBind (⟨call, answer⟩ :: after) result) :
    Meets (Program.call call >>= f) postBind := by
  intro trace result hruns
  cases hruns with
  | ask _ _ answer rest _ hrest => exact h answer rest result hrest

theorem Meets.mono {weaker : List (Event Call Answer) → α → Prop} (h : Meets p post)
    (himp : ∀ trace result, post trace result → weaker trace result) : Meets p weaker :=
  fun trace result hruns ↦ himp trace result (h trace result hruns)

theorem Meets.ite {c : Prop} [Decidable c] {q : Program Call Answer α}
    (hyes : c → Meets p post) (hno : ¬ c → Meets q post) : Meets (if c then p else q) post := by
  split
  · next h => exact hyes h
  · next h => exact hno h

/-! ## Programs within others -/

section Within

variable {Outer : Type} {OuterAnswer : Outer → Type} (inject : Call → Outer)
  (same : ∀ call, OuterAnswer (inject call) = Answer call)

/-- The program with its calls as calls of another kind. -/
def Program.within : Program Call Answer α → Program Outer OuterAnswer α
  | .done result => .done result
  | .ask call next => .ask (inject call) fun answer ↦ (next (cast (same call) answer)).within

/-- The event as one of the other kind. -/
def Event.within (event : Event Call Answer) : Event Outer OuterAnswer where
  call := inject event.call
  answer := cast (same event.call).symm event.answer

/-- A program within another runs as it does by itself. -/
theorem runs_within {trace : List (Event Outer OuterAnswer)} {result : α} :
    Runs (p.within inject same) trace result ↔
      ∃ inner, trace = inner.map (Event.within inject same) ∧ Runs p inner result := by
  constructor
  · intro h
    induction p generalizing trace with
    | done value =>
        cases h
        exact ⟨[], rfl, .done _⟩
    | ask call next ih =>
        cases h with
        | ask _ _ answer rest _ hrest =>
            obtain ⟨inner, rfl, hinner⟩ := ih (cast (same call) answer) hrest
            refine ⟨⟨call, cast (same call) answer⟩ :: inner, ?_, .ask call next _ inner _ hinner⟩
            rw [List.map_cons, Event.within, cast_cast, cast_eq]
  · rintro ⟨inner, rfl, h⟩
    induction h with
    | done => exact .done _
    | ask call next answer trace value _ ih =>
        refine .ask (inject call) _ _ _ value ?_
        rw [cast_cast, cast_eq]
        exact ih

/-- What a program meets by itself it meets within another. -/
theorem Meets.within {outer : List (Event Outer OuterAnswer) → α → Prop} (h : Meets p post)
    (himp : ∀ trace result, post trace result →
      outer (trace.map (Event.within inject same)) result) :
    Meets (p.within inject same) outer := by
  intro trace result hruns
  obtain ⟨inner, rfl, hinner⟩ := (runs_within inject same).mp hruns
  exact himp inner result (h inner result hinner)

end Within

/-! ## Programs that fail -/

section Fallible

variable {ε : Type} {x : ExceptT ε (Program Call Answer) α}
  {next : α → ExceptT ε (Program Call Answer) β}
  {fallible : List (Event Call Answer) → Except ε α → Prop}
  {postNext : List (Event Call Answer) → Except ε β → Prop}

/-- A sequence goes on after a result and ends with an error. -/
theorem Meets.except_bind (hx : Meets x.run fallible)
    (hok : ∀ before value, fallible before (.ok value) →
      Meets (next value).run fun after result ↦ postNext (before ++ after) result)
    (herror : ∀ before error, fallible before (.error error) → postNext before (.error error)) :
    Meets (x >>= next).run postNext := by
  rw [ExceptT.run_bind]
  refine Meets.bind hx ?_
  intro before result hresult
  cases result with
  | ok value => exact hok before value hresult
  | error error => exact .pure (by rw [List.append_nil]; exact herror before error hresult)

end Fallible

end Interaction
