import PrintFlow.Core.Qt
import PrintFlow.Library.Threads

/-!
# The host callbacks

For some jobs the vendor's library calls four functions of the executable. They forward to functions
of the loaded library, which a client installs when it has loaded the library and uninstalls before
it unloads it. Installing, uninstalling and asking take a mutex and store the functions one by one;
the forwarding functions read theirs without it, at any time.
-/

namespace PrintFlow.NocaiDirectPrintCompatibility

open Threads

/-- The members of `Callbacks`, each with its atomic variable. -/
inductive Slot where
  | startPrint
  | printALine
  | endPrint
  | closePrint
  deriving DecidableEq

/-- The order in which they are stored. -/
def slotOrder : List Slot := [.startPrint, .printALine, .endPrint, .closePrint]

variable (Thread Owner Fn : Type)

/-- `Callbacks`. -/
abbrev Callbacks := Slot → Option Fn

/-- A call of the module. -/
inductive Call where
  | install (owner : Option Owner) (callbacks : Callbacks Fn)
  | uninstall (owner : Option Owner)
  | isInstalledFor (owner : Option Owner)

/-- The mutex, `g_owner` and the four atomic variables, with the calls that were made so far. -/
structure Registry where
  holder : Option Thread := none
  owner : Option Owner := none
  slots : Callbacks Fn := fun _ ↦ none
  calls : List (Call Owner Fn) := []

/-- Where a thread stands. -/
inductive Point where
  /-- Between two calls. -/
  | idle
  /-- In a call, before its tests. -/
  | called (call : Call Owner Fn)
  /-- Waiting for the mutex. -/
  | waiting (call : Call Owner Fn)
  /-- Holding the mutex, before `g_owner` is compared. -/
  | comparing (call : Call Owner Fn)
  /-- Holding the mutex, with these variables left to store. -/
  | storing (owner : Owner) (callbacks : Callbacks Fn) (left : List Slot)
  /-- Holding the mutex, with these variables left to clear. -/
  | clearing (owner : Option Owner) (left : List Slot)
  /-- Holding the mutex, about to return. -/
  | returning (call : Call Owner Fn) (result : Bool)
  /-- In a forwarding function, with what it has read. -/
  | forwarding (slot : Slot) (fn : Option Fn)

variable {Thread Owner Fn}

/-- The points at which a thread holds the mutex. -/
def Inside : Point Owner Fn → Prop
  | .comparing _ | .storing .. | .clearing .. | .returning .. => True
  | .idle | .called _ | .waiting _ | .forwarding .. => False

/-- The members that `install` asks for. -/
def Complete (callbacks : Callbacks Fn) : Prop := ∀ slot, (callbacks slot).isSome

/-- What comes after `g_owner` was compared. -/
def compared [DecidableEq Owner] (owner : Option Owner) : Call Owner Fn → Point Owner Fn
  | .install none callbacks => .returning (.install none callbacks) false
  | .install (some installer) callbacks =>
    if owner ≠ none ∧ owner ≠ some installer then
      .returning (.install (some installer) callbacks) false
    else .storing installer callbacks slotOrder
  | .uninstall caller =>
    if owner ≠ caller then .returning (.uninstall caller) false else .clearing caller slotOrder
  | .isInstalledFor caller =>
    .returning (.isInstalledFor caller) (caller.isSome && owner = caller)

/-- The steps of a thread. -/
inductive Step [DecidableEq Owner] (thread : Thread) (s : Registry Thread Owner Fn) :
    Point Owner Fn → Registry Thread Owner Fn → Point Owner Fn → Prop
  | call (call : Call Owner Fn) :
      Step thread s .idle { s with calls := call :: s.calls } (.called call)
  | refuse {owner : Option Owner} {callbacks : Callbacks Fn}
      (h : owner = none ∨ ¬ Complete callbacks) :
      Step thread s (.called (.install owner callbacks)) s .idle
  | test {call : Call Owner Fn}
      (h : ∀ owner callbacks, call = .install owner callbacks →
        owner ≠ none ∧ Complete callbacks) :
      Step thread s (.called call) s (.waiting call)
  | lock {call : Call Owner Fn} (h : s.holder = none) :
      Step thread s (.waiting call) { s with holder := some thread } (.comparing call)
  | compare (call : Call Owner Fn) : Step thread s (.comparing call) s (compared s.owner call)
  | store (owner : Owner) (callbacks : Callbacks Fn) (slot : Slot) (left : List Slot) :
      Step thread s (.storing owner callbacks (slot :: left))
        { s with slots := Function.update s.slots slot (callbacks slot) }
        (.storing owner callbacks left)
  | own (owner : Owner) (callbacks : Callbacks Fn) :
      Step thread s (.storing owner callbacks []) { s with owner := some owner }
        (.returning (.install (some owner) callbacks) true)
  | clear (owner : Option Owner) (slot : Slot) (left : List Slot) :
      Step thread s (.clearing owner (slot :: left))
        { s with slots := Function.update s.slots slot none } (.clearing owner left)
  | disown (owner : Option Owner) :
      Step thread s (.clearing owner []) { s with owner := none }
        (.returning (.uninstall owner) true)
  | unlock (call : Call Owner Fn) (result : Bool) :
      Step thread s (.returning call result) { s with holder := none } .idle
  | read (slot : Slot) : Step thread s .idle s (.forwarding slot (s.slots slot))
  | forward (slot : Slot) (fn : Option Fn) : Step thread s (.forwarding slot fn) s .idle

/-- What a forwarding function returns: what its function does, or a default when it has none. -/
def forwarded (slot : Slot) (invoke : Fn → Int32) : Option Fn → Int32
  | some fn => invoke fn
  | none => if slot = .printALine then -1 else 0

variable (Thread Owner Fn) in
/-- The threads of the process, when nothing is installed. -/
def registry [DecidableEq Owner] : System Thread (Registry Thread Owner Fn) (Point Owner Fn) where
  start := {}
  idle := .idle
  step := Step

/-! ## What the mutex protects -/

/-- The callbacks of one install, with its owner. -/
structure Registered (s : Registry Thread Owner Fn) (owner : Owner) (callbacks : Callbacks Fn) :
    Prop where
  called : .install (some owner) callbacks ∈ s.calls
  complete : Complete callbacks
  owner_eq : s.owner = some owner
  slots_eq : s.slots = callbacks

/-- Nothing is installed. -/
structure Empty (s : Registry Thread Owner Fn) : Prop where
  owner_eq : s.owner = none
  slots_eq : ∀ slot, s.slots slot = none

/-- All callbacks are those of one install of the owner, or nothing is installed. -/
def Whole (s : Registry Thread Owner Fn) : Prop :=
  Empty s ∨ ∃ owner callbacks, Registered s owner callbacks

/-- What a call says when it returns. -/
def Answered (s : Registry Thread Owner Fn) : Call Owner Fn → Bool → Prop
  | .install owner callbacks, true => ∃ installer, owner = some installer ∧
      Registered s installer callbacks
  | .install owner _, false => Whole s ∧ ∃ other, s.owner = some other ∧ owner ≠ some other
  | .uninstall owner, _ => Whole s ∧ (owner = none ∨ s.owner ≠ owner)
  | .isInstalledFor owner, result => Whole s ∧
      (result = true ↔ ∃ caller callbacks, owner = some caller ∧ Registered s caller callbacks)

/-- The registry and a thread at some point. -/
def Working (s : Registry Thread Owner Fn) : Point Owner Fn → Prop
  | .called call => call ∈ s.calls
  | .waiting call => call ∈ s.calls ∧ ∀ owner callbacks,
      call = .install owner callbacks → owner ≠ none ∧ Complete callbacks
  | .comparing call => Whole s ∧ call ∈ s.calls ∧ ∀ owner callbacks,
      call = .install owner callbacks → owner ≠ none ∧ Complete callbacks
  | .storing owner callbacks left => .install (some owner) callbacks ∈ s.calls ∧
      Complete callbacks ∧ left.Nodup ∧ (∀ slot, slot ∉ left → s.slots slot = callbacks slot) ∧
      ((s.owner = none ∧ ∀ slot ∈ left, s.slots slot = none) ∨ s.owner = some owner ∧
        ∃ before, .install (some owner) before ∈ s.calls ∧
          ∀ slot ∈ left, s.slots slot = before slot)
  | .clearing owner left => s.owner = owner ∧ left.Nodup ∧ (∀ slot, slot ∉ left → s.slots slot = none) ∧
      ((∀ slot ∈ left, s.slots slot = none) ∨ ∃ installer before, owner = some installer ∧
        .install (some installer) before ∈ s.calls ∧ ∀ slot ∈ left, s.slots slot = before slot)
  | .returning call result => Answered s call result
  | .idle | .forwarding .. => True

theorem slot_order_complete (slot : Slot) : slot ∈ slotOrder := by
  cases slot <;> simp [slotOrder]

theorem slot_order_nodup : slotOrder.Nodup := by simp [slotOrder]

section Safety

variable {s : Registry Thread Owner Fn}

/-- What holds of the registry holds whoever has the mutex, and whatever else is called. -/
theorem Whole.same {next : Registry Thread Owner Fn} (h : Whole s) (howner : next.owner = s.owner)
    (hslots : next.slots = s.slots) (hcalls : s.calls ⊆ next.calls) : Whole next := by
  rcases h with hempty | ⟨owner, callbacks, hregistered⟩
  · exact .inl ⟨howner.trans hempty.owner_eq, fun slot ↦ by rw [hslots, hempty.slots_eq]⟩
  · exact .inr ⟨owner, callbacks, hcalls hregistered.called, hregistered.complete,
      howner.trans hregistered.owner_eq, hslots.trans hregistered.slots_eq⟩

theorem Registered.same {next : Registry Thread Owner Fn} {owner : Owner} {callbacks : Callbacks Fn}
    (h : Registered s owner callbacks) (howner : next.owner = s.owner)
    (hslots : next.slots = s.slots) (hcalls : s.calls ⊆ next.calls) :
    Registered next owner callbacks :=
  ⟨hcalls h.called, h.complete, howner.trans h.owner_eq, hslots.trans h.slots_eq⟩

/-- The installed callbacks are those of the owner. -/
theorem Whole.registered (h : Whole s) {owner : Owner} (howner : s.owner = some owner) :
    ∃ callbacks, Registered s owner callbacks := by
  rcases h with hempty | ⟨other, callbacks, hregistered⟩
  · cases hempty.owner_eq.symm.trans howner
  · obtain rfl := Option.some.inj (hregistered.owner_eq.symm.trans howner)
    exact ⟨callbacks, hregistered⟩

/-- Another call does not change what a thread is working on. -/
theorem Working.call {point : Point Owner Fn} (h : Working s point) (call : Call Owner Fn) :
    Working { s with calls := call :: s.calls } point := by
  have hcalls : s.calls ⊆ call :: s.calls := List.subset_cons_self ..
  cases point with
  | called asked => exact hcalls h
  | waiting asked => exact ⟨hcalls h.1, h.2⟩
  | comparing asked => exact ⟨h.1.same rfl rfl hcalls, hcalls h.2.1, h.2.2⟩
  | storing owner callbacks left =>
      obtain ⟨hcalled, hcomplete, hnodup, hstored, hleft⟩ := h
      refine ⟨hcalls hcalled, hcomplete, hnodup, hstored, hleft.imp_right ?_⟩
      exact fun ⟨howner, before, hbefore, hslots⟩ ↦ ⟨howner, before, hcalls hbefore, hslots⟩
  | clearing owner left =>
      obtain ⟨howner, hnodup, hcleared, hleft⟩ := h
      refine ⟨howner, hnodup, hcleared, hleft.imp_right ?_⟩
      exact fun ⟨installer, before, hsame, hbefore, hslots⟩ ↦
        ⟨installer, before, hsame, hcalls hbefore, hslots⟩
  | returning asked result =>
      cases asked with
      | install owner callbacks =>
          cases result with
          | true =>
              obtain ⟨installer, howner, hregistered⟩ := h
              exact ⟨installer, howner, hregistered.same rfl rfl hcalls⟩
          | false => exact ⟨h.1.same rfl rfl hcalls, h.2⟩
      | uninstall owner => exact ⟨h.1.same rfl rfl hcalls, h.2⟩
      | isInstalledFor owner =>
          refine ⟨h.1.same rfl rfl hcalls, h.2.trans ?_⟩
          constructor
          · exact fun ⟨caller, callbacks, hcaller, hregistered⟩ ↦
              ⟨caller, callbacks, hcaller, hregistered.same rfl rfl hcalls⟩
          · intro ⟨caller, callbacks, hcaller, hregistered⟩
            obtain ⟨found, hfound⟩ := h.1.registered hregistered.owner_eq
            exact ⟨caller, found, hcaller, hfound⟩
  | idle | forwarding => trivial

/-- What comes after `g_owner` was compared. -/
theorem Working.compared [DecidableEq Owner] {call : Call Owner Fn}
    (h : Working s (.comparing call)) :
    Working s (compared s.owner call) := by
  obtain ⟨hwhole, hcalled, htested⟩ := h
  cases call with
  | install owner callbacks =>
      obtain ⟨hnull, hcomplete⟩ := htested owner callbacks rfl
      cases owner with
      | none => exact absurd rfl hnull
      | some installer =>
          show Working s (if s.owner ≠ none ∧ s.owner ≠ some installer then
            .returning (.install (some installer) callbacks) false
            else .storing installer callbacks slotOrder)
          split_ifs with hother
          · obtain ⟨other, hsome⟩ := Option.ne_none_iff_exists'.mp hother.1
            exact ⟨hwhole, other, hsome, fun hsame ↦ hother.2 (hsome.trans hsame.symm)⟩
          · refine ⟨hcalled, hcomplete, slot_order_nodup, fun slot hslot ↦ absurd (slot_order_complete slot) hslot,
              ?_⟩
            rcases hwhole with hempty | ⟨other, before, hregistered⟩
            · exact .inl ⟨hempty.owner_eq, fun slot _ ↦ hempty.slots_eq slot⟩
            · have howner : s.owner = some installer := by
                by_contra hne
                exact hother ⟨by simp [hregistered.owner_eq], hne⟩
              obtain rfl := Option.some.inj (hregistered.owner_eq.symm.trans howner)
              exact .inr ⟨howner, before, hregistered.called,
                fun slot _ ↦ congrFun hregistered.slots_eq slot⟩
  | uninstall caller =>
      show Working s (if s.owner ≠ caller then .returning (.uninstall caller) false
        else .clearing caller slotOrder)
      split_ifs with hother
      · exact ⟨hwhole, .inr hother⟩
      · refine ⟨not_not.mp hother, slot_order_nodup, fun slot hslot ↦ absurd (slot_order_complete slot) hslot,
              ?_⟩
        rcases hwhole with hempty | ⟨owner, before, hregistered⟩
        · exact .inl fun slot _ ↦ hempty.slots_eq slot
        · exact .inr ⟨owner, before, (not_not.mp hother).symm.trans hregistered.owner_eq,
            hregistered.called, fun slot _ ↦ congrFun hregistered.slots_eq slot⟩
  | isInstalledFor caller =>
      refine ⟨hwhole, ?_⟩
      cases caller with
      | none => simp
      | some caller =>
          simp only [Option.isSome_some, Bool.true_and, decide_eq_true_eq, Option.some.injEq,
            exists_and_left, exists_eq_left']
          exact ⟨hwhole.registered, fun ⟨_, hregistered⟩ ↦ hregistered.owner_eq⟩

/-- A thread that does not hold the mutex does not see what the holder does. -/
theorem Working.outside {next : Registry Thread Owner Fn} {point : Point Owner Fn}
    (h : Working s point) (hcalls : next.calls = s.calls) (houtside : ¬ Inside point) :
    Working next point := by
  cases point with
  | called asked =>
      show asked ∈ next.calls
      rw [hcalls]
      exact h
  | waiting asked =>
      refine ⟨?_, h.2⟩
      rw [hcalls]
      exact h.1
  | idle | forwarding => trivial
  | comparing | storing | clearing | returning => exact absurd trivial houtside

/-- Taking the mutex or giving it back changes nothing else. -/
theorem Whole.held (h : Whole s) (holder : Option Thread) : Whole { s with holder := holder } :=
  h.same rfl rfl fun _ hcall ↦ hcall

/-- When a call returns, the registry is whole. -/
theorem Answered.whole {call : Call Owner Fn} {result : Bool} (h : Answered s call result) :
    Whole s := by
  cases call with
  | install owner callbacks =>
      cases result with
      | true =>
          obtain ⟨installer, -, hregistered⟩ := h
          exact .inr ⟨installer, callbacks, hregistered⟩
      | false => exact h.1
  | uninstall owner => exact h.1
  | isInstalledFor owner => exact h.1

/-- The variables after one of them was set. -/
theorem update_slots {slots values : Callbacks Fn} {slot : Slot} {left : List Slot}
    (hstored : ∀ other, other ∉ slot :: left → slots other = values other) (other : Slot)
    (hother : other ∉ left) : Function.update slots slot (values slot) other = values other := by
  by_cases hsame : other = slot
  · rw [hsame, Function.update_self]
  · rw [Function.update_of_ne hsame]
    exact hstored other (by simp [hsame, hother])

/-- The variables that are left keep their values. -/
theorem update_left {slots values : Callbacks Fn} {slot : Slot} {left : List Slot}
    (hnodup : (slot :: left).Nodup) (hleft : ∀ other ∈ slot :: left, slots other = values other)
    (value : Option Fn) (other : Slot) (hother : other ∈ left) :
    Function.update slots slot value other = values other := by
  have hne : other ≠ slot := by
    rintro rfl
    exact (List.nodup_cons.mp hnodup).1 hother
  rw [Function.update_of_ne hne]
  exact hleft other (List.mem_cons_of_mem _ hother)

/-- Storing one variable. -/
theorem Working.store {owner : Owner} {callbacks : Callbacks Fn} {slot : Slot} {left : List Slot}
    (h : Working s (.storing owner callbacks (slot :: left))) :
    Working { s with slots := Function.update s.slots slot (callbacks slot) }
      (.storing owner callbacks left) := by
  obtain ⟨hcalled, hcomplete, hnodup, hstored, hleft⟩ := h
  refine ⟨hcalled, hcomplete, (List.nodup_cons.mp hnodup).2, update_slots hstored, ?_⟩
  rcases hleft with ⟨howner, hnone⟩ | ⟨howner, before, hbefore, hslots⟩
  · exact .inl ⟨howner, @update_left _ s.slots (fun _ ↦ none) _ _ hnodup hnone _⟩
  · exact .inr ⟨howner, before, hbefore, update_left hnodup hslots _⟩

/-- Clearing one variable. -/
theorem Working.clear {owner : Option Owner} {slot : Slot} {left : List Slot}
    (h : Working s (.clearing owner (slot :: left))) :
    Working { s with slots := Function.update s.slots slot none } (.clearing owner left) := by
  obtain ⟨howner, hnodup, hcleared, hleft⟩ := h
  refine ⟨howner, (List.nodup_cons.mp hnodup).2,
    @update_slots _ s.slots (fun _ ↦ none) _ _ hcleared, ?_⟩
  rcases hleft with hnone | ⟨installer, before, hsame, hbefore, hslots⟩
  · exact .inl (@update_left _ s.slots (fun _ ↦ none) _ _ hnodup hnone _)
  · exact .inr ⟨installer, before, hsame, hbefore, update_left hnodup hslots _⟩

/-- Once every variable is stored and the owner is set, the callbacks are registered. -/
theorem Working.own {owner : Owner} {callbacks : Callbacks Fn}
    (h : Working s (.storing owner callbacks [])) :
    Registered { s with owner := some owner } owner callbacks := by
  obtain ⟨hcalled, hcomplete, -, hstored, -⟩ := h
  exact ⟨hcalled, hcomplete, rfl, funext fun slot ↦ hstored slot (List.not_mem_nil)⟩

/-- Once every variable is cleared and the owner too, nothing is registered. -/
theorem Working.disown {owner : Option Owner} (h : Working s (.clearing owner [])) :
    Answered { s with owner := none } (.uninstall owner) true := by
  refine ⟨.inl ⟨rfl, fun slot ↦ h.2.2.1 slot List.not_mem_nil⟩, ?_⟩
  cases owner with
  | none => exact .inl rfl
  | some owner => exact .inr nofun

end Safety

/-! ## Every order of steps -/

section Runs

variable [DecidableEq Owner]

theorem inside_compared (owner : Option Owner) (call : Call Owner Fn) :
    Inside (compared owner call) := by
  cases call with
  | install installer callbacks =>
      cases installer with
      | none => trivial
      | some installer =>
          show Inside (if _ then _ else _)
          split_ifs <;> trivial
  | uninstall caller =>
      show Inside (if _ then _ else _)
      split_ifs <;> trivial
  | isInstalledFor caller => trivial

/-- The mutex is held by the thread inside. -/
theorem registry_locking :
    Locking (registry Thread Owner Fn) Registry.holder Inside where
  free := rfl
  outside := id
  step hstep := by
    cases hstep with
    | call | refuse | test | read | forward => exact .keeps Iff.rfl rfl
    | lock hfree => exact .takes hfree id trivial rfl
    | compare call => exact .keeps (iff_of_true (inside_compared _ call) trivial) rfl
    | store | own | clear | disown => exact .keeps (iff_of_true trivial trivial) rfl
    | unlock => exact .returns trivial id rfl

/-- The mutex protects the registry. -/
theorem registry_guarding :
    Guarding (registry Thread Owner Fn) Inside Whole Working where
  start := .inl ⟨rfl, fun _ ↦ rfl⟩
  idle := trivial
  enters hstep hbefore hafter hwhole hworking := by
    cases hstep with
    | call | refuse | test | read | forward => exact hafter.elim
    | lock => exact ⟨hwhole.held _, hworking.1, hworking.2⟩
    | compare | store | own | clear | disown | unlock => exact absurd trivial hbefore
  works hstep hbefore hafter hworking := by
    cases hstep with
    | call | refuse | test | read | forward | lock => exact hbefore.elim
    | compare call => exact hworking.compared
    | store => exact hworking.store
    | own owner callbacks => exact ⟨owner, rfl, hworking.own⟩
    | clear => exact hworking.clear
    | disown => exact hworking.disown
    | unlock => exact hafter.elim
  leaves hstep hbefore hafter hworking := by
    cases hstep with
    | call | refuse | test | read | forward | lock => exact hbefore.elim
    | compare call => exact absurd (inside_compared _ call) hafter
    | store | own | clear | disown => exact absurd trivial hafter
    | unlock call result => exact ⟨(Answered.whole hworking).held _, trivial⟩
  passes hstep hbefore hafter := by
    cases hstep with
    | call call =>
        exact ⟨fun hwhole ↦ hwhole.same rfl rfl (List.subset_cons_self ..),
          fun _ ↦ List.mem_cons_self⟩
    | refuse => exact ⟨id, fun _ ↦ trivial⟩
    | test htested => exact ⟨id, fun hcalled ↦ ⟨hcalled, htested⟩⟩
    | read | forward => exact ⟨id, fun _ ↦ trivial⟩
    | lock => exact absurd trivial hafter
    | compare | store | own | clear | disown | unlock => exact absurd trivial hbefore
  frame hstep hexclusive hworking := by
    cases hstep with
    | call call => exact hworking.call call
    | refuse | test | read | forward => exact hworking
    | lock => exact hworking.outside rfl (hexclusive (.inr trivial))
    | compare | store | own | clear | disown | unlock =>
        exact hworking.outside rfl (hexclusive (.inl trivial))

/-- A function that somebody gave to `install` for a variable. -/
def Given (s : Registry Thread Owner Fn) (slot : Slot) (fn : Fn) : Prop :=
  ∃ owner callbacks, .install (some owner) callbacks ∈ s.calls ∧ callbacks slot = some fn

/-- What a forwarding function can read: a function of the owner, or of the install that is under
way. -/
def Current (s : Registry Thread Owner Fn) (points : Thread → Point Owner Fn) (slot : Slot)
    (fn : Fn) : Prop :=
  ∃ owner callbacks, .install (some owner) callbacks ∈ s.calls ∧ callbacks slot = some fn ∧
    (s.owner = some owner ∨ ∃ thread left, points thread = .storing owner callbacks left)

variable {s : Registry Thread Owner Fn} {points : Thread → Point Owner Fn}

omit [DecidableEq Owner] in
theorem Whole.current (h : Whole s) {slot : Slot} {fn : Fn} (hslot : s.slots slot = some fn) :
    Current s points slot fn := by
  rcases h with hempty | ⟨owner, callbacks, hregistered⟩
  · cases (hempty.slots_eq slot).symm.trans hslot
  · exact ⟨owner, callbacks, hregistered.called, hregistered.slots_eq ▸ hslot,
      .inl hregistered.owner_eq⟩

/-- Whatever a variable holds is current. -/
theorem slots_current [DecidableEq Thread] (h : Reached (registry Thread Owner Fn) s points)
    {slot : Slot} {fn : Fn} (hslot : s.slots slot = some fn) : Current s points slot fn := by
  obtain ⟨hrest, hworking⟩ := registry_guarding.reached registry_locking h
  cases hholder : s.holder with
  | none => exact (hrest hholder).current hslot
  | some thread =>
      have hinside := (registry_locking.inside_iff h thread).mpr hholder
      have hthread := hworking thread
      cases hpoint : points thread with
      | idle | called | waiting | forwarding =>
          rw [hpoint] at hinside
          exact hinside.elim
      | comparing call =>
          rw [hpoint] at hthread
          exact hthread.1.current hslot
      | storing owner callbacks left =>
          rw [hpoint] at hthread
          obtain ⟨hcalled, -, -, hstored, hleft⟩ := hthread
          by_cases hmem : slot ∈ left
          · rcases hleft with ⟨-, hnone⟩ | ⟨howner, before, hbefore, hslots⟩
            · cases (hnone slot hmem).symm.trans hslot
            · exact ⟨owner, before, hbefore, (hslots slot hmem).symm.trans hslot, .inl howner⟩
          · exact ⟨owner, callbacks, hcalled, (hstored slot hmem).symm.trans hslot,
              .inr ⟨thread, left, hpoint⟩⟩
      | clearing owner left =>
          rw [hpoint] at hthread
          obtain ⟨howner, -, hcleared, hleft⟩ := hthread
          by_cases hmem : slot ∈ left
          · rcases hleft with hnone | ⟨installer, before, hsame, hbefore, hslots⟩
            · cases (hnone slot hmem).symm.trans hslot
            · exact ⟨installer, before, hbefore, (hslots slot hmem).symm.trans hslot,
                .inl (howner.trans hsame)⟩
          · cases (hcleared slot hmem).symm.trans hslot
      | returning call result =>
          rw [hpoint] at hthread
          exact (Answered.whole hthread).current hslot

/-- A step calls only what a step reads. -/
theorem step_calls {thread : Thread} {next : Registry Thread Owner Fn} {before after : Point Owner Fn}
    (h : Step thread s before next after) : s.calls ⊆ next.calls := by
  cases h with
  | call => exact List.subset_cons_self ..
  | refuse | test | lock | compare | store | own | clear | disown | unlock | read | forward =>
      exact fun _ hcall ↦ hcall

theorem step_forwarding {thread : Thread} {next : Registry Thread Owner Fn}
    {before after : Point Owner Fn} (h : Step thread s before next after) {slot : Slot}
    {fn : Option Fn} (hafter : after = .forwarding slot fn) : next = s ∧ s.slots slot = fn := by
  cases h with
  | read =>
      obtain ⟨rfl, hfn⟩ := Point.forwarding.inj hafter
      exact ⟨rfl, hfn⟩
  | compare call =>
      have hinside := inside_compared s.owner call
      rw [hafter] at hinside
      exact hinside.elim
  | call | refuse | test | lock | store | own | clear | disown | unlock | forward => cases hafter

/-- Whatever a forwarding function calls was given to `install`. -/
theorem forwarding_given [DecidableEq Thread] (h : Reached (registry Thread Owner Fn) s points)
    {thread : Thread} {slot : Slot} {fn : Fn} (hpoint : points thread = .forwarding slot (some fn)) :
    Given s slot fn := by
  induction h with
  | start => cases hpoint
  | @step shared next locals mover after hreached hstep ih =>
      by_cases hmover : thread = mover
      · subst hmover
        rw [Function.update_self] at hpoint
        obtain ⟨rfl, hslot⟩ := step_forwarding hstep hpoint
        obtain ⟨owner, callbacks, hcalled, hfn, -⟩ := slots_current hreached hslot
        exact ⟨owner, callbacks, hcalled, hfn⟩
      · rw [Function.update_of_ne hmover] at hpoint
        obtain ⟨owner, callbacks, hcalled, hfn⟩ := ih hpoint
        exact ⟨owner, callbacks, step_calls hstep hcalled, hfn⟩

/-- What the threads of the process can rely on, at any time. -/
structure Safe (s : Registry Thread Owner Fn) (points : Thread → Point Owner Fn) : Prop where
  /-- One call at a time works on the registry. -/
  exclusive (first second : Thread) :
    Inside (points first) → Inside (points second) → first = second
  /-- Between calls all callbacks are those of one install of the owner, or there are none. -/
  whole : (∀ thread, ¬ Inside (points thread)) → Whole s
  /-- A call says what it did when it returns. -/
  answered (thread : Thread) (call : Call Owner Fn) (result : Bool) :
    points thread = .returning call result → Answered s call result
  /-- At any moment a forwarding function finds a function of the owner, or of the install that is
  under way, or none. -/
  current (slot : Slot) (fn : Fn) : s.slots slot = some fn → Current s points slot fn
  /-- What it calls after that was given to `install`. -/
  given (thread : Thread) (slot : Slot) (fn : Fn) :
    points thread = .forwarding slot (some fn) → Given s slot fn

/-- The registry is safe in every order of the steps of any number of threads, which call the
functions of the module and the vendor's callbacks as they like. -/
theorem registry_safe [DecidableEq Thread] (h : Reached (registry Thread Owner Fn) s points) :
    Safe s points where
  exclusive _ _ := registry_locking.exclusive h
  whole houtside :=
    (registry_guarding.reached registry_locking h).1 ((registry_locking.free_iff h).mpr houtside)
  answered thread call result hpoint := by
    have hworking := (registry_guarding.reached registry_locking h).2 thread
    rw [hpoint] at hworking
    exact hworking
  current _ _ := slots_current h
  given _ _ _ := forwarding_given h

section Alone

variable [DecidableEq Thread] {thread : Thread}

/-- The thread takes a step, the others none. -/
theorem reached_step (h : Reached (registry Thread Owner Fn) s points)
    {next : Registry Thread Owner Fn} {before after : Point Owner Fn}
    (hpoint : points thread = before) (hstep : Step thread s before next after) :
    ∃ points', Reached (registry Thread Owner Fn) next points' ∧ points' thread = after ∧
      ∀ other, other ≠ thread → points' other = points other := by
  subst hpoint
  exact ⟨_, h.step hstep, Function.update_self .., fun other hother ↦
    Function.update_of_ne hother ..⟩

/-- A thread that is left alone stores all variables. -/
theorem reached_stored (h : Reached (registry Thread Owner Fn) s points) {owner : Owner}
    {callbacks : Callbacks Fn} {left : List Slot}
    (hpoint : points thread = .storing owner callbacks left) :
    ∃ slots points', Reached (registry Thread Owner Fn) { s with slots := slots } points' ∧
      points' thread = .storing owner callbacks [] ∧
      ∀ other, other ≠ thread → points' other = points other := by
  induction left generalizing s points with
  | nil => exact ⟨s.slots, points, h, hpoint, fun _ _ ↦ rfl⟩
  | cons slot left ih =>
      obtain ⟨points', hreached, hpoint', hothers⟩ :=
        reached_step h hpoint (.store owner callbacks slot left)
      obtain ⟨slots, points'', hreached', hpoint'', hothers'⟩ := ih hreached hpoint'
      exact ⟨slots, points'', hreached', hpoint'', fun other hother ↦
        (hothers' other hother).trans (hothers other hother)⟩

/-- It clears all variables as well. -/
theorem reached_cleared (h : Reached (registry Thread Owner Fn) s points) {owner : Option Owner}
    {left : List Slot} (hpoint : points thread = .clearing owner left) :
    ∃ slots points', Reached (registry Thread Owner Fn) { s with slots := slots } points' ∧
      points' thread = .clearing owner [] ∧
      ∀ other, other ≠ thread → points' other = points other := by
  induction left generalizing s points with
  | nil => exact ⟨s.slots, points, h, hpoint, fun _ _ ↦ rfl⟩
  | cons slot left ih =>
      obtain ⟨points', hreached, hpoint', hothers⟩ :=
        reached_step h hpoint (.clear owner slot left)
      obtain ⟨slots, points'', hreached', hpoint'', hothers'⟩ := ih hreached hpoint'
      exact ⟨slots, points'', hreached', hpoint'', fun other hother ↦
        (hothers' other hother).trans (hothers other hother)⟩

/-- An install that nobody hinders registers its callbacks. -/
theorem reached_installed (h : Reached (registry Thread Owner Fn) s points)
    (hidle : points thread = .idle) (hfree : s.holder = none) {owner : Owner}
    (howner : s.owner = none ∨ s.owner = some owner) {callbacks : Callbacks Fn}
    (hcomplete : Complete callbacks) :
    ∃ next points', Reached (registry Thread Owner Fn) next points' ∧ next.holder = none ∧
      Registered next owner callbacks ∧ points' thread = .idle ∧
      ∀ other, other ≠ thread → points' other = points other := by
  obtain ⟨p1, h1, at1, o1⟩ := reached_step h hidle (.call (.install (some owner) callbacks))
  obtain ⟨p2, h2, at2, o2⟩ := reached_step h1 at1
    (.test fun _ _ hsame ↦ by cases hsame; exact ⟨nofun, hcomplete⟩)
  obtain ⟨p3, h3, at3, o3⟩ := reached_step h2 at2 (.lock hfree)
  obtain ⟨p4, h4, at4, o4⟩ := reached_step h3 at3 (.compare _)
  have hstoring : compared s.owner (.install (some owner) callbacks) =
      .storing owner callbacks slotOrder := by
    refine if_neg fun hother ↦ ?_
    exact howner.elim hother.1 hother.2
  obtain ⟨slots, p5, h5, at5, o5⟩ := reached_stored h4 (at4.trans hstoring)
  obtain ⟨p6, h6, at6, o6⟩ := reached_step h5 at5 (.own owner callbacks)
  have hanswered := (registry_safe h6).answered thread _ _ at6
  obtain ⟨p7, h7, at7, o7⟩ := reached_step h6 at6 (.unlock _ _)
  obtain ⟨installer, howner', hregistered⟩ := hanswered
  obtain rfl := Option.some.inj howner'
  refine ⟨_, p7, h7, rfl, hregistered.same rfl rfl fun _ hcall ↦ hcall, at7, fun other hother ↦ ?_⟩
  rw [o7 _ hother, o6 _ hother, o5 _ hother, o4 _ hother, o3 _ hother, o2 _ hother, o1 _ hother]

/-- An uninstall of the owner that nobody hinders leaves nothing installed. -/
theorem reached_uninstalled (h : Reached (registry Thread Owner Fn) s points)
    (hidle : points thread = .idle) (hfree : s.holder = none) {owner : Owner}
    (howner : s.owner = some owner) :
    ∃ next points', Reached (registry Thread Owner Fn) next points' ∧ Empty next ∧
      points' thread = .idle ∧ ∀ other, other ≠ thread → points' other = points other := by
  obtain ⟨p1, h1, at1, o1⟩ := reached_step h hidle (.call (.uninstall (some owner)))
  obtain ⟨p2, h2, at2, o2⟩ := reached_step h1 at1 (.test fun _ _ hsame ↦ by cases hsame)
  obtain ⟨p3, h3, at3, o3⟩ := reached_step h2 at2 (.lock hfree)
  obtain ⟨p4, h4, at4, o4⟩ := reached_step h3 at3 (.compare _)
  have hclearing : compared s.owner (.uninstall (some owner) : Call Owner Fn) =
      .clearing (some owner) slotOrder := if_neg (not_not.mpr howner)
  obtain ⟨slots, p5, h5, at5, o5⟩ := reached_cleared h4 (at4.trans hclearing)
  obtain ⟨p6, h6, at6, o6⟩ := reached_step h5 at5 (.disown (some owner))
  have hwhole := Answered.whole ((registry_safe h6).answered thread _ _ at6)
  obtain ⟨p7, h7, at7, o7⟩ := reached_step h6 at6 (.unlock _ _)
  refine ⟨_, p7, h7, ?_, at7, fun other hother ↦ ?_⟩
  · rcases hwhole with hempty | ⟨other, _, hregistered⟩
    · exact ⟨rfl, hempty.slots_eq⟩
    · cases hregistered.owner_eq
  · rw [o7 _ hother, o6 _ hother, o5 _ hother, o4 _ hother, o3 _ hother, o2 _ hother, o1 _ hother]

/-- What the registry does not promise: a function that was read before its owner uninstalled it is
still called after. -/
theorem late_call {vendor : Thread} (hvendor : vendor ≠ thread) (owner : Owner)
    {callbacks : Callbacks Fn} (hcomplete : Complete callbacks) (slot : Slot) :
    ∃ (s : Registry Thread Owner Fn) (points : Thread → Point Owner Fn),
      Reached (registry Thread Owner Fn) s points ∧ Empty s ∧ points thread = .idle ∧
      points vendor = .forwarding slot (callbacks slot) := by
  obtain ⟨first, p1, h1, hfree, hregistered, at1, o1⟩ :=
    @reached_installed Thread Owner Fn _ {} (fun _ ↦ .idle) _ thread .start rfl rfl owner (.inl rfl)
      callbacks hcomplete
  obtain ⟨p2, h2, at2, o2⟩ := reached_step h1 (o1 vendor hvendor) (.read slot)
  obtain ⟨last, p3, h3, hempty, at3, o3⟩ :=
    reached_uninstalled h2 ((o2 thread hvendor.symm).trans at1) hfree hregistered.owner_eq
  refine ⟨last, p3, h3, hempty, at3, ?_⟩
  rw [o3 vendor hvendor, at2, hregistered.slots_eq]

end Alone

/-- Two threads; one has installed callbacks. -/
theorem registry_safe_installed :
    ∃ (s : Registry Bool Nat Nat) (points : Bool → Point Nat Nat),
      s.owner = some 1 ∧ s.slots .endPrint = some 7 ∧ Safe s points := by
  obtain ⟨s, points, h, -, hregistered, -⟩ := @reached_installed Bool Nat Nat _ {} (fun _ ↦ .idle) _
    true .start rfl rfl 1 (.inl rfl) (fun _ ↦ some 7) fun _ ↦ rfl
  exact ⟨s, points, hregistered.owner_eq, by rw [hregistered.slots_eq], registry_safe h⟩

end Runs

end PrintFlow.NocaiDirectPrintCompatibility
