import Mathlib.Data.List.Basic

/-!
# Messages in a stream that arrives in fragments

A receiver appends each fragment of a stream to a buffer and takes messages from the front of the
buffer until none is complete. `Framed` says what a decoder must do for one frame: take a complete
one off the front, and leave a proper part of one alone. Then the receiver finds the messages of
the stream, however the stream was cut.
-/

namespace Framing

variable {α M ε : Type}

/-- What a decoder reports about a buffer. -/
inductive Decoded (M ε : Type) where
  | incomplete
  | complete (message : M)
  | invalid (error : ε)

/-- A call of the decoder: the buffer it found, the one it left, and what it reported. -/
structure Call (α M ε : Type) where
  before : List α
  after : List α
  decoded : Decoded M ε

/-- The message of a call. -/
def Call.message (call : Call α M ε) : Option M :=
  match call.decoded with
  | .complete message => some message
  | _ => none

/-- The call reported that no message is complete. -/
def Call.isIncomplete (call : Call α M ε) : Bool :=
  match call.decoded with
  | .incomplete => true
  | _ => false

section Receiver

variable (take : List α → List α × Decoded M ε)

/-- The decoder called until no message is complete, and the buffer that is left. Every message
takes something off the buffer, so that one more call than it has elements is enough. -/
def drain : (fuel : Nat) → List α → List (Call α M ε) × List α
  | 0, buffer => ([], buffer)
  | fuel + 1, buffer =>
    match take buffer with
    | (rest, .complete message) =>
      let (calls, left) := drain fuel rest
      (⟨buffer, rest, .complete message⟩ :: calls, left)
    | (rest, decoded) => ([⟨buffer, rest, decoded⟩], rest)

/-- The fragments of a stream one after the other. -/
def receive : List α → List (List α) → List (Call α M ε) × List α
  | buffer, [] => ([], buffer)
  | buffer, fragment :: fragments =>
    let (calls, left) := drain take ((buffer ++ fragment).length + 1) (buffer ++ fragment)
    let (later, final) := receive left fragments
    (calls ++ later, final)

/-- What the decoder does with the frames of these messages. -/
structure Framed (frame : M → List α) (valid : M → Prop) : Prop where
  nonempty : ∀ {message}, valid message → frame message ≠ []
  empty : take [] = ([], .incomplete)
  complete : ∀ {message}, valid message → ∀ rest,
    take (frame message ++ rest) = (rest, .complete message)
  incomplete : ∀ {message}, valid message → ∀ buffer future,
    buffer ++ future = frame message → future ≠ [] → take buffer = (buffer, .incomplete)

end Receiver

/-- The frames of a list of messages. -/
def stream (frame : M → List α) (messages : List M) : List α := messages.flatMap frame

/-- A call that leaves its buffer as it is, or takes one frame off it. -/
def Call.Sound (frame : M → List α) (messages : List M) (call : Call α M ε) : Prop :=
  (call.decoded = .incomplete ∧ call.after = call.before) ∨
    ∃ message ∈ messages, call.decoded = .complete message ∧
      call.before = frame message ++ call.after

variable {take : List α → List α × Decoded M ε} {frame : M → List α} {valid : M → Prop}

/-- What is left of a buffer belongs to a message that is not complete. -/
def Unfinished (frame : M → List α) (left : List M) (buffer : List α) : Prop :=
  ∀ message ∈ left.head?, buffer.length < (frame message).length

theorem Call.Sound.mono {call : Call α M ε} {first second : List M} (h : call.Sound frame first)
    (hsub : ∀ message ∈ first, message ∈ second) : call.Sound frame second := by
  rcases h with hkept | ⟨message, hmessage, htaken⟩
  · exact .inl hkept
  · exact .inr ⟨message, hsub message hmessage, htaken⟩

/-- What draining a buffer at the front of the stream gives: its complete messages. -/
structure Drained (frame : M → List α) (messages : List M) (future : List α)
    (calls : List (Call α M ε)) (buffer : List α) (left : List M) : Prop where
  taken : messages = calls.filterMap Call.message ++ left
  sound : ∀ call ∈ calls, call.Sound frame messages
  ends : calls.countP Call.isIncomplete = 1
  stream : buffer ++ future = stream frame left
  rest : Unfinished frame left buffer

/-- A buffer without a complete message is left as it is. -/
theorem drained_incomplete {messages : List M} {fuel : Nat} {buffer future : List α}
    (htake : take buffer = (buffer, .incomplete))
    (hstream : buffer ++ future = stream frame messages)
    (hunfinished : Unfinished frame messages buffer) :
    Drained frame messages future (drain take (fuel + 1) buffer).1 (drain take (fuel + 1) buffer).2
      messages := by
  have hdrain : drain take (fuel + 1) buffer = ([⟨buffer, buffer, .incomplete⟩], buffer) := by
    rw [drain, htake]
  rw [hdrain]
  refine ⟨rfl, ?_, rfl, hstream, hunfinished⟩
  intro call hcall
  obtain rfl := List.mem_singleton.mp hcall
  exact .inl ⟨rfl, rfl⟩

theorem drain_stream (h : Framed take frame valid) {messages : List M}
    (hvalid : ∀ message ∈ messages, valid message) {fuel : Nat} {buffer future : List α}
    (hfuel : buffer.length < fuel) (hstream : buffer ++ future = stream frame messages) :
    ∃ left, Drained frame messages future (drain take fuel buffer).1 (drain take fuel buffer).2
      left := by
  -- On the messages that are not taken yet: the buffer and the future are the rest of the stream.
  induction messages generalizing fuel buffer with
  | nil =>
      obtain ⟨rfl, rfl⟩ := List.append_eq_nil_iff.mp hstream
      obtain ⟨fuel, rfl⟩ := Nat.exists_eq_succ_of_ne_zero (Nat.ne_of_gt hfuel)
      exact ⟨[], drained_incomplete h.empty rfl nofun⟩
  | cons message rest ih =>
      have hmessage := hvalid message List.mem_cons_self
      obtain ⟨fuel, rfl⟩ := Nat.exists_eq_succ_of_ne_zero (Nat.ne_zero_of_lt hfuel)
      have hsplit : buffer ++ future = frame message ++ stream frame rest := hstream
      -- Either the frame of the next message is still incomplete, or it is a prefix of the buffer.
      by_cases hshort : buffer.length < (frame message).length
      · obtain ⟨missing, hmissing⟩ : ∃ missing, buffer ++ missing = frame message := by
          rcases List.append_eq_append_iff.mp hsplit with ⟨missing, hmissing, -⟩ | ⟨tail, htail, -⟩
          · exact ⟨missing, hmissing.symm⟩
          · rw [htail, List.length_append] at hshort
            omega
        have hsome : missing ≠ [] := by
          rintro rfl
          rw [List.append_nil] at hmissing
          exact absurd hshort (by rw [hmissing]; omega)
        refine ⟨message :: rest, drained_incomplete (h.incomplete hmessage _ _ hmissing hsome) hstream ?_⟩
        intro other hother
        exact Option.some.inj hother ▸ hshort
      · obtain ⟨tail, rfl, htail⟩ : ∃ tail, buffer = frame message ++ tail ∧
            tail ++ future = stream frame rest := by
          rcases List.append_eq_append_iff.mp hsplit with ⟨missing, hmissing, hrest⟩ | ⟨tail, htail, hrest⟩
          · rw [hmissing, List.length_append] at hshort
            have hnone : missing = [] := List.eq_nil_of_length_eq_zero (by omega)
            subst hnone
            exact ⟨[], by rw [hmissing, List.append_nil, List.append_nil], hrest⟩
          · exact ⟨tail, htail, hrest.symm⟩
        have hlong := List.length_pos_iff.mpr (h.nonempty hmessage)
        rw [List.length_append] at hfuel
        have hless : tail.length < fuel := by omega
        obtain ⟨left, hdrained⟩ :=
          ih (fun other hother ↦ hvalid other (List.mem_cons_of_mem _ hother)) hless htail
        have hdrain : drain take (fuel + 1) (frame message ++ tail) =
            (⟨frame message ++ tail, tail, .complete message⟩ :: (drain take fuel tail).1,
              (drain take fuel tail).2) := by
          rw [drain, h.complete hmessage]
        rw [hdrain]
        refine ⟨left, ?_, ?_, ?_, hdrained.stream, hdrained.rest⟩
        · exact congrArg (message :: ·) hdrained.taken
        · intro call hcall
          rcases List.mem_cons.mp hcall with rfl | hcall
          · exact .inr ⟨message, List.mem_cons_self, rfl, rfl⟩
          · exact (hdrained.sound call hcall).mono fun _ hother ↦ List.mem_cons_of_mem _ hother
        · exact hdrained.ends

/-- However the stream of the messages is cut into fragments, the receiver takes the messages in
order, each with one frame, and keeps nothing. -/
theorem receive_stream (h : Framed take frame valid) {messages : List M}
    (hvalid : ∀ message ∈ messages, valid message) {buffer : List α} {fragments : List (List α)}
    (hunfinished : Unfinished frame messages buffer)
    (hstream : buffer ++ fragments.flatten = stream frame messages) :
    (receive take buffer fragments).1.filterMap Call.message = messages ∧
      (∀ call ∈ (receive take buffer fragments).1, call.Sound frame messages) ∧
      (receive take buffer fragments).1.countP Call.isIncomplete = fragments.length ∧
      (receive take buffer fragments).2 = [] := by
  -- What is left of the buffer after a fragment is unfinished again, which carries the induction.
  induction fragments generalizing buffer messages with
  | nil =>
      rw [List.flatten_nil, List.append_nil] at hstream
      cases messages with
      | nil => exact ⟨rfl, fun _ hcall ↦ absurd hcall List.not_mem_nil, rfl, hstream⟩
      | cons message rest =>
          have hshort := hunfinished message rfl
          rw [hstream, stream, List.flatMap_cons, List.length_append] at hshort
          omega
  | cons fragment fragments ih =>
      have hstream : (buffer ++ fragment) ++ fragments.flatten = stream frame messages := by
        rw [List.append_assoc]
        exact hstream
      obtain ⟨left, hdrained⟩ :=
        drain_stream h hvalid (Nat.lt_succ_self (buffer ++ fragment).length) hstream
      have hall := hdrained.taken
      obtain ⟨hmessages, hsound, hends, hempty⟩ := ih
        (fun message hmessage ↦ hvalid message (hall ▸ List.mem_append_right _ hmessage))
        hdrained.rest hdrained.stream
      rw [receive]
      refine ⟨?_, ?_, ?_, hempty⟩
      · rw [List.filterMap_append, hmessages]
        exact hall.symm
      · intro call hcall
        rcases List.mem_append.mp hcall with hcall | hcall
        · exact hdrained.sound call hcall
        · exact (hsound call hcall).mono fun _ hmessage ↦ hall ▸ List.mem_append_right _ hmessage
      · rw [List.countP_append, hdrained.ends, hends, List.length_cons, Nat.add_comm]

end Framing
