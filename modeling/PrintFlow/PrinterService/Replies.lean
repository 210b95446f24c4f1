import PrintFlow.PrinterService.Connections
import PrintFlow.PrinterService.Messages

/-!
# Replies of the printer service

A client opens a connection, sends one message and reads one reply. `connection_served` follows one
such connection among all others: its message is handled once at most, and only when all of it has
arrived; the reply it gets is the one of its own handler, at once or when the print returns that its
handler began, although handlers of other connections begin and end in between.
-/

namespace PrintFlow.PrinterServiceServer.Connections

open DataStream FileStore Framing PrinterServiceProtocol RasterSpool

variable {V : Type} [QVariantApi V] [QVariantMessage V]

section Served

variable (stream : Codec (QVariantMap V)) (state : Response V → QVariantMap V) (sha256 : Sha256)
  (start : Connections V) (socket : Nat) (message : QVariantMap V)

/-- The connections after these events. -/
def after (events : List (Event V)) : Connections V :=
  Runs.run (step stream state sha256) start events

/-- The print that the handler of the message began, after the first of these events, is executing:
no print around it has returned since. -/
def Executing (events first : List (Event V)) (printing : Printing) : Prop :=
  ∃ fragment io mid, events = first ++ .readyRead socket fragment io :: mid ∧
    (handleRequest sha256 (after stream state sha256 start first).service message io).2 = none ∧
    (handleRequest sha256 (after stream state sha256 start first).service message io).1.prints =
      printing :: (after stream state sha256 start first).service.prints ∧
    ∀ part, part <+: mid → ∃ inner,
      (after stream state sha256 start
          (first ++ .readyRead socket fragment io :: part)).service.prints =
        inner ++ printing :: (after stream state sha256 start first).service.prints

/-- The reply of the handler of the message, given at once or when the print it began returns. -/
inductive Own (events : List (Event V)) (reply : Response V) : Prop where
  | answered (first fragment io rest) :
      events = first ++ .readyRead socket fragment io :: rest →
      (handleRequest sha256 (after stream state sha256 start first).service message io).2 =
        some reply →
      Own events reply
  | printed (first printing mid io ok rest) :
      events = mid ++ .printReturns io ok :: rest →
      Executing stream state sha256 start socket message mid first printing →
      (after stream state sha256 start mid).service.prints =
        printing :: (after stream state sha256 start first).service.prints →
      (finishPrint
        { (after stream state sha256 start mid).service with
          prints := (after stream state sha256 start first).service.prints } io printing ok).2 =
        some reply →
      Own events reply

/-- What the client of the message sees: nothing was handled, or the message was, once and as a
whole, and its reply was written once at most. -/
def Served (events : List (Event V)) : Prop :=
  (requestsOf socket (after stream state sha256 start events) = [] ∧
      repliesTo socket (after stream state sha256 start events) = []) ∨
    (requestsOf socket (after stream state sha256 start events) = [message] ∧
      (arrived socket events).flatten = encodeFrame stream message ∧
      (repliesTo socket (after stream state sha256 start events) = [] ∨
        ∃ reply, repliesTo socket (after stream state sha256 start events) = [reply] ∧
          Own stream state sha256 start socket message events reply))

/-- The handler of the message has given its reply, which is written if it has a frame. -/
def Answered (events : List (Event V)) : Prop :=
  ∃ reply, Own stream state sha256 start socket message events reply ∧
    repliesTo socket (after stream state sha256 start events) =
      if replyFrame stream state reply = [] then [] else [reply]

/-- Where the handling of the message stands. -/
inductive Phase (events : List (Event V)) : Prop where
  /-- Not all of it has arrived. -/
  | reading :
      (after stream state sha256 start events).buffers socket =
        some (arrived socket events).flatten →
      (arrived socket events).flatten.length < (encodeFrame stream message).length →
      socket ∉ (after stream state sha256 start events).waiting →
      (socket ∈ (after stream state sha256 start events).closed → Left socket events) →
      requestsOf socket (after stream state sha256 start events) = [] →
      repliesTo socket (after stream state sha256 start events) = [] → Phase events
  /-- Its handler is inside a print; those before it in the stack are inside later ones. -/
  | executing (first printing inner outer prints) :
      Executing stream state sha256 start socket message events first printing →
      (after stream state sha256 start events).waiting = inner ++ socket :: outer →
      socket ∉ inner → socket ∉ outer →
      (after stream state sha256 start events).service.prints =
        prints ++ printing :: (after stream state sha256 start first).service.prints →
      inner.length = prints.length →
      ((after stream state sha256 start events).buffers socket = some [] ∨
        (after stream state sha256 start events).buffers socket = none) →
      (arrived socket events).flatten = encodeFrame stream message →
      (socket ∈ (after stream state sha256 start events).closed → Left socket events) →
      requestsOf socket (after stream state sha256 start events) = [message] →
      repliesTo socket (after stream state sha256 start events) = [] → Phase events
  /-- The connection is closed, by the service behind its reply or by the client. -/
  | ended :
      (after stream state sha256 start events).buffers socket = none →
      socket ∉ (after stream state sha256 start events).waiting →
      (Left socket events ∨ Answered stream state sha256 start socket message events) →
      Served stream state sha256 start socket message events → Phase events
  | stopped :
      (after stream state sha256 start events).Stopped →
      Served stream state sha256 start socket message events → Phase events

end Served

variable {stream : Codec (QVariantMap V)} {state : Response V → QVariantMap V} {sha256 : Sha256}
  {start : Connections V} {socket : Nat} {message : QVariantMap V} {events : List (Event V)}
  {event : Event V}

theorem after_snoc : after stream state sha256 start (events ++ [event]) =
    step stream state sha256 (after stream state sha256 start events) event := by
  rw [after, Runs.run_append]
  rfl

/-- Later events do not take a reply back. -/
theorem Own.snoc {reply : Response V}
    (h : Own stream state sha256 start socket message events reply) (event : Event V) :
    Own stream state sha256 start socket message (events ++ [event]) reply := by
  cases h with
  | answered first fragment io rest hsplit hreply =>
      refine .answered first fragment io (rest ++ [event]) ?_ hreply
      rw [hsplit, List.append_assoc, List.cons_append]
  | printed first printing mid io ok rest hsplit hexecuting hprints hreply =>
      refine .printed first printing mid io ok (rest ++ [event]) ?_ hexecuting hprints hreply
      rw [hsplit, List.append_assoc, List.cons_append]

theorem Answered.snoc (h : Answered stream state sha256 start socket message events)
    (hreplies : repliesTo socket (after stream state sha256 start (events ++ [event])) =
      repliesTo socket (after stream state sha256 start events)) :
    Answered stream state sha256 start socket message (events ++ [event]) := by
  obtain ⟨reply, hown, hwritten⟩ := h
  exact ⟨reply, hown.snoc event, hreplies.trans hwritten⟩

/-- An event that handles nothing of a socket and writes nothing to it keeps what its client
sees. -/
theorem Served.snoc (h : Served stream state sha256 start socket message events)
    (hfront : (arrived socket (events ++ [event])).flatten <+: encodeFrame stream message)
    (hrequests : requestsOf socket (after stream state sha256 start (events ++ [event])) =
      requestsOf socket (after stream state sha256 start events))
    (hreplies : repliesTo socket (after stream state sha256 start (events ++ [event])) =
      repliesTo socket (after stream state sha256 start events)) :
    Served stream state sha256 start socket message (events ++ [event]) := by
  rw [Served, hrequests, hreplies]
  rcases h with hnothing | ⟨hhandled, hall, hreply⟩
  · exact Or.inl hnothing
  -- All of the message had arrived, so that nothing more does.
  · have hwhole : (arrived socket (events ++ [event])).flatten = encodeFrame stream message := by
      rw [arrived, List.filterMap_append, List.flatten_append] at hfront ⊢
      change (arrived socket events).flatten ++ _ <+: _ at hfront
      change (arrived socket events).flatten ++ _ = _
      rw [hall] at hfront ⊢
      exact (hfront.eq_of_length_le (by simp))
    refine Or.inr ⟨hhandled, hwhole, hreply.imp_right ?_⟩
    rintro ⟨reply, hreply, hown⟩
    exact ⟨reply, hreply, hown.snoc event⟩

/-- In every phase the client sees at most its own reply. -/
theorem Phase.served (h : Phase stream state sha256 start socket message events) :
    Served stream state sha256 start socket message events := by
  cases h with
  | reading _ _ _ _ hrequests hreplies => exact Or.inl ⟨hrequests, hreplies⟩
  | executing _ _ _ _ _ _ _ _ _ _ _ _ hall _ hrequests hreplies =>
      exact Or.inr ⟨hrequests, hall, Or.inl hreplies⟩
  | ended _ _ _ hserved => exact hserved
  | stopped _ hserved => exact hserved

/-- A service that has stopped does nothing. -/
theorem after_stopped (h : (after stream state sha256 start events).Stopped) (event : Event V) :
    after stream state sha256 start (events ++ [event]) =
      after stream state sha256 start events := by
  rw [after_snoc, step.eq_def, if_pos h]

omit [QVariantApi V] [QVariantMessage V] in
theorem Left.snoc (h : Left socket events) (event : Event V) : Left socket (events ++ [event]) :=
  h.imp (List.mem_append_left _) (List.mem_append_left _)

/-- A print goes on executing while it is in the stack. -/
theorem Executing.snoc {first : List (Event V)} {printing : Printing}
    (h : Executing stream state sha256 start socket message events first printing)
    (hstack : ∃ inner, (after stream state sha256 start (events ++ [event])).service.prints =
      inner ++ printing :: (after stream state sha256 start first).service.prints) :
    Executing stream state sha256 start socket message (events ++ [event]) first printing := by
  obtain ⟨fragment, io, mid, rfl, hnone, hbegun, hparts⟩ := h
  refine ⟨fragment, io, mid ++ [event], by simp, hnone, hbegun, ?_⟩
  intro part hpart
  rcases List.prefix_concat_iff.mp hpart with rfl | hpart
  · simpa using hstack
  · exact hparts part hpart

omit [QVariantApi V] [QVariantMessage V] in
theorem arrived_snoc_other (h : ∀ fragment io, event ≠ .readyRead socket fragment io) :
    arrived socket (events ++ [event]) = arrived socket events := by
  rw [arrived, List.filterMap_append, List.filterMap_cons_none, List.filterMap_nil,
    List.append_nil]
  · rfl
  · cases event with
    | readyRead other fragment io =>
        have hne : other ≠ socket := by
          rintro rfl
          exact h fragment io rfl
        exact if_neg hne
    | _ => rfl

omit [QVariantApi V] [QVariantMessage V] in
theorem arrived_snoc_same (socket : Nat) (events : List (Event V)) (fragment : Bytes)
    (io : RequestIo V) :
    (arrived socket (events ++ [.readyRead socket fragment io])).flatten =
      (arrived socket events).flatten ++ fragment := by
  simp [arrived, List.filterMap_append]

omit [QVariantApi V] [QVariantMessage V] in
/-- A socket whose handler is not inside a print is put before none. -/
theorem Aside.not_waiting {c c' : Connections V} (h : Aside socket c c') (hrunning : ¬ c'.Stopped)
    (hnew : socket ∉ c.waiting) : socket ∉ c'.waiting := by
  intro hmem
  rcases h.stack.resolve_left hrunning with ⟨hsame, -⟩ | ⟨other, _, hne, hpushed, -⟩ |
    ⟨other, _, _, hpopped, -⟩
  · exact hnew (hsame ▸ hmem)
  · rw [hpushed] at hmem
    exact (List.mem_cons.mp hmem).elim hne.symm hnew
  · rw [hpopped] at hnew
    exact hnew (List.mem_cons_of_mem _ hmem)

omit [QVariantApi V] [QVariantMessage V] in
/-- While the handler of a socket is inside a print, others begin prints within it, and the
innermost of theirs returns. -/
theorem Aside.within {c c' : Connections V} (h : Aside socket c c') (hrunning : ¬ c'.Stopped)
    {inner outer : List Nat} {prints below : List Printing} {printing : Printing}
    (hwaiting : c.waiting = inner ++ socket :: outer) (hinner : socket ∉ inner)
    (hprints : c.service.prints = prints ++ printing :: below)
    (hlength : inner.length = prints.length) :
    ∃ inner' prints', c'.waiting = inner' ++ socket :: outer ∧ socket ∉ inner' ∧
      c'.service.prints = prints' ++ printing :: below ∧ inner'.length = prints'.length := by
  rcases h.stack.resolve_left hrunning with ⟨hsame, hkept⟩ |
    ⟨other, begun, hne, hpushed, hpushed'⟩ | ⟨other, ended, hne, hpopped, hpopped'⟩
  · exact ⟨inner, prints, hsame.trans hwaiting, hinner, hkept.trans hprints, hlength⟩
  · refine ⟨other :: inner, begun :: prints, ?_, ?_, ?_, ?_⟩
    · rw [hpushed, hwaiting, List.cons_append]
    · exact fun hmem ↦ (List.mem_cons.mp hmem).elim hne.symm hinner
    · rw [hpushed', hprints, List.cons_append]
    · rw [List.length_cons, List.length_cons, hlength]
  · rw [hwaiting] at hpopped
    rw [hprints] at hpopped'
    cases inner with
    | nil => exact absurd (List.cons.inj hpopped).1 hne.symm
    | cons head inner =>
        cases prints with
        | nil => exact absurd hlength (by simp)
        | cons front prints =>
            rw [List.cons_append] at hpopped hpopped'
            refine ⟨inner, prints, (List.cons.inj hpopped).2.symm, ?_,
              (List.cons.inj hpopped').2.symm, by simpa using hlength⟩
            exact fun hmem ↦ hinner (List.mem_cons_of_mem _ hmem)

/-- An event that is not of the socket keeps the phase. -/
theorem Phase.aside (h : Phase stream state sha256 start socket message events)
    (hfront : (arrived socket (events ++ [event])).flatten <+: encodeFrame stream message)
    (hrunning : ¬ (after stream state sha256 start events).Stopped)
    (habout : ¬ (after stream state sha256 start events).About socket event) :
    Phase stream state sha256 start socket message (events ++ [event]) := by
  have haside := step_aside stream state sha256 hrunning habout
  rw [← after_snoc] at haside
  have hserved := h.served.snoc hfront haside.requests haside.replies
  by_cases hstopped : (after stream state sha256 start (events ++ [event])).Stopped
  · exact .stopped hstopped hserved
  have harrived : arrived socket (events ++ [event]) = arrived socket events := by
    refine arrived_snoc_other ?_
    rintro fragment io rfl
    exact habout rfl
  cases h with
  | reading hbuffer hshort hwaiting hclosed hrequests hreplies =>
      refine .reading ?_ ?_ ?_ ?_ (haside.requests.trans hrequests) (haside.replies.trans hreplies)
      · rw [haside.buffer, hbuffer, harrived]
      · rw [harrived]
        exact hshort
      · exact haside.not_waiting hstopped hwaiting
      · exact fun hmem ↦ (hclosed (haside.closed hmem)).snoc event
  | executing first printing inner outer prints hexecuting hwaiting hinner houter hprints hlength
      hbuffer hall hclosed hrequests hreplies =>
      obtain ⟨inner', prints', hwaiting', hinner', hprints', hlength'⟩ :=
        haside.within hstopped hwaiting hinner hprints hlength
      refine .executing first printing inner' outer prints' (hexecuting.snoc ⟨_, hprints'⟩)
        hwaiting' hinner' houter hprints' hlength' ?_ ?_ ?_ (haside.requests.trans hrequests)
        (haside.replies.trans hreplies)
      · rw [haside.buffer]
        exact hbuffer
      · rw [harrived]
        exact hall
      · exact fun hmem ↦ (hclosed (haside.closed hmem)).snoc event
  | ended hbuffer hwaiting hend _ =>
      exact .ended (haside.buffer.trans hbuffer) (haside.not_waiting hstopped hwaiting)
        (hend.imp (fun hleft ↦ hleft.snoc event) fun hreply ↦ hreply.snoc haside.replies) hserved
  | stopped hstop _ => exact absurd hstop hrunning

/-- An event that changes nothing keeps the phase. -/
theorem Phase.same (h : Phase stream state sha256 start socket message events)
    (hfront : (arrived socket (events ++ [event])).flatten <+: encodeFrame stream message)
    (hsame : after stream state sha256 start (events ++ [event]) =
      after stream state sha256 start events)
    (harrived : (arrived socket (events ++ [event])).flatten = (arrived socket events).flatten) :
    Phase stream state sha256 start socket message (events ++ [event]) := by
  have hserved := h.served.snoc hfront (by rw [hsame]) (by rw [hsame])
  cases h with
  | reading hbuffer hshort hwaiting hclosed hrequests hreplies =>
      refine .reading ?_ (by rw [harrived]; exact hshort) ?_ ?_ ?_ ?_
      · rw [hsame, hbuffer, harrived]
      all_goals rw [hsame]
      · exact hwaiting
      · exact fun hmem ↦ (hclosed hmem).snoc event
      · exact hrequests
      · exact hreplies
  | executing first printing inner outer prints hexecuting hwaiting hinner houter hprints hlength
      hbuffer hall hclosed hrequests hreplies =>
      refine .executing first printing inner outer prints (hexecuting.snoc ⟨prints, ?_⟩) ?_ hinner
        houter ?_ hlength ?_ (harrived.trans hall) ?_ ?_ ?_
      all_goals rw [hsame]
      · exact hprints
      · exact hwaiting
      · exact hprints
      · exact hbuffer
      · exact fun hmem ↦ (hclosed hmem).snoc event
      · exact hrequests
      · exact hreplies
  | ended hbuffer hwaiting hend _ =>
      exact .ended (hsame ▸ hbuffer) (hsame ▸ hwaiting)
        (hend.imp (fun hleft ↦ hleft.snoc event) fun hreply ↦ hreply.snoc (by rw [hsame])) hserved
  | stopped hstop _ =>
      refine .stopped ?_ hserved
      rw [hsame]
      exact hstop

/-- The handler of the message gives its reply. -/
theorem Phase.finished {c : Connections V} {reply : Response V}
    (hown : Own stream state sha256 start socket message (events ++ [event]) reply)
    (hrequests : requestsOf socket c = [message]) (hreplies : repliesTo socket c = [])
    (hwaiting : socket ∉ c.waiting) (hleft : socket ∈ c.closed → Left socket (events ++ [event]))
    (hall : (arrived socket (events ++ [event])).flatten = encodeFrame stream message)
    (hstep : after stream state sha256 start (events ++ [event]) =
      c.finishRequest stream state socket reply) :
    Phase stream state sha256 start socket message (events ++ [event]) := by
  have hcases := finish_request_same (c := c) stream state socket reply
  rw [← hstep, hrequests, hreplies, List.nil_append] at hcases
  rcases hcases with ⟨hstopped, hhandled, hnone⟩ | ⟨hgone, hstack, hhandled, hwritten⟩
  · exact .stopped hstopped (Or.inr ⟨hhandled, hall, Or.inl hnone⟩)
  rw [← hstack] at hwaiting
  by_cases hmem : socket ∈ c.closed
  · rw [if_pos (Or.inr hmem)] at hwritten
    exact .ended hgone hwaiting (Or.inl (hleft hmem)) (Or.inr ⟨hhandled, hall, Or.inl hwritten⟩)
  · simp only [hmem, or_false] at hwritten
    refine .ended hgone hwaiting (Or.inr ⟨reply, hown, hwritten⟩) (Or.inr ⟨hhandled, hall, ?_⟩)
    split at hwritten
    · exact Or.inl hwritten
    · exact Or.inr ⟨reply, hwritten, hown⟩

/-- The handler of the message ends: it answers, or is inside a print. -/
theorem Phase.handled {c : Connections V} {fragment : Bytes} {io : RequestIo V}
    (hbuffer : c.buffers socket = some [])
    (hwaiting : c.waiting = (after stream state sha256 start events).waiting)
    (hclosed : c.closed = (after stream state sha256 start events).closed)
    (hrequests : requestsOf socket c = [message]) (hreplies : repliesTo socket c = [])
    (hnew : socket ∉ (after stream state sha256 start events).waiting)
    (hleft : socket ∈ (after stream state sha256 start events).closed → Left socket events)
    (hall : (arrived socket (events ++ [.readyRead socket fragment io])).flatten =
      encodeFrame stream message)
    (hstep : after stream state sha256 start (events ++ [.readyRead socket fragment io]) =
      c.finish stream state socket
        (handleRequest sha256 (after stream state sha256 start events).service message io)) :
    Phase stream state sha256 start socket message (events ++ [.readyRead socket fragment io]) := by
  have hanswers : Answers (after stream state sha256 start events).service
      (handleRequest sha256 (after stream state sha256 start events).service message io) :=
    .handle_request sha256 message
  generalize houtcome :
    handleRequest sha256 (after stream state sha256 start events).service message io = outcome
    at hanswers hstep
  cases hreply : outcome.2 with
  | some reply =>
      have hfinish : c.finish stream state socket outcome =
          { c with service := outcome.1 }.finishRequest stream state socket reply := by
        simp only [finish, hreply]
      refine Phase.finished (c := { c with service := outcome.1 })
        (.answered events fragment io [] rfl (by rw [houtcome, hreply])) hrequests hreplies
        (show socket ∉ c.waiting from hwaiting ▸ hnew) ?_ hall (hstep.trans hfinish)
      exact fun hmem ↦ (hleft (hclosed ▸ hmem)).snoc _
  | none =>
      have hfinish : c.finish stream state socket outcome = { c with
          service := outcome.1
          waiting := if outcome.1.crashed then c.waiting else socket :: c.waiting } := by
        simp only [finish, hreply]
      rw [hfinish] at hstep
      by_cases hcrashed : outcome.1.crashed = true
      · refine .stopped (Or.inl ?_) (Or.inr ⟨?_, hall, Or.inl ?_⟩)
        · rw [hstep]
          exact hcrashed
        · rw [hstep]
          exact hrequests
        · rw [hstep]
          exact hreplies
      · obtain ⟨printing, hprints⟩ := (answers_none hanswers hreply).resolve_left hcrashed
        rw [if_neg hcrashed] at hstep
        have hstack : (after stream state sha256 start
            (events ++ [.readyRead socket fragment io])).service.prints =
              [] ++ printing :: (after stream state sha256 start events).service.prints := by
          rw [hstep]
          exact hprints
        refine .executing events printing [] c.waiting [] ⟨fragment, io, [], rfl, ?_, ?_, ?_⟩ ?_
          List.not_mem_nil (hwaiting ▸ hnew) hstack rfl ?_ hall ?_ ?_ ?_
        · rw [houtcome, hreply]
        · rw [houtcome, hprints]
        · intro part hpart
          obtain rfl := List.prefix_nil.mp hpart
          exact ⟨[], hstack⟩
        all_goals rw [hstep]
        · rfl
        · exact Or.inl hbuffer
        · exact fun hmem ↦ (hleft (hclosed ▸ hmem)).snoc _
        · exact hrequests
        · exact hreplies

/-- What arrives on the socket is a further part of the message. -/
theorem Phase.read (hstream : stream.RoundTrips) (hframe : encodeFrame stream message ≠ [])
    (h : Phase stream state sha256 start socket message events)
    (hrunning : ¬ (after stream state sha256 start events).Stopped) {fragment : Bytes}
    {io : RequestIo V}
    (hfront : (arrived socket (events ++ [.readyRead socket fragment io])).flatten <+:
      encodeFrame stream message) :
    Phase stream state sha256 start socket message (events ++ [.readyRead socket fragment io]) := by
  have hframed := take_frame_framed hstream
  have hstep : after stream state sha256 start (events ++ [.readyRead socket fragment io]) =
      (after stream state sha256 start events).readClient stream state sha256 socket fragment
        io := by
    rw [after_snoc, step.eq_def, if_neg hrunning]
  have harrived := arrived_snoc_same socket events fragment io
  cases h with
  | reading hbuffer hshort hwaiting hclosed hrequests hreplies =>
      rw [readClient, hbuffer] at hstep
      dsimp only at hstep
      rw [harrived] at hfront
      obtain ⟨future, hfuture⟩ := hfront
      cases future with
      | nil =>
          -- The last part: the handler of the message runs.
          rw [List.append_nil] at hfuture
          have htake := hframed.complete hframe []
          rw [List.append_nil] at htake
          rw [hfuture, htake] at hstep
          refine .handled ?_ ?_ ?_ ?_ ?_ hwaiting hclosed (harrived.trans hfuture) hstep
          · exact Store.set_same ..
          · rfl
          · rfl
          · simpa [requestsOf, List.filterMap_append] using hrequests
          · exact hreplies
      | cons byte future =>
          have htake := hframed.incomplete hframe _ _ hfuture (List.cons_ne_nil byte future)
          rw [htake] at hstep
          have hless : ((arrived socket events).flatten ++ fragment).length <
              (encodeFrame stream message).length := by
            rw [← hfuture]
            simp
          refine .reading ?_ (by rw [harrived]; exact hless) ?_ ?_ ?_ ?_
          · rw [hstep, harrived]
            exact Store.set_same ..
          all_goals rw [hstep]
          · exact hwaiting
          · exact fun hmem ↦ (hclosed hmem).snoc _
          · exact hrequests
          · exact hreplies
  | executing first printing inner outer prints hexecuting hwaiting hinner houter hprints hlength
      hbuffer hall hclosed hrequests hreplies =>
      -- All of the message has arrived, so that nothing more does.
      obtain rfl : fragment = [] := by
        have hlong := hfront.length_le
        rw [harrived, hall, List.length_append] at hlong
        exact List.eq_nil_of_length_eq_zero (by omega)
      refine Phase.same (.executing first printing inner outer prints hexecuting hwaiting hinner
        houter hprints hlength hbuffer hall hclosed hrequests hreplies) hfront ?_ ?_
      · rw [hstep, readClient]
        rcases hbuffer with hsome | hnone
        · rw [hsome]
          have hset : (after stream state sha256 start events).buffers.set socket [] =
              (after stream state sha256 start events).buffers := by
            funext other
            by_cases hother : other = socket
            · rw [hother, Store.set_same, hsome]
            · rw [Store.set_other _ _ hother]
          simp only [List.append_nil, hframed.empty, insert, hset]
        · rw [hnone]
      · rw [harrived, List.append_nil]
  | ended hbuffer hwaiting hend hserved =>
      have hsame : after stream state sha256 start (events ++ [.readyRead socket fragment io]) =
          after stream state sha256 start events := by rw [hstep, readClient, hbuffer]
      exact .ended (hsame ▸ hbuffer) (hsame ▸ hwaiting)
        (hend.imp (fun hleft ↦ hleft.snoc _) fun hreply ↦ hreply.snoc (by rw [hsame]))
        (hserved.snoc hfront (by rw [hsame]) (by rw [hsame]))
  | stopped hstop _ => exact absurd hstop hrunning

omit [QVariantApi V] [QVariantMessage V] in
/-- A connection that is dropped keeps its place in the stack. -/
theorem dropped {c c' : Connections V} {closed deleted : List Nat}
    (h : c' = { c.remove socket with closed, deleted }) :
    c'.buffers socket = none ∧ c'.waiting = c.waiting ∧ c'.service = c.service ∧
      requestsOf socket c' = requestsOf socket c ∧ repliesTo socket c' = repliesTo socket c := by
  subst h
  exact ⟨Store.remove_same .., rfl, rfl, rfl, rfl⟩

/-- The client of the socket goes away. -/
theorem Phase.left (h : Phase stream state sha256 start socket message events)
    (hfront : (arrived socket (events ++ [event])).flatten <+: encodeFrame stream message)
    (hrunning : ¬ (after stream state sha256 start events).Stopped)
    (hleft : Left socket (events ++ [event]))
    (harrived : arrived socket (events ++ [event]) = arrived socket events)
    {closed deleted : List Nat} (hstep : after stream state sha256 start (events ++ [event]) =
      { (after stream state sha256 start events).remove socket with closed, deleted }) :
    Phase stream state sha256 start socket message (events ++ [event]) := by
  obtain ⟨hbuffer, hwaiting, hservice, hrequests, hreplies⟩ := dropped hstep
  have hserved := h.served.snoc hfront hrequests hreplies
  cases h with
  | reading _ _ hnew _ _ _ => exact .ended hbuffer (hwaiting ▸ hnew) (Or.inl hleft) hserved
  | executing first printing inner outer prints hexecuting hstack hinner houter hprints hlength _
      hall _ hhandled hnone =>
      rw [← hservice] at hprints
      exact .executing first printing inner outer prints (hexecuting.snoc ⟨prints, hprints⟩)
        (hwaiting.trans hstack) hinner houter hprints hlength (Or.inr hbuffer)
        ((congrArg List.flatten harrived).trans hall) (fun _ ↦ hleft) (hrequests.trans hhandled)
        (hreplies.trans hnone)
  | ended _ hnew _ _ => exact .ended hbuffer (hwaiting ▸ hnew) (Or.inl hleft) hserved
  | stopped hstop _ => exact absurd hstop hrunning

/-- The print of the message returns. -/
theorem Phase.returned (h : Phase stream state sha256 start socket message events)
    (hrunning : ¬ (after stream state sha256 start events).Stopped) {io : RequestIo V} {ok : Bool}
    (habout : (after stream state sha256 start events).waiting.head? = some socket) :
    Phase stream state sha256 start socket message (events ++ [.printReturns io ok]) := by
  have hmem : socket ∈ (after stream state sha256 start events).waiting :=
    List.mem_of_mem_head? habout
  cases h with
  | reading _ _ hnew _ _ _ => exact absurd hmem hnew
  | ended _ hnew _ _ => exact absurd hmem hnew
  | stopped hstop _ => exact absurd hstop hrunning
  | executing first printing inner outer prints hexecuting hwaiting hinner houter hprints hlength
      hbuffer hall hclosed hrequests hreplies =>
      -- The socket waits first, so that its print is the innermost.
      obtain rfl : inner = [] := by
        cases inner with
        | nil => rfl
        | cons head inner =>
            rw [hwaiting, List.cons_append, List.head?_cons] at habout
            exact absurd (Option.some.inj habout ▸ List.mem_cons_self) hinner
      obtain rfl : prints = [] := List.eq_nil_of_length_eq_zero hlength.symm
      rw [List.nil_append] at hwaiting hprints
      obtain ⟨⟨reply, hreply⟩, -, -⟩ := Answers.finish_print
        { (after stream state sha256 start events).service with
          prints := (after stream state sha256 start first).service.prints } io printing ok
      have hstep : after stream state sha256 start (events ++ [.printReturns io ok]) =
          { after stream state sha256 start events with
            waiting := outer
            service := (finishPrint { (after stream state sha256 start events).service with
              prints := (after stream state sha256 start first).service.prints } io printing ok).1
            }.finishRequest stream state socket reply := by
        rw [after_snoc, step.eq_def, if_neg hrunning]
        simp only [hwaiting, hprints, finish, hreply]
      have hwhole : (arrived socket (events ++ [.printReturns io ok])).flatten =
          encodeFrame stream message := by
        rw [arrived_snoc_other (fun _ _ heq ↦ absurd heq (by simp)), hall]
      refine Phase.finished (c := { after stream state sha256 start events with
          waiting := outer
          service := (finishPrint { (after stream state sha256 start events).service with
            prints := (after stream state sha256 start first).service.prints } io printing ok).1 })
        (.printed first printing events io ok [] rfl hexecuting hprints hreply) hrequests hreplies
        houter ?_ hwhole hstep
      exact fun hmem ↦ (hclosed hmem).snoc _

/-- Every event keeps the phases, as long as what arrives on the socket is part of the message. -/
theorem Phase.snoc (hstream : stream.RoundTrips) (hframe : encodeFrame stream message ≠ [])
    (h : Phase stream state sha256 start socket message events) (haccept : event ≠ .accept socket)
    (hfront : (arrived socket (events ++ [event])).flatten <+: encodeFrame stream message) :
    Phase stream state sha256 start socket message (events ++ [event]) := by
  by_cases hstopped : (after stream state sha256 start events).Stopped
  · have hsame := after_stopped hstopped event
    exact .stopped (hsame ▸ hstopped) (h.served.snoc hfront (by rw [hsame]) (by rw [hsame]))
  by_cases habout : (after stream state sha256 start events).About socket event
  swap
  · exact h.aside hfront hstopped habout
  have hstep : after stream state sha256 start (events ++ [event]) =
      step stream state sha256 (after stream state sha256 start events) event := after_snoc
  rw [step.eq_def, if_neg hstopped] at hstep
  cases event with
  | accept other =>
      obtain rfl : other = socket := habout
      exact absurd rfl haccept
  | readyRead other fragment io =>
      obtain rfl : other = socket := habout
      exact h.read hstream hframe hstopped hfront
  | disconnected other =>
      obtain rfl : other = socket := habout
      exact h.left hfront hstopped (Or.inl (List.mem_append_right _ (List.mem_singleton_self _)))
        (arrived_snoc_other fun _ _ heq ↦ absurd heq (by simp)) hstep
  | destroyed other =>
      obtain rfl : other = socket := habout
      exact h.left hfront hstopped (Or.inr (List.mem_append_right _ (List.mem_singleton_self _)))
        (arrived_snoc_other fun _ _ heq ↦ absurd heq (by simp)) hstep
  | timeout nowMs => exact absurd habout id
  | printReturns io ok => exact h.returned hstopped habout

/-! ## Whole runs -/

omit [QVariantApi V] [QVariantMessage V] in
theorem arrived_append (first second : List (Event V)) :
    arrived socket (first ++ second) = arrived socket first ++ arrived socket second :=
  List.filterMap_append

/-- Every run keeps the phases. -/
theorem Phase.run (hstream : stream.RoundTrips) (hframe : encodeFrame stream message ≠ [])
    (hstart : Phase stream state sha256 start socket message []) (haccept : .accept socket ∉ events)
    (hfront : (arrived socket events).flatten <+: encodeFrame stream message) :
    Phase stream state sha256 start socket message events := by
  induction events using List.reverseRecOn with
  | nil => exact hstart
  | append_singleton events event ih =>
      have hbefore : (arrived socket events).flatten <+: encodeFrame stream message := by
        rw [arrived_append, List.flatten_append] at hfront
        exact (List.prefix_append _ _).trans hfront
      refine (ih (fun hmem ↦ haccept (List.mem_append_left _ hmem)) hbefore).snoc hstream hframe ?_
        hfront
      rintro rfl
      exact haccept (List.mem_append_right _ (List.mem_singleton_self _))

omit [QVariantApi V] in
/-- Whether an event names a socket. -/
def Names (socket : Nat) : Event V → Prop
  | .accept other => other = socket
  | .readyRead other _ _ => other = socket
  | .disconnected other => other = socket
  | .destroyed other => other = socket
  | .timeout _ => False
  | .printReturns _ _ => False

/-- Nothing is kept of a socket that no event has named. -/
theorem unnamed (stream : Codec (QVariantMap V)) (state : Response V → QVariantMap V)
    (sha256 : Sha256) (files : Store String) {before : List (Event V)}
    (hnew : ∀ event ∈ before, ¬ Names socket event) :
    requestsOf socket (run stream state sha256 files before) = [] ∧
      repliesTo socket (run stream state sha256 files before) = [] ∧
      ((run stream state sha256 files before).Stopped ∨
        socket ∉ (run stream state sha256 files before).waiting ∧
          socket ∉ (run stream state sha256 files before).closed) := by
  induction before using List.reverseRecOn with
  | nil => exact ⟨rfl, rfl, Or.inr ⟨List.not_mem_nil, List.not_mem_nil⟩⟩
  | append_singleton before event ih =>
      obtain ⟨hrequests, hreplies, hold⟩ :=
        ih fun other hother ↦ hnew other (List.mem_append_left _ hother)
      have hstep : run stream state sha256 files (before ++ [event]) =
          step stream state sha256 (run stream state sha256 files before) event :=
        Runs.run_append ..
      rw [hstep]
      by_cases hstopped : (run stream state sha256 files before).Stopped
      · rw [step.eq_def, if_pos hstopped]
        exact ⟨hrequests, hreplies, Or.inl hstopped⟩
      obtain ⟨hwaiting, hclosed⟩ := hold.resolve_left hstopped
      have habout : ¬ (run stream state sha256 files before).About socket event := by
        have hunnamed := hnew event (List.mem_append_right _ (List.mem_singleton_self _))
        cases event with
        | printReturns io ok => exact fun hhead ↦ hwaiting (List.mem_of_mem_head? hhead)
        | _ => exact hunnamed
      have haside := step_aside stream state sha256 hstopped habout
      refine ⟨haside.requests.trans hrequests, haside.replies.trans hreplies,
        haside.stack.imp_right fun hstack ↦ ⟨?_, fun hmem ↦ hclosed (haside.closed hmem)⟩⟩
      rcases hstack with ⟨hsame, -⟩ | ⟨other, _, hne, hpushed, -⟩ | ⟨other, _, _, hpopped, -⟩
      · rw [hsame]
        exact hwaiting
      · rw [hpushed]
        exact fun hmem ↦ (List.mem_cons.mp hmem).elim hne.symm hwaiting
      · rw [hpopped] at hwaiting
        exact fun hmem ↦ hwaiting (List.mem_cons_of_mem _ hmem)

/-- The connections after an accepted socket and further events. -/
theorem run_accept (stream : Codec (QVariantMap V)) (state : Response V → QVariantMap V)
    (sha256 : Sha256) (files : Store String) (before events : List (Event V)) :
    run stream state sha256 files (before ++ .accept socket :: events) =
      after stream state sha256 (run stream state sha256 files (before ++ [.accept socket]))
        events := by
  rw [List.append_cons]
  exact Runs.run_append ..

/-- The phases of a connection on which one message arrives. -/
theorem accepted_phase (hstream : stream.RoundTrips) (state : Response V → QVariantMap V)
    (sha256 : Sha256) (files : Store String) {before : List (Event V)}
    (hframe : encodeFrame stream message ≠ [])
    (hnew : ∀ event ∈ before, ¬ Names socket event) (haccept : .accept socket ∉ events)
    (hfront : (arrived socket events).flatten <+: encodeFrame stream message) :
    Phase stream state sha256 (run stream state sha256 files (before ++ [.accept socket])) socket
      message events := by
  obtain ⟨hrequests, hreplies, hold⟩ := unnamed stream state sha256 files hnew
  refine Phase.run hstream hframe ?_ haccept hfront
  have hstep : run stream state sha256 files (before ++ [.accept socket]) =
      step stream state sha256 (run stream state sha256 files before) (.accept socket) :=
    Runs.run_append ..
  rw [hstep, step.eq_def]
  by_cases hstopped : (run stream state sha256 files before).Stopped
  · rw [if_pos hstopped]
    exact .stopped hstopped (Or.inl ⟨hrequests, hreplies⟩)
  · rw [if_neg hstopped]
    obtain ⟨hwaiting, hclosed⟩ := hold.resolve_left hstopped
    exact .reading (Store.set_same ..) (List.length_pos_iff.mpr hframe) hwaiting
      (fun hmem ↦ absurd hmem hclosed) hrequests hreplies

/-- When all of the message has arrived and the client stays, it has been answered, unless the
handler is inside its print or the service has stopped. -/
theorem Phase.answered (h : Phase stream state sha256 start socket message events)
    (hall : (arrived socket events).flatten = encodeFrame stream message)
    (hstays : ¬ Left socket events) :
    (after stream state sha256 start events).Stopped ∨
      socket ∈ (after stream state sha256 start events).waiting ∨
      Answered stream state sha256 start socket message events := by
  cases h with
  | reading _ hshort _ _ _ _ =>
      rw [hall] at hshort
      exact absurd hshort (lt_irrefl _)
  | executing _ _ inner outer _ _ hwaiting _ _ _ _ _ _ _ _ _ =>
      refine Or.inr (Or.inl ?_)
      rw [hwaiting]
      exact List.mem_append_right _ List.mem_cons_self
  | ended _ _ hend _ => exact Or.inr (Or.inr (hend.resolve_left hstays))
  | stopped hstop _ => exact Or.inl hstop

/-- A connection on which one message arrives, in whatever fragments and among whatever events of
others: the message is handled once at most and gets its own reply, once at most. When all of it
has arrived and the client stays, the reply is written unless it has no frame, the handler is inside
its print or the service has stopped. -/
theorem connection_served (stream : Codec (QVariantMap V)) (hstream : stream.RoundTrips)
    (state : Response V → QVariantMap V) (sha256 : Sha256) (files : Store String)
    (before events : List (Event V)) (socket : Nat) (message : QVariantMap V)
    (hframe : encodeFrame stream message ≠ []) (hnew : ∀ event ∈ before, ¬ Names socket event)
    (haccept : .accept socket ∉ events)
    (hfront : (arrived socket events).flatten <+: encodeFrame stream message) :
    Served stream state sha256 (run stream state sha256 files (before ++ [.accept socket])) socket
        message events ∧
      ((arrived socket events).flatten = encodeFrame stream message → ¬ Left socket events →
        (run stream state sha256 files (before ++ .accept socket :: events)).Stopped ∨
          socket ∈ (run stream state sha256 files (before ++ .accept socket :: events)).waiting ∨
          Answered stream state sha256 (run stream state sha256 files (before ++ [.accept socket]))
            socket message events) := by
  have hphase := accepted_phase hstream state sha256 files hframe hnew haccept hfront
  refine ⟨hphase.served, ?_⟩
  rw [run_accept stream state sha256 files before events]
  exact hphase.answered

/-- A `ping` and the reply to it. -/
def pingMessage : List (String × Variant) :=
  [("arguments", .map []), ("command", .string "ping")]

def pingReply : List (String × Variant) :=
  [("error", .string ""), ("ok", .bool true), ("result", .string "PrintFlowPrinterService"),
    ("state", .map [("available", .bool true), ("connected", .bool false)])]

/-- The stream of both. -/
noncomputable def pingStream : Codec (QVariantMap MapVariant) :=
  messageStream [pingMessage, pingReply]

theorem ping_stream_round_trip : pingStream.RoundTrips := by
  refine message_stream_round_trip ?_
  decide +kernel

theorem ping_frame : encodeFrame pingStream (messageOf pingMessage) = frameOf pingMessage := by
  refine encode_frame_message List.mem_cons_self ?_ (by decide +kernel)
  intro other hother heq
  rcases List.mem_pair.mp hother with rfl | rfl
  · rfl
  · exact absurd (congrFun heq "ok") nofun

theorem ping_reply_frame : encodeFrame pingStream (messageOf pingReply) = frameOf pingReply := by
  refine encode_frame_message (List.mem_cons_of_mem _ List.mem_cons_self) ?_ (by decide +kernel)
  intro other hother heq
  rcases List.mem_pair.mp hother with rfl | rfl
  · exact absurd (congrFun heq "ok") nofun
  · rfl

/-- The `ping` in two parts, between which another client connects. -/
def pingEvents : List (Event MapVariant) :=
  [.readyRead 7 ((frameOf pingMessage).take 12) silentIo, .accept 8,
    .readyRead 7 ((frameOf pingMessage).drop 12) silentIo]

theorem ping_arrived :
    (arrived 7 pingEvents).flatten = encodeFrame pingStream (messageOf pingMessage) := by
  rw [ping_frame]
  decide +kernel

/-- It is served and answered. -/
theorem connection_served_ping :
    let start := run pingStream idleState zeroDigest (fun _ ↦ none) [.accept 7]
    Served pingStream idleState zeroDigest start 7 (messageOf pingMessage) pingEvents ∧
      Answered pingStream idleState zeroDigest start 7 (messageOf pingMessage) pingEvents := by
  obtain ⟨hserved, hanswered⟩ := connection_served pingStream ping_stream_round_trip idleState
    zeroDigest (fun _ ↦ none) [] pingEvents 7 (messageOf pingMessage)
    (by rw [ping_frame]; decide +kernel) (fun event hevent ↦ absurd hevent List.not_mem_nil)
    (by simp [pingEvents]) (ping_arrived ▸ List.prefix_rfl)
  refine ⟨hserved, ((hanswered ping_arrived ?_).resolve_left ?_).resolve_left ?_⟩
  · simp [Left, pingEvents]
  · decide +kernel
  · decide +kernel

/-! ## Both ends -/

section Exchange

open PrinterServiceClient

/-- The bytes written to a socket: the frames of its replies, each with the state of the service. -/
def written (stream : Codec (QVariantMap V)) (state : Response V → QVariantMap V) (socket : Nat)
    (c : Connections V) : Bytes :=
  (repliesTo socket c).flatMap (replyFrame stream state)

/-- However the request and the reply are cut into fragments and whatever others send meanwhile,
`exchange` gives its caller the reply of the handler of its own request, all of which it has read,
or says that there was none in time. -/
theorem exchange_own_reply (stream : Codec (QVariantMap V)) (hstream : stream.RoundTrips)
    (state : Response V → QVariantMap V) (sha256 : Sha256) (files : Store String)
    (before events : List (Event V)) (socket : Nat) (command : String)
    (arguments : QVariantMap V) (payload : Bytes) (turns : List ReadTurn)
    (hframe : encodeFrame stream (requestMessage command arguments payload) ≠ [])
    (hnew : ∀ event ∈ before, ¬ Names socket event) (haccept : .accept socket ∉ events)
    (hsent : (arrived socket events).flatten <+:
      encodeFrame stream (requestMessage command arguments payload))
    (hread : readBytes turns <+:
      written stream state socket
        (run stream state sha256 files (before ++ .accept socket :: events))) :
    readReply stream [] turns = .error noReply ∨
      ∃ reply, readReply stream [] turns = .ok (responseMessage (state reply) reply) ∧
        readBytes turns = encodeFrame stream (responseMessage (state reply) reply) ∧
        Own stream state sha256 (run stream state sha256 files (before ++ [.accept socket])) socket
          (requestMessage command arguments payload) events reply := by
  have hserved := (accepted_phase hstream state sha256 files hframe hnew haccept hsent).served
  rw [run_accept, written] at hread
  have hnothing : readBytes turns = [] → readReply stream [] turns = .error noReply :=
    read_nothing hstream
  rcases hserved with ⟨-, hnone⟩ | ⟨-, -, hnone | ⟨reply, hreply, hown⟩⟩
  · rw [hnone, List.flatMap_nil] at hread
    exact Or.inl (hnothing (List.prefix_nil.mp hread))
  · rw [hnone, List.flatMap_nil] at hread
    exact Or.inl (hnothing (List.prefix_nil.mp hread))
  · rw [hreply, List.flatMap_singleton, replyFrame] at hread
    by_cases hlarge : encodeFrame stream (responseMessage (state reply) reply) = []
    · rw [hlarge] at hread
      exact Or.inl (hnothing (List.prefix_nil.mp hread))
    · have hresult := read_reply hstream hlarge [] hread (Ne.symm hlarge)
      rw [List.nil_append] at hresult
      split at hresult
      · next hall => exact Or.inr ⟨reply, hresult, hall, hown⟩
      · exact Or.inl hresult

theorem ping_request : requestMessage "ping" (fun _ ↦ none) [] = messageOf pingMessage :=
  QVariantMap.of_entries_perm (List.Perm.swap ..) (by decide)

/-- What the service answers a `ping`. -/
def pong : Response MapVariant :=
  { ok := true, result := .text "PrintFlowPrinterService", error := "", available := true }

theorem pong_message : responseMessage (idleState pong) pong = messageOf pingReply := by
  have hperm : (Variant.toMapEntries pingReply).Perm
      (("ok", .bool true) :: resultEntry pong.result ++
        [("error", .string pong.error), ("state", .map (idleState pong))]) :=
    (List.perm_middle : ([_, _] ++ _ :: _).Perm _).symm
  exact (QVariantMap.of_entries_perm hperm (by decide)).symm

theorem pong_frame : replyFrame pingStream idleState pong = frameOf pingReply := by
  rw [replyFrame, pong_message, ping_reply_frame]

theorem handle_ping (s : State) :
    (handleRequest zeroDigest s (messageOf pingMessage) silentIo).2 = some pong := by
  have hcommand : trimmed ((messageOf pingMessage).string "command" "") = "ping" := by
    decide +kernel
  simp only [handleRequest, hcommand, if_true, response, pong]
  split <;> rfl

/-- The reply of its handler is that one. -/
theorem own_pong {start : Connections MapVariant} {reply : Response MapVariant}
    (h : Own pingStream idleState zeroDigest start 7 (messageOf pingMessage) pingEvents reply) :
    reply = pong := by
  have hio : ∀ fragment io, .readyRead 7 fragment io ∈ pingEvents → io = silentIo := by
    intro fragment io hmem
    simp only [pingEvents, List.mem_cons, Event.readyRead.injEq, reduceCtorEq, true_and, false_or,
      List.not_mem_nil, or_false] at hmem
    exact hmem.elim And.right And.right
  cases h with
  | answered first fragment io rest hsplit hreply =>
      rw [hio fragment io (hsplit ▸ List.mem_append_right _ List.mem_cons_self), handle_ping]
        at hreply
      exact (Option.some.inj hreply).symm
  | printed first printing mid io ok rest hsplit =>
      have hmem : .printReturns io ok ∈ pingEvents :=
        hsplit ▸ List.mem_append_right _ List.mem_cons_self
      exact absurd hmem (by simp [pingEvents])

/-- The request arrives in two parts, and its reply is read in two parts. -/
theorem exchange_own_reply_ping :
    let turns : List ReadTurn :=
      [{ bytes := (frameOf pingReply).take 30 }, { bytes := (frameOf pingReply).drop 30 }]
    ∃ reply, readReply pingStream [] turns = .ok (responseMessage (idleState reply) reply) ∧
      readBytes turns = encodeFrame pingStream (responseMessage (idleState reply) reply) ∧
      Own pingStream idleState zeroDigest
        (run pingStream idleState zeroDigest (fun _ ↦ none) [.accept 7]) 7
        (requestMessage "ping" (fun _ ↦ none) []) pingEvents reply := by
  intro turns
  have hread : (readReply pingStream [] turns).toOption.isSome = true := by decide +kernel
  have hframe : encodeFrame pingStream (messageOf pingMessage) ≠ [] := by
    rw [ping_frame]
    decide +kernel
  have hphase : Phase pingStream idleState zeroDigest
      (run pingStream idleState zeroDigest (fun _ ↦ none) ([] ++ [.accept 7])) 7
      (messageOf pingMessage) pingEvents := by
    refine accepted_phase ping_stream_round_trip idleState zeroDigest (fun _ ↦ none) hframe
      (fun event hevent ↦ absurd hevent List.not_mem_nil) (by simp [pingEvents]) ?_
    exact ping_arrived ▸ List.prefix_rfl
  obtain ⟨reply, hown, hreplies⟩ :=
    ((hphase.answered ping_arrived (by simp [Left, pingEvents])).resolve_left
      (by decide +kernel)).resolve_left (by decide +kernel)
  rw [own_pong hown, pong_frame, if_neg (by decide +kernel), ← run_accept] at hreplies
  refine (exchange_own_reply pingStream ping_stream_round_trip idleState zeroDigest (fun _ ↦ none)
    [] pingEvents 7 "ping" (fun _ ↦ none) [] turns ?_ ?_ ?_ ?_ ?_).resolve_left ?_
  · rw [ping_request]
    exact hframe
  · exact fun event hevent ↦ absurd hevent List.not_mem_nil
  · simp [pingEvents]
  · rw [ping_request]
    exact ping_arrived ▸ List.prefix_rfl
  · rw [written, hreplies, List.flatMap_singleton, pong_frame]
    decide +kernel
  · intro hnone
    rw [hnone] at hread
    exact absurd hread nofun

end Exchange

end PrintFlow.PrinterServiceServer.Connections
