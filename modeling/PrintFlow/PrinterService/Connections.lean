import PrintFlow.PrinterService.Accounting
import PrintFlow.PrinterService.Frames
import PrintFlow.PrinterService.Messages
import PrintFlow.PrinterService.Uploads

/-!
# Connections of the printer service

The service keeps a buffer for each connection. It takes one message off a buffer, handles it,
writes the reply and closes the connection; a message that prints is answered when its print
returns, and events of other connections are delivered meanwhile. Sockets are numbered, and the two
tables of buffers are one, since no socket is in both.

`dangling_after_leaving`: the service uses a deleted socket only behind a client that went away, or
sent a second message, while its own print was executing. `connections_intact`: whatever arrives,
the uploads of the service stay intact.
-/

namespace PrintFlow.PrinterServiceServer

open DataStream FileStore Framing PrinterServiceClient PrinterServiceProtocol RasterSpool

variable {V : Type}

/-- The service with its connections: the buffers, the sockets whose requests are inside a print,
innermost first, those that are disconnected, and those that are deleted. A service that used a
deleted socket does nothing any more. `requests` and `replies` record what was handled and whose
frames were written, and are read by no definition. -/
structure Connections (V : Type) where
  service : State
  buffers : Store Nat := fun _ ↦ none
  waiting : List Nat := []
  closed : List Nat := []
  deleted : List Nat := []
  dangling : Bool := false
  requests : List (Nat × QVariantMap V) := []
  replies : List (Nat × Response V) := []

/-- What the event loop delivers. -/
inductive Event (V : Type) where
  | accept (socket : Nat)
  | readyRead (socket : Nat) (fragment : Bytes) (io : RequestIo V)
  | disconnected (socket : Nat)
  | destroyed (socket : Nat)
  | timeout (nowMs : Int)
  | printReturns (io : RequestIo V) (ok : Bool)

namespace Connections

/-- `m_buffers[socket] = buffer`. -/
def insert (c : Connections V) (socket : Nat) (buffer : Bytes) : Connections V :=
  { c with buffers := c.buffers.set socket buffer }

/-- `m_buffers.remove`. -/
def remove (c : Connections V) (socket : Nat) : Connections V :=
  { c with buffers := c.buffers.remove socket }

section Replies

variable [QVariantMessage V] (stream : Codec (QVariantMap V)) (state : Response V → QVariantMap V)

/-- The frame of a reply, with the state of the service. It is empty when the reply is too large. -/
def replyFrame (reply : Response V) : Bytes :=
  encodeFrame stream (responseMessage (state reply) reply)

/-- `finishRequest` and `finishTcpRequest`. An empty frame is not written, and nothing arrives on a
socket that is disconnected. -/
def finishRequest (c : Connections V) (socket : Nat) (reply : Response V) : Connections V :=
  if socket ∈ c.deleted then { c with dangling := true }
  else
    { c.remove socket with
      closed := socket :: c.closed
      replies :=
        if replyFrame stream state reply = [] ∨ socket ∈ c.closed then c.replies
        else c.replies ++ [(socket, reply)] }

/-- The end of a handler for a socket: its request is finished, or it is inside a print. -/
def finish (c : Connections V) (socket : Nat) (outcome : State × Option (Response V)) :
    Connections V :=
  match outcome.2 with
  | some reply => { c with service := outcome.1 }.finishRequest stream state socket reply
  | none =>
    { c with
      service := outcome.1
      waiting := if outcome.1.crashed then c.waiting else socket :: c.waiting }

end Replies

/-- The service has crashed or used a deleted socket. -/
def Stopped (c : Connections V) : Prop := c.service.crashed = true ∨ c.dangling = true

instance (c : Connections V) : Decidable c.Stopped := inferInstanceAs (Decidable (_ ∨ _))

variable [QVariantApi V] [QVariantMessage V]

/-- `readClient` and `readTcpClient`. -/
def readClient (stream : Codec (QVariantMap V)) (state : Response V → QVariantMap V)
    (sha256 : Sha256) (c : Connections V) (socket : Nat) (fragment : Bytes) (io : RequestIo V) :
    Connections V :=
  match c.buffers socket with
  | none => c
  | some buffer =>
    match takeFrame stream (buffer ++ fragment) with
    | (rest, .incomplete) => c.insert socket rest
    | (rest, .invalid message) =>
      (c.insert socket rest).finish stream state socket
        (response c.service "" io false .none message)
    | (rest, .complete request) =>
      { c.insert socket rest with requests := c.requests ++ [(socket, request)] }.finish stream
        state socket (handleRequest sha256 c.service request io)

/-- One event. -/
def step (stream : Codec (QVariantMap V)) (state : Response V → QVariantMap V) (sha256 : Sha256)
    (c : Connections V) (event : Event V) : Connections V :=
  if c.Stopped then c
  else
    match event with
    | .accept socket => c.insert socket []
    | .readyRead socket fragment io => c.readClient stream state sha256 socket fragment io
    | .disconnected socket => { c.remove socket with closed := socket :: c.closed }
    | .destroyed socket => { c.remove socket with deleted := socket :: c.deleted }
    | .timeout nowMs => { c with service := removeExpiredUploads c.service nowMs }
    | .printReturns io ok =>
      match c.service.prints, c.waiting with
      | printing :: prints, socket :: waiting =>
        { c with waiting }.finish stream state socket
          (finishPrint { c.service with prints } io printing ok)
      | _, _ => c

/-- The states a service that starts with these files reaches. -/
def run (stream : Codec (QVariantMap V)) (state : Response V → QVariantMap V) (sha256 : Sha256)
    (files : Store String) (events : List (Event V)) : Connections V :=
  Runs.run (step stream state sha256) { service := { files } } events

end Connections

/-! ## Outcomes of a handler -/

/-- A handler answers and starts no print, or it gives no answer: then it is inside a new print, or
the service has crashed. -/
def Answers (s : State) (outcome : State × Option (Response V)) : Prop :=
  ((∃ reply, outcome.2 = some reply) ∧ outcome.1.prints = s.prints ∧
      outcome.1.crashed = s.crashed) ∨
    (outcome.2 = none ∧ (outcome.1.crashed = true ∨
      (outcome.1.crashed = s.crashed ∧ ∃ printing, outcome.1.prints = printing :: s.prints)))

namespace Answers

variable {s t : State} {command : String} {io : RequestIo V}

theorem response (hprints : t.prints = s.prints) (hcrashed : t.crashed = s.crashed) {ok : Bool}
    {result : Result V} {error : String} :
    Answers s (PrinterServiceServer.response t command io ok result error) := by
  refine Or.inl ⟨⟨_, rfl⟩, ?_, ?_⟩
  · rw [response_prints, hprints]
  · rw [← hcrashed]
    unfold PrinterServiceServer.response
    split <;> rfl

theorem ite {p : Prop} [Decidable p] {yes no : State × Option (Response V)} (hyes : Answers s yes)
    (hno : Answers s no) : Answers s (if p then yes else no) := by
  split
  · exact hyes
  · exact hno

variable [QVariantApi V] {arguments : QVariantMap V}

theorem reconnect : Answers s (PrinterServiceServer.reconnect s command io arguments) := by
  simp only [PrinterServiceServer.reconnect]
  refine .ite (.response rfl rfl) (.ite (.response rfl rfl) ?_)
  split
  · exact .response rfl rfl
  · exact .ite (.response rfl rfl) (.response rfl rfl)

theorem reconnect_printer : Answers s (reconnectPrinter s command io arguments) :=
  .ite (.ite (.response rfl rfl) (reconnect (s := s.call command .getPrinterStatus))) reconnect

theorem begin_raster_upload : Answers s (beginRasterUpload s command io arguments) := by
  unfold beginRasterUpload
  split
  · exact .response rfl rfl
  · exact .ite (.response rfl rfl) (.ite (.response rfl rfl) (.response rfl rfl))

theorem append_raster_chunk (chunk : Bytes) :
    Answers s (appendRasterChunk s command io arguments chunk) := by
  simp only [appendRasterChunk]
  split
  · exact .response rfl rfl
  · exact .ite (.response rfl rfl) (.ite (.response rfl rfl) (.response rfl rfl))

theorem cancel_raster_upload : Answers s (cancelRasterUpload s command io arguments) := by
  simp only [cancelRasterUpload]
  split
  · exact .response rfl rfl
  · exact .response rfl rfl

theorem commit_raster_upload (sha256 : Sha256) :
    Answers s (commitRasterUpload sha256 s command io arguments) := by
  simp only [commitRasterUpload]
  split
  · exact .response rfl rfl
  · refine .ite (.response rfl rfl) ?_
    split
    · exact .response rfl rfl
    · split
      · exact .response rfl rfl
      · exact Or.inr ⟨rfl, Or.inr ⟨rfl, _, rfl⟩⟩

theorem submit_job (payload : Bytes) : Answers s (submitJob s command io arguments payload) := by
  unfold submitJob
  split
  · exact Or.inr ⟨rfl, Or.inr ⟨rfl, _, rfl⟩⟩
  · exact .response rfl rfl
  · exact Or.inr ⟨rfl, Or.inl rfl⟩

/-- Every request has such an outcome. -/
theorem handle_request (sha256 : Sha256) (request : QVariantMap V) :
    Answers s (handleRequest sha256 s request io) := by
  unfold handleRequest
  refine .ite (.response rfl rfl) (.ite (.response rfl rfl) (.ite (.response rfl rfl) ?_))
  refine .ite (.response rfl rfl) (.ite (.response rfl rfl) (.ite (.response rfl rfl) ?_))
  refine .ite reconnect_printer (.ite (.response rfl rfl) (.ite (.response rfl rfl) ?_))
  refine .ite (.response rfl rfl) (.ite (.response rfl rfl) (.ite (.response rfl rfl) ?_))
  refine .ite (.response rfl rfl) (.ite (.response rfl rfl) (.ite begin_raster_upload ?_))
  refine .ite (append_raster_chunk _) (.ite cancel_raster_upload ?_)
  refine .ite (commit_raster_upload sha256) (.ite (submit_job _) ?_)
  exact .ite (.response rfl rfl) (.response rfl rfl)

omit [QVariantApi V] in
/-- A handler that answers has its answer. -/
theorem of_some {outcome : State × Option (Response V)} (h : Answers s outcome)
    (hsome : outcome.2 ≠ none) :
    (∃ reply, outcome.2 = some reply) ∧ outcome.1.prints = s.prints ∧
      outcome.1.crashed = s.crashed := by
  rcases h with hanswer | ⟨hnone, -⟩
  · exact hanswer
  · exact absurd hnone hsome

omit [QVariantApi V] in
/-- A print that returns is answered. -/
theorem finish_print (s : State) (io : RequestIo V) (printing : Printing) (ok : Bool) :
    (∃ reply, (finishPrint s io printing ok).2 = some reply) ∧
      (finishPrint s io printing ok).1.prints = s.prints ∧
      (finishPrint s io printing ok).1.crashed = s.crashed := by
  cases printing with
  | job => exact (Answers.response rfl rfl).of_some nofun
  | upload path => exact (Answers.response (t := s.removeFile path) rfl rfl).of_some nofun

end Answers

/-! ## The service within its connections -/

namespace Connections

section Refinement

variable {stream : Codec (QVariantMap V)} {state : Response V → QVariantMap V} {sha256 : Sha256}
  {c : Connections V} {socket : Nat}

@[simp] theorem insert_service (buffer : Bytes) : (c.insert socket buffer).service = c.service :=
  rfl

@[simp] theorem remove_service : (c.remove socket).service = c.service := rfl

@[simp] theorem finish_request_service [QVariantMessage V] (reply : Response V) :
    (c.finishRequest stream state socket reply).service = c.service := by
  unfold finishRequest
  split <;> rfl

@[simp] theorem finish_service [QVariantMessage V] (outcome : State × Option (Response V)) :
    (c.finish stream state socket outcome).service = outcome.1 := by
  unfold finish
  split
  · rw [finish_request_service]
  · rfl

variable [QVariantApi V]

/-- What an event is for the service behind the connections. -/
def actionsOf (stream : Codec (QVariantMap V)) (c : Connections V) (event : Event V) :
    List (Action V) :=
  if c.Stopped then []
  else
    match event with
    | .readyRead socket fragment io =>
      match c.buffers socket with
      | none => []
      | some buffer =>
        match (takeFrame stream (buffer ++ fragment)).2 with
        | .incomplete => []
        | .invalid _ => [.invalidFrame io]
        | .complete request => [.request request io]
    | .timeout nowMs => [.expire nowMs]
    | .printReturns io ok => if c.waiting = [] then [] else [.printReturns io ok]
    | _ => []

variable [QVariantMessage V]

/-- The actions of a run. -/
def actionsAlong (stream : Codec (QVariantMap V)) (state : Response V → QVariantMap V)
    (sha256 : Sha256) : Connections V → List (Event V) → List (Action V)
  | _, [] => []
  | c, event :: events =>
    actionsOf stream c event ++
      actionsAlong stream state sha256 (step stream state sha256 c event) events

/-- An event is one action of the service, or none. -/
theorem step_service (event : Event V) :
    (step stream state sha256 c event).service =
      Runs.run (PrinterServiceServer.step sha256) c.service (actionsOf stream c event) := by
  unfold step actionsOf
  by_cases hstopped : c.Stopped
  · simp [hstopped]
  have hrunning : c.service.crashed = false := by
    simp only [Stopped, not_or, Bool.not_eq_true] at hstopped
    exact hstopped.1
  rw [if_neg hstopped, if_neg hstopped]
  cases event with
  | accept socket => rfl
  | readyRead socket fragment io =>
      simp only [readClient]
      cases c.buffers socket with
      | none => rfl
      | some buffer =>
          dsimp only
          rcases takeFrame stream (buffer ++ fragment) with ⟨rest, decoded⟩
          cases decoded with
          | incomplete => rfl
          | invalid message =>
              simp [PrinterServiceServer.step, hrunning, response]
          | complete request => simp [PrinterServiceServer.step, hrunning]
  | disconnected socket => rfl
  | destroyed socket => rfl
  | timeout nowMs => simp [PrinterServiceServer.step, hrunning]
  | printReturns io ok =>
      cases hwaiting : c.waiting with
      | nil => cases c.service.prints <;> simp
      | cons socket waiting =>
          cases hprints : c.service.prints with
          | nil => simp [PrinterServiceServer.step, hrunning, hprints]
          | cons printing prints => simp [PrinterServiceServer.step, hrunning, hprints]

/-- A run is one of the service. -/
theorem run_service (events : List (Event V)) :
    (Runs.run (step stream state sha256) c events).service =
      Runs.run (PrinterServiceServer.step sha256) c.service
        (actionsAlong stream state sha256 c events) := by
  induction events generalizing c with
  | nil => rfl
  | cons event events ih =>
      rw [Runs.run_cons, ih, step_service, actionsAlong, Runs.run_append]

/-- What every event ensures of its actions holds of the actions of the run. -/
theorem actions_along {guard : State → Action V → Prop} {events : List (Event V)}
    (h : Runs.Along (step stream state sha256)
      (fun c event ↦ ∀ action ∈ actionsOf stream c event, guard c.service action) c events) :
    Runs.Along (PrinterServiceServer.step sha256) guard c.service
      (actionsAlong stream state sha256 c events) := by
  induction events generalizing c with
  | nil => trivial
  | cons event events ih =>
      have hrest := ih h.2
      rw [step_service] at hrest
      rw [actionsAlong]
      -- An event is one action or none.
      rcases hactions : actionsOf stream c event with _ | ⟨action, _ | ⟨other, more⟩⟩
      · rw [hactions] at hrest
        exact hrest
      · rw [hactions] at hrest
        exact ⟨h.1 action (by simp [hactions]), hrest⟩
      · have hlength : (actionsOf stream c event).length ≤ 1 := by
          unfold actionsOf
          repeat' split
          all_goals simp
        rw [hactions] at hlength
        simp at hlength

end Refinement

/-! ## One connection -/

/-- What arrives on a socket. -/
def arrived (socket : Nat) (events : List (Event V)) : List Bytes :=
  events.filterMap fun event ↦
    match event with
    | .readyRead other fragment _ => if other = socket then some fragment else none
    | _ => none

/-- The requests of a socket that were handled. -/
def requestsOf (socket : Nat) (c : Connections V) : List (QVariantMap V) :=
  c.requests.filterMap fun entry ↦ if entry.1 = socket then some entry.2 else none

/-- The replies written to a socket. -/
def repliesTo (socket : Nat) (c : Connections V) : List (Response V) :=
  c.replies.filterMap fun entry ↦ if entry.1 = socket then some entry.2 else none

/-- The client of a socket went away. -/
def Left (socket : Nat) (events : List (Event V)) : Prop :=
  .disconnected socket ∈ events ∨ .destroyed socket ∈ events

/-- An event of a socket: its own, or the return of its print. -/
def About (c : Connections V) (socket : Nat) : Event V → Prop
  | .accept other => other = socket
  | .readyRead other _ _ => other = socket
  | .disconnected other => other = socket
  | .destroyed other => other = socket
  | .timeout _ => False
  | .printReturns _ _ => c.waiting.head? = some socket

/-- What an event of others changes for a socket: at most who waits before it. -/
structure Aside (socket : Nat) (c c' : Connections V) : Prop where
  buffer : c'.buffers socket = c.buffers socket
  requests : requestsOf socket c' = requestsOf socket c
  replies : repliesTo socket c' = repliesTo socket c
  closed : socket ∈ c'.closed → socket ∈ c.closed
  stack : c'.Stopped ∨
    (c'.waiting = c.waiting ∧ c'.service.prints = c.service.prints) ∨
    (∃ other printing, other ≠ socket ∧ c'.waiting = other :: c.waiting ∧
      c'.service.prints = printing :: c.service.prints) ∨
    (∃ other printing, other ≠ socket ∧ c.waiting = other :: c'.waiting ∧
      c.service.prints = printing :: c'.service.prints)

section Steps

variable [QVariantMessage V] {stream : Codec (QVariantMap V)} {state : Response V → QVariantMap V}
  {sha256 : Sha256} {c : Connections V} {socket other : Nat}
  {outcome : State × Option (Response V)} {reply : Response V}

/-- Finishing a request of another socket. -/
theorem finish_request_other (reply : Response V) (hne : other ≠ socket) :
    (c.finishRequest stream state other reply).buffers socket = c.buffers socket ∧
      requestsOf socket (c.finishRequest stream state other reply) = requestsOf socket c ∧
      repliesTo socket (c.finishRequest stream state other reply) = repliesTo socket c ∧
      (socket ∈ (c.finishRequest stream state other reply).closed → socket ∈ c.closed) ∧
      (c.finishRequest stream state other reply).waiting = c.waiting := by
  unfold finishRequest
  split
  · exact ⟨rfl, rfl, rfl, id, rfl⟩
  · refine ⟨Store.remove_other _ hne.symm, rfl, ?_, ?_, rfl⟩
    · simp only [repliesTo]
      split
      · rfl
      · simp [List.filterMap_append, hne]
    · intro hclosed
      exact (List.mem_cons.mp hclosed).resolve_left hne.symm

variable (stream state) in
/-- Finishing a request of a socket: it is deleted, or its buffer goes and the reply is written
unless it has no frame or the socket is disconnected. -/
theorem finish_request_same (socket : Nat) (reply : Response V) :
    ((c.finishRequest stream state socket reply).Stopped ∧
        requestsOf socket (c.finishRequest stream state socket reply) = requestsOf socket c ∧
        repliesTo socket (c.finishRequest stream state socket reply) = repliesTo socket c) ∨
      ((c.finishRequest stream state socket reply).buffers socket = none ∧
        (c.finishRequest stream state socket reply).waiting = c.waiting ∧
        requestsOf socket (c.finishRequest stream state socket reply) = requestsOf socket c ∧
        repliesTo socket (c.finishRequest stream state socket reply) =
          if replyFrame stream state reply = [] ∨ socket ∈ c.closed then repliesTo socket c
          else repliesTo socket c ++ [reply]) := by
  unfold finishRequest
  split
  · exact Or.inl ⟨Or.inr rfl, rfl, rfl⟩
  · refine Or.inr ⟨Store.remove_same .., rfl, rfl, ?_⟩
    simp only [repliesTo]
    split
    · rfl
    · simp [List.filterMap_append]

/-- The end of a handler of another socket. -/
theorem finish_other (outcome : State × Option (Response V)) (hne : other ≠ socket)
    (hstack : outcome.2 = none → outcome.1.crashed = true ∨
      ∃ printing, outcome.1.prints = printing :: c.service.prints) :
    (c.finish stream state other outcome).buffers socket = c.buffers socket ∧
      requestsOf socket (c.finish stream state other outcome) = requestsOf socket c ∧
      repliesTo socket (c.finish stream state other outcome) = repliesTo socket c ∧
      (socket ∈ (c.finish stream state other outcome).closed → socket ∈ c.closed) ∧
      ((∃ reply, outcome.2 = some reply) ∧
          (c.finish stream state other outcome).waiting = c.waiting ∨
        (c.finish stream state other outcome).Stopped ∨
        (c.finish stream state other outcome).waiting = other :: c.waiting ∧
          ∃ printing, outcome.1.prints = printing :: c.service.prints) := by
  cases hreply : outcome.2 with
  | some reply =>
      have hfinish : c.finish stream state other outcome =
          { c with service := outcome.1 }.finishRequest stream state other reply := by
        simp only [finish, hreply]
      rw [hfinish]
      obtain ⟨hbuffer, hrequests, hreplies, hclosed, hwaiting⟩ :=
        finish_request_other (c := { c with service := outcome.1 }) reply hne
      exact ⟨hbuffer, hrequests, hreplies, hclosed, Or.inl ⟨⟨reply, rfl⟩, hwaiting⟩⟩
  | none =>
      have hfinish : c.finish stream state other outcome = { c with
          service := outcome.1
          waiting := if outcome.1.crashed then c.waiting else other :: c.waiting } := by
        simp only [finish, hreply]
      rw [hfinish]
      refine ⟨rfl, rfl, rfl, id, Or.inr ?_⟩
      rcases hstack hreply with hcrashed | hpushed
      · exact Or.inl (Or.inl hcrashed)
      · by_cases hcrashed : outcome.1.crashed = true
        · exact Or.inl (Or.inl hcrashed)
        · exact Or.inr ⟨by rw [if_neg hcrashed], hpushed⟩

omit [QVariantMessage V] in
/-- A handler without an answer has crashed or is inside a print. -/
theorem answers_none {s : State} (h : Answers s outcome) (hnone : outcome.2 = none) :
    outcome.1.crashed = true ∨ ∃ printing, outcome.1.prints = printing :: s.prints := by
  rcases h with ⟨⟨reply, hsome⟩, -⟩ | ⟨-, hcrashed | ⟨-, hpushed⟩⟩
  · rw [hsome] at hnone
    exact absurd hnone nofun
  · exact Or.inl hcrashed
  · exact Or.inr hpushed

/-- The end of a handler of another socket is aside. -/
theorem finish_aside {c' : Connections V} (hne : other ≠ socket) (h : Answers c.service outcome)
    (hservice : c'.service = c.service) (hbuffer : c'.buffers socket = c.buffers socket)
    (hwaiting : c'.waiting = c.waiting) (hclosed : c'.closed = c.closed)
    (hrequests : requestsOf socket c' = requestsOf socket c) (hreplies : c'.replies = c.replies) :
    Aside socket c (c'.finish stream state other outcome) := by
  rw [← hservice] at h
  obtain ⟨hbuffer', hrequests', hreplies', hclosed', hstack⟩ :=
    finish_other (c := c') outcome hne (answers_none h)
  refine ⟨hbuffer'.trans hbuffer, hrequests'.trans hrequests, ?_, ?_, ?_⟩
  · rw [hreplies', repliesTo, repliesTo, hreplies]
  · rw [← hclosed]
    exact hclosed'
  · rcases hstack with ⟨⟨reply, hsome⟩, hsame⟩ | hstopped | ⟨hpushed, printing, hprints⟩
    · refine Or.inr (Or.inl ⟨hsame.trans hwaiting, ?_⟩)
      rw [finish_service, (h.of_some (by simp [hsome])).2.1, hservice]
    · exact Or.inl hstopped
    · refine Or.inr (Or.inr (Or.inl ⟨other, printing, hne, ?_, ?_⟩))
      · rw [hpushed, hwaiting]
      · rw [finish_service, hprints, hservice]

variable [QVariantApi V]

variable (stream state sha256) in
/-- An event that is not of the socket is aside. -/
theorem step_aside {event : Event V} (hrunning : ¬ c.Stopped) (habout : ¬ c.About socket event) :
    Aside socket c (step stream state sha256 c event) := by
  rw [step.eq_def, if_neg hrunning]
  cases event with
  | accept other =>
      exact ⟨Store.set_other _ _ (Ne.symm habout), rfl, rfl, id, Or.inr (Or.inl ⟨rfl, rfl⟩)⟩
  | readyRead other fragment io =>
      have hne : other ≠ socket := habout
      show Aside socket c (c.readClient stream state sha256 other fragment io)
      unfold readClient
      split
      · exact ⟨rfl, rfl, rfl, id, Or.inr (Or.inl ⟨rfl, rfl⟩)⟩
      · have hbuffer : ∀ rest, (c.insert other rest).buffers socket = c.buffers socket :=
          fun rest ↦ Store.set_other _ _ hne.symm
        split
        · exact ⟨hbuffer _, rfl, rfl, id, Or.inr (Or.inl ⟨rfl, rfl⟩)⟩
        · exact finish_aside hne (.response rfl rfl) rfl (hbuffer _) rfl rfl rfl rfl
        · refine finish_aside hne (.handle_request sha256 _) rfl (hbuffer _) rfl rfl ?_ rfl
          simp [requestsOf, List.filterMap_append, hne]
  | disconnected other =>
      have hne : other ≠ socket := habout
      exact ⟨Store.remove_other _ hne.symm, rfl, rfl,
        fun hclosed ↦ (List.mem_cons.mp hclosed).resolve_left hne.symm, Or.inr (Or.inl ⟨rfl, rfl⟩)⟩
  | destroyed other =>
      have hne : other ≠ socket := habout
      exact ⟨Store.remove_other _ hne.symm, rfl, rfl, id, Or.inr (Or.inl ⟨rfl, rfl⟩)⟩
  | timeout nowMs => exact ⟨rfl, rfl, rfl, id, Or.inr (Or.inl ⟨rfl, rfl⟩)⟩
  | printReturns io ok =>
      show Aside socket c (match c.service.prints, c.waiting with
        | printing :: prints, other :: waiting =>
          { c with waiting }.finish stream state other
            (finishPrint { c.service with prints } io printing ok)
        | _, _ => c)
      split
      · next printing prints other waiting hprints hwaiting =>
          have hne : other ≠ socket := by
            rintro rfl
            exact habout (by simp [About, hwaiting])
          obtain ⟨⟨reply, hsome⟩, hprints', -⟩ :=
            Answers.finish_print { c.service with prints } io printing ok
          obtain ⟨hbuffer, hrequests, hreplies, hclosed, hstack⟩ :=
            finish_other (c := { c with waiting })
              (finishPrint { c.service with prints } io printing ok) hne
              fun hnone ↦ absurd (hsome.symm.trans hnone) nofun
          refine ⟨hbuffer, hrequests, hreplies, hclosed, ?_⟩
          rcases hstack with ⟨-, hsame⟩ | hstopped | ⟨hpushed, printing', hpush⟩
          · refine Or.inr (Or.inr (Or.inr ⟨other, printing, hne, ?_, ?_⟩))
            · rw [hwaiting, hsame]
            · rw [finish_service, hprints', hprints]
          · exact Or.inl hstopped
          · have hlength := congrArg List.length (hprints'.symm.trans hpush)
            simp only [hprints, List.length_cons] at hlength
            omega
      · exact ⟨rfl, rfl, rfl, id, Or.inr (Or.inl ⟨rfl, rfl⟩)⟩

end Steps

/-! ## Deleted sockets -/

section Deleted

variable [QVariantApi V] [QVariantMessage V]

/-- What Qt promises: a socket that is accepted is a new one, and a socket is deleted after it was
disconnected. -/
def Delivered (c : Connections V) : Event V → Prop
  | .accept socket => socket ∉ c.closed
  | .destroyed socket => socket ∈ c.closed
  | _ => True

instance (c : Connections V) : DecidablePred (Delivered c)
  | .accept socket => inferInstanceAs (Decidable (socket ∉ c.closed))
  | .destroyed socket => inferInstanceAs (Decidable (socket ∈ c.closed))
  | .readyRead .. | .disconnected _ | .timeout _ | .printReturns .. => isTrue trivial

/-- A client waits for its reply: while its handler is inside a print, it neither goes away nor
sends another frame. -/
def Waits (stream : Codec (QVariantMap V)) (c : Connections V) : Event V → Prop
  | .disconnected socket => socket ∉ c.waiting
  | .readyRead socket fragment _ =>
    socket ∈ c.waiting → ∀ buffer, c.buffers socket = some buffer →
      (takeFrame stream (buffer ++ fragment)).2 = .incomplete
  | _ => True

/-- No handler is left with a socket that may be deleted. -/
structure Alive (c : Connections V) : Prop where
  dangling : c.dangling = false
  waiting : ∀ socket ∈ c.waiting, socket ∉ c.closed
  once : c.waiting.Nodup
  deleted : ∀ socket ∈ c.deleted, socket ∈ c.closed
  buffers : ∀ socket buffer, c.buffers socket = some buffer → socket ∉ c.closed

variable {stream : Codec (QVariantMap V)} {state : Response V → QVariantMap V} {sha256 : Sha256}
  {c : Connections V} {socket : Nat}

omit [QVariantApi V] in
/-- Closing a connection that no other handler has. -/
theorem Alive.finish_request (h : Alive c) (hopen : socket ∉ c.closed) (hnew : socket ∉ c.waiting)
    (reply : Response V) : Alive (c.finishRequest stream state socket reply) := by
  rw [finishRequest, if_neg fun hmem ↦ hopen (h.deleted socket hmem)]
  refine ⟨h.dangling, ?_, h.once, ?_, ?_⟩
  · intro other hother hclosed
    rcases List.mem_cons.mp hclosed with rfl | hclosed
    · exact hnew hother
    · exact h.waiting other hother hclosed
  · exact fun other hother ↦ List.mem_cons_of_mem _ (h.deleted other hother)
  · intro other buffer hbuffer hclosed
    rcases List.mem_cons.mp hclosed with rfl | hclosed
    · exact absurd (hbuffer.symm.trans (Store.remove_same ..)) nofun
    · by_cases heq : other = socket
      · exact hopen (heq ▸ hclosed)
      · exact h.buffers other buffer ((Store.remove_other _ heq).symm.trans hbuffer) hclosed

omit [QVariantApi V] in
/-- The end of a handler whose connection is open. -/
theorem Alive.finish (h : Alive c) (hopen : socket ∉ c.closed) (hnew : socket ∉ c.waiting)
    (outcome : State × Option (Response V)) : Alive (c.finish stream state socket outcome) := by
  unfold Connections.finish
  split
  · exact Alive.finish_request (c := { c with service := outcome.1 })
      ⟨h.dangling, h.waiting, h.once, h.deleted, h.buffers⟩ hopen hnew _
  · refine ⟨h.dangling, ?_, ?_, h.deleted, h.buffers⟩
    · intro other hother
      dsimp only at hother
      split at hother
      · exact h.waiting other hother
      · rcases List.mem_cons.mp hother with rfl | hother
        · exact hopen
        · exact h.waiting other hother
    · dsimp only
      split
      · exact h.once
      · exact List.nodup_cons.mpr ⟨hnew, h.once⟩

omit [QVariantApi V] [QVariantMessage V] in
theorem Alive.insert (h : Alive c) (hopen : socket ∉ c.closed) (buffer : Bytes) :
    Alive (c.insert socket buffer) := by
  refine ⟨h.dangling, h.waiting, h.once, h.deleted, ?_⟩
  intro other found hfound
  by_cases heq : other = socket
  · rw [heq]
    exact hopen
  · exact h.buffers other found ((Store.set_other _ _ heq).symm.trans hfound)

/-- An event that Qt may deliver, of a client that waits, leaves no handler with a deleted
socket. -/
theorem Alive.step (h : Alive c) {event : Event V} (hdelivered : Delivered c event)
    (hwaits : Waits stream c event) : Alive (step stream state sha256 c event) := by
  rw [Connections.step.eq_def]
  split
  · exact h
  cases event with
  | accept socket => exact h.insert hdelivered []
  | readyRead socket fragment io =>
      show Alive (c.readClient stream state sha256 socket fragment io)
      unfold readClient
      split
      · exact h
      · next buffer hbuffer =>
          have hopen := h.buffers socket buffer hbuffer
          -- A whole frame finds no handler of its socket inside a print.
          have hnew : (takeFrame stream (buffer ++ fragment)).2 ≠ .incomplete →
              socket ∉ c.waiting := fun hframe hmem ↦ hframe (hwaits hmem buffer hbuffer)
          split
          · exact h.insert hopen _
          · next htake =>
              exact (h.insert hopen _).finish hopen (hnew (by simp [htake])) _
          · next rest request htake =>
              have halive : Alive { c.insert socket rest with
                  requests := c.requests ++ [(socket, request)] } :=
                ⟨h.dangling, h.waiting, h.once, h.deleted, (h.insert hopen rest).buffers⟩
              exact halive.finish hopen (hnew (by simp [htake])) _
  | disconnected socket =>
      refine ⟨h.dangling, ?_, h.once, ?_, ?_⟩
      · intro other hother hclosed
        rcases List.mem_cons.mp hclosed with rfl | hclosed
        · exact hwaits hother
        · exact h.waiting other hother hclosed
      · exact fun other hother ↦ List.mem_cons_of_mem _ (h.deleted other hother)
      · intro other buffer hbuffer hclosed
        by_cases heq : other = socket
        · rw [heq] at hbuffer
          exact absurd (hbuffer.symm.trans (Store.remove_same ..)) nofun
        · exact h.buffers other buffer ((Store.remove_other _ heq).symm.trans hbuffer)
            ((List.mem_cons.mp hclosed).resolve_left heq)
  | destroyed socket =>
      refine ⟨h.dangling, h.waiting, h.once, ?_, ?_⟩
      · intro other hother
        rcases List.mem_cons.mp hother with rfl | hother
        · exact hdelivered
        · exact h.deleted other hother
      · intro other buffer hbuffer
        by_cases heq : other = socket
        · rw [heq] at hbuffer
          exact absurd (hbuffer.symm.trans (Store.remove_same ..)) nofun
        · exact h.buffers other buffer ((Store.remove_other _ heq).symm.trans hbuffer)
  | timeout nowMs => exact ⟨h.dangling, h.waiting, h.once, h.deleted, h.buffers⟩
  | printReturns io ok =>
      dsimp only
      split
      · next printing prints socket waiting hprints hwaiting =>
          have honce := h.once
          rw [hwaiting] at honce
          have halive : Alive { c with waiting } :=
            ⟨h.dangling, fun other hother ↦ h.waiting other (by simp [hwaiting, hother]),
              (List.nodup_cons.mp honce).2, h.deleted, h.buffers⟩
          exact halive.finish (h.waiting socket (by simp [hwaiting])) (List.nodup_cons.mp honce).1 _
      · exact h

/-- The service uses a deleted socket only behind a client that went away while its own print was
executing, or sent a second frame then. -/
theorem dangling_after_leaving (stream : Codec (QVariantMap V))
    (state : Response V → QVariantMap V) (sha256 : Sha256) (files : Store String)
    (events : List (Event V))
    (hdelivered : Runs.Along (Connections.step stream state sha256) Delivered
      { service := { files } } events)
    (hdangling : (run stream state sha256 files events).dangling = true) :
    ∃ before event after, events = before ++ event :: after ∧
      ((∃ socket, event = .disconnected socket ∧
          socket ∈ (run stream state sha256 files before).waiting) ∨
        ∃ socket fragment io buffer, event = .readyRead socket fragment io ∧
          socket ∈ (run stream state sha256 files before).waiting ∧
          (run stream state sha256 files before).buffers socket = some buffer ∧
          (takeFrame stream (buffer ++ fragment)).2 ≠ .incomplete) := by
  have hinit : Alive ({ service := { files } } : Connections V) :=
    ⟨rfl, fun _ h ↦ absurd h List.not_mem_nil, List.nodup_nil, fun _ h ↦ absurd h List.not_mem_nil,
      fun _ _ h ↦ absurd h nofun⟩
  by_cases hwaits : Runs.Along (Connections.step stream state sha256) (Waits stream)
      { service := { files } } events
  · have hboth : Runs.Along (Connections.step stream state sha256)
        (fun c event ↦ Delivered c event ∧ Waits stream c event) { service := { files } } events :=
      Runs.along_iff.mpr fun before event after hsplit ↦
        ⟨Runs.along_iff.mp hdelivered before event after hsplit,
          Runs.along_iff.mp hwaits before event after hsplit⟩
    have hstep : ∀ (c : Connections V) (event : Event V), Delivered c event ∧ Waits stream c event →
        Alive c → Alive (Connections.step stream state sha256 c event) :=
      fun c event hguard h ↦ h.step hguard.1 hguard.2
    rw [run, (Runs.invariant hstep hboth hinit).dangling] at hdangling
    exact absurd hdangling Bool.false_ne_true
  · obtain ⟨before, event, after, hsplit, -, hbreak⟩ := Runs.first_break hwaits
    refine ⟨before, event, after, hsplit, ?_⟩
    cases event with
    | disconnected socket => exact Or.inl ⟨socket, rfl, not_not.mp hbreak⟩
    | readyRead socket fragment io =>
        simp only [Waits, Classical.not_imp, not_forall] at hbreak
        obtain ⟨hmem, buffer, hbuffer, hframe⟩ := hbreak
        exact Or.inr ⟨socket, fragment, io, buffer, rfl, hmem, hbuffer, hframe⟩
    | _ => exact absurd trivial hbreak

/-- What a request that asks nothing of the backend finds. -/
def silentIo : RequestIo MapVariant :=
  { printerStatus := fun _ ↦ none, printerInfo := fun _ ↦ none, completion := fun _ ↦ none,
    uploadId := "u" }

/-- A state of the service. -/
def idleState (reply : Response MapVariant) : QVariantMap MapVariant :=
  messageOf [("available", .bool reply.available), ("connected", .bool false)]

/-- A job of one plane-line. -/
def jobMessage : List (String × Variant) :=
  [("arguments", .map
      [("raster", .map
        [("bytesPerLine", .int 1), ("canonicalHeader", .list (List.replicate 12 (.uint 0))),
          ("channels", .list [.int 0]), ("format", .int 1), ("height", .int 1),
          ("width", .int 4)])]),
    ("command", .string "submitJob"), ("payload", .byteArray [0xe4])]

/-- A client sends the job and goes away while it prints. -/
def leavingClient : List (Event MapVariant) :=
  [.accept 7, .readyRead 7 (frameOf jobMessage) silentIo, .disconnected 7, .destroyed 7,
    .printReturns silentIo true]

/-- Its socket is deleted before its print returns. -/
theorem dangling_after_leaving_job :
    let stream := messageStream [jobMessage]
    ∃ before event after, leavingClient = before ++ event :: after ∧
      ((∃ socket, event = .disconnected socket ∧
          socket ∈ (run stream idleState zeroDigest (fun _ ↦ none) before).waiting) ∨
        ∃ socket fragment io buffer, event = .readyRead socket fragment io ∧
          socket ∈ (run stream idleState zeroDigest (fun _ ↦ none) before).waiting ∧
          (run stream idleState zeroDigest (fun _ ↦ none) before).buffers socket = some buffer ∧
          (takeFrame stream (buffer ++ fragment)).2 ≠ .incomplete) := by
  refine dangling_after_leaving (messageStream [jobMessage]) idleState zeroDigest (fun _ ↦ none)
    leavingClient ?_ ?_
  · decide +kernel
  · decide +kernel

end Deleted

/-! ## Uploads -/

section Uploads

variable [QVariantApi V] [QVariantMessage V]

/-- The random source does not repeat an upload id. -/
def FreshId (stream : Codec (QVariantMap V)) (c : Connections V) (event : Event V) : Prop :=
  ∀ action ∈ actionsOf stream c event, Fresh c.service action

/-- Whatever arrives on whatever connections, in whatever fragments: the file of an upload in
progress holds what its clients sent, each spool is submitted once at most, the backend gets no
other, and what prints was declared so and sent. -/
theorem connections_intact (stream : Codec (QVariantMap V)) (state : Response V → QVariantMap V)
    (sha256 : Sha256) (files : Store String) (events : List (Event V))
    (hfresh : Runs.Along (step stream state sha256) (FreshId stream) { service := { files } }
      events) :
    (∀ id upload, (id, upload) ∈ (run stream state sha256 files events).service.uploads →
        Uploading (run stream state sha256 files events).service.ledger id upload) ∧
      spooledCalls (run stream state sha256 files events).service.trace =
        submissions (run stream state sha256 files events).service.log ∧
      (∀ id, (submissions
        (history id (run stream state sha256 files events).service.log)).length ≤ 1) ∧
      ∀ path, .upload path ∈ (run stream state sha256 files events).service.prints →
        ∃ id spool settings, spool.path = path ∧
          Submitted sha256 (run stream state sha256 files events).service.ledger id spool
            settings := by
  have hintact : Intact sha256 (run stream state sha256 files events).service.ledger := by
    rw [run, run_service]
    exact run_intact (actions_along hfresh)
  refine ⟨hintact.uploads, hintact.calls, fun id ↦ (hintact.records id).submitted_once, ?_⟩
  intro path hpath
  exact hintact.printing path (List.mem_filterMap.mpr ⟨_, hpath, rfl⟩)

instance (stream : Codec (QVariantMap V)) (c : Connections V) :
    DecidablePred (FreshId stream c) :=
  fun event ↦ inferInstanceAs (Decidable (∀ action ∈ actionsOf stream c event, _))

/-- Three clients begin, send and commit one upload; each message arrives in two parts, and the
parts of the first two among those of the next. -/
def uploadingClients : List (Event MapVariant) :=
  let parts (socket size : Nat) (entries : List (String × Variant)) : List (Event MapVariant) :=
    [.readyRead socket ((frameOf entries).take size) silentIo,
      .readyRead socket ((frameOf entries).drop size) silentIo]
  let first := parts 7 100 beginMessage
  let second := parts 8 4000 appendMessage
  let third := parts 9 20 commitMessage
  [.accept 7, .accept 8, .accept 9] ++ first.take 1 ++ second.take 1 ++ first.drop 1 ++
    third.take 1 ++ second.drop 1 ++ [.disconnected 7, .destroyed 7] ++ third.drop 1

/-- Their upload is printed. -/
theorem connections_intact_upload :
    let s := (run (messageStream [beginMessage, appendMessage, commitMessage]) idleState zeroDigest
      (fun _ ↦ none) uploadingClients).service
    s.prints.length = 1 ∧ (∀ id upload, (id, upload) ∈ s.uploads → Uploading s.ledger id upload) ∧
      spooledCalls s.trace = submissions s.log ∧
      (∀ id, (submissions (history id s.log)).length ≤ 1) ∧
      ∀ path, .upload path ∈ s.prints → ∃ id spool settings, spool.path = path ∧
        Submitted zeroDigest s.ledger id spool settings := by
  refine ⟨by decide +kernel, connections_intact _ idleState zeroDigest (fun _ ↦ none)
    uploadingClients ?_⟩
  decide +kernel

end Uploads

end Connections

end PrintFlow.PrinterServiceServer
