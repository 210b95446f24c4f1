import PrintFlow.Vendor.Nocai.SdkCalls

/-!
# The discipline of a print session

`session` is the part of a run that drives a print session. Everything else a job does is quiet:
it makes no such call. `Session` lists the ways a session goes, and every run of `printPackedJob` is
one of them.
-/

namespace PrintFlow.NocaiDirectPrintClient

open FileStore FloatFormat Interaction RasterSpool

/-- The calls of a print session, with their results. -/
inductive SessionEvent where
  | startPrint (property : PrintJobProperty) (result : Int32)
  | printALine (line : Bytes) (size : UInt32) (result : Int32)
  | endPrint (result : Int32)
  | abortPrint (result : Int32)
  | closePrint (result : Int32)
  deriving DecidableEq

/-- The session call of an event. -/
def sessionEvent : SdkEvent → Option SessionEvent
  | ⟨.startPrint property, result⟩ => some (.startPrint property result)
  | ⟨.printALine line size, result⟩ => some (.printALine line size result)
  | ⟨.endPrint, result⟩ => some (.endPrint result)
  | ⟨.abortPrint, result⟩ => some (.abortPrint result)
  | ⟨.closePrint, result⟩ => some (.closePrint result)
  | _ => none

/-- The print session of a run. -/
def session (trace : List SdkEvent) : List SessionEvent := trace.filterMap sessionEvent

@[simp] theorem session_append (first second : List SdkEvent) :
    session (first ++ second) = session first ++ session second :=
  List.filterMap_append

/-! ## Quiet programs -/

/-- A program that makes no session call. -/
def Quiet {α : Type} (p : SdkProgram α) : Prop := Meets p fun trace _ ↦ session trace = []

namespace Quiet

variable {α β : Type}

protected theorem pure (value : α) : Quiet (pure value : SdkProgram α) := Meets.pure rfl

/-- A call outside of the session. -/
protected theorem ask {call : SdkCall} (h : ∀ answer, sessionEvent ⟨call, answer⟩ = none) :
    Quiet (ask call) := by
  refine .call ?_
  intro answer
  rw [session, List.filterMap_cons_none (h answer)]
  rfl

protected theorem ite {c : Prop} [Decidable c] {p q : SdkProgram α} (hp : Quiet p) (hq : Quiet q) :
    Quiet (if c then p else q) :=
  Meets.ite (fun _ ↦ hp) fun _ ↦ hq

/-- The session of a sequence that starts with a quiet program is that of the rest. -/
theorem before {p : SdkProgram α} {f : α → SdkProgram β} (post : List SessionEvent → β → Prop)
    (hp : Quiet p) (hf : ∀ value, Meets (f value) fun trace result ↦ post (session trace) result) :
    Meets (p >>= f) fun trace result ↦ post (session trace) result := by
  refine Meets.bind hp ?_
  intro first value hfirst
  refine (hf value).mono ?_
  intro second result hsecond
  rw [session_append, hfirst]
  exact hsecond

end Quiet

/-- What makes no call of the kind of a print session is quiet. -/
theorem Stays.quiet {α : Type} {kinds : List CallKind} {p : SdkProgram α} (h : Stays kinds p)
    (hkinds : CallKind.session ∉ kinds) : Quiet p := by
  refine h.ignored ?_
  intro ⟨call, answer⟩ hkind
  cases call with
  | startPrint | printALine | endPrint | abortPrint | closePrint => exact absurd hkind hkinds
  | _ => rfl

theorem reset_job_origin_quiet (sdk : Sdk) (client : Client) (originActive preserve : Bool) :
    Quiet (resetJobOrigin sdk client originActive preserve) :=
  (reset_job_origin_stays sdk client originActive preserve).quiet (by decide)

theorem wait_for_cancellation_quiet (attempts : Nat) : Quiet (waitForCancellation attempts) :=
  (wait_for_cancellation_stays attempts).quiet (by decide)

theorem connect_job_printer_quiet (sdk : Sdk) (client : Client) (settings : DirectPrintSettings) :
    Quiet (connectJobPrinter sdk client settings) :=
  (connect_job_printer_stays sdk client settings).quiet (by decide)

theorem prepare_job_quiet (sdk : Sdk) (client : Client) (raster : DirectPrintRaster)
    (settings : DirectPrintSettings) (jobSettings : JobSettings) :
    Quiet (prepareJob sdk client raster settings jobSettings) :=
  (prepare_job_stays sdk client raster settings jobSettings).quiet (by decide)

/-! ## The session of a run -/

section Runs

variable (sdk : Sdk) (client : Client) (source : LineSource) (size : UInt32)

/-- Aborting sends one abort and one close. -/
theorem abort_session : Meets (abortActivePrintAndWaitForController sdk) fun trace _ ↦
    ∃ aborted closed, session trace = [.abortPrint aborted, .closePrint closed] := by
  unfold abortActivePrintAndWaitForController
  refine .call_bind ?_
  intro aborted
  refine .ite (fun _ ↦ .call_bind ?_) fun _ ↦ ?_
  · intro closed
    exact .pure ⟨aborted, closed, rfl⟩
  · refine .bind (Quiet.ite (wait_for_cancellation_quiet 10) (.pure false)) ?_
    intro polls acknowledged hpolls
    refine .call_bind ?_
    intro closed
    refine .pure ⟨aborted, closed, ?_⟩
    show session ([⟨.abortPrint, aborted⟩] ++ (polls ++ [⟨.closePrint, closed⟩])) = _
    rw [session_append, session_append, hpolls]
    rfl

/-- What is read is the line asked for. -/
theorem read_plane_line_session (logicalChannel row : Int32) :
    Meets (readPlaneLine source logicalChannel row) fun trace result ↦
      session trace = [] ∧ ∀ data, result = .ok data →
      source.line logicalChannel row = .ok data := by
  unfold readPlaneLine
  refine .ite (fun _ ↦ .pure ⟨rfl, fun _ h ↦ h⟩) fun _ ↦ .call_bind ?_
  intro failed
  cases failed with
  | some message => exact .pure ⟨rfl, fun _ h ↦ absurd h (by simp)⟩
  | none => exact .pure ⟨rfl, fun _ h ↦ h⟩

/-- The bytes of a plane-line of the right size. -/
def Carries (line : PlaneLine) (data : Bytes) : Prop :=
  source.line line.logicalChannel (Int32.ofNat line.row) = .ok data ∧ data.length = size.toNat

/-- How the calls for a list of plane-lines go: all are accepted, or one is refused or not sent and
the session is aborted and closed. -/
inductive Sent : List PlaneLine → List SessionEvent → Bool → Prop where
  | all : Sent [] [] true
  | accepted (line rest data events sent) :
      Carries source size line data → Sent rest events sent →
      Sent (line :: rest) (.printALine data size size.toInt32 :: events) sent
  | refused (line rest data written aborted closed) :
      Carries source size line data → written ≠ size.toInt32 →
      Sent (line :: rest)
        [.printALine data size written, .abortPrint aborted, .closePrint closed] false
  | stopped (line rest aborted closed) :
      Sent (line :: rest) [.abortPrint aborted, .closePrint closed] false

/-- What sending a line leaves for the lines after it, once `before` was exchanged. -/
def LineSent (before : List SdkEvent) (line : PlaneLine) (rest : List PlaneLine)
    (trace : List SdkEvent) (result : Client × Bool) : Prop :=
  if result.2 then ∀ events sent, Sent source size rest events sent →
    Sent source size (line :: rest) (session (before ++ trace) ++ events) sent
  else Sent source size (line :: rest) (session (before ++ trace)) false

/-- An early exit aborts and closes the session. -/
theorem stop_session {before : List SdkEvent} (hbefore : session before = []) (line : PlaneLine)
    (rest : List PlaneLine) :
    Meets (abortActivePrintAndWaitForController sdk >>= fun _ ↦ pure (client, false))
      (LineSent source size before line rest) := by
  refine .bind (abort_session sdk) ?_
  intro trace _ ⟨aborted, closed, htrace⟩
  refine .pure ?_
  show LineSent source size before line rest (trace ++ []) (client, false)
  rw [LineSent, if_neg Bool.false_ne_true, List.append_nil, session_append, hbefore, htrace]
  exact .stopped line rest aborted closed

theorem offer_line_session {before : List SdkEvent} (hbefore : session before = [])
    (line : PlaneLine) (rest : List PlaneLine) :
    Meets (offerLine sdk client source size line) (LineSent source size before line rest) := by
  refine .bind (read_plane_line_session source line.logicalChannel _) ?_
  intro reading read ⟨hquiet, hread⟩
  have hreading : session (before ++ reading) = [] := by
    rw [session_append, hbefore, hquiet]
    rfl
  simp only [LineSent, ← List.append_assoc]
  cases read with
  | error message => exact stop_session sdk _ source size hreading line rest
  | ok data =>
      refine .ite (fun _ ↦ stop_session sdk _ source size hreading line rest) ?_
      intro hsize
      have hcarries : Carries source size line data := ⟨hread data rfl, not_not.mp hsize⟩
      refine .call_bind ?_
      intro written
      refine .ite ?_ ?_
      · intro hrefused
        refine .bind (abort_session sdk) ?_
        intro aborting _ ⟨aborted, closed, haborting⟩
        refine .pure ?_
        rw [if_neg Bool.false_ne_true, List.append_nil, session_append, hreading]
        show Sent source size (line :: rest) (.printALine data size written :: session aborting) _
        rw [haborting]
        exact .refused line rest data written aborted closed hcarries hrefused
      · intro hwritten
        refine .pure ?_
        rw [if_pos rfl, session_append, hreading]
        intro events sent hsent
        show Sent source size (line :: rest) (.printALine data size written :: events) sent
        rw [not_not.mp hwritten]
        exact .accepted line rest data events sent hcarries hsent

theorem send_line_session (planes : Nat) (line : PlaneLine) (rest : List PlaneLine) :
    Meets (sendLine sdk client source size planes line) (LineSent source size [] line rest) := by
  refine .call_bind ?_
  intro canceled
  refine .ite (fun _ ↦ ?_) fun _ ↦ .ite (fun _ ↦ .call_bind ?_) fun _ ↦ ?_
  · exact stop_session sdk _ source size (show session [⟨.cancelRequested, canceled⟩] = [] from rfl)
      line rest
  · intro pumped
    exact offer_line_session sdk client source size
      (show session [⟨.cancelRequested, canceled⟩, ⟨.processEvents, pumped⟩] = [] from rfl) line rest
  · exact offer_line_session sdk client source size
      (show session [⟨.cancelRequested, canceled⟩] = [] from rfl) line rest

/-- Sending the lines of a list. -/
theorem send_lines_session (planes : Nat) (lines : List PlaneLine) :
    Meets (sendLines sdk source size planes lines client) fun trace result ↦
      Sent source size lines (session trace) result.2 := by
  induction lines generalizing client with
  | nil => exact .pure .all
  | cons line rest ih =>
      refine .bind (send_line_session sdk client source size planes line rest) ?_
      intro before ⟨client, accepted⟩ hbefore
      cases accepted with
      | true =>
          refine (ih client).mono ?_
          intro after result hafter
          rw [session_append]
          rw [LineSent, if_pos rfl] at hbefore
          exact hbefore _ _ hafter
      | false =>
          refine .pure ?_
          rw [List.append_nil]
          rw [LineSent, if_neg Bool.false_ne_true] at hbefore
          exact hbefore

/-- The ways the session of a job goes, and what the job returns then. -/
inductive Session (source : LineSource) (lines : List PlaneLine) :
    List SessionEvent → Bool → Prop where
  | none : Session source lines [] false
  | startFailed (property started closed) :
      started ≠ sySucceeded →
      Session source lines [.startPrint property started, .closePrint closed] false
  | stopped (property events) :
      Sent source property.bytesPerLine lines events false →
      Session source lines (.startPrint property sySucceeded :: events) false
  | endFailed (property events ended aborted closed) :
      Sent source property.bytesPerLine lines events true → ended ≠ sySucceeded →
      Session source lines (.startPrint property sySucceeded :: (events ++
        [.endPrint ended, .abortPrint aborted, .closePrint closed])) false
  | closeFailed (property events closed) :
      Sent source property.bytesPerLine lines events true → closed ≠ sySucceeded →
      Session source lines (.startPrint property sySucceeded :: (events ++
        [.endPrint sySucceeded, .closePrint closed])) false
  | closed (property events result) :
      Sent source property.bytesPerLine lines events true →
      Session source lines (.startPrint property sySucceeded :: (events ++
        [.endPrint sySucceeded, .closePrint sySucceeded])) result

/-- The session of `printSession`. -/
theorem print_session_session (property : PrintJobProperty) (lines : List PlaneLine) (planes : Nat)
    (originActive : Bool) :
    Meets (printSession sdk client source property lines planes originActive) fun trace result ↦
      Session source lines (session trace) result.2.2 := by
  refine .call_bind ?_
  intro started
  rcases call_succeeded_cases client started "StartPrint" with
    ⟨sender, hcall, rfl⟩ | ⟨failed, hcall, hstart⟩
  · rw [hcall]
    refine .bind (send_lines_session sdk sender source property.bytesPerLine planes lines) ?_
    intro sending ⟨sender, sent⟩ hsent
    cases sent with
    | false =>
        refine .pure ?_
        rw [List.append_nil]
        exact .stopped property (session sending) hsent
    | true =>
        refine .call_bind ?_
        intro ended
        rcases call_succeeded_cases sender ended "EndPrint" with
          ⟨closer, hcall, rfl⟩ | ⟨failed, hcall, hend⟩
        · rw [hcall]
          refine .call_bind ?_
          intro closed
          rcases call_succeeded_cases closer closed "ClosePrint" with
            ⟨finisher, hcall, rfl⟩ | ⟨failed, hcall, hclose⟩
          · rw [hcall]
            refine .bind (reset_job_origin_quiet sdk finisher originActive false) ?_
            intro resetting ⟨finisher, reset⟩ hresetting
            refine .pure ?_
            show Session source lines (.startPrint property sySucceeded ::
              session (sending ++ ⟨.endPrint, sySucceeded⟩ :: ⟨.closePrint, sySucceeded⟩ ::
                (resetting ++ []))) reset
            rw [List.append_nil, session_append]
            show Session source lines (.startPrint property sySucceeded ::
              (session sending ++ .endPrint sySucceeded :: .closePrint sySucceeded ::
                session resetting)) reset
            rw [hresetting]
            exact .closed property _ reset hsent
          · rw [hcall]
            refine .pure ?_
            show Session source lines (.startPrint property sySucceeded ::
              session (sending ++ [⟨.endPrint, sySucceeded⟩, ⟨.closePrint, closed⟩])) false
            rw [session_append]
            exact .closeFailed property _ closed hsent hclose
        · rw [hcall]
          refine .bind (abort_session sdk) ?_
          intro aborting _ ⟨aborted, closed, haborting⟩
          refine .pure ?_
          show Session source lines (.startPrint property sySucceeded ::
            session (sending ++ ⟨.endPrint, ended⟩ :: (aborting ++ []))) false
          rw [List.append_nil, session_append]
          show Session source lines (.startPrint property sySucceeded ::
            (session sending ++ .endPrint ended :: session aborting)) false
          rw [haborting]
          exact .endFailed property _ ended aborted closed hsent hend
  · rw [hcall]
    refine .call_bind ?_
    intro closed
    exact .ite (fun _ ↦ .pure (.startFailed property started closed hstart))
      fun _ ↦ .pure (.startFailed property started closed hstart)

end Runs

/-- Preparing a job is quiet, and what follows it is the session. -/
theorem run_job_session (sdk : Sdk) (raster : DirectPrintRaster) (settings : DirectPrintSettings)
    (spool : Option (Reader × Store String)) (jobSettings : JobSettings)
    (property : PrintJobProperty) (packedLines : List (List Bytes)) (client : Client) :
    Meets (printPackedJob.runJob sdk raster settings spool jobSettings property packedLines client)
      fun trace result ↦ Session { packedLines, spool }
        (planeLines raster.height raster.channelOrder) (session trace) result.2.2 := by
  refine Quiet.before (fun events (result : Client × Bool × Bool) ↦ Session { packedLines, spool }
    (planeLines raster.height raster.channelOrder) events result.2.2)
    (prepare_job_quiet sdk client raster settings jobSettings) ?_
  intro ⟨client, originActive, ready⟩
  refine .ite (fun _ ↦ .pure .none) fun _ ↦ ?_
  exact print_session_session sdk client { packedLines, spool } property _ _ originActive

/-- The session of a job: what comes before and after it is quiet. -/
theorem print_packed_job_session (sdk : Sdk) (client : Client) (raster : DirectPrintRaster)
    (settings : DirectPrintSettings) (spool : Option (Reader × Store String)) :
    Meets (printPackedJob sdk client raster settings spool) fun trace result ↦
      Session { packedLines := raster.packedLines.getD [], spool }
        (planeLines raster.height raster.channelOrder) (session trace) (result.2 == some true) := by
  let post : List SessionEvent → Client × Option Bool → Prop := fun events result ↦
    Session { packedLines := raster.packedLines.getD [], spool }
      (planeLines raster.height raster.channelOrder) events (result.2 == some true)
  refine Quiet.before post (.ask fun _ ↦ rfl) ?_
  intro loaded
  cases loaded with
  | some message => exact .pure .none
  | none =>
      refine .ite (fun _ ↦ .pure .none) fun _ ↦ ?_
      cases jobBytesPerLine raster (raster.packedLines.getD []) with
      | none => exact .pure .none
      | some bytesPerLine =>
          simp only
          cases jobProperty sdk raster settings bytesPerLine with
          | none => exact .pure .none
          | some property =>
              refine Quiet.before post (connect_job_printer_quiet sdk client settings) ?_
              intro ⟨client, connected⟩
              refine .ite (fun _ ↦ .pure .none) fun _ ↦ Quiet.before post (.ask fun _ ↦ rfl) ?_
              intro entered
              cases entered with
              | some message => exact .pure .none
              | none =>
                  refine .bind (run_job_session sdk raster settings spool _ property _ client) ?_
                  intro running ⟨client, originActive, ok⟩ hrunning
                  refine .bind (reset_job_origin_quiet sdk client originActive true) ?_
                  intro resetting _ hresetting
                  refine .pure ?_
                  rw [List.append_nil, session_append, hresetting, List.append_nil]
                  cases ok with
                  | true => exact hrunning
                  | false => exact hrunning

/-! ## The discipline -/

/-- The functions of a print session. -/
inductive SessionCall where
  | startPrint
  | printALine
  | endPrint
  | abortPrint
  | closePrint
  deriving DecidableEq

/-- The function an event calls. -/
def SessionEvent.call : SessionEvent → SessionCall
  | .startPrint _ _ => .startPrint
  | .printALine _ _ _ => .printALine
  | .endPrint _ => .endPrint
  | .abortPrint _ => .abortPrint
  | .closePrint _ => .closePrint

/-- The order of the calls of a session. -/
def InOrder (calls : List SessionCall) : Prop :=
  calls = [] ∨ calls = [.startPrint, .closePrint] ∨
    ∃ count, ∃ ending ∈ ([[.endPrint, .closePrint], [.abortPrint, .closePrint],
        [.endPrint, .abortPrint, .closePrint]] : List (List SessionCall)),
      calls = .startPrint :: (List.replicate count .printALine ++ ending)

/-- An accepted call of a job: the plane-line at place `index` of the order, with all of its
bytes. -/
def CarriesLine (raster : DirectPrintRaster) (source : LineSource) (size : UInt32) (index : Nat)
    (event : SessionEvent) : Prop :=
  ∃ logicalChannel data,
    raster.channelOrder[index % raster.channelOrder.length]? = some logicalChannel ∧
    source.line logicalChannel (Int32.ofNat (index / raster.channelOrder.length)) = .ok data ∧
    data.length = size.toNat ∧ event = .printALine data size size.toInt32

/-- What a job promises of its session. -/
structure Disciplined (raster : DirectPrintRaster) (source : LineSource)
    (events : List SessionEvent) (result : Option Bool) : Prop where
  order : InOrder (events.map SessionEvent.call)
  failedStart : ∀ property started after, events = .startPrint property started :: after →
    started ≠ sySucceeded → after.map SessionEvent.call = [.closePrint]
  failedLine : ∀ before data size written after,
    events = before ++ .printALine data size written :: after → written ≠ size.toInt32 →
    after.map SessionEvent.call = [.abortPrint, .closePrint]
  complete : result = some true → ∃ property lines,
    events = .startPrint property sySucceeded ::
      (lines ++ [.endPrint sySucceeded, .closePrint sySucceeded]) ∧
    (lines.length : ℤ) = max 0 raster.height.toInt * raster.channelOrder.length ∧
    ∀ index event, lines[index]? = some event →
      CarriesLine raster source property.bytesPerLine index event

variable {source : LineSource} {size : UInt32} {lines : List PlaneLine}
  {events : List SessionEvent} {sent : Bool}

/-- The calls for a list of lines are lines, up to an abort. -/
theorem Sent.calls (h : Sent source size lines events sent) :
    ∃ count, events.map SessionEvent.call = List.replicate count .printALine ++
      if sent then [] else [.abortPrint, .closePrint] := by
  induction h with
  | all => exact ⟨0, rfl⟩
  | accepted line rest data events sent _ _ ih =>
      obtain ⟨count, hcount⟩ := ih
      refine ⟨count + 1, ?_⟩
      rw [List.map_cons, hcount]
      rfl
  | refused => exact ⟨1, rfl⟩
  | stopped => exact ⟨0, rfl⟩

/-- An event that is not among the later ones is the first one. -/
theorem first_of_split {first event : SessionEvent} {rest before after : List SessionEvent}
    (hsplit : first :: rest = before ++ event :: after) (hrest : event ∉ rest) :
    first = event ∧ rest = after := by
  cases before with
  | nil => exact List.cons.inj hsplit
  | cons head before =>
      rw [(List.cons.inj hsplit).2] at hrest
      exact absurd (List.mem_append_right _ List.mem_cons_self) hrest

/-- A line that is not accepted is followed by the abort only, also when the session goes on with
events that are no lines. -/
theorem Sent.failed_line (h : Sent source size lines events sent) {ending : List SessionEvent}
    (hending : ∀ event ∈ ending, event.call ≠ .printALine) (hsent : sent = false → ending = [])
    {before after : List SessionEvent} {data : Bytes} {asked : UInt32} {written : Int32}
    (hsplit : events ++ ending = before ++ .printALine data asked written :: after)
    (hwritten : written ≠ asked.toInt32) :
    after.map SessionEvent.call = [.abortPrint, .closePrint] := by
  -- A line that is not accepted ends the sequence, so it can only be the last one.
  induction h generalizing before with
  | all =>
      have hmem : SessionEvent.printALine data asked written ∈ ending := by
        rw [List.nil_append] at hsplit
        rw [hsplit]
        exact List.mem_append_right _ List.mem_cons_self
      exact absurd rfl (hending _ hmem)
  | accepted line rest data' events sent _ _ ih =>
      cases before with
      | nil =>
          obtain ⟨hhead, -⟩ := List.cons.inj hsplit
          obtain ⟨-, rfl, rfl⟩ := SessionEvent.printALine.inj hhead
          exact absurd rfl hwritten
      | cons first before => exact ih hsent (List.cons.inj hsplit).2
  | refused line rest data' written' aborted closed _ _ =>
      rw [hsent rfl, List.append_nil] at hsplit
      obtain ⟨-, rfl⟩ := first_of_split hsplit (by simp)
      rfl
  | stopped line rest aborted closed =>
      rw [hsent rfl, List.append_nil] at hsplit
      obtain ⟨hhead, -⟩ := first_of_split hsplit (by simp)
      exact absurd hhead (by simp)

/-- When all lines are sent, there is one accepted call for each. -/
theorem Sent.complete (h : Sent source size lines events true) :
    events.length = lines.length ∧ ∀ (index : Nat) line, lines[index]? = some line →
      ∃ data, Carries source size line data ∧
        events[index]? = some (.printALine data size size.toInt32) := by
  generalize hsent : true = sent at h
  induction h with
  | all => exact ⟨rfl, fun index line hline ↦ absurd hline (by simp)⟩
  | accepted line rest data events sent hcarries _ ih =>
      obtain ⟨hlength, hevents⟩ := ih hsent
      refine ⟨congrArg (· + 1) hlength, ?_⟩
      intro index found hfound
      cases index with
      | zero =>
          obtain rfl := Option.some.inj hfound
          exact ⟨data, hcarries, rfl⟩
      | succ index => exact hevents index found hfound
  | refused => exact absurd hsent (by decide)
  | stopped => exact absurd hsent (by decide)

/-- The plane-lines of a raster: `channelOrder` once for every row. -/
theorem plane_lines_length (height : Int32) (channelOrder : List Int32) :
    (planeLines height channelOrder).length = height.toInt.toNat * channelOrder.length := by
  simp [planeLines, List.length_flatMap]

/-- The place of a line gives its row and its channel. -/
theorem plane_lines_get {height : Int32} {channelOrder : List Int32} {index : Nat}
    (h : index < height.toInt.toNat * channelOrder.length) :
    ∃ line, (planeLines height channelOrder)[index]? = some line ∧
      line.row = index / channelOrder.length ∧
      channelOrder[index % channelOrder.length]? = some line.logicalChannel := by
  unfold planeLines
  generalize height.toInt.toNat = rows at h
  -- The lines of the last row come behind those of the rows before.
  induction rows with
  | zero => exact absurd h (by simp)
  | succ rows ih =>
      have hlength : ((List.range rows).flatMap fun row ↦
          channelOrder.zipIdx.map fun place ↦
            PlaneLine.mk row place.2 place.1).length = rows * channelOrder.length := by
        simp [List.length_flatMap]
      rw [List.range_succ, List.flatMap_append, List.flatMap_singleton]
      by_cases hlast : index < rows * channelOrder.length
      · rw [List.getElem?_append_left (by rw [hlength]; exact hlast)]
        exact ih hlast
      · rw [List.getElem?_append_right (by rw [hlength]; exact not_lt.mp hlast), hlength]
        have hplane : index - rows * channelOrder.length < channelOrder.length := by
          rw [Nat.succ_mul] at h
          omega
        have hdiv : index / channelOrder.length = rows := by
          refine Nat.div_eq_of_lt_le (not_lt.mp hlast) h
        have hmod : index % channelOrder.length = index - rows * channelOrder.length := by
          have hsplit := Nat.div_add_mod index channelOrder.length
          rw [hdiv, Nat.mul_comm] at hsplit
          omega
        rw [hmod, List.getElem?_map, List.getElem?_zipIdx, List.getElem?_eq_getElem hplane]
        exact ⟨_, rfl, hdiv.symm, rfl⟩

/-- The calls of a started session. -/
theorem Sent.in_order (h : Sent source size lines events true) (property : PrintJobProperty)
    {ending : List SessionEvent}
    (hending : ending.map SessionEvent.call ∈ ([[.endPrint, .closePrint],
      [.endPrint, .abortPrint, .closePrint]] : List (List SessionCall))) :
    InOrder ((SessionEvent.startPrint property sySucceeded :: (events ++ ending)).map
      SessionEvent.call) := by
  obtain ⟨count, hcount⟩ := h.calls
  refine Or.inr (Or.inr ⟨count, ending.map SessionEvent.call, ?_, ?_⟩)
  · rcases List.mem_cons.mp hending with hshort | hlong
    · rw [hshort]
      exact List.mem_cons_self
    · rw [List.mem_singleton.mp hlong]
      exact List.mem_cons_of_mem _ (List.mem_cons_of_mem _ List.mem_cons_self)
  · rw [List.map_cons, List.map_append, hcount, if_pos rfl, List.append_nil]
    rfl

/-- A session that started has no other start, so its first event is not a failed one. -/
theorem not_failed_start {property : PrintJobProperty} {rest : List SessionEvent} :
    ∀ other started after,
      SessionEvent.startPrint property sySucceeded :: rest = .startPrint other started :: after →
      started ≠ sySucceeded → after.map SessionEvent.call = [.closePrint] := by
  intro other started after hsplit hstarted
  obtain ⟨-, rfl⟩ := SessionEvent.startPrint.inj (List.cons.inj hsplit).1
  exact absurd rfl hstarted

/-- A failed line of a started session comes after the start. -/
theorem Sent.failed_line_started (h : Sent source size lines events sent)
    (property : PrintJobProperty) {ending : List SessionEvent}
    (hending : ∀ event ∈ ending, event.call ≠ .printALine) (hsent : sent = false → ending = []) :
    ∀ before data asked written after,
      .startPrint property sySucceeded :: (events ++ ending) =
        before ++ SessionEvent.printALine data asked written :: after →
      written ≠ asked.toInt32 → after.map SessionEvent.call = [.abortPrint, .closePrint] := by
  intro before data asked written after hsplit hwritten
  cases before with
  | nil => exact absurd (List.cons.inj hsplit).1 (by simp)
  | cons first before => exact h.failed_line hending hsent (List.cons.inj hsplit).2 hwritten

/-- The lines of a complete session are those of the raster. -/
theorem Sent.carries {raster : DirectPrintRaster}
    (h : Sent source size (planeLines raster.height raster.channelOrder) events true) :
    (events.length : ℤ) = max 0 raster.height.toInt * raster.channelOrder.length ∧
      ∀ index event, events[index]? = some event →
        CarriesLine raster source size index event := by
  obtain ⟨hlength, hevents⟩ := h.complete
  rw [plane_lines_length] at hlength
  refine ⟨?_, ?_⟩
  · rw [hlength, Nat.cast_mul, Int.toNat_eq_max, max_comm]
  · intro index event hevent
    have hindex : index < events.length := (List.getElem?_eq_some_iff.mp hevent).1
    rw [hlength] at hindex
    obtain ⟨line, hline, hrow, hchannel⟩ := plane_lines_get hindex
    obtain ⟨data, ⟨hdata, hsize⟩, hsent⟩ := hevents index line hline
    refine ⟨line.logicalChannel, data, hchannel, ?_, hsize, ?_⟩
    · rw [← hrow]
      exact hdata
    · exact Option.some.inj (hevent.symm.trans hsent)

/-- Every way a session goes is disciplined. -/
theorem Session.disciplined {raster : DirectPrintRaster} {result : Option Bool}
    (h : Session source (planeLines raster.height raster.channelOrder) events
      (result == some true)) : Disciplined raster source events result := by
  generalize hok : (result == some true) = ok at h
  have hfalse : ok = false → ∀ {p : Prop}, result = some true → p := by
    intro hnot p htrue
    rw [htrue, hnot] at hok
    exact absurd hok (by decide)
  cases h with
  | none =>
      refine ⟨Or.inl rfl, ?_, ?_, hfalse rfl⟩
      · intro property started after hsplit
        exact absurd hsplit (by simp)
      · intro before data asked written after hsplit
        exact absurd hsplit (by simp)
  | startFailed property started closed hstarted =>
      refine ⟨Or.inr (Or.inl rfl), ?_, ?_, hfalse rfl⟩
      · intro other found after hsplit _
        rw [← (List.cons.inj hsplit).2]
        rfl
      · intro before data asked written after hsplit
        obtain ⟨hhead, -⟩ := first_of_split hsplit (by simp)
        exact absurd hhead (by simp)
  | stopped property events hsent =>
      have hsplits := hsent.failed_line_started property
        (fun event hevent ↦ absurd hevent (List.not_mem_nil)) fun _ ↦ rfl
      rw [List.append_nil] at hsplits
      obtain ⟨count, hcount⟩ := hsent.calls
      refine ⟨?_, not_failed_start, hsplits, hfalse rfl⟩
      refine Or.inr (Or.inr ⟨count, [.abortPrint, .closePrint], by simp, ?_⟩)
      rw [List.map_cons, hcount]
      rfl
  | endFailed property events ended aborted closed hsent _ =>
      exact ⟨hsent.in_order property (by simp [SessionEvent.call]), not_failed_start,
        hsent.failed_line_started property (by simp [SessionEvent.call]) (by simp), hfalse rfl⟩
  | closeFailed property events closed hsent _ =>
      exact ⟨hsent.in_order property (by simp [SessionEvent.call]), not_failed_start,
        hsent.failed_line_started property (by simp [SessionEvent.call]) (by simp), hfalse rfl⟩
  | closed property events _ hsent =>
      exact ⟨hsent.in_order property (by simp [SessionEvent.call]), not_failed_start,
        hsent.failed_line_started property (by simp [SessionEvent.call]) (by simp),
        fun _ ↦ ⟨property, events, rfl, hsent.carries⟩⟩

/-- Every run of every job keeps the discipline, whatever the library, the operating system and the
user answer. -/
theorem print_session_discipline (sdk : Sdk) (client : Client) (raster : DirectPrintRaster)
    (settings : DirectPrintSettings) (spool : Option (Reader × Store String))
    (trace : List SdkEvent) (after : Client) (result : Option Bool)
    (hrun : Runs (printPackedJob sdk client raster settings spool) trace (after, result)) :
    Disciplined raster { packedLines := raster.packedLines.getD [], spool } (session trace)
      result :=
  (print_packed_job_session sdk client raster settings spool trace (after, result)
    hrun).disciplined

/-- A raster of one row of two planes. -/
def twoPlaneRaster : DirectPrintRaster where
  packedLines := some [[[0x1b]], [[0xe4]]]
  channelOrder := [1, 0]
  width := 4
  height := 1
  xdpi := 720
  ydpi := 600
  bytesPerLine := 1
  format := .nocaiMultiInk

/-- A library on which every call succeeds. -/
def obligingSdk (_ : List SdkEvent) : (call : SdkCall) → call.Answer
  | .ensureLoaded => none
  | .enterSdkDirectory => none
  | .discoveryPermission => none
  | .promiscuousReceive _ => none
  | .staleSocketLocks _ => none
  | .searchPrinter => (sySucceeded, ["X-33"])
  | .choosePrinter _ => sySucceeded
  | .connectPrinter => sySucceeded
  | .closeControlSocket => ()
  | .getPrintHeight => (sySucceeded, 0)
  | .setPrintHeight _ => sySucceeded
  | .setJobSettings _ => sySucceeded
  | .getPrintXYValue => (sySucceeded, 0, 0)
  | .setPrintXYValue _ _ => sySucceeded
  | .initPrinter => sySucceeded
  | .startPrint _ => sySucceeded
  | .printALine _ size => size.toInt32
  | .endPrint => sySucceeded
  | .abortPrint => sySucceeded
  | .closePrint => sySucceeded
  | .getPrinterStatus => (sySucceeded, 0)
  | .cancelRequested => false
  | .processEvents => ()
  | .readSpoolLine _ _ => none
  | .function _ => sySucceeded

/-- On such a library the raster is printed, with its second plane first. -/
theorem print_session_discipline_two_planes :
    ∃ trace after,
      Runs (printPackedJob {} {} twoPlaneRaster {} none) trace (after, some true) ∧
      (session trace).map SessionEvent.call =
        [.startPrint, .printALine, .printALine, .endPrint, .closePrint] ∧
      Disciplined twoPlaneRaster { packedLines := [[[0x1b]], [[0xe4]]], spool := none }
        (session trace) (some true) := by
  obtain ⟨trace, htrace, hruns⟩ :=
    run_runs obligingSdk (printPackedJob {} {} twoPlaneRaster {} none) []
  have hresult : ((printPackedJob {} {} twoPlaneRaster {} none).run obligingSdk []).2.2 =
      some true := by decide +kernel
  have hcalls : (session ((printPackedJob {} {} twoPlaneRaster {} none).run obligingSdk []).1).map
      SessionEvent.call = [.startPrint, .printALine, .printALine, .endPrint, .closePrint] := by
    decide +kernel
  rw [htrace, List.nil_append] at hcalls
  generalize ((printPackedJob {} {} twoPlaneRaster {} none).run obligingSdk []).2 = outcome
    at hruns hresult
  obtain ⟨after, result⟩ := outcome
  obtain rfl : result = some true := hresult
  exact ⟨trace, after, hruns, hcalls,
    print_session_discipline {} {} twoPlaneRaster {} none trace after (some true) hruns⟩

end PrintFlow.NocaiDirectPrintClient
