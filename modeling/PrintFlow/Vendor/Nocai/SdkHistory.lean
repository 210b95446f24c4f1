import Mathlib.Data.List.Induction
import PrintFlow.Vendor.Nocai.SdkLibrary

/-!
# The history of an SDK session

The history of a client holds every call it made. `Link` says what a history leaves standing: the
printer that was chosen, and whether it is connected. Most of a job leaves it alone.
-/

namespace PrintFlow.NocaiDirectPrintClient

open Interaction

/-! ## Histories -/

/-- What happens to a session: it is let go, the library is called through the loader, or the
library itself is called. -/
inductive HistoryEvent where
  | reset
  | library (event : LibraryEvent)
  | sdk (event : SdkEvent)

namespace HistoryEvent

/-- A search, a load of the library and a reset start a new lifecycle. -/
def restarts : HistoryEvent → Bool
  | .reset => true
  | .library ⟨.load, _⟩ => true
  | .library _ => false
  | .sdk ⟨.searchPrinter, _⟩ => true
  | .sdk _ => false

/-- The printer of a successful `ChoosePrinter`. -/
def chosen : HistoryEvent → Option Int32
  | .sdk ⟨.choosePrinter index, result⟩ => if result = sySucceeded then some index else none
  | _ => none

/-- The outcome of a `ConnectPrinter`. -/
def connected : HistoryEvent → Option Bool
  | .sdk ⟨.connectPrinter, result⟩ => some (result == sySucceeded)
  | _ => none

/-- A `StartPrint` that failed. -/
def startFailed : HistoryEvent → Bool
  | .sdk ⟨.startPrint _, result⟩ => result != sySucceeded
  | _ => false

/-- The printer that was chosen before stays chosen. -/
def KeepsChoice (event : HistoryEvent) : Prop :=
  event.restarts = false ∧ event.chosen = none ∧ event.connected ≠ some false

/-- A connection that was made before stays. A failed start costs it, except on the ARM library. -/
def KeepsConnection (arm : Bool) (event : HistoryEvent) : Prop :=
  event.KeepsChoice ∧ (arm = false → event.startFailed = false)

end HistoryEvent

/-- The printer was chosen, and nothing has undone that since. -/
def ChosenIn (index : Int32) (history : List HistoryEvent) : Prop :=
  ∃ before choosing since, history = before ++ choosing :: since ∧
    choosing.chosen = some index ∧ ∀ event ∈ since, event.KeepsChoice

/-- The printer was chosen, connected after that, and nothing has undone either since. -/
def ConnectedIn (arm : Bool) (index : Int32) (history : List HistoryEvent) : Prop :=
  ∃ before choosing between connecting since,
    history = before ++ choosing :: (between ++ connecting :: since) ∧
    choosing.chosen = some index ∧ (∀ event ∈ between, event.KeepsChoice) ∧
    connecting.connected = some true ∧ ∀ event ∈ since, event.KeepsConnection arm

/-- What a history leaves standing. -/
structure Link where
  chosen : Option Int32 := none
  connected : Bool := false
  deriving DecidableEq

/-- What one event makes of it. -/
def Link.after (arm : Bool) (link : Link) (event : HistoryEvent) : Link :=
  if event.restarts || event.connected == some false then {}
  else
    match event.chosen with
    | some index => { chosen := some index, connected := false }
    | none =>
      if event.connected == some true then { link with connected := link.chosen.isSome }
      else if !arm && event.startFailed then { link with connected := false }
      else link

/-- What a whole history leaves standing. -/
def linkOf (arm : Bool) (history : List HistoryEvent) : Link :=
  history.foldl (Link.after arm) {}

theorem link_of_append (arm : Bool) (history : List HistoryEvent) (event : HistoryEvent) :
    linkOf arm (history ++ [event]) = (linkOf arm history).after arm event := by
  rw [linkOf, List.foldl_append]
  rfl

/-- A printer is chosen after an event when the event chose it, or kept it chosen. -/
theorem Link.chosen_after {arm : Bool} {link : Link} {event : HistoryEvent} {index : Int32}
    (h : (link.after arm event).chosen = some index) :
    event.chosen = some index ∨ (event.KeepsChoice ∧ link.chosen = some index) := by
  unfold Link.after at h
  split at h
  · exact absurd h (Option.some_ne_none index).symm
  · next hstays =>
      rw [Bool.or_eq_true, not_or, Bool.not_eq_true, beq_iff_eq] at hstays
      cases hchosen : event.chosen with
      | some other =>
          rw [hchosen] at h
          exact Or.inl h
      | none =>
          rw [hchosen] at h
          refine Or.inr ⟨⟨hstays.1, hchosen, hstays.2⟩, ?_⟩
          dsimp only at h
          split_ifs at h <;> exact h

/-- A connection stands after an event when the event made it, or kept it. -/
theorem Link.connected_after {arm : Bool} {link : Link} {event : HistoryEvent}
    (h : (link.after arm event).connected = true) :
    event.KeepsChoice ∧ (event.connected = some true ∨
      (event.KeepsConnection arm ∧ link.connected = true)) := by
  unfold Link.after at h
  split at h
  · exact absurd h Bool.false_ne_true
  · next hstays =>
      rw [Bool.or_eq_true, not_or, Bool.not_eq_true, beq_iff_eq] at hstays
      cases hchosen : event.chosen with
      | some other =>
          rw [hchosen] at h
          exact absurd h Bool.false_ne_true
      | none =>
          rw [hchosen] at h
          have hkeeps : event.KeepsChoice := ⟨hstays.1, hchosen, hstays.2⟩
          refine ⟨hkeeps, ?_⟩
          dsimp only at h
          split_ifs at h with hconnects hstart
          · exact Or.inl (beq_iff_eq.mp hconnects)
          · refine Or.inr ⟨⟨hkeeps, fun harm ↦ ?_⟩, h⟩
            subst harm
            simpa using hstart

/-- A printer that is chosen in the end was chosen once and kept. -/
theorem chosen_in_of_link {arm : Bool} {index : Int32} (history : List HistoryEvent)
    (h : (linkOf arm history).chosen = some index) : ChosenIn index history := by
  induction history using List.reverseRecOn with
  | nil => exact absurd h (Option.some_ne_none index).symm
  | append_singleton history event ih =>
      rw [link_of_append] at h
      rcases Link.chosen_after h with hchooses | ⟨hkeeps, hchosen⟩
      · exact ⟨history, event, [], rfl, hchooses, fun _ hevent ↦ (List.not_mem_nil hevent).elim⟩
      · obtain ⟨before, choosing, since, rfl, hchoosing, hsince⟩ := ih hchosen
        refine ⟨before, choosing, since ++ [event], by simp, hchoosing, ?_⟩
        intro other hother
        rcases List.mem_append.mp hother with hother | hother
        · exact hsince other hother
        · exact List.mem_singleton.mp hother ▸ hkeeps

/-- A printer that is connected in the end was chosen, then connected, and kept. -/
theorem connected_in_of_link {arm : Bool} {index : Int32} (history : List HistoryEvent)
    (hchosen : (linkOf arm history).chosen = some index)
    (hconnected : (linkOf arm history).connected = true) : ConnectedIn arm index history := by
  -- On the end of the history: the last event connects, or leaves standing what was connected.
  induction history using List.reverseRecOn with
  | nil => exact absurd hconnected Bool.false_ne_true
  | append_singleton history event ih =>
      rw [link_of_append] at hchosen hconnected
      obtain ⟨hkeeps, hstands⟩ := Link.connected_after hconnected
      have hbefore : (linkOf arm history).chosen = some index := by
        rcases Link.chosen_after hchosen with hchooses | ⟨_, hbefore⟩
        · exact absurd (hkeeps.2.1.symm.trans hchooses) (Option.some_ne_none index).symm
        · exact hbefore
      rcases hstands with hconnects | ⟨hconnection, hconnected⟩
      · obtain ⟨before, choosing, since, rfl, hchoosing, hsince⟩ :=
          chosen_in_of_link history hbefore
        exact ⟨before, choosing, since, event, [], by simp, hchoosing, hsince, hconnects,
          fun _ hevent ↦ (List.not_mem_nil hevent).elim⟩
      · obtain ⟨before, choosing, between, connecting, since, rfl, hchoosing, hbetween, hconnecting,
          hsince⟩ := ih hbefore hconnected
        refine ⟨before, choosing, between, connecting, since ++ [event], by simp, hchoosing,
          hbetween, hconnecting, ?_⟩
        intro other hother
        rcases List.mem_append.mp hother with hother | hother
        · exact hsince other hother
        · exact List.mem_singleton.mp hother ▸ hconnection

/-- A printer that is chosen is the last one that was. -/
theorem ChosenIn.last {index : Int32} {history : List HistoryEvent} (h : ChosenIn index history) :
    (history.filterMap HistoryEvent.chosen).getLast? = some index := by
  obtain ⟨before, choosing, since, rfl, hchoosing, hsince⟩ := h
  have hnone : since.filterMap HistoryEvent.chosen = [] :=
    List.filterMap_eq_nil_iff.mpr fun event hevent ↦ (hsince event hevent).2.1
  rw [List.filterMap_append, List.filterMap_cons, hchoosing, hnone]
  exact List.getLast?_concat ..

/-! ## Calls that leave the lifecycle alone -/

/-- What the client knows about the printers. -/
def Client.session (client : Client) : List (Int32 × String) × Int32 × Bool :=
  (client.printers, client.selectedPrinterIndex, client.connected)

/-- The calls that do not concern the lifecycle. -/
def SdkCall.lasts : SdkCall → Bool
  | ensureLoaded => false
  | searchPrinter => false
  | choosePrinter _ => false
  | connectPrinter => false
  | startPrint _ => false
  | _ => true

/-- A program that leaves the lifecycle alone, with what it ensures of its result. -/
def Lasting {α : Type} (ensures : α → Prop) (p : SdkProgram α) : Prop :=
  Meets p fun trace result ↦ (∀ event ∈ trace, event.call.lasts = true) ∧ ensures result

/-- Results with a client that knows what it knew before. -/
def Same {α : Type} (client : Client) (result : Client × α) : Prop :=
  result.1.session = client.session

theorem call_succeeded_same (client : Client) (result : Int32) (functionName : String) :
    (client.callSucceeded result functionName).1.session = client.session := by
  unfold Client.callSucceeded
  split <;> rfl

theorem require_function_same (client : Client) (available : Bool) (functionName : String) :
    (client.requireFunction available functionName).1.session = client.session := by
  unfold Client.requireFunction
  split <;> rfl

namespace Lasting

variable {α β : Type} {ensures : α → Prop} {ensuresBind : β → Prop}

protected theorem pure {value : α} (h : ensures value) :
    Lasting ensures (pure value : SdkProgram α) :=
  Meets.pure ⟨fun _ hevent ↦ (List.not_mem_nil hevent).elim, h⟩

protected theorem ask {call : SdkCall} (h : call.lasts = true) :
    Lasting (fun _ ↦ True) (ask call) := by
  refine .call ?_
  intro answer
  refine ⟨fun event hevent ↦ ?_, trivial⟩
  obtain rfl := List.mem_singleton.mp hevent
  exact h

protected theorem bind {P : α → Prop} {p : SdkProgram α} {f : α → SdkProgram β}
    (hp : Lasting P p) (hf : ∀ value, P value → Lasting ensuresBind (f value)) :
    Lasting ensuresBind (p >>= f) := by
  refine Meets.bind hp ?_
  rintro before value ⟨hbefore, hvalue⟩
  refine (hf value hvalue).mono ?_
  rintro after result ⟨hafter, hresult⟩
  refine ⟨fun event hevent ↦ ?_, hresult⟩
  exact (List.mem_append.mp hevent).elim (hbefore event) (hafter event)

protected theorem ite {c : Prop} [Decidable c] {p q : SdkProgram α} (hp : Lasting ensures p)
    (hq : Lasting ensures q) : Lasting ensures (if c then p else q) :=
  Meets.ite (fun _ ↦ hp) fun _ ↦ hq

end Lasting

section Lasting

variable (sdk : Sdk) (client : Client) (settings : DirectPrintSettings)

theorem prepare_arm_socket_lasting : Lasting (Same client) (prepareArmSocket sdk client) := by
  unfold prepareArmSocket
  refine .ite (.bind (.ask rfl) fun promiscuous _ ↦ ?_) (.pure rfl)
  cases promiscuous with
  | some detail => exact .pure rfl
  | none =>
      refine .bind (.ask rfl) fun locks _ ↦ ?_
      cases locks with
      | some detail => exact .pure rfl
      | none => exact .pure rfl

theorem wait_for_height_lasting (target : UInt16) (attempts : Nat) (current : UInt16) :
    Lasting (fun _ ↦ True) (waitForHeight target attempts current) := by
  induction attempts generalizing current with
  | zero => exact .pure trivial
  | succ attempts ih => exact .bind (.ask rfl) fun _ _ ↦ .ite (.pure trivial) (ih _)

theorem prepare_media_height_lasting (height : FloatFormat.Double) :
    Lasting (Same client) (prepareMediaHeight sdk client height) := by
  have hset := require_function_same client sdk.setPrintHeight "SetPrintHeight"
  have hget := (require_function_same (client.requireFunction sdk.setPrintHeight "SetPrintHeight").1
    sdk.getPrintHeight "GetPrintHeight").trans hset
  unfold prepareMediaHeight
  refine .ite (.pure rfl) (.ite (.pure hset) (.ite (.pure hget) ?_))
  cases encodePrintHeightMm height with
  | none => exact .pure hget
  | some encoded =>
      refine .bind (.ask rfl) fun _ _ ↦ .ite (.pure hget) (.bind (.ask rfl) ?_)
      intro result _
      have hcall := (call_succeeded_same _ result "SetPrintHeight").trans hget
      exact .ite (.pure hcall) (.bind (wait_for_height_lasting _ _ _) fun _ _ ↦
        .ite (.pure hcall) (.pure hcall))

theorem store_settings_lasting (jobSettings : JobSettings) (x33 : Bool) :
    Lasting (Same client) (prepareJob.storeSettings sdk jobSettings client x33) :=
  .ite (.pure rfl) (.bind (.ask rfl) fun result _ ↦
    .pure (call_succeeded_same client result "SetJobSettings"))

theorem prepare_x33_print_origin_lasting :
    Lasting (Same client) (prepareX33PrintOrigin sdk client settings) := by
  have hset := require_function_same client sdk.setPrintXYValue "SetPrintXYValue"
  have hget := (require_function_same
    (client.requireFunction sdk.setPrintXYValue "SetPrintXYValue").1 sdk.getPrintXYValue
    "GetPrintXYValue").trans hset
  unfold prepareX33PrintOrigin
  refine .ite (.pure hset) (.ite (.pure hget) (.bind (.ask rfl) ?_))
  intro ⟨result, actualX, actualY⟩ _
  have hread := (call_succeeded_same _ result "GetPrintXYValue").trans hget
  refine .ite (.pure hread) (.ite (.pure hread) (.bind (.ask rfl) ?_))
  intro stored _
  have hstored := (call_succeeded_same _ stored "SetPrintXYValue").trans hread
  refine .ite (.pure hstored) (.bind (.ask rfl) ?_)
  intro ⟨again, backX, backY⟩ _
  have hagain :=
    (call_succeeded_same _ again "GetPrintXYValue after SetPrintXYValue").trans hstored
  exact .ite (.pure hagain) (.ite (.pure hagain) (.pure hagain))

theorem reset_job_origin_lasting (originActive preserve : Bool) :
    Lasting (Same client) (resetJobOrigin sdk client originActive preserve) := by
  unfold resetJobOrigin
  refine .ite (.pure rfl) (.bind (P := fun _ ↦ True) ?_ ?_)
  · exact .ite (.bind (.ask rfl) fun _ _ ↦ .pure trivial) (.pure trivial)
  · intro stored _
    refine .bind (P := fun _ ↦ True) ?_ ?_
    · exact .ite (.ite (.bind (.ask rfl) fun _ _ ↦ .pure trivial) (.pure trivial)) (.pure trivial)
    · intro reset _
      refine .ite (.pure ?_) (.pure ?_)
      · show Client.session _ = _
        split <;> rfl
      · show Client.session _ = _
        split <;> rfl

theorem prepare_job_lasting (raster : DirectPrintRaster) (jobSettings : JobSettings) :
    Lasting (Same client) (prepareJob sdk client raster settings jobSettings) := by
  unfold prepareJob
  refine .bind (prepare_media_height_lasting sdk client _) ?_
  intro ⟨heightened, ready⟩ hheightened
  refine .ite (.pure hheightened) (.bind (store_settings_lasting sdk heightened jobSettings _) ?_)
  intro ⟨stored, kept⟩ hstored
  have hstored : stored.session = client.session := hstored.trans hheightened
  refine .ite (.pure hstored) (.bind (P := Same client) ?_ ?_)
  · refine .ite ?_ (.pure hstored)
    exact Meets.mono (prepare_x33_print_origin_lasting sdk stored settings) fun _ result h ↦
      ⟨h.1, h.2.trans hstored⟩
  · intro ⟨placed, originActive, early⟩ hplaced
    refine .ite (.pure hplaced) (.bind (.ask rfl) ?_)
    intro result _
    have hready := (call_succeeded_same placed result "InitPrinter").trans hplaced
    refine .ite (.pure hready) (.ite ?_ (.pure hready))
    exact Meets.mono (prepare_x33_print_origin_lasting sdk _ settings) fun _ result h ↦
      ⟨h.1, h.2.trans hready⟩

theorem wait_for_cancellation_lasting (attempts : Nat) :
    Lasting (fun _ ↦ True) (waitForCancellation attempts) := by
  induction attempts with
  | zero => exact .pure trivial
  | succ attempts ih => exact .bind (.ask rfl) fun _ _ ↦ .ite (.pure trivial) ih

theorem abort_lasting : Lasting (fun _ ↦ True) (abortActivePrintAndWaitForController sdk) := by
  unfold abortActivePrintAndWaitForController
  refine .bind (.ask rfl) fun aborted _ ↦ .ite (.bind (.ask rfl) fun _ _ ↦ .pure trivial) ?_
  refine .bind (.ite (wait_for_cancellation_lasting 10) (.pure trivial)) fun acknowledged _ ↦ ?_
  exact .bind (.ask rfl) fun _ _ ↦ .pure trivial

variable (source : LineSource) (size : UInt32)

theorem read_plane_line_lasting (logicalChannel row : Int32) :
    Lasting (fun _ ↦ True) (readPlaneLine source logicalChannel row) := by
  unfold readPlaneLine
  refine .ite (.pure trivial) (.bind (.ask rfl) ?_)
  intro failed _
  cases failed with
  | some message => exact .pure trivial
  | none => exact .pure trivial

theorem offer_line_lasting (line : PlaneLine) :
    Lasting (Same client) (offerLine sdk client source size line) := by
  have haborts : ∀ message, Lasting (Same client) (do
      let _ ← abortActivePrintAndWaitForController sdk
      return (client.setError message, false)) :=
    fun message ↦ .bind (abort_lasting sdk) fun _ _ ↦ .pure rfl
  unfold offerLine
  refine .bind (read_plane_line_lasting source line.logicalChannel _) ?_
  intro read _
  cases read with
  | error message => exact haborts message
  | ok data =>
      refine .ite (haborts _) (.bind (.ask rfl) ?_)
      intro written _
      exact .ite (haborts _) (.pure rfl)

theorem send_line_lasting (planes : Nat) (line : PlaneLine) :
    Lasting (Same client) (sendLine sdk client source size planes line) := by
  unfold sendLine
  refine .bind (.ask rfl) fun canceled _ ↦ .ite ?_ ?_
  · exact .bind (abort_lasting sdk) fun _ _ ↦ .pure rfl
  · exact .ite (.bind (.ask rfl) fun _ _ ↦ offer_line_lasting sdk client source size line)
      (offer_line_lasting sdk client source size line)

theorem send_lines_lasting (planes : Nat) (lines : List PlaneLine) :
    Lasting (Same client) (sendLines sdk source size planes lines client) := by
  induction lines generalizing client with
  | nil => exact .pure rfl
  | cons line rest ih =>
      refine .bind (send_line_lasting sdk client source size planes line) ?_
      intro ⟨sent, accepted⟩ hsent
      refine .ite ?_ (.pure hsent)
      exact Meets.mono (ih sent) fun _ result h ↦ ⟨h.1, h.2.trans hsent⟩

end Lasting

end PrintFlow.NocaiDirectPrintClient
