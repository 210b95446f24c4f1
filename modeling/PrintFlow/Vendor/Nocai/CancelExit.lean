import PrintFlow.Vendor.Nocai.Submission

/-!
# The cancel exit of a print

`printPackedJob` polls for a request to cancel before each plane-line, and nowhere else. A print
whose poll found one returns false, in this process and in a worker.
-/

namespace PrintFlow.NocaiDirectPrintClient

open Interaction RasterSpool FileStore

/-- The poll found a request. -/
def foundRequest : SdkEvent := ⟨.cancelRequested, true⟩

/-- A program that makes no poll. -/
def Unpolled {α : Type} (p : SdkProgram α) : Prop :=
  Meets p fun trace _ ↦ ∀ event ∈ trace, event.call ≠ .cancelRequested

/-- A program that ends like this when a poll found a request. -/
def Stops {α : Type} (stopped : α → Prop) (p : SdkProgram α) : Prop :=
  Meets p fun trace result ↦ foundRequest ∈ trace → stopped result

namespace Unpolled

variable {α β : Type}

protected theorem pure (value : α) : Unpolled (pure value : SdkProgram α) :=
  Meets.pure fun _ hevent ↦ (List.not_mem_nil hevent).elim

protected theorem ask {call : SdkCall} (h : call ≠ .cancelRequested) : Unpolled (ask call) := by
  refine .call fun answer event hevent ↦ ?_
  obtain rfl := List.mem_singleton.mp hevent
  exact h

protected theorem bind {p : SdkProgram α} {f : α → SdkProgram β} (hp : Unpolled p)
    (hf : ∀ value, Unpolled (f value)) : Unpolled (p >>= f) := by
  refine Meets.bind hp fun before value hbefore ↦ ?_
  refine (hf value).mono fun after result hafter event hevent ↦ ?_
  exact (List.mem_append.mp hevent).elim (hbefore event) (hafter event)

protected theorem ite {c : Prop} [Decidable c] {p q : SdkProgram α} (hp : Unpolled p)
    (hq : Unpolled q) : Unpolled (if c then p else q) :=
  Meets.ite (fun _ ↦ hp) fun _ ↦ hq

/-- A program of other kinds of calls makes no poll. -/
theorem of_stays {kinds : List CallKind} {p : SdkProgram α} (h : Stays kinds p)
    (hpoll : CallKind.poll ∉ kinds) : Unpolled p :=
  Meets.mono h fun _ _ htrace event hevent hcall ↦ hpoll (by
    have hkind := htrace event hevent
    rw [hcall] at hkind
    exact hkind)

theorem stops {stopped : α → Prop} {p : SdkProgram α} (h : Unpolled p) : Stops stopped p :=
  Meets.mono h fun _ _ htrace hfound ↦ absurd rfl (htrace foundRequest hfound)

end Unpolled

namespace Stops

variable {α β : Type} {stopped : α → Prop} {stoppedBind : β → Prop}

protected theorem pure (value : α) : Stops stopped (pure value : SdkProgram α) :=
  (Unpolled.pure value).stops

/-- A sequence stops when its second part does, and when it goes on from a stop to one. -/
protected theorem bind {P : α → Prop} {p : SdkProgram α} {f : α → SdkProgram β} (hp : Stops P p)
    (hf : ∀ value, Stops stoppedBind (f value))
    (hstop : ∀ value, P value → Meets (f value) fun _ result ↦ stoppedBind result) :
    Stops stoppedBind (p >>= f) := by
  intro trace result hruns hfound
  obtain ⟨first, second, value, rfl, hfirst, hsecond⟩ := runs_bind.mp hruns
  rcases List.mem_append.mp hfound with hfound | hfound
  · exact hstop value (hp first value hfirst hfound) second result hsecond
  · exact hf value second result hsecond hfound

/-- A sequence whose first part makes no poll. -/
theorem after {p : SdkProgram α} {f : α → SdkProgram β} (hp : Unpolled p)
    (hf : ∀ value, Stops stoppedBind (f value)) : Stops stoppedBind (p >>= f) :=
  Stops.bind (P := fun _ ↦ False) hp.stops hf fun _ hno ↦ hno.elim

protected theorem ite {c : Prop} [Decidable c] {p q : SdkProgram α}
    (hp : c → Stops stopped p) (hq : ¬ c → Stops stopped q) :
    Stops stopped (if c then p else q) :=
  Meets.ite hp hq

end Stops

section Print

variable (sdk : Sdk) (client : Client) (source : LineSource) (size : UInt32)

theorem wait_for_cancellation_unpolled (attempts : Nat) :
    Unpolled (waitForCancellation attempts) := by
  induction attempts with
  | zero => exact .pure _
  | succ attempts ih => exact .bind (.ask nofun) fun _ ↦ .ite (.pure _) ih

theorem abort_unpolled : Unpolled (abortActivePrintAndWaitForController sdk) := by
  unfold abortActivePrintAndWaitForController
  refine .bind (.ask nofun) fun aborted ↦ .ite (.bind (.ask nofun) fun _ ↦ .pure _) ?_
  refine .bind (.ite (wait_for_cancellation_unpolled 10) (.pure _)) fun acknowledged ↦ ?_
  exact .bind (.ask nofun) fun _ ↦ .pure _

theorem read_plane_line_unpolled (logicalChannel row : Int32) :
    Unpolled (readPlaneLine source logicalChannel row) := by
  unfold readPlaneLine
  refine .ite (.pure _) (.bind (.ask nofun) fun failed ↦ ?_)
  cases failed with
  | some message => exact .pure _
  | none => exact .pure _

theorem offer_line_unpolled (line : PlaneLine) :
    Unpolled (offerLine sdk client source size line) := by
  unfold offerLine
  refine .bind (read_plane_line_unpolled source line.logicalChannel _) fun read ↦ ?_
  cases read with
  | error message => exact .bind (abort_unpolled sdk) fun _ ↦ .pure _
  | ok data =>
      refine .ite (.bind (abort_unpolled sdk) fun _ ↦ .pure _)
        (.bind (.ask nofun) fun written ↦ ?_)
      exact .ite (.bind (abort_unpolled sdk) fun _ ↦ .pure _) (.pure _)

/-- A line is not sent when the poll before it found a request. -/
theorem send_line_stops (planes : Nat) (line : PlaneLine) :
    Stops (fun result ↦ result.2 = false) (sendLine sdk client source size planes line) := by
  refine Meets.call_bind fun canceled ↦ ?_
  cases canceled with
  | true =>
      refine .ite (fun _ ↦ ?_) fun hnot ↦ absurd rfl hnot
      exact Meets.bind (abort_unpolled sdk) fun _ _ _ ↦ .pure fun _ ↦ rfl
  | false =>
      have hoffer := offer_line_unpolled sdk client source size line
      have hrest : Unpolled (if (Int32.ofNat line.row * Int32.ofNat planes +
            Int32.ofNat line.plane) % 8 = 0 then
          ask .processEvents >>= fun _ ↦ offerLine sdk client source size line
        else offerLine sdk client source size line) :=
        .ite (.bind (.ask nofun) fun _ ↦ hoffer) hoffer
      refine .ite (fun hyes ↦ absurd hyes Bool.false_ne_true) fun _ ↦ ?_
      refine Meets.mono hrest fun trace result htrace hfound ↦ ?_
      rcases List.mem_cons.mp hfound with hfirst | hfound
      · exact absurd (eq_of_heq (Event.mk.inj hfirst).2) (by decide)
      · exact absurd rfl (htrace foundRequest hfound)

theorem send_lines_stops (planes : Nat) (lines : List PlaneLine) :
    Stops (fun result ↦ result.2 = false) (sendLines sdk source size planes lines client) := by
  induction lines generalizing client with
  | nil => exact .pure _
  | cons line rest ih =>
      refine .bind (send_line_stops sdk client source size planes line) ?_ ?_
      · rintro ⟨client, accepted⟩
        exact .ite (fun _ ↦ ih client) fun _ ↦ .pure _
      · rintro ⟨client, _⟩ rfl
        exact .ite (fun hyes ↦ absurd hyes Bool.false_ne_true) fun _ ↦ .pure rfl

theorem print_session_stops (property : PrintJobProperty) (lines : List PlaneLine) (planes : Nat)
    (originActive : Bool) :
    Stops (fun result ↦ result.2.2 = false)
      (printSession sdk client source property lines planes originActive) := by
  have hpoll : CallKind.poll ∉ [CallKind.origin] := by decide
  refine .after (.ask nofun) fun started ↦ .ite (fun _ ↦ ?_) fun _ ↦ ?_
  · exact .after (.ask nofun) fun closed ↦ .ite (fun _ ↦ .pure _) fun _ ↦ .pure _
  · refine .bind (send_lines_stops sdk _ source _ planes lines) ?_ ?_
    · rintro ⟨client, sent⟩
      refine .ite (fun _ ↦ .pure _) fun _ ↦ .after (.ask nofun) fun ended ↦ .ite (fun _ ↦ ?_) ?_
      · exact (Unpolled.bind (abort_unpolled sdk) fun _ ↦ .pure _).stops
      · refine fun _ ↦ .after (.ask nofun) fun closed ↦ .ite (fun _ ↦ .pure _) fun _ ↦ ?_
        exact (Unpolled.bind (.of_stays (reset_job_origin_stays sdk _ originActive false) hpoll)
          fun _ ↦ .pure _).stops
    · rintro ⟨client, _⟩ rfl
      exact .ite (fun _ ↦ .pure rfl) fun hnot ↦ absurd rfl hnot

/-- A print that found a request returns false. -/
theorem print_packed_job_stops (raster : DirectPrintRaster) (settings : DirectPrintSettings)
    (spool : Option (Reader × Store String)) :
    Stops (fun result ↦ result.2 = some false)
      (printPackedJob sdk client raster settings spool) := by
  have hrun : ∀ jobSettings property packedLines client,
      Stops (fun result : Client × Bool × Bool ↦ result.2.2 = false)
        (printPackedJob.runJob sdk raster settings spool jobSettings property packedLines client) := by
    intro jobSettings property packedLines client
    refine .after (.of_stays (prepare_job_stays sdk client raster settings jobSettings)
      (by decide)) ?_
    rintro ⟨client, originActive, ready⟩
    exact .ite (fun _ ↦ .pure _) fun _ ↦ print_session_stops sdk client _ property _ _ originActive
  have hreset : ∀ client originActive, Unpolled (resetJobOrigin sdk client originActive true) :=
    fun client originActive ↦ .of_stays (reset_job_origin_stays sdk client originActive true)
      (by decide)
  unfold printPackedJob
  refine .after (.ask nofun) fun loaded ↦ ?_
  cases loaded with
  | some message => exact .pure _
  | none =>
      refine .ite (fun _ ↦ .pure _) fun _ ↦ ?_
      cases jobBytesPerLine raster (raster.packedLines.getD []) with
      | none => exact .pure _
      | some bytesPerLine =>
          dsimp only
          cases jobProperty sdk raster settings bytesPerLine with
          | none => exact .pure _
          | some property =>
              refine .after (.of_stays (connect_job_printer_stays sdk client settings)
                (by decide)) ?_
              rintro ⟨client, connected⟩
              refine .ite (fun _ ↦ .pure _) fun _ ↦ .after (.ask nofun) fun entered ↦ ?_
              cases entered with
              | some message => exact .pure _
              | none =>
                  refine .bind (hrun _ property _ client) ?_ ?_
                  · rintro ⟨client, originActive, ok⟩
                    exact (Unpolled.bind (hreset client originActive) fun _ ↦ .pure _).stops
                  · rintro ⟨client, originActive, _⟩ rfl
                    exact Meets.bind (hreset client originActive) fun _ _ _ ↦ .pure rfl

end Print

end PrintFlow.NocaiDirectPrintClient
