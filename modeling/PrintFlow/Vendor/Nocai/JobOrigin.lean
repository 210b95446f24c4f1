import PrintFlow.Vendor.Nocai.SdkCalls

/-!
# The origin a job leaves behind

The origin of the controller outlives a job. A run of a job places it, prints, and puts it back: the
calls that concern the origin come before the session or after its last line. `job_origin_restored`
says what a job leaves behind on each of its exits.
-/

namespace PrintFlow.NocaiDirectPrintClient

open FileStore Interaction RasterSpool

/-- The origin a job asks for. -/
def requestedOrigin (settings : DirectPrintSettings) : UInt32 × UInt32 :=
  (millimetersToPrintXYUnits settings.printOffsetXmm, millimetersToPrintXYUnits settings.printOffsetYmm)

/-- An origin that was written to the controller, or read back from it. -/
def originSeen : SdkEvent → Option (UInt32 × UInt32)
  | ⟨.setPrintXYValue x y, _⟩ => some (x, y)
  | ⟨.getPrintXYValue, (result, x, y)⟩ => if result = sySucceeded then some (x, y) else none
  | _ => none

/-- The last origin written or read back. -/
def lastOrigin (trace : List SdkEvent) : Option (UInt32 × UInt32) :=
  (trace.filterMap originSeen).getLast?

/-- The event sends a plane-line. -/
def SdkEvent.isLine : SdkEvent → Bool
  | ⟨.printALine _ _, _⟩ => true
  | _ => false

/-- The event writes an origin other than zero. -/
def SdkEvent.moves : SdkEvent → Bool
  | ⟨.setPrintXYValue x y, _⟩ => x != 0 || y != 0
  | _ => false

/-- Only calls of the origin show or move it. -/
theorem not_origin_still {event : SdkEvent} (h : event.call.kind ≠ .origin) :
    event.moves = false ∧ originSeen event = none := by
  obtain ⟨call, answer⟩ := event
  cases call with
  | getPrintXYValue | setPrintXYValue => exact absurd rfl h
  | _ => exact ⟨rfl, rfl⟩

/-- Only calls of the session send lines. -/
theorem not_session_no_line {event : SdkEvent} (h : event.call.kind ≠ .session) :
    event.isLine = false := by
  obtain ⟨call, answer⟩ := event
  cases call with
  | startPrint | printALine | endPrint | abortPrint | closePrint => exact absurd rfl h
  | _ => rfl

/-- An origin seen after others is the last one. -/
theorem last_origin_append {first second : List SdkEvent} {origin : UInt32 × UInt32}
    (h : lastOrigin second = some origin) : lastOrigin (first ++ second) = some origin := by
  rw [lastOrigin, List.filterMap_append, List.getLast?_append]
  rw [lastOrigin] at h
  rw [h]
  rfl

/-- Events that show no origin do not change the last one. -/
theorem last_origin_before {first second : List SdkEvent}
    (h : second.filterMap originSeen = []) : lastOrigin (first ++ second) = lastOrigin first := by
  rw [lastOrigin, List.filterMap_append, h, List.append_nil, lastOrigin]

/-! ## Placing the origin -/

/-- What preparing a job has done to the origin. -/
structure Placed (sdk : Sdk) (settings : DirectPrintSettings) (trace : List SdkEvent)
    (originActive placed : Bool) : Prop where
  noLine : ∀ event ∈ trace, event.isLine = false
  armed : (∃ event ∈ trace, event.moves = true) → originActive = true
  settable : originActive = true → sdk.setPrintXYValue = true
  active : placed = true → (originActive = true ↔ requestedOrigin settings ≠ (0, 0))
  last : placed = true → lastOrigin trace = some (requestedOrigin settings)

/-- Nothing was placed. -/
theorem Placed.idle {sdk : Sdk} {settings : DirectPrintSettings} {trace : List SdkEvent}
    (h : ∀ event ∈ trace, event.isLine = false ∧ event.moves = false) :
    Placed sdk settings trace false false where
  noLine event hevent := (h event hevent).1
  armed := fun ⟨event, hevent, hmoves⟩ ↦ by
    rw [(h event hevent).2] at hmoves
    exact hmoves
  settable hactive := absurd hactive (by decide)
  active hplaced := absurd hplaced (by decide)
  last hplaced := absurd hplaced (by decide)

variable (sdk : Sdk) (client : Client) (settings : DirectPrintSettings)

/-- The cleanup is armed when the job asks for an origin other than zero. -/
def originRequested : Bool :=
  millimetersToPrintXYUnits settings.printOffsetXmm != 0 ||
    millimetersToPrintXYUnits settings.printOffsetYmm != 0

theorem origin_requested_iff : originRequested settings = true ↔
    requestedOrigin settings ≠ (0, 0) := by
  unfold originRequested requestedOrigin
  rw [Bool.or_eq_true, bne_iff_ne, bne_iff_ne, ne_eq, ne_eq, ne_eq, Prod.mk.injEq, not_and_or]

/-- A placing that makes calls of the origin only, and writes the requested one. -/
theorem Placed.requested {sdk : Sdk} {settings : DirectPrintSettings} {trace : List SdkEvent}
    {placed : Bool} (hsettable : sdk.setPrintXYValue = true)
    (hcalls : ∀ event ∈ trace, event.call = .getPrintXYValue ∨
      event.call = .setPrintXYValue (requestedOrigin settings).1 (requestedOrigin settings).2)
    (hlast : placed = true → lastOrigin trace = some (requestedOrigin settings)) :
    Placed sdk settings trace (originRequested settings) placed where
  noLine event hevent := by
    obtain ⟨call, answer⟩ := event
    rcases hcalls _ hevent with rfl | rfl <;> rfl
  armed := fun ⟨⟨call, answer⟩, hevent, hmoved⟩ ↦ by
    rcases hcalls _ hevent with rfl | rfl
    · exact absurd hmoved Bool.false_ne_true
    · exact hmoved
  settable _ := hsettable
  active _ := origin_requested_iff settings
  last := hlast

/-- An origin read back last is the last one. -/
theorem last_origin_read (trace : List SdkEvent) (x y : UInt32) :
    lastOrigin (trace ++ [⟨.getPrintXYValue, (sySucceeded, x, y)⟩]) = some (x, y) :=
  last_origin_append rfl

/-- `prepareX33PrintOrigin` arms the cleanup before it writes the origin, and ends well only when it
has read back the origin it was asked for. -/
theorem prepare_x33_print_origin_placed :
    Meets (prepareX33PrintOrigin sdk client settings) fun trace result ↦
      Placed sdk settings trace result.2.1 result.2.2 := by
  have hidle : Placed sdk settings [] false false := .idle fun _ h ↦ (List.not_mem_nil h).elim
  unfold prepareX33PrintOrigin
  rcases require_function_cases client sdk.setPrintXYValue "SetPrintXYValue" with
    ⟨hrequired, hset⟩ | ⟨failed, hrequired, _⟩
  · rw [hrequired]
    refine .ite (fun hnot ↦ absurd hnot Bool.false_ne_true) fun _ ↦ ?_
    rcases require_function_cases client sdk.getPrintXYValue "GetPrintXYValue" with
      ⟨hrequired, _⟩ | ⟨failed, hrequired, _⟩
    · rw [hrequired]
      refine .ite (fun hnot ↦ absurd hnot Bool.false_ne_true) fun _ ↦ .call_bind ?_
      intro ⟨result, actualX, actualY⟩
      have hfirst : ∀ event ∈ ([⟨.getPrintXYValue, (result, actualX, actualY)⟩] : List SdkEvent),
          event.call = .getPrintXYValue ∨ event.call =
            .setPrintXYValue (requestedOrigin settings).1 (requestedOrigin settings).2 := by
        intro event hevent
        obtain rfl := List.mem_singleton.mp hevent
        exact Or.inl rfl
      have hfailed := Placed.requested hset hfirst
        fun (h : false = true) ↦ absurd h Bool.false_ne_true
      dsimp only
      rcases call_succeeded_cases client result "GetPrintXYValue" with
        ⟨reader, hcall, rfl⟩ | ⟨failed, hcall, _⟩
      · rw [hcall]
        refine .ite (fun hnot ↦ absurd hnot Bool.false_ne_true) fun _ ↦ .ite ?_ fun _ ↦ .call_bind ?_
        · intro hsame
          simp only [Bool.and_eq_true, beq_iff_eq] at hsame
          refine .pure (.requested hset hfirst fun _ ↦ ?_)
          rw [requestedOrigin, ← hsame.1.2, ← hsame.2]
          exact last_origin_read [] actualX actualY
        · intro stored
          have hsecond : ∀ event ∈ ([⟨.getPrintXYValue, (sySucceeded, actualX, actualY)⟩,
              ⟨.setPrintXYValue (requestedOrigin settings).1 (requestedOrigin settings).2,
                stored⟩] : List SdkEvent), event.call = .getPrintXYValue ∨ event.call =
              .setPrintXYValue (requestedOrigin settings).1 (requestedOrigin settings).2 := by
            intro event hevent
            rcases List.mem_cons.mp hevent with rfl | hevent
            · exact Or.inl rfl
            · obtain rfl := List.mem_singleton.mp hevent
              exact Or.inr rfl
          rcases call_succeeded_cases reader stored "SetPrintXYValue" with
            ⟨setter, hcall, rfl⟩ | ⟨failed, hcall, _⟩
          · rw [hcall]
            refine .ite (fun hnot ↦ absurd hnot Bool.false_ne_true) fun _ ↦ .call_bind ?_
            intro ⟨again, backX, backY⟩
            have hthird := fun event (hevent : event ∈ ([⟨.getPrintXYValue,
                (sySucceeded, actualX, actualY)⟩, ⟨.setPrintXYValue (requestedOrigin settings).1
                  (requestedOrigin settings).2, sySucceeded⟩] ++
                [⟨.getPrintXYValue, (again, backX, backY)⟩] : List SdkEvent)) ↦
              (List.mem_append.mp hevent).elim (hsecond event) fun hlast ↦
                Or.inl (congrArg Interaction.Event.call (List.mem_singleton.mp hlast))
            have hunread := Placed.requested hset hthird
              fun (h : false = true) ↦ absurd h Bool.false_ne_true
            dsimp only
            rcases call_succeeded_cases setter again
                "GetPrintXYValue after SetPrintXYValue" with
              ⟨checker, hcall, rfl⟩ | ⟨failed, hcall, _⟩
            · rw [hcall]
              refine .ite (fun hnot ↦ absurd hnot Bool.false_ne_true) fun _ ↦
                .ite ?_ fun _ ↦ .pure hunread
              intro hsame
              simp only [Bool.and_eq_true, beq_iff_eq] at hsame
              refine .pure (.requested hset hthird fun _ ↦ ?_)
              rw [requestedOrigin, ← hsame.1, ← hsame.2]
              exact last_origin_read [_, _] backX backY
            · rw [hcall]
              exact .pure hunread
          · rw [hcall]
            exact .pure (.requested hset hsecond fun h ↦ absurd h Bool.false_ne_true)
      · rw [hcall]
        exact .pure hfailed
    · rw [hrequired]
      exact .pure hidle
  · rw [hrequired]
    exact .pure hidle

/-- A job that goes no further has placed nothing. -/
theorem Placed.fail {sdk : Sdk} {settings : DirectPrintSettings} {trace : List SdkEvent}
    {originActive placed : Bool} (h : Placed sdk settings trace originActive placed) :
    Placed sdk settings trace originActive false where
  noLine := h.noLine
  armed := h.armed
  settable := h.settable
  active hplaced := absurd hplaced Bool.false_ne_true
  last hplaced := absurd hplaced Bool.false_ne_true

/-- Events that neither send lines nor concern the origin. -/
def Still (trace : List SdkEvent) : Prop :=
  ∀ event ∈ trace, event.call.kind ≠ .session ∧ event.call.kind ≠ .origin

theorem Still.nil : Still [] := fun _ hevent ↦ (List.not_mem_nil hevent).elim

theorem Still.append {first second : List SdkEvent} (hfirst : Still first)
    (hsecond : Still second) :
    Still (first ++ second) :=
  fun event hevent ↦ (List.mem_append.mp hevent).elim (hfirst event) (hsecond event)

/-- A program whose calls are of other kinds is still. -/
theorem Stays.still {α : Type} {kinds : List CallKind} {p : SdkProgram α} (h : Stays kinds p)
    (hsession : CallKind.session ∉ kinds) (horigin : CallKind.origin ∉ kinds) :
    Meets p fun trace _ ↦ Still trace :=
  Meets.mono h fun _ _ htrace event hevent ↦
    ⟨fun hkind ↦ hsession (hkind ▸ htrace event hevent),
      fun hkind ↦ horigin (hkind ▸ htrace event hevent)⟩

theorem Placed.still {sdk : Sdk} {settings : DirectPrintSettings} {trace : List SdkEvent}
    (h : Still trace) : Placed sdk settings trace false false :=
  .idle fun event hevent ↦
    ⟨not_session_no_line (h event hevent).1, (not_origin_still (h event hevent).2).1⟩

/-- What is placed stays so among still events. -/
theorem Placed.among {sdk : Sdk} {settings : DirectPrintSettings} {trace : List SdkEvent}
    {originActive placed : Bool} (h : Placed sdk settings trace originActive placed)
    {first second : List SdkEvent} (hfirst : Still first) (hsecond : Still second) :
    Placed sdk settings (first ++ (trace ++ second)) originActive placed where
  noLine event hevent := by
    rcases List.mem_append.mp hevent with hevent | hevent
    · exact not_session_no_line (hfirst event hevent).1
    · rcases List.mem_append.mp hevent with hevent | hevent
      · exact h.noLine event hevent
      · exact not_session_no_line (hsecond event hevent).1
  armed := fun ⟨event, hevent, hmoves⟩ ↦ by
    have hother : event.call.kind ≠ .origin → originActive = true := by
      intro hkind
      rw [(not_origin_still hkind).1] at hmoves
      exact absurd hmoves Bool.false_ne_true
    rcases List.mem_append.mp hevent with hevent | hevent
    · exact hother (hfirst event hevent).2
    · rcases List.mem_append.mp hevent with hevent | hevent
      · exact h.armed ⟨event, hevent, hmoves⟩
      · exact hother (hsecond event hevent).2
  settable := h.settable
  active := h.active
  last hplaced := by
    refine last_origin_append ?_
    rw [last_origin_before, h.last hplaced]
    exact List.filterMap_eq_nil_iff.mpr fun event hevent ↦
      (not_origin_still (hsecond event hevent).2).2

/-- `prepareJob` places the origin of an X-33 job, and leaves that of other jobs alone. -/
theorem prepare_job_placed (raster : DirectPrintRaster) (jobSettings : JobSettings) :
    Meets (prepareJob sdk client raster settings jobSettings) fun trace result ↦
      Placed sdk settings trace result.2.1
        (result.2.2 && decide (raster.format = .nocaiX33Standard)) := by
  unfold prepareJob
  generalize decide (raster.format = .nocaiX33Standard) = x33
  refine .bind ((prepare_media_height_stays sdk client _).still (by decide) (by decide)) ?_
  intro height ⟨client, ready⟩ hheight
  refine .ite (fun _ ↦ .pure (by rw [List.append_nil]; exact .still hheight)) fun _ ↦ ?_
  refine .bind ((store_settings_stays sdk client jobSettings x33).still (by decide) (by decide)) ?_
  intro stored ⟨client, kept⟩ hstored
  have hbefore := hheight.append hstored
  simp only [← List.append_assoc]
  refine .ite (fun _ ↦ .pure (by rw [List.append_nil]; exact .still hbefore)) fun _ ↦ ?_
  have hinit : ∀ answer, Still [⟨.initPrinter, answer⟩] := by
    intro answer event hevent
    obtain rfl := List.mem_singleton.mp hevent
    exact ⟨fun h ↦ CallKind.noConfusion h, fun h ↦ CallKind.noConfusion h⟩
  -- The origin is placed before the initialization on ARM, and after it elsewhere.
  cases harm : sdk.arm && x33 with
  | true =>
      obtain ⟨hplatform, rfl⟩ := Bool.and_eq_true_iff.mp harm
      refine .bind (.ite (fun _ ↦ prepare_x33_print_origin_placed sdk client settings)
        fun h ↦ absurd rfl h) ?_
      intro origin ⟨client, originActive, early⟩ horigin
      refine .ite (fun _ ↦ .pure (horigin.fail.among hbefore .nil)) fun hearly ↦ .call_bind ?_
      intro result
      have hplaced := horigin.among hbefore (hinit result)
      rcases call_succeeded_cases client result "InitPrinter" with
        ⟨ready, hcall, _⟩ | ⟨failed, hcall, _⟩
      · rw [hcall, hplatform]
        refine .pure ?_
        obtain rfl : early = true := by simpa using hearly
        exact hplaced
      · rw [hcall]
        exact .pure hplaced.fail
  | false =>
      refine .bind (P := fun trace result ↦ trace = [] ∧ result = (client, false, true))
        (.pure ⟨rfl, rfl⟩) ?_
      rintro origin ⟨client, originActive, early⟩ ⟨rfl, hresult⟩
      obtain ⟨rfl, rfl, rfl⟩ : _ ∧ _ ∧ _ := by simpa using hresult
      refine .call_bind ?_
      intro answered
      rcases call_succeeded_cases client answered "InitPrinter" with
        ⟨ready, hcall, _⟩ | ⟨failed, hcall, _⟩
      · rw [hcall]
        refine .ite (fun hnot ↦ absurd hnot Bool.false_ne_true) fun _ ↦ .ite ?_ ?_
        · intro hx33
          simp only [Bool.and_eq_true, Bool.not_eq_true'] at hx33
          obtain ⟨-, rfl⟩ := hx33
          refine (prepare_x33_print_origin_placed sdk ready settings).mono ?_
          intro trace result hplaced
          rw [Bool.and_true]
          have hamong := hplaced.among (hbefore.append (hinit answered)) .nil
          rw [List.append_nil, List.append_assoc] at hamong
          exact hamong
        · intro hother
          obtain rfl : x33 = false := by
            cases x33 with
            | false => rfl
            | true =>
                rw [Bool.and_true] at harm hother
                rw [harm] at hother
                exact absurd rfl hother
          exact .pure (Placed.still (hbefore.append (hinit answered)))
      · rw [hcall]
        exact .pure (Placed.still (hbefore.append (hinit answered)))

/-! ## Putting the origin back -/

/-- What putting the origin back does: nothing when it is not armed, and otherwise it writes zero
first and is done when zero was read back. -/
structure Restored (trace : List SdkEvent) (originActive restored : Bool) : Prop where
  idle : originActive = false → trace = []
  zero : originActive = true → ∃ stored rest, trace = ⟨.setPrintXYValue 0 0, stored⟩ :: rest
  still : ∀ event ∈ trace, event.isLine = false ∧ event.moves = false
  last : originActive = true → restored = true → lastOrigin trace = some (0, 0)

theorem reset_job_origin_restored {originActive : Bool}
    (hset : originActive = true → sdk.setPrintXYValue = true) (preserve : Bool) :
    Meets (resetJobOrigin sdk client originActive preserve) fun trace result ↦
      Restored trace originActive result.2 := by
  unfold resetJobOrigin
  cases originActive with
  | false =>
      refine .pure ⟨fun _ ↦ rfl, fun h ↦ absurd h Bool.false_ne_true, ?_, ?_⟩
      · exact fun _ hevent ↦ (List.not_mem_nil hevent).elim
      · exact fun h ↦ absurd h Bool.false_ne_true
  | true =>
      have hmark : ∀ (stored : Int32) (rest : List SdkEvent) (restored : Bool),
          (∀ event ∈ rest, event.isLine = false ∧ event.moves = false) →
          (restored = true → lastOrigin (⟨.setPrintXYValue 0 0, stored⟩ :: rest) = some (0, 0)) →
          Restored (⟨.setPrintXYValue 0 0, stored⟩ :: rest) true restored := by
        intro stored rest restored hrest hlast
        refine ⟨fun h ↦ Bool.noConfusion h, fun _ ↦ ⟨stored, rest, rfl⟩, ?_, fun _ ↦ hlast⟩
        intro event hevent
        rcases List.mem_cons.mp hevent with rfl | hevent
        · exact ⟨rfl, rfl⟩
        · exact hrest event hevent
      have hset' := hset rfl
      refine .bind (P := fun trace stored ↦ ∃ result,
        trace = [⟨.setPrintXYValue 0 0, result⟩] ∧ stored = (result == sySucceeded)) ?_ ?_
      · refine .ite (fun _ ↦ .call_bind ?_) fun hnot ↦ absurd hset' hnot
        intro result
        exact .pure ⟨result, rfl, rfl⟩
      · rintro _ _ ⟨stored, rfl, rfl⟩
        refine .bind (P := fun trace reset ↦
          Restored (⟨.setPrintXYValue 0 0, stored⟩ :: trace) true reset) ?_ ?_
        · refine .ite (fun _ ↦ .ite (fun _ ↦ .call_bind ?_) fun _ ↦ .pure ?_) fun _ ↦ .pure ?_
          · intro ⟨result, x, y⟩
            refine .pure (hmark _ _ _ ?_ ?_)
            · intro event hevent
              obtain rfl := List.mem_singleton.mp hevent
              exact ⟨rfl, rfl⟩
            · intro hread
              simp only [Bool.and_eq_true, beq_iff_eq] at hread
              obtain ⟨⟨rfl, rfl⟩, rfl⟩ := hread
              exact last_origin_read [_] 0 0
          · exact hmark _ _ _ (fun _ h ↦ (List.not_mem_nil h).elim) fun h ↦ Bool.noConfusion h
          · exact hmark _ _ _ (fun _ h ↦ (List.not_mem_nil h).elim) fun h ↦ Bool.noConfusion h
        · intro reading reset hrestored
          refine .ite (fun _ ↦ .pure ?_) fun _ ↦ .pure ?_
          · rw [List.append_nil]
            exact hrestored
          · rw [List.append_nil]
            exact hrestored

/-! ## A whole job -/

/-- Events of the session and its polls. -/
def Printing (trace : List SdkEvent) : Prop :=
  ∀ event ∈ trace, event.call.kind ∈ [CallKind.session, CallKind.poll]

theorem Printing.not_origin {trace : List SdkEvent} (h : Printing trace) {event : SdkEvent}
    (hevent : event ∈ trace) : event.call.kind ≠ .origin := by
  intro hkind
  have hprinting := h event hevent
  rw [hkind] at hprinting
  exact absurd hprinting (by decide)

/-- Nothing is put back when nothing was placed. -/
theorem Restored.none (restored : Bool) : Restored [] false restored :=
  ⟨fun _ ↦ rfl, fun h ↦ Bool.noConfusion h, fun _ h ↦ (List.not_mem_nil h).elim,
    fun h ↦ Bool.noConfusion h⟩

/-- How a job treats the origin after it was placed: it prints, and then either leaves the origin to
the cleanup and fails, or puts it back itself. -/
def PrintedThenRestored (originActive : Bool) (trace : List SdkEvent)
    (result : Client × Bool × Bool) : Prop :=
  ∃ printing restoring, trace = printing ++ restoring ∧ Printing printing ∧
    ((restoring = [] ∧ result.2.1 = originActive ∧ result.2.2 = false) ∨
      (result.2.1 = false ∧ Restored restoring originActive result.2.2))

/-- A session that ends before the origin is put back. -/
theorem PrintedThenRestored.stopped {originActive : Bool} {trace : List SdkEvent} (client : Client)
    (h : Printing trace) : PrintedThenRestored originActive trace (client, originActive, false) :=
  ⟨trace, [], (List.append_nil trace).symm, h, .inl ⟨rfl, rfl, rfl⟩⟩

/-- `printSession` sends lines, and touches the origin only after them. -/
theorem print_session_origin (source : LineSource) (property : PrintJobProperty)
    (lines : List PlaneLine) (planes : Nat) {originActive : Bool}
    (hset : originActive = true → sdk.setPrintXYValue = true) :
    Meets (printSession sdk client source property lines planes originActive)
      (PrintedThenRestored originActive) := by
  have hone : ∀ (call : SdkCall) (answer : call.Answer), call.kind = .session →
      Printing [⟨call, answer⟩] := by
    intro call answer hkind event hevent
    obtain rfl := List.mem_singleton.mp hevent
    show call.kind ∈ _
    rw [hkind]
    exact List.mem_cons_self
  have happend : ∀ {first second : List SdkEvent}, Printing first → Printing second →
      Printing (first ++ second) :=
    fun hfirst hsecond event hevent ↦
      (List.mem_append.mp hevent).elim (hfirst event) (hsecond event)
  refine .call_bind ?_
  intro started
  have hstart := hone (.startPrint property) started rfl
  rcases call_succeeded_cases client started "StartPrint" with
    ⟨sender, hcall, _⟩ | ⟨failed, hcall, _⟩
  · rw [hcall]
    refine .bind (send_lines_stays sdk sender source property.bytesPerLine planes lines) ?_
    intro sending ⟨sender, sent⟩ hsending
    have hsent := happend hstart hsending
    cases sent with
    | false =>
        refine .pure ?_
        rw [List.append_nil]
        exact PrintedThenRestored.stopped sender hsent
    | true =>
        refine .call_bind ?_
        intro ended
        have hended := happend hsent (hone .endPrint ended rfl)
        rcases call_succeeded_cases sender ended "EndPrint" with
          ⟨closer, hcall, _⟩ | ⟨failed, hcall, _⟩
        · rw [hcall]
          refine .call_bind ?_
          intro closed
          have hclosed := happend hended (hone .closePrint closed rfl)
          simp only [List.append_assoc, List.singleton_append] at hended hclosed
          rcases call_succeeded_cases closer closed "ClosePrint" with
            ⟨finisher, hcall, _⟩ | ⟨failed, hcall, _⟩
          · rw [hcall]
            refine .bind (reset_job_origin_restored sdk finisher hset false) ?_
            intro restoring ⟨finisher, reset⟩ hrestored
            refine .pure ⟨_, restoring, ?_, hclosed, .inr ⟨rfl, hrestored⟩⟩
            simp
          · rw [hcall]
            refine .pure (PrintedThenRestored.stopped failed ?_)
            exact hclosed
        · rw [hcall]
          refine .bind (abort_stays sdk) ?_
          intro aborting _ haborting
          refine .pure (PrintedThenRestored.stopped failed ?_)
          rw [List.append_nil]
          have hall := happend hended haborting
          simp only [List.append_assoc, List.singleton_append] at hall
          exact hall
  · rw [hcall]
    refine .call_bind ?_
    intro closed
    have hclosed := happend hstart (hone .closePrint closed rfl)
    exact .ite (fun _ ↦ .pure (PrintedThenRestored.stopped _ hclosed))
      fun _ ↦ .pure (PrintedThenRestored.stopped _ hclosed)

/-- The parts of a run of a job: still events, the placing, the printing and the putting back. -/
structure JobParts (sdk : Sdk) (raster : DirectPrintRaster) (settings : DirectPrintSettings)
    (trace : List SdkEvent) (result : Option Bool) where
  before : List SdkEvent
  placing : List SdkEvent
  printing : List SdkEvent
  restoring : List SdkEvent
  originActive : Bool
  placed : Bool
  restored : Bool
  split : trace = before ++ (placing ++ (printing ++ restoring))
  still : Still before
  places : Placed sdk settings placing originActive placed
  prints : Printing printing
  restores : Restored restoring originActive restored
  succeeds : result = some true → restored = true ∧
    (raster.format = .nocaiX33Standard → placed = true)

/-- A job that ends before it reaches the controller. -/
def JobParts.early (sdk : Sdk) (raster : DirectPrintRaster) (settings : DirectPrintSettings)
    {trace : List SdkEvent} (h : Still trace) {result : Option Bool} (hresult : result ≠ some true) :
    JobParts sdk raster settings trace result where
  before := trace
  placing := []
  printing := []
  restoring := []
  originActive := false
  placed := false
  restored := false
  split := (List.append_nil trace).symm
  still := h
  places := .still .nil
  prints := fun _ hevent ↦ (List.not_mem_nil hevent).elim
  restores := .none false
  succeeds hsuccess := absurd hsuccess hresult

/-- An event that moves the origin before it is put back was made while it was placed. -/
theorem JobParts.moves_armed {sdk : Sdk} {raster : DirectPrintRaster}
    {settings : DirectPrintSettings} {trace : List SdkEvent} {result : Option Bool}
    (parts : JobParts sdk raster settings trace result) {event : SdkEvent}
    (hevent : event ∈ parts.before ++ (parts.placing ++ parts.printing))
    (hmoves : event.moves = true) : parts.originActive = true := by
  have horigin : event.call.kind = .origin := by
    by_contra hkind
    exact Bool.noConfusion (hmoves.symm.trans (not_origin_still hkind).1)
  rcases List.mem_append.mp hevent with hbefore | hevent
  · exact absurd horigin (parts.still event hbefore).2
  · rcases List.mem_append.mp hevent with hplacing | hprinting
    · exact parts.places.armed ⟨event, hplacing, hmoves⟩
    · exact absurd horigin (parts.prints.not_origin hprinting)

theorem run_job_origin (raster : DirectPrintRaster) (spool : Option (Reader × Store String))
    (jobSettings : JobSettings) (property : PrintJobProperty) (packedLines : List (List Bytes)) :
    Meets (printPackedJob.runJob sdk raster settings spool jobSettings property packedLines client)
      fun trace result ↦ ∃ placing printing restoring originActive placed,
        trace = placing ++ (printing ++ restoring) ∧
        Placed sdk settings placing originActive placed ∧ Printing printing ∧
        ((restoring = [] ∧ result.2.1 = originActive ∧ result.2.2 = false) ∨
          (result.2.1 = false ∧ Restored restoring originActive result.2.2 ∧
            (raster.format = .nocaiX33Standard → placed = true))) := by
  refine .bind (prepare_job_placed sdk client settings raster jobSettings) ?_
  intro placing ⟨client, originActive, ready⟩ hplaced
  refine .ite (fun _ ↦ .pure ?_) fun hready ↦ ?_
  · rw [List.append_nil]
    exact ⟨placing, [], [], originActive, _, (List.append_nil placing).symm, hplaced,
      fun _ hevent ↦ (List.not_mem_nil hevent).elim, .inl ⟨rfl, rfl, rfl⟩⟩
  · refine (print_session_origin sdk client { packedLines, spool } property _ _
      hplaced.settable).mono ?_
    intro trace result ⟨printing, restoring, htrace, hprinting, hend⟩
    refine ⟨placing, printing, restoring, originActive, _, by rw [htrace], hplaced, hprinting, ?_⟩
    rcases hend with hstopped | ⟨hdone, hrestored⟩
    · exact .inl hstopped
    · refine .inr ⟨hdone, hrestored, fun hformat ↦ ?_⟩
      rw [Bool.not_eq_true, Bool.not_eq_false'] at hready
      rw [hready, Bool.true_and]
      exact decide_eq_true hformat

/-- Every run of a job has these parts. -/
theorem print_packed_job_parts (raster : DirectPrintRaster)
    (spool : Option (Reader × Store String)) :
    Meets (printPackedJob sdk client raster settings spool) fun trace result ↦
      Nonempty (JobParts sdk raster settings trace result.2) := by
  have hask : ∀ (call : SdkCall) (answer : call.Answer), call.kind = .lifecycle →
      Still [⟨call, answer⟩] := by
    intro call answer hkind event hevent
    obtain rfl := List.mem_singleton.mp hevent
    show call.kind ≠ _ ∧ call.kind ≠ _
    rw [hkind]
    exact ⟨by decide, by decide⟩
  have hfalse : some false ≠ some true := by decide
  have hnone : none ≠ some true := by decide
  unfold printPackedJob
  refine .call_bind ?_
  intro loaded
  have hloaded := hask .ensureLoaded loaded rfl
  cases loaded with
  | some message => exact .pure ⟨.early sdk raster settings hloaded hfalse⟩
  | none =>
      refine .ite (fun _ ↦ .pure ⟨.early sdk raster settings hloaded hfalse⟩) fun _ ↦ ?_
      cases jobBytesPerLine raster (raster.packedLines.getD []) with
      | none => exact .pure ⟨.early sdk raster settings hloaded hnone⟩
      | some bytesPerLine =>
          dsimp only
          cases jobProperty sdk raster settings bytesPerLine with
          | none => exact .pure ⟨.early sdk raster settings hloaded hfalse⟩
          | some property =>
              refine .bind ((connect_job_printer_stays sdk client settings).still (by decide)
                (by decide)) ?_
              intro connecting ⟨client, connected⟩ hconnecting
              have hconnected := hloaded.append hconnecting
              refine .ite (fun _ ↦ .pure ⟨.early sdk raster settings ?_ hfalse⟩) fun _ ↦ ?_
              · rw [List.append_nil]
                exact hconnected
              · refine .call_bind ?_
                intro entered
                have hentered := hconnected.append (hask .enterSdkDirectory entered rfl)
                cases entered with
                | some message =>
                    refine .pure ⟨.early sdk raster settings ?_ hfalse⟩
                    rw [List.append_assoc] at hentered
                    exact hentered
                | none =>
                    refine .bind (run_job_origin sdk client settings raster spool _ property _) ?_
                    intro running ⟨client, originActive, ok⟩
                    rintro ⟨placing, printing, restoring, armed, placed, rfl, hplaced, hprinting,
                      hend⟩
                    have hset : originActive = true → sdk.setPrintXYValue = true := by
                      intro hactive
                      rcases hend with ⟨_, harmed, _⟩ | ⟨hdone, _⟩
                      · exact hplaced.settable (harmed ▸ hactive)
                      · exact absurd (hdone.symm.trans hactive) (by decide)
                    refine .bind (reset_job_origin_restored sdk client hset true) ?_
                    intro resetting ⟨client, reset⟩ hrestored
                    refine .pure ?_
                    rw [List.append_nil]
                    rcases hend with ⟨rfl, harmed, hok⟩ | ⟨hdone, hput, hplaces⟩
                    · have hfailed : some ok = some true → reset = true ∧
                          (raster.format = .nocaiX33Standard → placed = true) := by
                        intro hsuccess
                        obtain rfl : ok = false := hok
                        exact absurd hsuccess hfalse
                      obtain rfl : originActive = armed := harmed
                      exact ⟨⟨_, placing, printing, resetting, originActive, placed, reset,
                        by simp, hentered, hplaced, hprinting, hrestored, hfailed⟩⟩
                    · obtain rfl : resetting = [] := hrestored.idle hdone
                      exact ⟨⟨_, placing, printing, restoring, armed, placed, ok, by simp, hentered,
                        hplaced, hprinting, hput, fun hsuccess ↦
                          ⟨Option.some.inj hsuccess, hplaces⟩⟩⟩

/-- A job undoes the origin it wrote, on every exit and after its last line, and a job that returns
true leaves the origin at zero. -/
theorem job_origin_restored (raster : DirectPrintRaster) (spool : Option (Reader × Store String))
    (trace : List SdkEvent) (after : Client) (result : Option Bool)
    (hrun : Runs (printPackedJob sdk client raster settings spool) trace (after, result)) :
    (∀ before x y stored rest, trace = before ++ ⟨.setPrintXYValue x y, stored⟩ :: rest →
      (x, y) ≠ (0, 0) →
      ∃ middle reset last, rest = middle ++ ⟨.setPrintXYValue 0 0, reset⟩ :: last ∧
        ∀ event ∈ last, event.isLine = false ∧ event.moves = false) ∧
    (raster.format = .nocaiX33Standard → result = some true → lastOrigin trace = some (0, 0)) := by
  obtain ⟨parts⟩ := print_packed_job_parts sdk client settings raster spool trace (after, result) hrun
  refine ⟨?_, ?_⟩
  · intro before x y stored rest hsplit hnonzero
    have hmoves : SdkEvent.moves ⟨.setPrintXYValue x y, stored⟩ = true := by
      rw [ne_eq, Prod.mk.injEq, not_and_or] at hnonzero
      show (x != 0 || y != 0) = true
      rw [Bool.or_eq_true, bne_iff_ne, bne_iff_ne]
      exact hnonzero
    have hnot_restoring : ⟨.setPrintXYValue x y, stored⟩ ∉ parts.restoring := fun hevent ↦
      Bool.noConfusion (hmoves.symm.trans (parts.restores.still _ hevent).2)
    have hparts : before ++ ⟨.setPrintXYValue x y, stored⟩ :: rest =
        (parts.before ++ (parts.placing ++ parts.printing)) ++ parts.restoring := by
      refine (hsplit.symm.trans parts.split).trans ?_
      simp only [List.append_assoc]
    rcases List.append_eq_append_iff.mp hparts with
      ⟨middle, hhead, htail⟩ | ⟨_, _, hrestoring⟩
    · cases middle with
      | nil =>
          rw [List.nil_append] at htail
          exact absurd (htail ▸ List.mem_cons_self) hnot_restoring
      | cons event middle =>
          obtain ⟨rfl, hrest⟩ := List.cons.inj htail
          obtain ⟨reset, last, hreset⟩ := parts.restores.zero (parts.moves_armed
            (hhead ▸ List.mem_append_right _ List.mem_cons_self) hmoves)
          refine ⟨middle, reset, last, by rw [hrest, hreset]; rfl, ?_⟩
          intro event hevent
          exact parts.restores.still event (hreset ▸ List.mem_cons_of_mem _ hevent)
    · exact absurd (hrestoring ▸ List.mem_append_right _ List.mem_cons_self) hnot_restoring
  · intro hformat hresult
    obtain ⟨hrestored, hplaces⟩ := parts.succeeds hresult
    have hplaced := hplaces hformat
    rw [parts.split]
    cases hactive : parts.originActive with
    | true =>
        have hlast := parts.restores.last hactive hrestored
        exact last_origin_append (last_origin_append (last_origin_append hlast))
    | false =>
        -- nothing was armed, so zero was requested, and read back while it was placed
        have hzero : requestedOrigin settings = (0, 0) := by
          by_contra hnonzero
          exact Bool.noConfusion (hactive.symm.trans ((parts.places.active hplaced).mpr hnonzero))
        have hprinting : parts.printing.filterMap originSeen = [] :=
          List.filterMap_eq_nil_iff.mpr fun event hevent ↦
            (not_origin_still (parts.prints.not_origin hevent)).2
        rw [parts.restores.idle hactive, List.append_nil]
        refine last_origin_append ?_
        rw [last_origin_before hprinting, parts.places.last hplaced, hzero]

/-- An X-33 raster of one row. -/
def oneRowX33Raster : DirectPrintRaster where
  packedLines := some [[[0x1b, 0, 0, 0]], [[0xe4, 0, 0, 0]], [[0x00, 0, 0, 0]], [[0xff, 0, 0, 0]]]
  channelOrder := [2, 1, 0, 3]
  width := 4
  height := 1
  xdpi := 720
  ydpi := 600
  bytesPerLine := 4
  format := .nocaiX33Standard
  canonicalHeader := NocaiPrnWriter.makeStandardX33Header 4 1 720 600 4 4

/-- A library on which every call succeeds, and which keeps the origin it was given. -/
def originKeepingSdk (history : List SdkEvent) : (call : SdkCall) → call.Answer
  | .ensureLoaded => none
  | .enterSdkDirectory => none
  | .discoveryPermission => none
  | .promiscuousReceive _ => none
  | .staleSocketLocks _ => none
  | .searchPrinter => (sySucceeded, ["X-33"])
  | .choosePrinter _ => sySucceeded
  | .connectPrinter => sySucceeded
  | .closeControlSocket => ()
  | .getPrintHeight => (sySucceeded, 0)
  | .setPrintHeight _ => sySucceeded
  | .setJobSettings _ => sySucceeded
  | .getPrintXYValue => (sySucceeded, (lastOrigin history).getD (0, 0))
  | .setPrintXYValue _ _ => sySucceeded
  | .initPrinter => sySucceeded
  | .startPrint _ => sySucceeded
  | .printALine _ size => size.toInt32
  | .endPrint => sySucceeded
  | .abortPrint => sySucceeded
  | .closePrint => sySucceeded
  | .getPrinterStatus => (sySucceeded, 0)
  | .cancelRequested => false
  | .processEvents => ()
  | .readSpoolLine _ _ => none
  | .function _ => sySucceeded

/-- On such a library a job moves the origin three millimeters, prints its four lines and puts the
origin back. -/
theorem job_origin_restored_three_millimeters :
    ∃ trace after,
      Runs (printPackedJob {} {} oneRowX33Raster { printOffsetXmm := 3 } none) trace
        (after, some true) ∧
      (trace.filter SdkEvent.isLine).length = 4 ∧
      trace.filterMap originSeen = [(0, 0), (300, 0), (300, 0), (0, 0), (0, 0)] ∧
      (∀ before x y stored rest, trace = before ++ ⟨.setPrintXYValue x y, stored⟩ :: rest →
        (x, y) ≠ (0, 0) →
        ∃ middle reset last, rest = middle ++ ⟨.setPrintXYValue 0 0, reset⟩ :: last ∧
          ∀ event ∈ last, SdkEvent.isLine event = false ∧ SdkEvent.moves event = false) ∧
      lastOrigin trace = some (0, 0) := by
  let job := printPackedJob {} {} oneRowX33Raster { printOffsetXmm := 3 } none
  obtain ⟨trace, htrace, hruns⟩ := run_runs originKeepingSdk job []
  have hresult : (job.run originKeepingSdk []).2.2 = some true := by decide +kernel
  have hseen : ((job.run originKeepingSdk []).1.filter SdkEvent.isLine).length = 4 ∧
      (job.run originKeepingSdk []).1.filterMap originSeen =
        [(0, 0), (300, 0), (300, 0), (0, 0), (0, 0)] := by
    decide +kernel
  rw [htrace, List.nil_append] at hseen
  generalize (job.run originKeepingSdk []).2 = outcome at hruns hresult
  obtain ⟨after, result⟩ := outcome
  obtain rfl : result = some true := hresult
  have hrestored := job_origin_restored {} {} { printOffsetXmm := 3 } oneRowX33Raster none trace
    after (some true) hruns
  exact ⟨trace, after, hruns, hseen.1, hseen.2, hrestored.1, hrestored.2 rfl rfl⟩

end PrintFlow.NocaiDirectPrintClient
