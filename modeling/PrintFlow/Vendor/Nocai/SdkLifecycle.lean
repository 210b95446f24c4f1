import PrintFlow.Vendor.Nocai.PrintSession
import PrintFlow.Vendor.Nocai.SdkHistory

/-!
# The lifecycle of an SDK session

The members of a client never claim more than its history leaves standing, whatever operations it
runs and whatever they are answered. `sdk_session_lifecycle` says what follows for a connected
client and for every print that is started.
-/

namespace PrintFlow.NocaiDirectPrintClient

open Interaction RasterSpool FileStore

/-! ## The world of an operation -/

/-- The library and the history of a client, and the calls of the operation so far. -/
structure SdkWorld where
  library : SdkLibrary
  history : List HistoryEvent
  calls : List SdkEvent := []

/-- The world after a call of the vendor library. -/
def SdkWorld.record (world : SdkWorld) (event : SdkEvent) : SdkWorld where
  library := world.library
  history := world.history ++ [.sdk event]
  calls := world.calls ++ [event]

/-- How a call moves the world: `ensureLoaded` may load the library, and every other call is one of
the vendor library or the process. -/
def SdkStep (world : SdkWorld) (event : SdkEvent) (next : SdkWorld) : Prop :=
  match event with
  | ⟨.ensureLoaded, answer⟩ =>
    ∃ lastError loading library,
      Runs (ensureLoaded world.library lastError) loading (library, answer) ∧
      next = ⟨library, world.history ++ loading.map .library,
        world.calls ++ [⟨.ensureLoaded, answer⟩]⟩
  | event => next = world.record event

/-- What the client claims is no more than what its history leaves standing. -/
structure Tracked (arm : Bool) (client : Client) (world : SdkWorld) : Prop where
  sound : world.library.Sound
  idle : world.library.symbolsResolved = false →
    client.selectedPrinterIndex = -1 ∧ client.connected = false
  selected : 0 ≤ client.selectedPrinterIndex →
    (linkOf arm world.history).chosen = some client.selectedPrinterIndex
  connected : client.connected = true →
    0 ≤ client.selectedPrinterIndex ∧ (linkOf arm world.history).connected = true
  known : ∀ printer ∈ client.printers, 0 ≤ printer.1

namespace Tracked

variable {arm : Bool} {client : Client} {world : SdkWorld}

/-- Only what the client knows about the printers matters. -/
theorem same (h : Tracked arm client world) {other : Client}
    (hsame : other.session = client.session) : Tracked arm other world := by
  obtain ⟨hprinters, hselected, hconnected⟩ : _ ∧ _ ∧ _ := by
    simpa only [Client.session, Prod.mk.injEq] using hsame
  refine ⟨h.sound, ?_, ?_, ?_, hprinters ▸ h.known⟩
  · rw [hselected, hconnected]
    exact h.idle
  · rw [hselected]
    exact h.selected
  · rw [hselected, hconnected]
    exact h.connected

/-- A client that knows no printer claims nothing. -/
theorem forgotten (hsound : world.library.Sound) (hselected : client.selectedPrinterIndex = -1)
    (hconnected : client.connected = false) (hknown : ∀ printer ∈ client.printers, 0 ≤ printer.1) :
    Tracked arm client world where
  sound := hsound
  idle _ := ⟨hselected, hconnected⟩
  selected hnonneg := by
    rw [hselected] at hnonneg
    exact absurd hnonneg (by decide)
  connected h := absurd (hconnected.symm.trans h) Bool.false_ne_true
  known := hknown

/-- The library of a connected client is resolved. -/
theorem resolved (h : Tracked arm client world) (hconnected : client.connected = true) :
    world.library.symbolsResolved = true := by
  by_contra hresolved
  have hidle := h.idle (Bool.not_eq_true _ ▸ hresolved)
  exact Bool.false_ne_true (hidle.2.symm.trans hconnected)

/-- Loading the library when it is needed changes nothing a client claims, and it is resolved when
that succeeds. -/
theorem ensure_loaded (h : Tracked arm client world) {answer : Option String} {next : SdkWorld}
    (hstep : SdkStep world ⟨.ensureLoaded, answer⟩ next) :
    Tracked arm client next ∧ (answer = none → next.library.symbolsResolved = true) := by
  obtain ⟨lastError, loading, library, hruns, rfl⟩ := hstep
  obtain ⟨hsound, hanswer, hkept⟩ := ensure_loaded_meets h.sound lastError _ _ hruns
  refine ⟨?_, hanswer.mp⟩
  cases hresolved : world.library.symbolsResolved with
  | true =>
      obtain ⟨rfl, hlibrary⟩ := hkept hresolved
      dsimp only at hlibrary
      subst hlibrary
      refine ⟨h.sound, h.idle, ?_, ?_, h.known⟩
      · show _ → (linkOf arm (world.history ++ [])).chosen = _
        rw [List.append_nil]
        exact h.selected
      · show _ → _ ∧ (linkOf arm (world.history ++ [])).connected = true
        rw [List.append_nil]
        exact h.connected
  | false =>
      obtain ⟨hselected, hconnected⟩ := h.idle hresolved
      exact .forgotten hsound hselected hconnected h.known

/-- A call that leaves the link alone. -/
theorem record (h : Tracked arm client world) (event : SdkEvent)
    (hkeeps : ∀ link, Link.after arm link (.sdk event) = link) :
    Tracked arm client (world.record event) := by
  refine ⟨h.sound, h.idle, ?_, ?_, h.known⟩
  · show _ → (linkOf arm (world.history ++ [.sdk event])).chosen = _
    rw [link_of_append, hkeeps]
    exact h.selected
  · show _ → _ ∧ (linkOf arm (world.history ++ [.sdk event])).connected = true
    rw [link_of_append, hkeeps]
    exact h.connected

end Tracked

/-- Calls that leave the lifecycle alone leave the link alone. -/
theorem link_after_lasts (arm : Bool) {event : SdkEvent} (h : event.call.lasts = true)
    (link : Link) :
    Link.after arm link (.sdk event) = link := by
  obtain ⟨call, answer⟩ := event
  cases call with
  | ensureLoaded | searchPrinter | choosePrinter | connectPrinter | startPrint =>
      exact absurd h Bool.false_ne_true
  | _ =>
      cases arm <;> rfl

/-- Such calls only add to the history. -/
theorem sdk_step_lasts {world next : SdkWorld} {event : SdkEvent} (h : event.call.lasts = true)
    (hstep : SdkStep world event next) : next = world.record event := by
  obtain ⟨call, answer⟩ := event
  cases call with
  | ensureLoaded => exact absurd h Bool.false_ne_true
  | _ => exact hstep

/-- The world keeps the calls of the operation. -/
theorem calls_along {world next : SdkWorld} {trace : List SdkEvent}
    (h : Along SdkStep world trace next) : next.calls = world.calls ++ trace := by
  induction h with
  | nil world => exact (List.append_nil _).symm
  | @cons world event middle trace next hstep _ ih =>
      have hcalls : middle.calls = world.calls ++ [event] := by
        obtain ⟨call, answer⟩ := event
        cases call with
        | ensureLoaded =>
            obtain ⟨_, _, _, _, rfl⟩ := hstep
            rfl
        | _ =>
            obtain rfl := hstep
            rfl
      rw [ih, hcalls, List.append_assoc]
      rfl

/-- The printers of a search are numbered from zero on. -/
theorem found_printers_known (found : List String) (h : found.length ≤ maxPrinters) :
    ∀ printer ∈ found.zipIdx.map (fun (name, index) ↦ (Int32.ofNat index, trimmed name)),
      0 ≤ printer.1 := by
  intro printer hprinter
  obtain ⟨⟨name, index⟩, hindex, rfl⟩ := List.mem_map.mp hprinter
  have hlt : index < maxPrinters := Nat.lt_of_lt_of_le (List.snd_lt_of_mem_zipIdx hindex) h
  rw [maxPrinters] at hlt
  show 0 ≤ Int32.ofNat index
  rw [Int32.le_iff_toInt_le, Int32.toInt_ofNat_of_lt (by omega)]
  exact Int.natCast_nonneg index

/-! ## Finding and connecting the printer -/

/-- The search of a job, if it makes one. -/
def findPrinters (sdk : Sdk) (client : Client) : SdkProgram (Client × Bool) :=
  if !client.connected && client.printers.isEmpty then refreshPrinters sdk client
  else pure (client, true)

/-- A job prints to this printer: it is the one it picks after its search. -/
def PrintsTo (sdk : Sdk) (client : Client) (settings : DirectPrintSettings) (calls : List SdkEvent)
    (index : Int32) : Prop :=
  ∃ finding found others, calls = finding ++ others ∧
    Runs (findPrinters sdk client) finding (found, true) ∧ jobPrinterIndex found settings = some index

theorem PrintsTo.append {sdk : Sdk} {client : Client} {settings : DirectPrintSettings}
    {calls : List SdkEvent} {index : Int32} (h : PrintsTo sdk client settings calls index)
    (more : List SdkEvent) : PrintsTo sdk client settings (calls ++ more) index := by
  obtain ⟨finding, found, others, rfl, hruns, hindex⟩ := h
  exact ⟨finding, found, others ++ more, List.append_assoc .., hruns, hindex⟩

/-- A job never picks a negative index. -/
theorem job_printer_index_nonneg {arm : Bool} {client : Client} {world : SdkWorld}
    (h : Tracked arm client world) {settings : DirectPrintSettings}
    {index : Int32} (hindex : jobPrinterIndex client settings = some index) : 0 ≤ index := by
  unfold jobPrinterIndex at hindex
  split at hindex
  · next hrequested => exact Option.some.inj hindex ▸ hrequested
  · split at hindex
    · next hselected => exact Option.some.inj hindex ▸ hselected
    · split at hindex
      · next index name hprinters =>
          obtain rfl := Option.some.inj hindex
          exact h.known (index, name) (hprinters ▸ List.mem_singleton.mpr rfl)
      · exact absurd hindex.symm (Option.some_ne_none _)

section Connecting

variable {allowed : SdkWorld → SdkCall → Prop} {world : SdkWorld} (sdk : Sdk) (client : Client)
  (hallowed : ∀ world call, (∀ property, call ≠ .startPrint property) → allowed world call)

include hallowed

/-- A program that leaves the lifecycle alone keeps what is tracked. -/
theorem Lasting.safely {α : Type} {p : SdkProgram (Client × α)} (hp : Lasting (Same client) p)
    (h : Tracked sdk.arm client world) :
    Safely SdkStep allowed p (fun result next ↦ result.1.session = client.session ∧
      next.library = world.library ∧ Tracked sdk.arm result.1 next) world := by
  have hmeets : Meets p fun trace result ↦
      (∀ event ∈ trace, event.call.lasts = true) ∧ Same client result := hp
  refine Safely.mono (Safely.of_meets (fun call ↦ call.lasts = true)
    (fun next ↦ next.library = world.library ∧ Tracked sdk.arm client next) hmeets ?_ ?_
    ⟨rfl, h⟩) fun result next hend ↦ ⟨hend.1, hend.2.1, hend.2.2.same hend.1⟩
  · intro found call _ hlasts
    refine hallowed found call fun property hcall ↦ ?_
    rw [hcall] at hlasts
    exact Bool.false_ne_true hlasts
  · rintro before event after hlasts hstep ⟨hlibrary, htracked⟩
    obtain rfl := sdk_step_lasts hlasts hstep
    exact ⟨hlibrary, htracked.record event (link_after_lasts sdk.arm hlasts)⟩

theorem refresh_printers_safely (h : Tracked sdk.arm client world) :
    Safely SdkStep allowed (refreshPrinters sdk client)
      (fun result next ↦ Tracked sdk.arm result.1 next) world := by
  unfold refreshPrinters
  refine .call_bind (hallowed _ _ nofun) ?_
  intro loaded next hnext
  obtain ⟨h, -⟩ := h.ensure_loaded hnext
  cases loaded with
  | some message => exact .pure (h.same rfl)
  | none =>
      refine .call_bind (hallowed _ _ nofun) ?_
      rintro permission _ rfl
      have h := h.record ⟨.discoveryPermission, permission⟩ (link_after_lasts _ rfl)
      cases permission with
      | some message => exact .pure (h.same rfl)
      | none =>
          refine .ite (fun _ ↦ .pure (h.same rfl)) fun _ ↦ .call_bind (hallowed _ _ nofun) ?_
          rintro entered _ rfl
          cases entered with
          | some message => exact .pure (.forgotten h.sound rfl rfl nofun)
          | none =>
              refine .call_bind (hallowed _ _ nofun) ?_
              rintro ⟨result, names⟩ _ rfl
              have hsame := call_succeeded_same
                { client with selectedPrinterIndex := -1, connected := false } result "SearchPrinter"
              simp only [Client.session, Prod.mk.injEq] at hsame
              refine .pure (.forgotten h.sound hsame.2.1 hsame.2.2 (found_printers_known _ ?_))
              split
              · exact List.length_take_le ..
              · exact Nat.zero_le _

theorem choose_printer_safely (index : Int32) (h : Tracked sdk.arm client world) :
    Safely SdkStep allowed (choosePrinter client index) (fun result next ↦
      Tracked sdk.arm result.1 next ∧
      (result.2 = true → result.1.selectedPrinterIndex = index ∧
        next.library.symbolsResolved = true)) world := by
  have hno : ∀ {statement : Prop}, false = true → statement := fun h ↦ Bool.noConfusion h
  unfold choosePrinter
  refine .call_bind (hallowed _ _ (by rintro _ ⟨⟩)) ?_
  intro loaded next hnext
  obtain ⟨h, hresolved⟩ := h.ensure_loaded hnext
  cases loaded with
  | some message => exact .pure ⟨h.same rfl, hno⟩
  | none =>
      refine .ite (fun hsame ↦ .pure ⟨h, fun _ ↦ ⟨hsame.symm, hresolved rfl⟩⟩) fun _ ↦ ?_
      refine .call_bind (hallowed _ _ (by rintro _ ⟨⟩)) ?_
      rintro entered _ rfl
      have h := h.record ⟨.enterSdkDirectory, entered⟩ (link_after_lasts _ rfl)
      cases entered with
      | some message => exact .pure ⟨h.same rfl, hno⟩
      | none =>
          refine .call_bind (hallowed _ _ (by rintro _ ⟨⟩)) ?_
          rintro result _ rfl
          rcases call_succeeded_cases client result "ChoosePrinter" with
            ⟨after, hcall, rfl⟩ | ⟨failed, hcall, hfailed⟩
          · rw [hcall]
            refine .ite (fun _ ↦ .pure ⟨⟨h.sound, ?_, ?_, hno, ?_⟩,
              fun _ ↦ ⟨rfl, hresolved rfl⟩⟩) fun hnot ↦ absurd rfl hnot
            · exact fun hunresolved ↦ hno (hunresolved.symm.trans (hresolved rfl))
            · intro _
              show (linkOf _ (_ ++ [_])).chosen = _
              rw [link_of_append]
              rfl
            · have hsame := call_succeeded_same client sySucceeded "ChoosePrinter"
              rw [hcall, Client.session, Client.session, Prod.mk.injEq] at hsame
              exact hsame.1 ▸ h.known
          · have hsame := call_succeeded_same client result "ChoosePrinter"
            rw [hcall] at hsame ⊢
            refine .ite (fun hyes ↦ hno hyes) fun _ ↦ .pure ⟨?_, hno⟩
            refine (h.record _ fun link ↦ ?_).same hsame
            have hunchosen : (HistoryEvent.sdk ⟨.choosePrinter index, result⟩).chosen = none :=
              if_neg hfailed
            simp only [Link.after, hunchosen]
            cases sdk.arm <;> rfl

/-- A successful `ConnectPrinter` connects the printer that is chosen. -/
theorem call_connect_printer_safely (h : Tracked sdk.arm client world)
    (hselected : 0 ≤ client.selectedPrinterIndex)
    (hresolved : world.library.symbolsResolved = true) :
    Safely SdkStep allowed (callConnectPrinter client) (fun result next ↦
      next.library.Sound ∧ result.1.printers = client.printers ∧ (result.2 = true →
        result.1.selectedPrinterIndex = client.selectedPrinterIndex ∧
        Tracked sdk.arm { result.1 with connected := true } next)) world := by
  unfold callConnectPrinter
  refine .call_bind (hallowed _ _ nofun) ?_
  rintro entered _ rfl
  have h := h.record ⟨.enterSdkDirectory, entered⟩ (link_after_lasts _ rfl)
  cases entered with
  | some message => exact .pure ⟨h.sound, rfl, fun hno ↦ absurd hno Bool.false_ne_true⟩
  | none =>
      refine .call_bind (hallowed _ _ nofun) ?_
      rintro result _ rfl
      obtain ⟨hprinters, hafter, -⟩ : _ ∧ _ ∧ _ := by
        simpa only [Client.session, Prod.mk.injEq] using
          call_succeeded_same client result "ConnectPrinter"
      refine .pure ⟨h.sound, hprinters, fun hok ↦ ?_⟩
      rcases call_succeeded_cases client result "ConnectPrinter" with
        ⟨after, hcall, rfl⟩ | ⟨failed, hcall, _⟩
      · rw [hcall] at hprinters hafter ⊢
        dsimp only at hprinters hafter
        have hchosen := h.selected hselected
        refine ⟨hafter, h.sound, ?_, ?_, ?_, hprinters ▸ h.known⟩
        · exact fun hunresolved ↦ absurd (hunresolved.symm.trans hresolved) Bool.false_ne_true
        · intro _
          show (linkOf _ (_ ++ [_])).chosen = some after.selectedPrinterIndex
          rw [link_of_append, hafter, ← hchosen]
          rfl
        · refine fun _ ↦ ⟨hafter ▸ hselected, ?_⟩
          show (linkOf _ (_ ++ [_])).connected = true
          rw [link_of_append]
          show Option.isSome _ = true
          rw [hchosen]
          rfl
      · rw [hcall] at hok
        exact absurd hok Bool.false_ne_true

theorem open_session_safely (h : Tracked sdk.arm client world)
    (hselected : 0 ≤ client.selectedPrinterIndex)
    (hresolved : world.library.symbolsResolved = true) :
    Safely SdkStep allowed (openSession sdk client) (fun result next ↦
      Tracked sdk.arm result.1 next ∧ (result.2 = true → result.1.connected = true ∧
        result.1.selectedPrinterIndex = client.selectedPrinterIndex)) world := by
  have hno : ∀ {statement : Prop}, false = true → statement := fun h ↦ Bool.noConfusion h
  refine .bind (call_connect_printer_safely sdk client hallowed h hselected hresolved) ?_
  intro ⟨called, ok⟩ next ⟨hsound, hprinters, hconnects⟩
  have hknown : ∀ printer ∈ called.printers, 0 ≤ printer.1 := hprinters ▸ h.known
  refine .ite (fun hok ↦ ?_) fun _ ↦ .ite (fun _ ↦ ?_) fun _ ↦ ?_
  · obtain ⟨hkept, htracked⟩ := hconnects hok
    exact .pure ⟨htracked, fun _ ↦ ⟨rfl, hkept⟩⟩
  · refine .call_bind (hallowed _ _ nofun) ?_
    rintro _ _ rfl
    exact .pure ⟨.forgotten hsound rfl rfl hknown, hno⟩
  · exact .pure ⟨.forgotten hsound rfl rfl hknown, hno⟩

/-- The only known printer is one the client can choose. -/
theorem select_known_printer_safely (h : Tracked sdk.arm client world)
    (hresolved : world.library.symbolsResolved = true) :
    Safely SdkStep allowed (selectKnownPrinter client) (fun result next ↦
      Tracked sdk.arm result.1 next ∧ (result.2 = true →
        next.library.symbolsResolved = true ∧ 0 ≤ result.1.selectedPrinterIndex ∧
        (0 ≤ client.selectedPrinterIndex → result.1 = client))) world := by
  have hno : ∀ {statement : Prop}, false = true → statement := fun h ↦ Bool.noConfusion h
  refine .ite (fun hselected ↦ .pure ⟨h, fun _ ↦ ⟨hresolved, hselected, fun _ ↦ rfl⟩⟩) fun hnot ↦ ?_
  split
  · next onlyIndex name hprinters =>
      refine (choose_printer_safely sdk client hallowed onlyIndex h).mono ?_
      intro result next ⟨htracked, hchosen⟩
      refine ⟨htracked, fun hok ↦ ?_⟩
      obtain ⟨hindex, hresolved⟩ := hchosen hok
      have honly := h.known (onlyIndex, name) (hprinters ▸ List.mem_singleton.mpr rfl)
      exact ⟨hresolved, hindex ▸ honly, fun hselected ↦ absurd hselected hnot⟩
  · exact .pure ⟨h.same rfl, hno⟩
  · exact .pure ⟨h.same rfl, hno⟩

/-- A client that connects keeps the printer that was selected. -/
theorem connect_printer_safely (h : Tracked sdk.arm client world) :
    Safely SdkStep allowed (connectPrinter sdk client) (fun result next ↦
      Tracked sdk.arm result.1 next ∧ (result.2 = true → result.1.connected = true ∧
        (0 ≤ client.selectedPrinterIndex →
          result.1.selectedPrinterIndex = client.selectedPrinterIndex))) world := by
  have hno : ∀ {statement : Prop}, false = true → statement := fun h ↦ Bool.noConfusion h
  unfold connectPrinter
  refine .call_bind (hallowed _ _ nofun) ?_
  intro loaded next hnext
  obtain ⟨h, hresolved⟩ := h.ensure_loaded hnext
  cases loaded with
  | some message => exact .pure ⟨h.same rfl, hno⟩
  | none =>
      rcases require_function_cases client sdk.connectPrinter "ConnectPrinter" with
        ⟨hrequired, _⟩ | ⟨after, hrequired, _⟩
      · rw [hrequired]
        refine .ite (fun hnot ↦ hno hnot) fun _ ↦ .ite (fun hkeeps ↦ ?_) fun _ ↦ ?_
        · rw [Bool.and_eq_true] at hkeeps
          exact .pure ⟨h.same rfl, fun _ ↦ ⟨hkeeps.2, fun _ ↦ rfl⟩⟩
        · refine .bind (select_known_printer_safely sdk client hallowed h (hresolved rfl)) ?_
          intro ⟨selecting, selected⟩ next ⟨h, hselects⟩
          refine .ite (fun _ ↦ .pure ⟨h, hno⟩) fun hselected ↦ ?_
          rw [Bool.not_eq_true, Bool.not_eq_false'] at hselected
          obtain ⟨hresolved, hnonneg, hkept⟩ := hselects hselected
          refine .bind ((prepare_arm_socket_lasting sdk selecting).safely sdk _ hallowed h) ?_
          intro ⟨prepared, ready⟩ next ⟨hsame, hlibrary, h⟩
          refine .ite (fun _ ↦ .pure ⟨h, hno⟩) fun _ ↦ ?_
          obtain ⟨-, hsame, -⟩ : _ ∧ _ ∧ _ := by
            simpa only [Client.session, Prod.mk.injEq] using hsame
          refine (open_session_safely sdk prepared hallowed h (hsame ▸ hnonneg)
            (hlibrary ▸ hresolved)).mono ?_
          intro result final ⟨htracked, hopens⟩
          refine ⟨htracked, fun hok ↦ ⟨(hopens hok).1, fun hbefore ↦ ?_⟩⟩
          rw [(hopens hok).2, hsame]
          exact congrArg Client.selectedPrinterIndex (hkept hbefore)
      · have hsame := require_function_same client sdk.connectPrinter "ConnectPrinter"
        rw [hrequired] at hsame ⊢
        exact .ite (fun _ ↦ .pure ⟨h.same hsame, hno⟩) fun hnot ↦ absurd rfl hnot

/-- A job that has its printer connected has connected the one it prints to. -/
theorem connect_job_printer_safely (settings : DirectPrintSettings)
    (h : Tracked sdk.arm client world) :
    Safely SdkStep allowed (connectJobPrinter sdk client settings) (fun result next ↦
      Tracked sdk.arm result.1 next ∧ (result.2 = true → result.1.connected = true ∧
        ∃ calls, next.calls = world.calls ++ calls ∧
          PrintsTo sdk client settings calls result.1.selectedPrinterIndex)) world := by
  have hno : ∀ {statement : Prop}, false = true → statement := fun h ↦ Bool.noConfusion h
  have hfind : Safely SdkStep allowed (findPrinters sdk client)
      (fun result next ↦ Tracked sdk.arm result.1 next) world :=
    .ite (fun _ ↦ refresh_printers_safely sdk client hallowed h) fun _ ↦ .pure h
  unfold connectJobPrinter
  refine .bind hfind.with_run ?_
  rintro ⟨found, ok⟩ next ⟨h, finding, hfinding, halong⟩
  refine .ite (fun _ ↦ .pure ⟨h, hno⟩) fun hok ↦ ?_
  obtain rfl : ok = true := by rwa [Bool.not_eq_true, Bool.not_eq_false'] at hok
  have hcalls := calls_along halong
  cases hindex : jobPrinterIndex found settings with
  | none => exact .pure ⟨h.same rfl, hno⟩
  | some index =>
      have hnonneg := job_printer_index_nonneg h hindex
      have hchoose : Safely SdkStep allowed
          (if index ≠ found.selectedPrinterIndex then choosePrinter found index
            else pure (found, true)) (fun result next ↦ Tracked sdk.arm result.1 next ∧
              (result.2 = true → result.1.selectedPrinterIndex = index)) next := by
        refine .ite (fun _ ↦ ?_) fun hsame ↦ .pure ⟨h, fun _ ↦ (not_not.mp hsame).symm⟩
        refine (choose_printer_safely sdk found hallowed index h).mono ?_
        exact fun result _ hend ↦ ⟨hend.1, fun hchosen ↦ (hend.2 hchosen).1⟩
      have hconnect : Safely SdkStep allowed (do
          let choosing ←
            (if index ≠ found.selectedPrinterIndex then choosePrinter found index
              else pure (found, true))
          if !choosing.2 then return (choosing.1, false)
          else if !choosing.1.connected then connectPrinter sdk choosing.1
          else return (choosing.1, true)) (fun result next ↦ Tracked sdk.arm result.1 next ∧
            (result.2 = true → result.1.connected = true ∧
              result.1.selectedPrinterIndex = index)) next := by
        refine .bind hchoose ?_
        rintro ⟨choosing, chosen⟩ next ⟨h, hchosen⟩
        refine .ite (fun _ ↦ .pure ⟨h, hno⟩) fun hok ↦ .ite (fun _ ↦ ?_) fun hconnected ↦ ?_
        · rw [Bool.not_eq_true, Bool.not_eq_false'] at hok
          refine (connect_printer_safely sdk choosing hallowed h).mono ?_
          rintro result final ⟨htracked, hconnects⟩
          refine ⟨htracked, fun hdone ↦ ⟨(hconnects hdone).1, ?_⟩⟩
          rw [(hconnects hdone).2 (hchosen hok ▸ hnonneg), hchosen hok]
        · rw [Bool.not_eq_true, Bool.not_eq_false'] at hok hconnected
          exact .pure ⟨h, fun _ ↦ ⟨hconnected, hchosen hok⟩⟩
      refine hconnect.with_run.mono ?_
      rintro result final ⟨⟨htracked, hconnects⟩, others, _, halong⟩
      refine ⟨htracked, fun hok ↦ ⟨(hconnects hok).1, finding ++ others, ?_, ?_⟩⟩
      · rw [calls_along halong, hcalls, List.append_assoc]
      · rw [(hconnects hok).2]
        exact ⟨finding, found, others, rfl, hfinding, hindex⟩

end Connecting

/-! ## Jobs -/

section Jobs

variable {allowed : SdkWorld → SdkCall → Prop} {world : SdkWorld} (sdk : Sdk) (client : Client)

/-- After a start that succeeded, a session leaves the lifecycle alone. -/
theorem print_session_tail_lasting (source : LineSource) (property : PrintJobProperty)
    (lines : List PlaneLine) (planes : Nat) (originActive : Bool) :
    Lasting (Same client) (do
      let (client, sent) ← sendLines sdk source property.bytesPerLine planes lines client
      if !sent then return (client, originActive, false)
      else
        let ended ← ask .endPrint
        let (client, ok) := client.callSucceeded ended "EndPrint"
        if !ok then
          let _ ← abortActivePrintAndWaitForController sdk
          return (client, originActive, false)
        else
          let closed ← ask .closePrint
          let (client, ok) := client.callSucceeded closed "ClosePrint"
          if !ok then return (client, originActive, false)
          else
            let (client, reset) ← resetJobOrigin sdk client originActive false
            return (client, false, reset)) := by
  refine .bind (send_lines_lasting sdk client source _ planes lines) ?_
  intro ⟨sent, ok⟩ hsent
  refine .ite (.pure hsent) (.bind (.ask rfl) ?_)
  intro ended _
  have hended := (call_succeeded_same sent ended "EndPrint").trans hsent
  refine .ite (.bind (abort_lasting sdk) fun _ _ ↦ .pure hended) (.bind (.ask rfl) ?_)
  intro closed _
  have hclosed := (call_succeeded_same _ closed "ClosePrint").trans hended
  refine .ite (.pure hclosed) (.bind (reset_job_origin_lasting sdk _ originActive false) ?_)
  intro ⟨reset, done⟩ hreset
  exact .pure (Eq.trans hreset hclosed)

/-- A start that fails costs the connection, except on the ARM library. -/
theorem Tracked.start_failed (h : Tracked sdk.arm client world) (property : PrintJobProperty)
    {started : Int32} (hfailed : started ≠ sySucceeded) {other : Client}
    (hsame : other.session = client.session) :
    if sdk.arm then Tracked sdk.arm other (world.record ⟨.startPrint property, started⟩)
    else Tracked sdk.arm { other with connected := false }
      (world.record ⟨.startPrint property, started⟩) := by
  have hbne : (started != sySucceeded) = true := bne_iff_ne.mpr hfailed
  split
  · next harm =>
      refine (h.record _ fun link ↦ ?_).same hsame
      rw [harm]
      rfl
  · next harm =>
      rw [Bool.not_eq_true] at harm
      have h := h.same hsame
      refine ⟨h.sound, ?_, ?_, fun hno ↦ absurd hno Bool.false_ne_true, h.known⟩
      · exact fun hunresolved ↦ ⟨(h.idle hunresolved).1, rfl⟩
      · intro hselected
        have hlink := h.selected hselected
        show (linkOf _ (_ ++ [_])).chosen = _
        rw [link_of_append]
        generalize linkOf sdk.arm world.history = link at hlink
        rw [harm]
        show (if (started != sySucceeded) = true then { link with connected := false }
          else link : Link).chosen = _
        rw [if_pos hbne]
        exact hlink

variable (hallowed : ∀ world call, (∀ property, call ≠ .startPrint property) → allowed world call)

include hallowed

theorem print_session_safely (source : LineSource) (property : PrintJobProperty)
    (lines : List PlaneLine) (planes : Nat) (originActive : Bool)
    (hstart : allowed world (.startPrint property)) (h : Tracked sdk.arm client world) :
    Safely SdkStep allowed (printSession sdk client source property lines planes originActive)
      (fun result next ↦ Tracked sdk.arm result.1 next) world := by
  unfold printSession
  refine .call_bind hstart ?_
  rintro started _ rfl
  have hsame := call_succeeded_same client started "StartPrint"
  rcases call_succeeded_cases client started "StartPrint" with
    ⟨after, hcall, rfl⟩ | ⟨failed, hcall, hfailed⟩
  · rw [hcall] at hsame ⊢
    refine .ite (fun hnot ↦ absurd hnot Bool.false_ne_true) fun _ ↦ ?_
    have htracked : Tracked sdk.arm after
        (world.record ⟨.startPrint property, sySucceeded⟩) := by
      refine (h.record _ fun link ↦ ?_).same hsame
      cases sdk.arm <;> rfl
    have htail := print_session_tail_lasting sdk after source property lines planes originActive
    exact (htail.safely sdk after hallowed htracked).mono fun _ _ hend ↦ hend.2.2
  · rw [hcall] at hsame ⊢
    have htracked := h.start_failed sdk client property hfailed hsame
    refine .ite (fun _ ↦ .call_bind (hallowed _ _ nofun) ?_) fun hnot ↦ absurd rfl hnot
    rintro closed _ rfl
    refine .ite (fun harm ↦ .pure ?_) fun harm ↦ .pure ?_
    · rw [if_pos harm] at htracked
      exact (htracked.record _ (link_after_lasts _ rfl)).same rfl
    · rw [if_neg harm] at htracked
      exact htracked.record _ (link_after_lasts _ rfl)

omit hallowed in
/-- A connected client is connected to the printer it has selected. -/
theorem Tracked.connected_in (h : Tracked sdk.arm client world)
    (hconnected : client.connected = true) :
    ConnectedIn sdk.arm client.selectedPrinterIndex world.history := by
  obtain ⟨hselected, hlink⟩ := h.connected hconnected
  exact connected_in_of_link world.history (h.selected hselected) hlink

end Jobs

/-- A job starts a print only when the printer it prints to was chosen and connected. -/
def StartsConnected (sdk : Sdk) (client : Client) (settings : DirectPrintSettings)
    (world : SdkWorld) (call : SdkCall) : Prop :=
  ∀ property, call = .startPrint property → ∃ calls index,
    world.calls = ⟨.ensureLoaded, none⟩ :: calls ∧ PrintsTo sdk client settings calls index ∧
    ConnectedIn sdk.arm index world.history

theorem starts_connected_other (sdk : Sdk) (client : Client) (settings : DirectPrintSettings)
    (world : SdkWorld) (call : SdkCall) (h : ∀ property, call ≠ .startPrint property) :
    StartsConnected sdk client settings world call :=
  fun property hcall ↦ absurd hcall (h property)

section Job

variable {world : SdkWorld} (sdk : Sdk) (client : Client) (raster : DirectPrintRaster)
  (settings : DirectPrintSettings) (spool : Option (Reader × Store String))

/-- A job that has its printer connected prints to it. -/
theorem run_job_safely {found : Client} (jobSettings : JobSettings) (property : PrintJobProperty)
    (packedLines : List (List Bytes)) (h : Tracked sdk.arm found world)
    (hconnected : found.connected = true) {calls : List SdkEvent}
    (hcalls : world.calls = ⟨.ensureLoaded, none⟩ :: calls)
    (hprints : PrintsTo sdk client settings calls found.selectedPrinterIndex) :
    Safely SdkStep (StartsConnected sdk client settings)
      (printPackedJob.runJob sdk raster settings spool jobSettings property packedLines found)
      (fun result next ↦ Tracked sdk.arm result.1 next) world := by
  have hallowed := starts_connected_other sdk client settings
  have hprepare := (prepare_job_lasting sdk found settings raster jobSettings).safely sdk found
    hallowed h
  unfold printPackedJob.runJob
  refine .bind hprepare.with_run ?_
  intro ⟨prepared, originActive, ready⟩ next ⟨⟨hsame, _, h⟩, preparing, _, halong⟩
  refine .ite (fun _ ↦ .pure h) fun _ ↦ ?_
  obtain ⟨-, hselected, hstill⟩ : _ ∧ _ ∧ _ := by
    simpa only [Client.session, Prod.mk.injEq] using hsame
  refine print_session_safely sdk prepared hallowed _ property _ _ originActive ?_ h
  intro _ _
  refine ⟨calls ++ preparing, found.selectedPrinterIndex, ?_, hprints.append preparing, ?_⟩
  · rw [calls_along halong, hcalls]
    rfl
  · exact hselected ▸ h.connected_in sdk prepared (hstill.trans hconnected)

/-- A job keeps what is tracked, and starts its print connected. -/
theorem print_packed_job_safely (h : Tracked sdk.arm client world) (hcalls : world.calls = []) :
    Safely SdkStep (StartsConnected sdk client settings)
      (printPackedJob sdk client raster settings spool)
      (fun result next ↦ Tracked sdk.arm result.1 next) world := by
  have hallowed := starts_connected_other sdk client settings
  unfold printPackedJob
  refine .call_bind (hallowed _ _ nofun) ?_
  intro loaded next hnext
  have hfirst := calls_along (.cons hnext (.nil next))
  obtain ⟨h, -⟩ := h.ensure_loaded hnext
  cases loaded with
  | some message => exact .pure (h.same rfl)
  | none =>
      refine .ite (fun _ ↦ .pure (h.same rfl)) fun _ ↦ ?_
      cases jobBytesPerLine raster (raster.packedLines.getD []) with
      | none => exact .pure h
      | some bytesPerLine =>
          dsimp only
          cases jobProperty sdk raster settings bytesPerLine with
          | none => exact .pure (h.same rfl)
          | some property =>
              refine .bind (connect_job_printer_safely sdk client hallowed settings h) ?_
              intro ⟨found, connected⟩ middle ⟨h, hconnects⟩
              refine .ite (fun _ ↦ .pure h) fun hok ↦ .call_bind (hallowed _ _ nofun) ?_
              rw [Bool.not_eq_true, Bool.not_eq_false'] at hok
              obtain ⟨hconnected, calls, hmiddle, hprints⟩ := hconnects hok
              rintro entered _ rfl
              have h := h.record ⟨.enterSdkDirectory, entered⟩ (link_after_lasts _ rfl)
              cases entered with
              | some message => exact .pure (h.same rfl)
              | none =>
                  have hprinted : (middle.record ⟨.enterSdkDirectory, none⟩).calls =
                      ⟨.ensureLoaded, none⟩ :: (calls ++ [⟨.enterSdkDirectory, none⟩]) := by
                    show middle.calls ++ _ = _
                    rw [hmiddle, hfirst, hcalls]
                    rfl
                  refine .bind (run_job_safely sdk client raster settings spool _ property _ h
                    hconnected hprinted (hprints.append _)) ?_
                  intro ⟨printed, originActive, ok⟩ last h
                  refine .bind ((reset_job_origin_lasting sdk printed originActive true).safely
                    sdk printed hallowed h) ?_
                  intro ⟨reset, _⟩ final ⟨_, _, h⟩
                  exact .pure h

end Job

/-! ## Sequences of operations -/

/-- The operations that call the vendor library. A job may print a raster or an open spool. -/
inductive Operation where
  | refreshPrinters
  | choosePrinter (index : Int32)
  | connectPrinter
  | printPackedJob (raster : DirectPrintRaster) (settings : DirectPrintSettings)
      (spool : Option (Reader × Store String))

/-- The program of an operation. -/
def Operation.program (sdk : Sdk) (client : Client) : Operation → SdkProgram Client
  | .refreshPrinters => do return (← NocaiDirectPrintClient.refreshPrinters sdk client).1
  | .choosePrinter index => do return (← NocaiDirectPrintClient.choosePrinter client index).1
  | .connectPrinter => do return (← NocaiDirectPrintClient.connectPrinter sdk client).1
  | .printPackedJob raster settings spool => do
    return (← NocaiDirectPrintClient.printPackedJob sdk client raster settings spool).1

/-- One operation on a session, with the history it makes. -/
inductive SessionStep (arm : Bool) :
    SdkSession → List HistoryEvent → SdkSession → List HistoryEvent → Prop where
  | operation {session history trace client world} (operation : Operation) (sdk : Sdk) :
      sdk.arm = arm → Runs (operation.program sdk session.client) trace client →
      Along SdkStep ⟨session.library, history, []⟩ trace world →
      SessionStep arm session history { session with client, library := world.library } world.history
  | resetSdkSession {session history trace after released} :
      Runs (unloadSdkSession arm session) trace (after, released) →
      SessionStep arm session history after (history ++ .reset :: trace.map .library)
  | setSdkRootPath {session history trace after changed} (path : String) :
      Runs (setSdkRootPath arm session path) trace (after, changed) →
      SessionStep arm session history after
        (if changed then history ++ .reset :: trace.map .library else history)
  | setAutoDiscoverSdk {session history trace after changed} (enabled : Bool) :
      Runs (setAutoDiscoverSdk arm session enabled) trace (after, changed) →
      SessionStep arm session history after
        (if changed then history ++ .reset :: trace.map .library else history)

/-- A session that some sequence of operations leads to, with its history. -/
inductive ReachedSession (arm : Bool) : SdkSession → List HistoryEvent → Prop where
  | start (sdkRootPath : String) (autoDiscoverSdk : Bool) :
      ReachedSession arm { sdkRootPath, autoDiscoverSdk } []
  | step {session history after next} : ReachedSession arm session history →
      SessionStep arm session history after next → ReachedSession arm after next

/-- Nothing is claimed after a session was let go. -/
theorem SdkSession.Released.tracked {arm : Bool} {session : SdkSession} (h : session.Released)
    (history : List HistoryEvent) :
    Tracked arm session.client ⟨session.library, history, []⟩ := by
  refine .forgotten (fun hresolved ↦ ?_) h.unselected h.disconnected (h.unknown ▸ nofun)
  exact absurd (h.unresolved.symm.trans hresolved) Bool.false_ne_true

/-- The calls of an operation are of no concern after it. -/
theorem Tracked.finished {arm : Bool} {client : Client} {world : SdkWorld}
    (h : Tracked arm client world) : Tracked arm client ⟨world.library, world.history, []⟩ :=
  ⟨h.sound, h.idle, h.selected, h.connected, h.known⟩

/-- Every operation keeps what is tracked. -/
theorem operation_safely {world : SdkWorld} (sdk : Sdk) (client : Client) (operation : Operation)
    (h : Tracked sdk.arm client world) (hcalls : world.calls = []) :
    ∃ allowed, Safely SdkStep allowed (operation.program sdk client)
      (fun result next ↦ Tracked sdk.arm result next) world := by
  have hallowed : ∀ (_ : SdkWorld) (call : SdkCall),
      (∀ property, call ≠ .startPrint property) → True := fun _ _ _ ↦ trivial
  cases operation with
  | refreshPrinters =>
      refine ⟨fun _ _ ↦ True, .bind (refresh_printers_safely sdk client hallowed h) ?_⟩
      exact fun result next hend ↦ .pure hend
  | choosePrinter index =>
      refine ⟨fun _ _ ↦ True, .bind (choose_printer_safely sdk client hallowed index h) ?_⟩
      exact fun result next hend ↦ .pure hend.1
  | connectPrinter =>
      refine ⟨fun _ _ ↦ True, .bind (connect_printer_safely sdk client hallowed h) ?_⟩
      exact fun result next hend ↦ .pure hend.1
  | printPackedJob raster settings spool =>
      refine ⟨_, .bind (print_packed_job_safely sdk client raster settings spool h hcalls) ?_⟩
      exact fun result next hend ↦ .pure hend

/-- What a client claims in a reached session is what its history leaves standing. -/
theorem reached_session_tracked {arm : Bool} {session : SdkSession} {history : List HistoryEvent}
    (h : ReachedSession arm session history) :
    Tracked arm session.client ⟨session.library, history, []⟩ := by
  -- Every way out of a session releases the library or ends an operation that is tracked.
  induction h with
  | start sdkRootPath autoDiscoverSdk =>
      exact .forgotten (fun h ↦ absurd h Bool.false_ne_true) rfl rfl nofun
  | step _ hstep ih =>
      cases hstep with
      | operation operation sdk harm hruns halong =>
          subst harm
          obtain ⟨_, hsafely⟩ := operation_safely sdk _ operation ih rfl
          exact ((hsafely _ _ hruns).2 _ halong).finished
      | resetSdkSession hruns =>
          exact (unload_sdk_session_released arm _ _ _ hruns).tracked _
      | setSdkRootPath path hruns =>
          rcases set_sdk_root_path_meets arm _ path _ _ hruns with
            ⟨_, hreleased⟩ | ⟨hchanged, _, hsame⟩
          · exact hreleased.tracked _
          · dsimp only at hchanged hsame
            subst hchanged hsame
            exact ih
      | setAutoDiscoverSdk enabled hruns =>
          rcases set_auto_discover_sdk_meets arm _ enabled _ _ hruns with
            ⟨_, hreleased⟩ | ⟨hchanged, _, hsame⟩
          · exact hreleased.tracked _
          · dsimp only at hchanged hsame
            subst hchanged hsame
            exact ih

/-- In every session that operations lead to, a connected client has its library loaded and
resolved, and has selected the printer that was chosen last; and every job starts its print only
after the printer it prints to was chosen and connected, with nothing in between that undoes it. -/
theorem sdk_session_lifecycle (arm : Bool) (session : SdkSession) (history : List HistoryEvent)
    (h : ReachedSession arm session history) :
    (session.client.connected = true →
      session.library.loaded = true ∧ session.library.symbolsResolved = true ∧
      0 ≤ session.client.selectedPrinterIndex ∧
      (history.filterMap HistoryEvent.chosen).getLast? =
        some session.client.selectedPrinterIndex) ∧
    ∀ sdk raster settings spool trace result, sdk.arm = arm →
      Runs (printPackedJob sdk session.client raster settings spool) trace result →
      ∀ before property answer rest world,
        trace = before ++ ⟨.startPrint property, answer⟩ :: rest →
        Along SdkStep ⟨session.library, history, []⟩ before world →
        ∃ calls index, before = ⟨.ensureLoaded, none⟩ :: calls ∧
          PrintsTo sdk session.client settings calls index ∧
          ConnectedIn arm index world.history := by
  -- Both parts read off the invariant: the first in the reached state, the second before
  -- `StartPrint`.
  have htracked := reached_session_tracked h
  refine ⟨fun hconnected ↦ ?_, ?_⟩
  · obtain ⟨hselected, _⟩ := htracked.connected hconnected
    have hresolved := htracked.resolved hconnected
    exact ⟨htracked.sound hresolved, hresolved, hselected,
      (chosen_in_of_link history (htracked.selected hselected)).last⟩
  · intro sdk raster settings spool trace result harm hruns before property answer rest world hsplit
      halong
    subst harm
    have hsafely := print_packed_job_safely sdk session.client raster settings spool htracked rfl
    obtain ⟨calls, index, hcalls, hprints, hconnected⟩ :=
      (hsafely trace result hruns).1 before _ rest hsplit world halong property rfl
    rw [calls_along halong] at hcalls
    exact ⟨calls, index, hcalls, hprints, hconnected⟩

/-- A process in which the library loads. -/
def obligingLoader (_ : List LibraryEvent) : (call : LibraryCall) → call.Answer
  | .resolveSdkRoot => "/opt/sdk"
  | .libraryExists _ => true
  | .enterDirectory _ => true
  | .load => none
  | .installCompatibility => none
  | .resolveSymbols => (none, true)
  | .unload => (none, false)
  | .closeControlSocket => ()

/-- An event at which the library does not fail to load. -/
def loadsWell : SdkEvent → Bool
  | ⟨.ensureLoaded, answer⟩ => answer.isNone
  | _ => true

/-- An event that starts a print. -/
def startsPrint : SdkEvent → Bool
  | ⟨.startPrint _, _⟩ => true
  | _ => false

/-- In such a process every call finds a world. -/
theorem obliging_along {trace : List SdkEvent}
    (hloads : trace.all loadsWell = true) (world : SdkWorld)
    (hworld : world.library = {} ∨ world.library = ⟨true, true, true⟩) :
    ∃ next, Along SdkStep world trace next ∧
      (next.library = {} ∨ next.library = ⟨true, true, true⟩) := by
  -- The library is as it was at the start or wholly loaded, whatever the trace has done before.
  induction trace generalizing world with
  | nil => exact ⟨world, .nil world, hworld⟩
  | cons event trace ih =>
      rw [List.all_cons, Bool.and_eq_true] at hloads
      obtain ⟨hevent, htrace⟩ := hloads
      have hstep : ∃ middle, SdkStep world event middle ∧
          (middle.library = {} ∨ middle.library = ⟨true, true, true⟩) := by
        obtain ⟨call, answer⟩ := event
        cases call with
        | ensureLoaded =>
            obtain rfl := Option.isNone_iff_eq_none.mp hevent
            rcases hworld with hworld | hworld
            · obtain ⟨loading, _, hruns⟩ := run_runs obligingLoader (ensureLoaded {} "") []
              exact ⟨⟨⟨true, true, true⟩, _, _⟩, ⟨"", loading, _, hworld ▸ hruns, rfl⟩, .inr rfl⟩
            · have hruns : Runs (ensureLoaded ⟨true, true, true⟩ "") [] (⟨true, true, true⟩, none) :=
                .done _
              exact ⟨⟨⟨true, true, true⟩, _, _⟩, ⟨"", [], _, hworld ▸ hruns, rfl⟩, .inr rfl⟩
        | _ => exact ⟨_, rfl, hworld⟩
      obtain ⟨middle, hmiddle, hlibrary⟩ := hstep
      obtain ⟨next, halong, hnext⟩ := ih htrace middle hlibrary
      exact ⟨next, .cons hmiddle halong, hnext⟩

/-- The first job of a client finds its printer, connects it and starts its print there; after the
job the client is still connected. -/
theorem sdk_session_lifecycle_first_job :
    ∃ session history trace after before property answer rest,
      ReachedSession false {} [] ∧ ReachedSession false session history ∧
      Runs (printPackedJob {} {} twoPlaneRaster {} none) trace (after, some true) ∧
      trace = before ++ ⟨.startPrint property, answer⟩ :: rest ∧
      (∀ world, Along SdkStep ⟨{}, [], []⟩ before world → ∃ calls index,
        before = ⟨.ensureLoaded, none⟩ :: calls ∧ PrintsTo {} {} {} calls index ∧
        ConnectedIn false index world.history) ∧
      session.client.connected = true ∧ session.client.selectedPrinterIndex = 0 ∧
      session.library.loaded = true ∧ session.library.symbolsResolved = true ∧
      (history.filterMap HistoryEvent.chosen).getLast? = some 0 := by
  let job := printPackedJob {} {} twoPlaneRaster {} none
  have hstart : ReachedSession false {} [] := .start "" true
  have hloads : (job.run obligingSdk []).1.all loadsWell = true := by decide +kernel
  have hresult : (job.run obligingSdk []).2.1.connected = true ∧
      (job.run obligingSdk []).2.1.selectedPrinterIndex = 0 ∧
      (job.run obligingSdk []).2.2 = some true := by decide +kernel
  have hstarts : (job.run obligingSdk []).1.any startsPrint = true := by decide +kernel
  obtain ⟨trace, htrace, hruns⟩ := run_runs obligingSdk job []
  rw [htrace, List.nil_append] at hloads hstarts
  generalize (job.run obligingSdk []).2 = outcome at hruns hresult
  obtain ⟨after, result⟩ := outcome
  obtain ⟨hconnected, hselected, rfl⟩ := hresult
  obtain ⟨world, halong, _⟩ := obliging_along hloads ⟨{}, [], []⟩ (.inl rfl)
  have hprogram : Runs (Operation.program {} {} (.printPackedJob twoPlaneRaster {} none)) trace
      after := runs_bind.mpr ⟨trace, [], _, (List.append_nil trace).symm, hruns, .done after⟩
  have hreached := hstart.step (.operation (.printPackedJob twoPlaneRaster {} none) {} rfl hprogram
    halong)
  obtain ⟨⟨call, answer⟩, hevent, hcall⟩ := List.any_eq_true.mp hstarts
  obtain ⟨property, rfl⟩ : ∃ property, call = .startPrint property := by
    cases call with
    | startPrint property => exact ⟨property, rfl⟩
    | _ => exact absurd hcall Bool.false_ne_true
  obtain ⟨before, rest, hsplit⟩ := List.append_of_mem hevent
  obtain ⟨hloaded, hresolved, _, hlast⟩ := (sdk_session_lifecycle false _ _ hreached).1 hconnected
  rw [hselected] at hlast
  refine ⟨_, _, trace, after, before, property, answer, rest, hstart, hreached, hruns, hsplit, ?_,
    hconnected, hselected, hloaded, hresolved, hlast⟩
  intro world halong
  exact (sdk_session_lifecycle false _ _ hstart).2 {} twoPlaneRaster {} none trace _ rfl hruns
    before property answer rest world hsplit halong

end PrintFlow.NocaiDirectPrintClient
