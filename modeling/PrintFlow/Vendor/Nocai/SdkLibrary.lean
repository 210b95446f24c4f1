import PrintFlow.Library.World
import PrintFlow.Vendor.Nocai.SdkCalls

/-!
# The vendor library of a client

`ensureLoaded` loads the vendor library when it is needed, and `unloadSdkSession` lets go of it and
of everything the client knew about its printers. The file system and the loader are the
environment.
-/

namespace PrintFlow.NocaiDirectPrintClient

open Interaction

/-- What loading and unloading the library asks of the process. -/
inductive LibraryCall where
  | resolveSdkRoot
  | libraryExists (path : String)
  | enterDirectory (path : String)
  | load
  | installCompatibility
  | resolveSymbols
  | unload
  | closeControlSocket

/-- The answers. `resolveSymbols` also says whether it found the close hook of the ARM library, and
`unload` whether the library is still loaded after it. -/
@[reducible] def LibraryCall.Answer : LibraryCall → Type
  | resolveSdkRoot => String
  | libraryExists _ => Bool
  | enterDirectory _ => Bool
  | load => Option String
  | installCompatibility => Option String
  | resolveSymbols => Option String × Bool
  | unload => Option String × Bool
  | closeControlSocket => Unit

/-- A program that concerns the library. -/
abbrev LibraryProgram (α : Type) := Program LibraryCall LibraryCall.Answer α

/-- An event of such a program. -/
abbrev LibraryEvent := Event LibraryCall LibraryCall.Answer

/-- Make one call of the process. -/
abbrev LibraryCall.ask (call : LibraryCall) : LibraryProgram call.Answer := Program.call call

/-- The members of the client that hold the library: whether `m_library` is loaded,
`m_symbolsResolved`, and whether `m_closeControlSocket` is set. -/
structure SdkLibrary where
  loaded : Bool := false
  symbolsResolved : Bool := false
  closeControlSocket : Bool := false
  deriving DecidableEq

/-- The path of the library under an SDK folder. -/
def sdkLibraryPath (root : String) : String := root ++ "/libSYPrintAPIforPROII.so"

/-- `ensureLoaded`: the library after it, and the last error of the client if it fails. -/
def ensureLoaded (library : SdkLibrary) (lastError : String) :
    LibraryProgram (SdkLibrary × Option String) := do
  if library.loaded then
    -- A library that is loaded without its symbols fails again, with the last error as it is.
    return (library, if library.symbolsResolved then none else some lastError)
  else
    let root ← LibraryCall.resolveSdkRoot.ask
    if root.isEmpty then return (library, some "Direct print SDK folder was not found.")
    else if !(← (LibraryCall.libraryExists (sdkLibraryPath root)).ask) then
      return (library, some ("Direct print SDK library is missing: " ++ sdkLibraryPath root))
    else if !(← (LibraryCall.enterDirectory root).ask) then
      return (library, some ("Failed to enter direct print SDK folder: " ++ root))
    else
      match ← LibraryCall.load.ask with
      | some message =>
        return (library, some ("Failed to load direct print SDK " ++ sdkLibraryPath root ++ ": " ++
          message))
      | none =>
        match ← LibraryCall.installCompatibility.ask with
        | some message =>
          let (_, loaded) ← LibraryCall.unload.ask
          return ({ library with loaded }, some message)
        | none =>
          match ← LibraryCall.resolveSymbols.ask with
          | (some message, closeControlSocket) =>
            let (_, loaded) ← LibraryCall.unload.ask
            return ({ loaded, symbolsResolved := false, closeControlSocket }, some message)
          | (none, closeControlSocket) =>
            return ({ loaded := true, symbolsResolved := true, closeControlSocket }, none)

/-- A client with its library and the settings that say where to look for it. -/
structure SdkSession where
  client : Client := {}
  library : SdkLibrary := {}
  sdkRootPath : String := ""
  autoDiscoverSdk : Bool := true

/-- `closeArmControlSocket`. -/
def closeArmControlSocket (arm : Bool) (session : SdkSession) :
    LibraryProgram (SdkSession × Bool) := do
  if !arm || !session.library.loaded || !session.library.closeControlSocket then
    return (session, false)
  else
    LibraryCall.closeControlSocket.ask
    return ({ session with
      client := { session.client with connected := false, selectedPrinterIndex := -1 } }, true)

/-- `unloadSdkSession`. -/
def unloadSdkSession (arm : Bool) (session : SdkSession) : LibraryProgram (SdkSession × Bool) := do
  let (session, _) ← closeArmControlSocket arm session
  let (error, loaded) ←
    (if session.library.loaded then LibraryCall.unload.ask else pure (none, false))
  let client :=
    { session.client with selectedPrinterIndex := -1, connected := false, printers := [] }
  let library := { loaded, symbolsResolved := false, closeControlSocket := false }
  match error with
  | some message =>
    return ({ session with
      client := client.setError ("Could not release the GUI direct-print SDK session before " ++
        "starting the isolated worker: " ++ message)
      library }, false)
  | none => return ({ session with client, library }, true)

/-- `setSdkRootPath`: also returns whether the session was let go. -/
def setSdkRootPath (arm : Bool) (session : SdkSession) (path : String) :
    LibraryProgram (SdkSession × Bool) := do
  let clean := trimmed path
  if session.sdkRootPath = clean then return (session, false)
  else
    let (session, _) ← unloadSdkSession arm { session with sdkRootPath := clean }
    return (session, true)

/-- `setAutoDiscoverSdk`: also returns whether the session was let go. -/
def setAutoDiscoverSdk (arm : Bool) (session : SdkSession) (enabled : Bool) :
    LibraryProgram (SdkSession × Bool) := do
  if session.autoDiscoverSdk = enabled then return (session, false)
  else
    let (session, _) ← unloadSdkSession arm { session with autoDiscoverSdk := enabled }
    return (session, true)

/-! ## What they leave behind -/

/-- Symbols are resolved in a loaded library only. -/
def SdkLibrary.Sound (library : SdkLibrary) : Prop :=
  library.symbolsResolved = true → library.loaded = true

/-- A library that is resolved stays as it is, without a call; another one is resolved afterwards
when loading it succeeded, and not otherwise. -/
theorem ensure_loaded_meets {library : SdkLibrary} (hsound : library.Sound) (lastError : String) :
    Meets (ensureLoaded library lastError) fun trace result ↦
      result.1.Sound ∧ (result.2 = none ↔ result.1.symbolsResolved = true) ∧
      (library.symbolsResolved = true → trace = [] ∧ result.1 = library) := by
  have hfails : ∀ {loaded hook : Bool} {message : String} {trace : List LibraryEvent},
      library.symbolsResolved = false →
      SdkLibrary.Sound ⟨loaded, false, hook⟩ ∧
        (some message = none ↔ (⟨loaded, false, hook⟩ : SdkLibrary).symbolsResolved = true) ∧
        (library.symbolsResolved = true → trace = [] ∧ ⟨loaded, false, hook⟩ = library) := by
    intro loaded hook message trace hno
    refine ⟨fun h ↦ Bool.noConfusion h, ⟨fun h ↦ absurd h (Option.some_ne_none _), fun h ↦ Bool.noConfusion h⟩, ?_⟩
    intro hyes
    exact Bool.noConfusion (hno.symm.trans hyes)
  obtain ⟨loaded, resolved, hook⟩ := library
  cases loaded with
  | true =>
      refine .pure ⟨hsound, ?_, fun _ ↦ ⟨rfl, rfl⟩⟩
      cases resolved with
      | true => exact ⟨fun _ ↦ rfl, fun _ ↦ rfl⟩
      | false => exact ⟨fun h ↦ absurd h (Option.some_ne_none _), fun h ↦ Bool.noConfusion h⟩
  | false =>
      obtain rfl : resolved = false := by
        cases resolved with
        | true => exact absurd (hsound rfl) Bool.false_ne_true
        | false => rfl
      unfold ensureLoaded
      refine .call_bind fun root ↦ .ite (fun _ ↦ .pure (hfails rfl)) fun _ ↦ .call_bind ?_
      intro exists_
      refine .ite (fun _ ↦ .pure (hfails rfl)) fun _ ↦ .call_bind ?_
      intro entered
      refine .ite (fun _ ↦ .pure (hfails rfl)) fun _ ↦ .call_bind ?_
      intro failed
      cases failed with
      | some message => exact .pure (hfails rfl)
      | none =>
          refine .call_bind ?_
          intro incompatible
          cases incompatible with
          | some message => exact .call_bind fun _ ↦ .pure (hfails rfl)
          | none =>
              refine .call_bind ?_
              intro ⟨unresolved, hook⟩
              cases unresolved with
              | some message => exact .call_bind fun _ ↦ .pure (hfails rfl)
              | none => exact .pure ⟨fun _ ↦ rfl, ⟨fun _ ↦ rfl, fun _ ↦ rfl⟩, fun h ↦ Bool.noConfusion h⟩

/-- A session that was let go knows no printer. -/
structure SdkSession.Released (session : SdkSession) : Prop where
  unresolved : session.library.symbolsResolved = false
  unselected : session.client.selectedPrinterIndex = -1
  disconnected : session.client.connected = false
  unknown : session.client.printers = []

theorem unload_sdk_session_released (arm : Bool) (session : SdkSession) :
    Meets (unloadSdkSession arm session) fun _ result ↦ result.1.Released := by
  refine .bind (P := fun _ _ ↦ True) (fun _ _ _ ↦ trivial) ?_
  intro _ ⟨closed, _⟩ _
  refine .bind (P := fun _ _ ↦ True) (fun _ _ _ ↦ trivial) ?_
  intro _ ⟨error, loaded⟩ _
  cases error with
  | some message => exact .pure ⟨rfl, rfl, rfl, rfl⟩
  | none => exact .pure ⟨rfl, rfl, rfl, rfl⟩

/-- Setting the SDK folder lets the session go or changes nothing. -/
theorem set_sdk_root_path_meets (arm : Bool) (session : SdkSession) (path : String) :
    Meets (setSdkRootPath arm session path) fun trace result ↦
      (result.2 = true ∧ result.1.Released) ∨
        (result.2 = false ∧ trace = [] ∧ result.1 = session) := by
  refine .ite (fun _ ↦ .pure (.inr ⟨rfl, rfl, rfl⟩)) fun _ ↦ ?_
  refine .bind (unload_sdk_session_released arm _) ?_
  intro _ ⟨after, _⟩ hreleased
  exact .pure (.inl ⟨rfl, hreleased⟩)

theorem set_auto_discover_sdk_meets (arm : Bool) (session : SdkSession) (enabled : Bool) :
    Meets (setAutoDiscoverSdk arm session enabled) fun trace result ↦
      (result.2 = true ∧ result.1.Released) ∨
        (result.2 = false ∧ trace = [] ∧ result.1 = session) := by
  refine .ite (fun _ ↦ .pure (.inr ⟨rfl, rfl, rfl⟩)) fun _ ↦ ?_
  refine .bind (unload_sdk_session_released arm _) ?_
  intro _ ⟨after, _⟩ hreleased
  exact .pure (.inl ⟨rfl, hreleased⟩)

end PrintFlow.NocaiDirectPrintClient
