import PrintFlow.Vendor.Nocai.SdkLifecycle

/-!
# Operations beside the jobs

The client asks for the state of the printer, pauses, continues and aborts a print, and runs
maintenance actions. Each of them loads the library when that is needed and calls functions of it;
the values they read are left out. `execute_maintenance_action_safely`: whatever action is run, the
client still claims no more than what its history leaves standing.
-/

namespace PrintFlow.NocaiDirectPrintClient

open FloatFormat Interaction

/-- `clampInt`. -/
def clampInt (value low high : Int32) : Int32 :=
  Int32.ofInt (clamp value.toInt low.toInt high.toInt)

/-! ## The shapes of the operations -/

/-- An operation that needs the library. -/
def whenLoaded (client : Client) (operation : SdkProgram (Client × Bool)) :
    SdkProgram (Client × Bool) := do
  match ← ask .ensureLoaded with
  | some message => return (client.setError message, false)
  | none => operation

/-- An operation that needs a function of the library. -/
def whenExported (client : Client) (available : Bool) (functionName : String)
    (operation : Client → SdkProgram (Client × Bool)) : SdkProgram (Client × Bool) :=
  let (client, available) := client.requireFunction available functionName
  if !available then return (client, false) else operation client

/-- An operation that is the call of an optional function. -/
def callFunction (sdk : Sdk) (client : Client) (function : SdkFunction) :
    SdkProgram (Client × Bool) :=
  whenLoaded client <|
    whenExported client (sdk.exports function.name) function.name fun client ↦ do
      let result ← ask (.function function)
      return client.callSucceeded result function.name

/-- An operation that is the call of a function every library has. -/
def callRequired (client : Client) (function : SdkFunction) : SdkProgram (Client × Bool) :=
  whenLoaded client do
    let result ← ask (.function function)
    return client.callSucceeded result function.name

/-! ## The state of the printer and its print -/

/-- `isAvailable`. -/
def isAvailable (client : Client) : SdkProgram (Client × Bool) :=
  whenLoaded client (pure (client, true))

/-- `getPrinterStatus`. -/
def getPrinterStatus (sdk : Sdk) (client : Client) : SdkProgram (Client × Bool) :=
  whenLoaded client <| whenExported client sdk.getPrinterStatus "GetPrinterStatus" fun client ↦ do
    let (result, _) ← ask .getPrinterStatus
    return client.callSucceeded result "GetPrinterStatus"

/-- `getPrinterInfo`. -/
def getPrinterInfo (sdk : Sdk) (client : Client) : SdkProgram (Client × Bool) :=
  callFunction sdk client .getPrinterInfo

/-- `pausePrint`. -/
def pausePrint (client : Client) : SdkProgram (Client × Bool) := callRequired client .pausePrint

/-- `continuePrint`. -/
def continuePrint (client : Client) : SdkProgram (Client × Bool) :=
  callRequired client .continuePrint

/-- `abortPrint`: with a job in a worker, the request is a marker file, which can be made or not. -/
def abortPrinting (client : Client) (marker : Option Bool) : SdkProgram (Client × Bool) :=
  match marker with
  | some created => return (client, created)
  | none => whenLoaded client do
    let result ← ask .abortPrint
    return client.callSucceeded result "AbortPrint"

/-! ## Maintenance -/

/-- `setPrintHeight`. -/
def setPrintHeight (sdk : Sdk) (client : Client) (heightMm : Double) : SdkProgram (Client × Bool) :=
  whenLoaded client <| whenExported client sdk.setPrintHeight "SetPrintHeight" fun client ↦
    match encodePrintHeightMm heightMm with
    | none =>
      return (client.setError "Print height must be between 0 and 152 millimeters.", false)
    | some (_, encoded) => do
      let result ← ask (.setPrintHeight encoded)
      return client.callSucceeded result "SetPrintHeight"

/-- `getPrintHeight`. -/
def getPrintHeight (sdk : Sdk) (client : Client) : SdkProgram (Client × Bool) :=
  whenLoaded client <| whenExported client sdk.getPrintHeight "GetPrintHeight" fun client ↦ do
    let (result, _) ← ask .getPrintHeight
    return client.callSucceeded result "GetPrintHeight"

/-- `setJobSettingsFromMap`. -/
def setJobSettings (sdk : Sdk) (client : Client) (settings : JobSettings) :
    SdkProgram (Client × Bool) :=
  whenLoaded client <|
    whenExported client (sdk.exports "SetJobSettings") "SetJobSettings" fun client ↦ do
      let result ← ask (.setJobSettings settings)
      return client.callSucceeded result "SetJobSettings"

/-- `setPrintXYValue`. -/
def setPrintXYValue (sdk : Sdk) (client : Client) (xMm yMm : Int32) : SdkProgram (Client × Bool) :=
  whenLoaded client <| whenExported client sdk.setPrintXYValue "SetPrintXYValue" fun client ↦ do
    let result ← ask (.setPrintXYValue (millimetersToPrintXYUnits xMm)
      (millimetersToPrintXYUnits yMm))
    return client.callSucceeded result "SetPrintXYValue"

/-- `getPrintXYValue`. -/
def getPrintXYValue (sdk : Sdk) (client : Client) : SdkProgram (Client × Bool) :=
  whenLoaded client <| whenExported client sdk.getPrintXYValue "GetPrintXYValue" fun client ↦ do
    let (result, _, _) ← ask .getPrintXYValue
    return client.callSucceeded result "GetPrintXYValue"

/-- `getSupportNewUVParamFunction`, which gives no support for a function it cannot call. -/
def getSupportNewUVParamFunction (sdk : Sdk) (client : Client) : SdkProgram (Client × Int32) := do
  match ← ask .ensureLoaded with
  | some message => return (client.setError message, 0)
  | none =>
    let (client, available) := client.requireFunction (sdk.exports "GetSupportNewUVParamFunction")
      "GetSupportNewUVParamFunction"
    if !available then return (client, 0)
    else
      let support ← ask (.function .getSupportNewUVParamFunction)
      return (client, support)

/-- The call of `PrintAlignmentPattern`, in the SDK folder. -/
def callPrintAlignmentPattern (client : Client) (type : Int32) : SdkProgram (Client × Bool) := do
  let result ← ask (.function (.printAlignmentPattern type))
  return client.callSucceeded result "PrintAlignmentPattern"

/-- `printAlignmentPattern`. -/
def printAlignmentPattern (sdk : Sdk) (client : Client) (type : Int32) :
    SdkProgram (Client × Bool) :=
  whenLoaded client <|
    whenExported client (sdk.exports "PrintAlignmentPattern") "PrintAlignmentPattern"
      fun client ↦ do
        match ← ask .enterSdkDirectory with
        | some message => return (client.setError message, false)
        | none => callPrintAlignmentPattern client (clampInt type 0 22)

/-- `printNozzleCheck`: the origin that the controller keeps is set back first. -/
def printNozzleCheck (sdk : Sdk) (client : Client) : SdkProgram (Client × Bool) :=
  whenLoaded client <| whenExported client sdk.getPrintXYValue "GetPrintXYValue" fun client ↦
    whenExported client sdk.setPrintXYValue "SetPrintXYValue" fun client ↦
      whenExported client (sdk.exports "PrintAlignmentPattern") "PrintAlignmentPattern"
        fun client ↦ do
          match ← ask .enterSdkDirectory with
          | some message => return (client.setError message, false)
          | none =>
            let (client, atOrigin) ← setOriginBack client
            if !atOrigin then return (client, false) else callPrintAlignmentPattern client 0
where
  /-- The part before the pattern. -/
  setOriginBack (client : Client) : SdkProgram (Client × Bool) := do
    let (result, originX, originY) ← ask .getPrintXYValue
    let (client, ok) := client.callSucceeded result "GetPrintXYValue before nozzle check"
    if !ok then return (client, false)
    else if originX = 0 ∧ originY = 0 then return (client, true)
    else
      let stored ← ask (.setPrintXYValue 0 0)
      let (client, ok) := client.callSucceeded stored "Reset print origin before nozzle check"
      if !ok then return (client, false)
      else
        let (again, originX, originY) ← ask .getPrintXYValue
        let (client, ok) := client.callSucceeded again "Verify print origin before nozzle check"
        if !ok then return (client, false)
        else if originX = 0 ∧ originY = 0 then return (client, true)
        else
          return (client.setError
            "The printer origin could not be reset to 0 x 0 mm before the nozzle check.", false)

/-- What the actions read of their arguments. A path is that of the local file. -/
structure MaintenanceArguments where
  printerIndex : Int32
  headMask : Int32
  axis : Int32
  direction : Int32
  heightMm : Double
  settings : JobSettings
  type : Int32
  xMm : Int32
  yMm : Int32
  path : String

section Arguments

variable {V : Type} [QVariantApi V]

/-- `jobSettingsFromMap`. -/
def jobSettingsFromMap (settings : QVariantMap V) : JobSettings :=
  makeJobSettings
    { printDirection := settings.int "printDirection" 0
      printSpeed := settings.int "printSpeed" 1
      wcSequence := settings.int "wcSequence" 0
      eclosionGrade := settings.int "eclosionGrade" 2
      headSelect := settings.int "headSelect" 0
      whiteInkPercent := settings.int "whiteInkPercent" 0
      whiteInkPassCount := settings.int "whiteInkPassCount" 0
      varnishInkPercent := settings.int "varnishInkPercent" 0
      varnishInkPassCount := settings.int "varnishInkPassCount" 0
      headVoltage := settings.int "headVoltage" 512
      disableUv0 := settings.int "disableUv0" 0
      disableUv1 := settings.int "disableUv1" 0
      disableUv2 := settings.int "disableUv2" 0
      disableUv3 := settings.int "disableUv3" 0
      disableUv4 := settings.int "disableUv4" 0
      disableUv5 := settings.int "disableUv5" 0
      carReset := settings.int "carReset" 1
      stripBlank := settings.int "stripBlank" 1
      blankDistance := settings.int "blankDistance" 0 }

/-- The values of `executeMaintenanceAction`, with their defaults. -/
def MaintenanceArguments.ofMap (localFile : String → String) (arguments : QVariantMap V) :
    MaintenanceArguments where
  printerIndex := arguments.int "printerIndex" (-1)
  headMask := arguments.int "headMask" 0
  axis := arguments.int "axis" 0
  direction := arguments.int "direction" 0
  heightMm := arguments.double "heightMm" (.finite 0)
  settings := jobSettingsFromMap (arguments.map "settings")
  type := arguments.int "type" 0
  xMm := arguments.int "xMm" 0
  yMm := arguments.int "yMm" 0
  path := localFile (arguments.string "path" "")

end Arguments

/-- The actions that call one function. -/
def maintenanceFunction (arguments : MaintenanceArguments) : String → Option SdkFunction
  | "StartCleanOperation" => some (.startCleanOperation arguments.headMask)
  | "WipePrintHead" => some (.wipePrintHead arguments.headMask)
  | "StartPump" => some (.startPump arguments.headMask)
  | "StopPumpOperation" => some .stopPumpOperation
  | "StartFlashSpray" => some (.spitPrintHead arguments.headMask)
  | "StopFlashSpray" => some .stopSpitOperation
  | "CapPrintHead" => some .capPrintHead
  | "MoveAxis" => some (.moveAxis (clampInt arguments.axis 0 2) (clampInt arguments.direction 0 1))
  | "StopAxis" => some (.stopAxis (clampInt arguments.axis 0 2))
  | "SaveAxisPos" => some (.saveAxisPos (clampInt arguments.axis 0 2))
  | "GetJobSettings" => some .getJobSettings
  | "GetAlignmentValues" => some .getAlignmentValues
  | "SetAlignmentValues" => some (.setAlignmentValues (clampInt arguments.type 0 5))
  | "GetUVParamValues" => some .getUVParamValues
  | "SetUVParamValues" => some (.setUVParamValues (clampInt arguments.type 0 4))
  | "SetNewUVParamFunction" => some (.setNewUVParamFunction (clampInt arguments.type 0 8))
  | "GetNewUVParamValues" => some .getNewUVParamValues
  | "SetNewUVParamValues" => some (.setNewUVParamValues (clampInt arguments.type 0 6))
  | "ExportConfigFile" => some (.exportConfigFile arguments.path)
  | "ImportConfigFile" => some (.importConfigFile arguments.path)
  | _ => none

/-- The action `ConnectPrinter`. -/
def findAndConnect (sdk : Sdk) (client : Client) (printerIndex : Int32) :
    SdkProgram (Client × Bool) := do
  let (client, found) ← refreshPrinters sdk client
  if !found then return (client, false)
  else
    let (client, chosen) ←
      (if printerIndex ≥ 0 then choosePrinter client printerIndex else pure (client, true))
    if !chosen then return (client, false) else connectPrinter sdk client

/-- The action `StopAndHomeHead`. -/
def stopAndHomeHead (sdk : Sdk) (client : Client) (axis : Int32) : SdkProgram (Client × Bool) := do
  let (client, stopped) ← callFunction sdk client (.stopAxis (clampInt axis 0 2))
  if !stopped then return (client, false) else callFunction sdk client .capPrintHead

/-- `executeMaintenanceAction`, as far as its `ok`. -/
def executeMaintenanceAction (sdk : Sdk) (client : Client) (action : String)
    (arguments : MaintenanceArguments) : SdkProgram (Client × Bool) :=
  match maintenanceFunction arguments action with
  | some function => callFunction sdk client function
  | none =>
    match action with
    | "ConnectPrinter" => findAndConnect sdk client arguments.printerIndex
    | "PrintNozzleCheck" => printNozzleCheck sdk client
    | "StopAndHomeHead" => stopAndHomeHead sdk client arguments.axis
    | "SetPrintHeight" => setPrintHeight sdk client arguments.heightMm
    | "GetPrintHeight" => getPrintHeight sdk client
    | "SetJobSettings" => setJobSettings sdk client arguments.settings
    | "PrintAlignmentPattern" => printAlignmentPattern sdk client arguments.type
    | "SetPrintXYValue" => setPrintXYValue sdk client arguments.xMm arguments.yMm
    | "GetPrintXYValue" => getPrintXYValue sdk client
    | "GetSupportNewUVParamFunction" => do
      let (client, support) ← getSupportNewUVParamFunction sdk client
      return (client, decide (support ≥ 0))
    | _ => return (client.setError ("Unknown printer maintenance action: " ++ action), false)

/-! ## What they keep -/

section Operations

variable (sdk : Sdk) (client : Client)

/-- The client behind the test for a function knows what it knew before. -/
theorem when_exported_lasting {available : Bool} {functionName : String}
    {operation : Client → SdkProgram (Client × Bool)}
    (h : ∀ required : Client, required.session = client.session →
      Lasting (Same required) (operation required)) :
    Lasting (Same client) (whenExported client available functionName operation) := by
  have hsame := require_function_same client available functionName
  unfold whenExported
  generalize client.requireFunction available functionName = tested at hsame
  obtain ⟨required, available⟩ := tested
  refine .ite (.pure hsame) ?_
  exact Meets.mono (h required hsame) fun _ result hend ↦ ⟨hend.1, hend.2.trans hsame⟩

/-- A call whose result is only checked. -/
theorem called_lasting {α : Type} {asking : SdkProgram α} {result : α → Int32}
    {functionName : String} (h : Lasting (fun _ ↦ True) asking) :
    Lasting (Same client) (do
      let answer ← asking
      return client.callSucceeded (result answer) functionName) :=
  .bind h fun answer _ ↦ .pure (call_succeeded_same client (result answer) functionName)

theorem set_origin_back_lasting :
    Lasting (Same client) (printNozzleCheck.setOriginBack client) := by
  refine .bind (.ask rfl) fun ⟨result, originX, originY⟩ _ ↦ ?_
  have hread := call_succeeded_same client result "GetPrintXYValue before nozzle check"
  refine .ite (.pure hread) (.ite (.pure hread) (.bind (.ask rfl) fun stored _ ↦ ?_))
  have hstored :=
    (call_succeeded_same _ stored "Reset print origin before nozzle check").trans hread
  refine .ite (.pure hstored) (.bind (.ask rfl) fun ⟨again, backX, backY⟩ _ ↦ ?_)
  have hagain :=
    (call_succeeded_same _ again "Verify print origin before nozzle check").trans hstored
  exact .ite (.pure hagain) (.ite (.pure hagain) (.pure hagain))

variable {allowed : SdkWorld → SdkCall → Prop} {world : SdkWorld}
  (hallowed : ∀ world call, (∀ property, call ≠ .startPrint property) → allowed world call)

include hallowed

/-- An operation that leaves the lifecycle alone once the library is loaded. -/
theorem when_loaded_safely {operation : SdkProgram (Client × Bool)}
    (hoperation : Lasting (Same client) operation) (h : Tracked sdk.arm client world) :
    Safely SdkStep allowed (whenLoaded client operation)
      (fun result next ↦ Tracked sdk.arm result.1 next) world := by
  refine .call_bind (hallowed _ _ nofun) fun loaded next hnext ↦ ?_
  obtain ⟨h, -⟩ := h.ensure_loaded hnext
  cases loaded with
  | some message => exact .pure (h.same rfl)
  | none => exact (hoperation.safely sdk client hallowed h).mono fun _ _ hend ↦ hend.2.2

/-- A function of the library that is called when it is exported. -/
theorem call_function_safely (function : SdkFunction) (h : Tracked sdk.arm client world) :
    Safely SdkStep allowed (callFunction sdk client function)
      (fun result next ↦ Tracked sdk.arm result.1 next) world :=
  when_loaded_safely sdk client hallowed (when_exported_lasting client fun required _ ↦
    called_lasting required (.ask rfl)) h

/-- A function that every library has. -/
theorem call_required_safely (function : SdkFunction) (h : Tracked sdk.arm client world) :
    Safely SdkStep allowed (callRequired client function)
      (fun result next ↦ Tracked sdk.arm result.1 next) world :=
  when_loaded_safely sdk client hallowed (called_lasting client (.ask rfl)) h

theorem abort_printing_safely (marker : Option Bool) (h : Tracked sdk.arm client world) :
    Safely SdkStep allowed (abortPrinting client marker)
      (fun result next ↦ Tracked sdk.arm result.1 next) world := by
  cases marker with
  | some created => exact .pure h
  | none => exact when_loaded_safely sdk client hallowed (called_lasting client (.ask rfl)) h

theorem set_print_height_safely (heightMm : Double) (h : Tracked sdk.arm client world) :
    Safely SdkStep allowed (setPrintHeight sdk client heightMm)
      (fun result next ↦ Tracked sdk.arm result.1 next) world := by
  refine when_loaded_safely sdk client hallowed (when_exported_lasting client ?_) h
  intro required _
  cases encodePrintHeightMm heightMm with
  | none => exact .pure rfl
  | some encoded => exact called_lasting required (.ask rfl)

theorem print_alignment_pattern_safely (type : Int32) (h : Tracked sdk.arm client world) :
    Safely SdkStep allowed (printAlignmentPattern sdk client type)
      (fun result next ↦ Tracked sdk.arm result.1 next) world := by
  refine when_loaded_safely sdk client hallowed (when_exported_lasting client ?_) h
  refine fun required _ ↦ .bind (.ask rfl) fun entered _ ↦ ?_
  cases entered with
  | some message => exact .pure rfl
  | none => exact called_lasting required (.ask rfl)

theorem print_nozzle_check_safely (h : Tracked sdk.arm client world) :
    Safely SdkStep allowed (printNozzleCheck sdk client)
      (fun result next ↦ Tracked sdk.arm result.1 next) world := by
  refine when_loaded_safely sdk client hallowed ?_ h
  refine when_exported_lasting client fun readable _ ↦ when_exported_lasting readable ?_
  refine fun storable _ ↦ when_exported_lasting storable fun required _ ↦ ?_
  refine .bind (.ask rfl) fun entered _ ↦ ?_
  cases entered with
  | some message => exact .pure rfl
  | none =>
      refine .bind (set_origin_back_lasting required) fun ⟨placed, atOrigin⟩ hplaced ↦ ?_
      refine .ite (.pure hplaced) ?_
      have hcalled : Lasting (Same placed) (callPrintAlignmentPattern placed 0) :=
        called_lasting placed (.ask rfl)
      exact Meets.mono hcalled fun _ result hend ↦ ⟨hend.1, hend.2.trans hplaced⟩

theorem get_support_new_uv_param_function_safely (h : Tracked sdk.arm client world) :
    Safely SdkStep allowed (getSupportNewUVParamFunction sdk client)
      (fun result next ↦ Tracked sdk.arm result.1 next) world := by
  refine .call_bind (hallowed _ _ nofun) fun loaded next hnext ↦ ?_
  obtain ⟨h, -⟩ := h.ensure_loaded hnext
  cases loaded with
  | some message => exact .pure (h.same rfl)
  | none =>
      have h := h.same (require_function_same client (sdk.exports "GetSupportNewUVParamFunction")
        "GetSupportNewUVParamFunction")
      refine .ite (fun _ ↦ .pure h) fun _ ↦ .call_bind (hallowed _ _ nofun) ?_
      rintro support _ rfl
      exact .pure (h.record _ (link_after_lasts _ rfl))

theorem find_and_connect_safely (printerIndex : Int32) (h : Tracked sdk.arm client world) :
    Safely SdkStep allowed (findAndConnect sdk client printerIndex)
      (fun result next ↦ Tracked sdk.arm result.1 next) world := by
  refine .bind (refresh_printers_safely sdk client hallowed h) ?_
  rintro ⟨searching, found⟩ next h
  refine .ite (fun _ ↦ .pure h) fun _ ↦ ?_
  refine .bind (P := fun result next ↦ Tracked sdk.arm result.1 next) ?_ ?_
  · refine .ite (fun _ ↦ ?_) fun _ ↦ .pure h
    exact (choose_printer_safely sdk searching hallowed printerIndex h).mono fun _ _ hend ↦ hend.1
  · rintro ⟨choosing, chosen⟩ next h
    refine .ite (fun _ ↦ .pure h) fun _ ↦ ?_
    exact (connect_printer_safely sdk choosing hallowed h).mono fun _ _ hend ↦ hend.1

theorem stop_and_home_head_safely (axis : Int32) (h : Tracked sdk.arm client world) :
    Safely SdkStep allowed (stopAndHomeHead sdk client axis)
      (fun result next ↦ Tracked sdk.arm result.1 next) world := by
  refine .bind (call_function_safely sdk client hallowed _ h) ?_
  rintro ⟨stopping, stopped⟩ next h
  exact .ite (fun _ ↦ .pure h) fun _ ↦ call_function_safely sdk stopping hallowed _ h

/-- Every action keeps what is tracked. -/
theorem execute_maintenance_action_safely (action : String) (arguments : MaintenanceArguments)
    (h : Tracked sdk.arm client world) :
    Safely SdkStep allowed (executeMaintenanceAction sdk client action arguments)
      (fun result next ↦ Tracked sdk.arm result.1 next) world := by
  unfold executeMaintenanceAction
  split
  · exact call_function_safely sdk client hallowed _ h
  · split
    · exact find_and_connect_safely sdk client hallowed _ h
    · exact print_nozzle_check_safely sdk client hallowed h
    · exact stop_and_home_head_safely sdk client hallowed _ h
    · exact set_print_height_safely sdk client hallowed _ h
    · exact when_loaded_safely sdk client hallowed (when_exported_lasting client fun required _ ↦
        .bind (.ask rfl) fun answer _ ↦
          .pure (call_succeeded_same required answer.1 "GetPrintHeight")) h
    · exact when_loaded_safely sdk client hallowed (when_exported_lasting client fun required _ ↦
        called_lasting required (.ask rfl)) h
    · exact print_alignment_pattern_safely sdk client hallowed _ h
    · exact when_loaded_safely sdk client hallowed (when_exported_lasting client fun required _ ↦
        called_lasting required (.ask rfl)) h
    · exact when_loaded_safely sdk client hallowed (when_exported_lasting client fun required _ ↦
        .bind (.ask rfl) fun answer _ ↦
          .pure (call_succeeded_same required answer.1 "GetPrintXYValue")) h
    · refine .bind (get_support_new_uv_param_function_safely sdk client hallowed h) ?_
      exact fun _ _ h ↦ .pure h
    · exact .pure (h.same rfl)

end Operations

end PrintFlow.NocaiDirectPrintClient
