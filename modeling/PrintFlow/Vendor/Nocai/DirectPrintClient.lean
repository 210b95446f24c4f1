import PrintFlow.Core.RasterSpool.Reader
import PrintFlow.Library.Interaction
import PrintFlow.Vendor.Nocai.PrnWriter

/-!
# The vendor client

`printPackedJob` drives the vendor library through a print: it finds and connects the printer, sets
the media height, the job settings and the origin, and then runs the print session, which starts,
takes one plane-line a call, ends and is closed. The library, the operating system and the user who
cancels are the environment; a job is a program that calls them.
-/

namespace PrintFlow.NocaiDirectPrintClient

open FileStore FloatFormat Interaction RasterSpool

/-- `kSySucceeded`. -/
def sySucceeded : Int32 := 1

/-- `kMaxPrinters`. -/
def maxPrinters : Nat := 100

/-- The property record of `API_StartPrint`. -/
structure PrintJobProperty where
  signature : UInt32
  xdpi : UInt32
  ydpi : UInt32
  bytesPerLine : UInt32
  height : UInt32
  width : UInt32
  paperWidth : UInt32
  colors : UInt32
  bits : UInt32
  pass : UInt32
  vsdMode : UInt32
  reserved : UInt32 := 0
  deriving DecidableEq

/-- The record with the bytes of a header. -/
def PrintJobProperty.ofHeader (words : CanonicalHeader) : PrintJobProperty where
  signature := words.get 0
  xdpi := words.get 1
  ydpi := words.get 2
  bytesPerLine := words.get 3
  height := words.get 4
  width := words.get 5
  paperWidth := words.get 6
  colors := words.get 7
  bits := words.get 8
  pass := words.get 9
  vsdMode := words.get 10
  reserved := words.get 11

/-- The settings record of `API_SetJobSettings`. -/
structure JobSettings where
  printDirection : UInt16
  printSpeed : UInt16
  wcSequence : UInt16
  eclosionGrade : UInt16
  headSelect : UInt16
  wInkPercent : UInt16
  wInkPassCount : UInt16
  vInkPercent : UInt16
  vInkPassCount : UInt16
  headVoltage : UInt16
  disableUVLights : List UInt8
  carReset : UInt16
  stripBlank : UInt16
  blankDistance : UInt16
  deriving DecidableEq

/-- The functions of the vendor library that only single operations call. The records they take or
fill are left out. -/
inductive SdkFunction where
  | pausePrint
  | continuePrint
  | getPrinterInfo
  | wipePrintHead (printHeadMask : Int32)
  | startCleanOperation (printHeadMask : Int32)
  | startPump (printHeadMask : Int32)
  | stopPumpOperation
  | spitPrintHead (printHeadMask : Int32)
  | stopSpitOperation
  | capPrintHead
  | moveAxis (axis direction : Int32)
  | stopAxis (axis : Int32)
  | saveAxisPos (axis : Int32)
  | getJobSettings
  | exportConfigFile (path : String)
  | importConfigFile (path : String)
  | getAlignmentValues
  | setAlignmentValues (type : Int32)
  | printAlignmentPattern (type : Int32)
  | getUVParamValues
  | setUVParamValues (type : Int32)
  | getSupportNewUVParamFunction
  | setNewUVParamFunction (type : Int32)
  | getNewUVParamValues
  | setNewUVParamValues (type : Int32)
  deriving DecidableEq

/-- The name it is resolved and reported by. -/
def SdkFunction.name : SdkFunction → String
  | pausePrint => "PausePrint"
  | continuePrint => "ContinuePrint"
  | getPrinterInfo => "GetPrinterInfo"
  | wipePrintHead _ => "WipePrintHead"
  | startCleanOperation _ => "StartCleanOperation"
  | startPump _ => "StartPump"
  | stopPumpOperation => "StopPumpOperation"
  | spitPrintHead _ => "SpitPrintHead"
  | stopSpitOperation => "StopSpitOperation"
  | capPrintHead => "CapPrintHead"
  | moveAxis _ _ => "MoveAxis"
  | stopAxis _ => "StopAxis"
  | saveAxisPos _ => "SaveAxisPos"
  | getJobSettings => "GetJobSettings"
  | exportConfigFile _ => "ExportConfigFile"
  | importConfigFile _ => "ImportConfigFile"
  | getAlignmentValues => "GetAlignmentValues"
  | setAlignmentValues _ => "SetAlignmentValues"
  | printAlignmentPattern _ => "PrintAlignmentPattern"
  | getUVParamValues => "GetUVParamValues"
  | setUVParamValues _ => "SetUVParamValues"
  | getSupportNewUVParamFunction => "GetSupportNewUVParamFunction"
  | setNewUVParamFunction _ => "SetNewUVParamFunction"
  | getNewUVParamValues => "GetNewUVParamValues"
  | setNewUVParamValues _ => "SetNewUVParamValues"

/-- What an operation asks of the vendor library and of the process around it. -/
inductive SdkCall where
  | ensureLoaded
  | enterSdkDirectory
  | discoveryPermission
  | promiscuousReceive (index : Int32)
  | staleSocketLocks (index : Int32)
  | searchPrinter
  | choosePrinter (index : Int32)
  | connectPrinter
  | closeControlSocket
  | getPrintHeight
  | setPrintHeight (height : UInt16)
  | setJobSettings (settings : JobSettings)
  | getPrintXYValue
  | setPrintXYValue (x y : UInt32)
  | initPrinter
  | startPrint (property : PrintJobProperty)
  | printALine (line : Bytes) (size : UInt32)
  | endPrint
  | abortPrint
  | closePrint
  | getPrinterStatus
  | cancelRequested
  | processEvents
  | readSpoolLine (logicalChannel row : Int32)
  | function (function : SdkFunction)

/-- The answers: the result and outputs of a library function, or the error of a step that can
fail otherwise. A spool read may fail before it reaches the bytes of its line. -/
@[reducible] def SdkCall.Answer : SdkCall → Type
  | ensureLoaded => Option String
  | enterSdkDirectory => Option String
  | discoveryPermission => Option String
  | promiscuousReceive _ => Option String
  | staleSocketLocks _ => Option String
  | searchPrinter => Int32 × List String
  | choosePrinter _ => Int32
  | connectPrinter => Int32
  | closeControlSocket => Unit
  | getPrintHeight => Int32 × UInt16
  | setPrintHeight _ => Int32
  | setJobSettings _ => Int32
  | getPrintXYValue => Int32 × UInt32 × UInt32
  | setPrintXYValue _ _ => Int32
  | initPrinter => Int32
  | startPrint _ => Int32
  | printALine _ _ => Int32
  | endPrint => Int32
  | abortPrint => Int32
  | closePrint => Int32
  | getPrinterStatus => Int32 × UInt16
  | cancelRequested => Bool
  | processEvents => Unit
  | readSpoolLine _ _ => Option String
  | function _ => Int32

/-- A program of the client. -/
abbrev SdkProgram (α : Type) := Program SdkCall SdkCall.Answer α

/-- Make one call. -/
abbrev ask (call : SdkCall) : SdkProgram call.Answer := Program.call call

/-- An event of a run. -/
abbrev SdkEvent := Event SdkCall SdkCall.Answer

/-- The platform, and which of the optional functions the library exports; `exports` says it for those
of `SdkFunction` by name. -/
structure Sdk where
  arm : Bool := false
  connectPrinter : Bool := true
  setPrintHeight : Bool := true
  getPrintHeight : Bool := true
  setPrintXYValue : Bool := true
  getPrintXYValue : Bool := true
  getPrinterStatus : Bool := true
  exports : String → Bool := fun _ ↦ true

/-- The members of the client that a job reads or writes. -/
structure Client where
  printers : List (Int32 × String) := []
  selectedPrinterIndex : Int32 := -1
  connected : Bool := false
  lastError : String := ""

/-- `setError`. -/
def Client.setError (client : Client) (message : String) : Client :=
  { client with lastError := message }

/-- A number in base 16, as Qt writes it. -/
def hex (value : Int32) : String :=
  String.ofList (Nat.toDigits 16 (UInt64.ofInt value.toInt).toNat)

/-- A nonnegative number with two decimals, as Qt writes it. -/
def fixedTwo (value : ℚ) : String :=
  let hundredths := (roundHalfEven (value * 100)).toNat
  toString (hundredths / 100) ++ "." ++ toString (hundredths % 100 / 10) ++
    toString (hundredths % 10)

/-- `callSucceeded`. -/
def Client.callSucceeded (client : Client) (result : Int32) (functionName : String) :
    Client × Bool :=
  if result = sySucceeded then ({ client with lastError := "" }, true)
  else (client.setError (functionName ++ " failed with SDK result 0x" ++ hex result ++ "."), false)

/-- `requireFunction`. -/
def Client.requireFunction (client : Client) (available : Bool) (functionName : String) :
    Client × Bool :=
  if available then (client, true)
  else (client.setError ("Direct print SDK function is unavailable: " ++ functionName), false)

/-! ## Finding and connecting the printer -/

/-- `refreshPrinters`. -/
def refreshPrinters (sdk : Sdk) (client : Client) : SdkProgram (Client × Bool) := do
  match ← ask .ensureLoaded with
  | some message => return (client.setError message, false)
  | none =>
    match ← ask .discoveryPermission with
    | some message => return (client.setError message, false)
    | none =>
      if sdk.arm && client.connected then return ({ client with lastError := "" }, true)
      else
        let client := { client with selectedPrinterIndex := -1, connected := false }
        match ← ask .enterSdkDirectory with
        | some message => return ({ client.setError message with printers := [] }, false)
        | none =>
          let (result, names) ← ask .searchPrinter
          let (client, ok) := client.callSucceeded result "SearchPrinter"
          let found := if ok then names.take maxPrinters else []
          return ({ client with
            printers := found.zipIdx.map fun (name, index) ↦ (Int32.ofNat index, trimmed name) }, ok)

/-- `choosePrinter`. -/
def choosePrinter (client : Client) (index : Int32) : SdkProgram (Client × Bool) := do
  match ← ask .ensureLoaded with
  | some message => return (client.setError message, false)
  | none =>
    if index = client.selectedPrinterIndex then return (client, true)
    else
      match ← ask .enterSdkDirectory with
      | some message => return (client.setError message, false)
      | none =>
        let result ← ask (.choosePrinter index)
        let (client, ok) := client.callSucceeded result "ChoosePrinter"
        if ok then return ({ client with selectedPrinterIndex := index, connected := false }, true)
        else return (client, false)

/-- `selectKnownPrinter` in `connectPrinter`. -/
def selectKnownPrinter (client : Client) : SdkProgram (Client × Bool) :=
  if client.selectedPrinterIndex ≥ 0 then return (client, true)
  else
    match client.printers with
    | [(onlyIndex, _)] => choosePrinter client onlyIndex
    | [] => return (client.setError "Search for an SDK printer before connecting.", false)
    | _ => return (client.setError "Select an SDK printer before connecting.", false)

/-- The checks of `connectPrinter` on the ARM network interface. -/
def prepareArmSocket (sdk : Sdk) (client : Client) : SdkProgram (Client × Bool) := do
  if sdk.arm then
    match ← ask (.promiscuousReceive client.selectedPrinterIndex) with
    | some detail =>
      return (client.setError ("PrintFlow could not prepare the ARM printer interface: " ++ detail ++
        ". Confirm the selected Ethernet interface still owns its link-local address and run " ++
        "'sudo setcap cap_net_raw+ep <absolute-path-to-PrintFlowPrinterService>' " ++
        "after the final rebuild."), false)
    | none =>
      match ← ask (.staleSocketLocks client.selectedPrinterIndex) with
      | some detail =>
        return (client.setError
          ("PrintFlow could not safely claim the ARM printer socket: " ++ detail), false)
      | none => return (client, true)
  else return (client, true)

/-- The call of `ConnectPrinter`. -/
def callConnectPrinter (client : Client) : SdkProgram (Client × Bool) := do
  match ← ask .enterSdkDirectory with
  | some message => return (client.setError message, false)
  | none =>
    let result ← ask .connectPrinter
    return client.callSucceeded result "ConnectPrinter"

/-- The end of `connectPrinter`. -/
def openSession (sdk : Sdk) (client : Client) : SdkProgram (Client × Bool) := do
  let (client, ok) ← callConnectPrinter client
  if ok then return ({ client with connected := true }, true)
  else if sdk.arm then
    let _ ← ask .closeControlSocket
    return ({ client with
      connected := false
      selectedPrinterIndex := -1
      lastError := "The printer was discovered and selected, but the ARM SDK could not initialize " ++
        "its socket. Its local control socket was reset. If the printer was just powered on, wait " ++
        "60 seconds and try Connect once more. If another SDK process connected successfully and " ++
        "then exited, reset the printer before connecting a new owner. Automatic reconnect loops " ++
        "are disabled." }, false)
  else return ({ client with connected := false, selectedPrinterIndex := -1 }, false)

/-- `connectPrinter`. -/
def connectPrinter (sdk : Sdk) (client : Client) : SdkProgram (Client × Bool) := do
  match ← ask .ensureLoaded with
  | some message => return (client.setError message, false)
  | none =>
    let (client, available) := client.requireFunction sdk.connectPrinter "ConnectPrinter"
    if !available then return (client, false)
    else if sdk.arm && client.connected then return ({ client with lastError := "" }, true)
    else
      let (client, selected) ← selectKnownPrinter client
      if !selected then return (client, false)
      else
        let (client, prepared) ← prepareArmSocket sdk client
        if !prepared then return (client, false)
        else openSession sdk client

/-! ## Job origin and media height -/

/-- `millimetersToPrintXYUnits`. -/
def millimetersToPrintXYUnits (millimeters : Int32) : UInt32 :=
  UInt32.ofNat (min (millimeters.toInt.toNat * 100) 0xffffffff)

/-- `resetJobOrigin`. -/
def resetJobOrigin (sdk : Sdk) (client : Client) (originActive preserveExistingError : Bool) :
    SdkProgram (Client × Bool) := do
  if !originActive then return (client, true)
  else
    let existingError := client.lastError
    let stored ← setOrigin
    let reset ← (if stored then readOrigin else pure false)
    let client :=
      if !reset && (!preserveExistingError || existingError.isEmpty) then
        client.setError
          "The print finished, but the printer origin could not be restored to 0 x 0 mm."
      else client
    if preserveExistingError && !existingError.isEmpty then
      return ({ client with lastError := existingError }, reset)
    else return (client, reset)
where
  /-- The setter, when the library exports it. -/
  setOrigin : SdkProgram Bool := do
    if sdk.setPrintXYValue then
      let result ← ask (.setPrintXYValue 0 0)
      return result == sySucceeded
    else return false
  /-- The getter, when the library exports it. -/
  readOrigin : SdkProgram Bool := do
    if sdk.getPrintXYValue then
      let (result, x, y) ← ask .getPrintXYValue
      return result == sySucceeded && x == 0 && y == 0
    else return false

/-- `encodePrintHeightMm`. -/
def encodePrintHeightMm (height : Double) : Option (ℚ × UInt16) :=
  match height with
  | .finite value =>
    if value < 0 ∨ value > 152 then none
    else some (value, UInt16.ofInt (roundHalfAway (binary64.round (value * 100))))
  | .infinite _ => none
  | .nan => none

/-- The polls for the end of the Z movement: the last height, and whether it is the target. -/
def waitForHeight (target : UInt16) : Nat → UInt16 → SdkProgram (UInt16 × Bool)
  | 0, current => return (current, false)
  | attempts + 1, _ => do
    let (result, current) ← ask .getPrintHeight
    if result == sySucceeded && current == target then return (current, true)
    else waitForHeight target attempts current

/-- Whether `mediaHeightMm >= 0.0`. -/
def heightRequested (height : Double) : Bool :=
  match height with
  | .finite value => 0 ≤ value
  | .infinite negative => !negative
  | .nan => false

/-- The media height of the job. -/
def prepareMediaHeight (sdk : Sdk) (client : Client) (height : Double) :
    SdkProgram (Client × Bool) := do
  if !heightRequested height then return (client, true)
  else
    let (client, settable) := client.requireFunction sdk.setPrintHeight "SetPrintHeight"
    if !settable then return (client, false)
    else
      let (client, gettable) := client.requireFunction sdk.getPrintHeight "GetPrintHeight"
      if !gettable then return (client, false)
      else
        match encodePrintHeightMm height with
        | none =>
          return (client.setError "Print height must be between 0 and 152 millimeters.", false)
        | some (requested, sdkHeight) =>
          let (initial, current) ← ask .getPrintHeight
          -- A controller that stands at this height already is left alone.
          if initial == sySucceeded && current == sdkHeight then return (client, true)
          else
            let result ← ask (.setPrintHeight sdkHeight)
            let (client, accepted) := client.callSucceeded result "SetPrintHeight"
            if !accepted then return (client, false)
            else
              let (reported, reached) ← waitForHeight sdkHeight 240 current
              if reached then return (client, true)
              else
                return (client.setError ("Timed out waiting for print height " ++
                  fixedTwo requested ++ " mm; controller reported " ++
                  fixedTwo (binary64.round (reported.toNat / 100)) ++ " mm."), false)

/-- `prepareX33PrintOrigin`: also returns whether the origin must be reset later. -/
def prepareX33PrintOrigin (sdk : Sdk) (client : Client) (settings : DirectPrintSettings) :
    SdkProgram (Client × Bool × Bool) := do
  let (client, settable) := client.requireFunction sdk.setPrintXYValue "SetPrintXYValue"
  if !settable then return (client, false, false)
  else
    let (client, gettable) := client.requireFunction sdk.getPrintXYValue "GetPrintXYValue"
    if !gettable then return (client, false, false)
    else
      let expectedX := millimetersToPrintXYUnits settings.printOffsetXmm
      let expectedY := millimetersToPrintXYUnits settings.printOffsetYmm
      let originActive := expectedX != 0 || expectedY != 0
      let (result, actualX, actualY) ← ask .getPrintXYValue
      let (client, read) := client.callSucceeded result "GetPrintXYValue"
      if !read then return (client, originActive, false)
      else if sdk.arm && actualX == expectedX && actualY == expectedY then
        return (client, originActive, true)
      else
        let result ← ask (.setPrintXYValue expectedX expectedY)
        let (client, stored) := client.callSucceeded result "SetPrintXYValue"
        if !stored then return (client, originActive, false)
        else
          let (result, actualX, actualY) ← ask .getPrintXYValue
          let (client, read) := client.callSucceeded result "GetPrintXYValue after SetPrintXYValue"
          if !read then return (client, originActive, false)
          else if actualX == expectedX && actualY == expectedY then
            return (client, originActive, true)
          else
            return (client.setError ("Printer rejected the per-job origin " ++
              toString (max 0 settings.printOffsetXmm.toInt) ++ " x " ++
              toString (max 0 settings.printOffsetYmm.toInt) ++ " mm (raw " ++
              toString expectedX ++ " x " ++ toString expectedY ++ "); it reported raw " ++
              toString actualX ++ " x " ++ toString actualY ++ "."), originActive, false)

/-! ## The print session -/

/-- The polls for the end of a canceled print. -/
def waitForCancellation : Nat → SdkProgram Bool
  | 0 => return false
  | attempts + 1 => do
    let (result, printStatus) ← ask .getPrinterStatus
    if result == sySucceeded && (printStatus == 4 || printStatus == 0) then return true
    else waitForCancellation attempts

/-- `abortActivePrintAndWaitForController`. -/
def abortActivePrintAndWaitForController (sdk : Sdk) : SdkProgram Bool := do
  let abortResult ← ask .abortPrint
  if abortResult ≠ sySucceeded then
    let _ ← ask .closePrint
    return false
  else
    let acknowledged ← (if sdk.getPrinterStatus then waitForCancellation 10 else pure false)
    let closeResult ← ask .closePrint
    return closeResult == sySucceeded && (acknowledged || !sdk.getPrinterStatus)

/-- Where plane-lines come from: the raster in memory, or an open spool. -/
structure LineSource where
  packedLines : List (List Bytes)
  spool : Option (Reader × Store String)

/-- The bytes of a plane-line. -/
def LineSource.line (source : LineSource) (logicalChannel row : Int32) : Except String Bytes :=
  if logicalChannel < 0 ∨ logicalChannel.toInt ≥ source.packedLines.length then
    .error "Direct print raster channel/row index is invalid."
  else
    match source.spool with
    | some (reader, files) => reader.readLine files logicalChannel row
    | none =>
      match (source.packedLines[logicalChannel.toInt.toNat]?.getD [])[row.toInt.toNat]? with
      | some line => if row < 0 then .error "Direct print raster channel/row index is invalid."
        else .ok line
      | none => .error "Direct print raster channel/row index is invalid."

/-- Reading a plane-line, which may fail on a spool for reasons of its own. -/
def readPlaneLine (source : LineSource) (logicalChannel row : Int32) :
    SdkProgram (Except String Bytes) := do
  if logicalChannel < 0 ∨ logicalChannel.toInt ≥ source.packedLines.length ∨
      source.spool.isNone then
    return source.line logicalChannel row
  else
    match ← ask (.readSpoolLine logicalChannel row) with
    | some message => return .error message
    | none => return source.line logicalChannel row

/-- One plane-line of the loop: its row, its place in the row and its logical channel. -/
structure PlaneLine where
  row : Nat
  plane : Nat
  logicalChannel : Int32

/-- The plane-lines of a raster in the order they are sent. -/
def planeLines (height : Int32) (channelOrder : List Int32) : List PlaneLine :=
  (List.range height.toInt.toNat).flatMap fun row ↦
    channelOrder.zipIdx.map fun (logicalChannel, plane) ↦ { row, plane, logicalChannel }

/-- The message for a plane-line the library did not accept. -/
def lineError (line : PlaneLine) (written : Int32) (size : UInt32) : String :=
  if written = -1 then
    "PrintALine was canceled before row " ++ toString (line.row + 1) ++ " plane " ++
      toString (line.plane + 1) ++ " was accepted; the SDK had already latched its internal " ++
      "print-cancel state after StartPrint."
  else
    "PrintALine failed at row " ++ toString (line.row + 1) ++ " plane " ++
      toString (line.plane + 1) ++ ": SDK returned " ++ toString written ++ "; expected " ++
      toString size ++ " bytes accepted."

/-- The rest of the loop body over planes after the event pump. -/
def offerLine (sdk : Sdk) (client : Client) (source : LineSource) (size : UInt32)
    (line : PlaneLine) : SdkProgram (Client × Bool) := do
  match ← readPlaneLine source line.logicalChannel (Int32.ofNat line.row) with
  | .error message =>
    let _ ← abortActivePrintAndWaitForController sdk
    return (client.setError message, false)
  | .ok data =>
    if data.length ≠ size.toNat then
      let _ ← abortActivePrintAndWaitForController sdk
      return (client.setError ("Direct print plane-line size mismatch: got " ++
        toString data.length ++ ", expected " ++ toString size ++ "."), false)
    else
      let written ← ask (.printALine data size)
      if written ≠ size.toInt32 then
        let _ ← abortActivePrintAndWaitForController sdk
        return (client.setError (lineError line written size), false)
      else return (client, true)

/-- The body of the loop over planes: whether the line was accepted. Any other end of it aborts and
closes the session. -/
def sendLine (sdk : Sdk) (client : Client) (source : LineSource) (size : UInt32) (planes : Nat)
    (line : PlaneLine) : SdkProgram (Client × Bool) := do
  if ← ask .cancelRequested then
    let _ ← abortActivePrintAndWaitForController sdk
    return (client.setError "Direct print was canceled.", false)
  else
    if (Int32.ofNat line.row * Int32.ofNat planes + Int32.ofNat line.plane) % 8 = 0 then
      ask .processEvents
    offerLine sdk client source size line

/-- The loops over rows and planes. -/
def sendLines (sdk : Sdk) (source : LineSource) (size : UInt32) (planes : Nat) :
    List PlaneLine → Client → SdkProgram (Client × Bool)
  | [], client => return (client, true)
  | line :: rest, client => do
    let (client, accepted) ← sendLine sdk client source size planes line
    if accepted then sendLines sdk source size planes rest client
    else return (client, false)

/-- The session, from `StartPrint` on; also returns whether the origin must still be reset. -/
def printSession (sdk : Sdk) (client : Client) (source : LineSource) (property : PrintJobProperty)
    (lines : List PlaneLine) (planes : Nat) (originActive : Bool) :
    SdkProgram (Client × Bool × Bool) := do
  let started ← ask (.startPrint property)
  let (client, ok) := client.callSucceeded started "StartPrint"
  if !ok then
    let _ ← ask .closePrint
    -- The ARM library keeps its session, the other one loses its connection.
    if sdk.arm then
      return (client.setError ("StartPrint could not open its data channel. The active ARM control " ++
        "session was preserved; no automatic reconnect was attempted."), originActive, false)
    else return ({ client with connected := false }, originActive, false)
  else
    let (client, sent) ← sendLines sdk source property.bytesPerLine planes lines client
    if !sent then return (client, originActive, false)
    else
      let ended ← ask .endPrint
      let (client, ok) := client.callSucceeded ended "EndPrint"
      if !ok then
        let _ ← abortActivePrintAndWaitForController sdk
        return (client, originActive, false)
      else
        let closed ← ask .closePrint
        let (client, ok) := client.callSucceeded closed "ClosePrint"
        if !ok then return (client, originActive, false)
        else
          let (client, reset) ← resetJobOrigin sdk client originActive false
          return (client, false, reset)

/-! ## Jobs -/

/-- `clampInt` to a `uint16_t`. -/
def clampUInt16 (value : Int32) (low high : Int) : UInt16 := UInt16.ofInt (clamp value.toInt low high)

/-- `makeJobSettings`. -/
def makeJobSettings (settings : DirectPrintSettings) : JobSettings where
  printDirection := clampUInt16 settings.printDirection 0 3
  printSpeed := clampUInt16 settings.printSpeed 0 3
  wcSequence := clampUInt16 settings.wcSequence 0 1
  eclosionGrade := clampUInt16 settings.eclosionGrade 0 3
  headSelect := clampUInt16 settings.headSelect 0 2
  wInkPercent := clampUInt16 settings.whiteInkPercent 0 9
  wInkPassCount := clampUInt16 settings.whiteInkPassCount 0 255
  vInkPercent := clampUInt16 settings.varnishInkPercent 0 9
  vInkPassCount := clampUInt16 settings.varnishInkPassCount 0 255
  headVoltage := clampUInt16 settings.headVoltage 400 600
  disableUVLights :=
    [settings.disableUv0, settings.disableUv1, settings.disableUv2, settings.disableUv3,
      settings.disableUv4, settings.disableUv5].map fun value ↦ (clampUInt16 value 0 1).toUInt8
  carReset := clampUInt16 settings.carReset 0 1
  stripBlank := clampUInt16 settings.stripBlank 0 2
  blankDistance := clampUInt16 settings.blankDistance 0 65535

/-- `std::max(0, value)` as a `uint32_t`. -/
def nonnegative (value : Int32) : UInt32 := UInt32.ofNat value.toInt.toNat

/-- The property record of a job, or `none` when an X-33 raster is not canonical. -/
def jobProperty (sdk : Sdk) (raster : DirectPrintRaster) (settings : DirectPrintSettings)
    (bytesPerLine : Int32) : Option PrintJobProperty :=
  if raster.format = .nocaiX33Standard then
    let expectedHeader := NocaiPrnWriter.makeStandardX33Header raster.width raster.height raster.xdpi
      raster.ydpi bytesPerLine (Int32.ofNat raster.channelOrder.length)
    if raster.canonicalHeader ≠ expectedHeader ∨
        (raster.channelOrder ≠ [2, 1, 0, 3] ∧ raster.channelOrder ≠ [2, 1, 0, 3, 4, 4]) then none
    else if sdk.arm then
      some (.ofHeader (NocaiPrnWriter.makeStandardX33SdkHeader raster.canonicalHeader))
    else some (.ofHeader raster.canonicalHeader)
  else
    some
      { signature := 0x00005555
        xdpi := UInt32.ofInt (max 1 raster.xdpi.toInt)
        ydpi := UInt32.ofInt (max 1 raster.ydpi.toInt)
        bytesPerLine := nonnegative bytesPerLine
        height := nonnegative raster.height
        width := nonnegative raster.width
        paperWidth := 0
        colors := UInt32.ofNat raster.channelOrder.length
        bits := 1
        pass := nonnegative settings.pass
        vsdMode := nonnegative settings.vsdMode }

/-- The printer a job asks for, or the selected one, or the only one. -/
def jobPrinterIndex (client : Client) (settings : DirectPrintSettings) : Option Int32 :=
  if settings.printerIndex ≥ 0 then some settings.printerIndex
  else if client.selectedPrinterIndex ≥ 0 then some client.selectedPrinterIndex
  else
    match client.printers with
    | [(index, _)] => some index
    | _ => none

/-- The steps of a job that find, choose and connect its printer. -/
def connectJobPrinter (sdk : Sdk) (client : Client) (settings : DirectPrintSettings) :
    SdkProgram (Client × Bool) := do
  let (client, found) ←
    (if !client.connected && client.printers.isEmpty then refreshPrinters sdk client
      else pure (client, true))
  if !found then return (client, false)
  else
    match jobPrinterIndex client settings with
    | none => return (client.setError "No SDK printer is selected for direct printing.", false)
    | some index =>
      let (client, chosen) ←
        (if index ≠ client.selectedPrinterIndex then choosePrinter client index
          else pure (client, true))
      if !chosen then return (client, false)
      else if !client.connected then connectPrinter sdk client
      else return (client, true)

/-- The steps of a job from the media height to the origin; also returns whether the origin must be
reset later. The ARM library sets the origin before it is initialized. -/
def prepareJob (sdk : Sdk) (client : Client) (raster : DirectPrintRaster)
    (settings : DirectPrintSettings) (jobSettings : JobSettings) :
    SdkProgram (Client × Bool × Bool) := do
  let x33 := decide (raster.format = .nocaiX33Standard)
  let (client, ready) ← prepareMediaHeight sdk client settings.mediaHeightMm
  if !ready then return (client, false, false)
  else
    let (client, stored) ← storeSettings client x33
    if !stored then return (client, false, false)
    else
      let (client, originActive, early) ←
        (if sdk.arm && x33 then prepareX33PrintOrigin sdk client settings
          else pure (client, false, true))
      if !early then return (client, originActive, false)
      else
        let result ← ask .initPrinter
        let (client, ok) := client.callSucceeded result "InitPrinter"
        if !ok then return (client, originActive, false)
        else if !sdk.arm && x33 then prepareX33PrintOrigin sdk client settings
        else return (client, originActive, true)
where
  /-- The job settings, which the ARM library keeps for an X-33. -/
  storeSettings (client : Client) (x33 : Bool) : SdkProgram (Client × Bool) := do
    if sdk.arm && x33 then return (client, true)
    else
      let result ← ask (.setJobSettings jobSettings)
      return client.callSucceeded result "SetJobSettings"

/-- The line size of a raster, or of its first line; `none` reads past an empty plane. -/
def jobBytesPerLine (raster : DirectPrintRaster) (packedLines : List (List Bytes)) : Option Int32 :=
  if raster.bytesPerLine > 0 then some raster.bytesPerLine
  else
    match (packedLines.head?.getD []).head? with
    | some line => some (Int32.ofNat line.length)
    | none => none

/-- `printPackedJob`, with the open spool reader if there is one. The result is `none` when the code
reads out of bounds. -/
def printPackedJob (sdk : Sdk) (client : Client) (raster : DirectPrintRaster)
    (settings : DirectPrintSettings) (spool : Option (Reader × Store String)) :
    SdkProgram (Client × Option Bool) := do
  match ← ask .ensureLoaded with
  | some message => return (client.setError message, some false)
  | none =>
    let packedLines := raster.packedLines.getD []
    if packedLines = [] ∨ raster.channelOrder = [] then
      return (client.setError "Direct print raster is empty.", some false)
    else
      match jobBytesPerLine raster packedLines with
      | none => return (client, none)
      | some bytesPerLine =>
        match jobProperty sdk raster settings bytesPerLine with
        | none =>
          return (client.setError
            "The X-33 direct-print raster does not match the canonical PRN contract.", some false)
        | some property =>
          let made := makeJobSettings settings
          let jobSettings :=
            if raster.format = .nocaiX33Standard then { made with printDirection := 1 } else made
          let (client, connected) ← connectJobPrinter sdk client settings
          if !connected then return (client, some false)
          else
            match ← ask .enterSdkDirectory with
            | some message => return (client.setError message, some false)
            | none =>
              let (client, originActive, ok) ← runJob jobSettings property packedLines client
              let (client, _) ← resetJobOrigin sdk client originActive true
              return (client, some ok)
where
  /-- The callback of `withSdkWorkingDirectory`, less its guard. -/
  runJob (jobSettings : JobSettings) (property : PrintJobProperty)
      (packedLines : List (List Bytes)) (client : Client) : SdkProgram (Client × Bool × Bool) := do
    let (client, originActive, ready) ← prepareJob sdk client raster settings jobSettings
    if !ready then return (client, originActive, false)
    else
      printSession sdk client { packedLines, spool } property
        (planeLines raster.height raster.channelOrder) raster.channelOrder.length originActive

end PrintFlow.NocaiDirectPrintClient
