import PrintFlow.Rip.MultiInkToneBuilder

/-!
# Reading transfer curves

`loadTransferCurveXml` reads the curves of an XML file into the tables of a `MultiInkLinearization`.
Each curve is a text of coordinate pairs. Coordinates are doubles clamped to the unit interval, so
each is finite or not a number. The XML reader, `QString::toLower` and `QString::toDouble` are
parameters, as is the rounding of a double operation.
-/

namespace PrintFlow

open FloatFormat MultiInkToneBuilder

/-- What the loader calls of Qt and of the platform. -/
structure CurveReader where
  /-- `QString::toLower`. -/
  toLower : String → String
  /-- `QString::toDouble`. -/
  toDouble : String → Option Double
  /-- The rounding of a double operation. -/
  fl : ℚ → ℚ
  /-- The byte that `std::lround` gives for a value that is not a number. -/
  nanByte : UInt8

/-- A double that `clamp01` returned; `none` is not a number. -/
abbrev Coordinate : Type := Option ℚ

namespace Coordinate

/-- `clamp01` on what `QString::toDouble` gives. -/
def ofDouble (value : Double) : Coordinate :=
  match value.clamp (.finite 0) (.finite 1) with
  | .finite value => some value
  | _ => none

/-- The comparison `<` of doubles. -/
def less : Coordinate → Coordinate → Bool
  | some value, some other => value < other
  | _, _ => false

/-- The comparison `<=` of doubles. -/
def atMost : Coordinate → Coordinate → Bool
  | some value, some other => value ≤ other
  | _, _ => false

end Coordinate

namespace MultiInkLinearization

variable (q : CurveReader)

/-! ## Curves -/

/-- `normalizedSeparationName`. -/
def normalizedSeparationName (name : String) : String :=
  String.ofList ((q.toLower (trimmed name)).toList.filter fun c ↦ c ≠ ' ' && c ≠ '_' && c ≠ '-')

/-- `mapSeparationName`. -/
def mapSeparationName (name : String) : Option LinearizationChannel :=
  match normalizedSeparationName q name with
  | "cyan" | "c" => some .C
  | "magenta" | "m" => some .M
  | "yellow" | "y" => some .Y
  | "black" | "k" => some .K
  | "lightcyan" | "lc" => some .LC
  | "lightmagenta" | "lm" => some .LM
  | "lightblack" | "lk" => some .LK
  | "lightlightblack" | "llk" => some .LLK
  | "white" | "w" => some .W
  | "varnish" | "v" => some .V
  | _ => none

/-- The characters of the class `\s`. -/
def isBlank (c : Char) : Bool := c = ' ' || (0x09 ≤ c.toNat && c.toNat ≤ 0x0d)

/-- `curveText.split("\s+", Qt::SkipEmptyParts)`. -/
def curveParts (curveText : String) : List String :=
  ((curveText.toList.splitOnP isBlank).filter (· ≠ [])).map String.ofList

/-- The coordinates of these parts, two at a time. -/
def readPairs : List String → Except String (List Coordinate × List Coordinate)
  | x :: y :: rest =>
    match q.toDouble x, q.toDouble y with
    | some x, some y =>
      match readPairs rest with
      | .error message => .error message
      | .ok (xs, ys) => .ok (Coordinate.ofDouble x :: xs, Coordinate.ofDouble y :: ys)
    | _, _ => .error "Curve contains non-numeric values."
  | _ => .ok ([], [])

/-- Some coordinate is below the one before it. -/
def descends : List Coordinate → Bool
  | x :: next :: rest => Coordinate.less next x || descends (next :: rest)
  | _ => false

/-- `parseCurvePairs`. -/
def parseCurvePairs (curveText : String) : Except String (List Coordinate × List Coordinate) :=
  let parts := curveParts curveText
  if parts.length < 4 ∨ parts.length % 2 ≠ 0 then .error "Curve must contain x/y numeric pairs."
  else
    match readPairs q parts with
    | .error message => .error message
    | .ok (xs, ys) =>
      if descends xs then .error "Curve x-values must be ascending." else .ok (xs, ys)

/-! ## Tables -/

/-- `std::lower_bound` on the coordinates from `first` on, of which `len` are left. -/
def lowerBoundFrom (xs : List Coordinate) (x : ℚ) : (fuel first len : Nat) → Nat
  | 0, first, _ => first
  | fuel + 1, first, len =>
    if len = 0 then first
    else
      let half := len / 2
      if Coordinate.less (xs.getD (first + half) none) (some x) then
        lowerBoundFrom xs x fuel (first + half + 1) (len - half - 1)
      else lowerBoundFrom xs x fuel first half

/-- `std::lower_bound`: the index of the first coordinate that is not below a value. -/
def lowerBound (xs : List Coordinate) (x : ℚ) : Nat := lowerBoundFrom xs x xs.length 0 xs.length

/-- `std::abs(x1 - x0) < 1e-9`. -/
def nearlyEqual : Coordinate → Coordinate → Bool
  | some x0, some x1 => |q.fl (x1 - x0)| < q.fl (1 / 10 ^ 9)
  | _, _ => false

/-- The value between two knots. -/
def interpolate (x : ℚ) (x0 x1 y0 y1 : Coordinate) : Coordinate :=
  if nearlyEqual q x0 x1 then y1
  else
    match x0, x1, y0, y1 with
    | some x0, some x1, some y0, some y1 =>
      let t := q.fl (q.fl (x - x0) / q.fl (x1 - x0))
      some (q.fl (y0 + q.fl (q.fl (y1 - y0) * t)))
    | _, _, _, _ => none

/-- The value of a curve before it becomes a byte. -/
def curveValue (xs ys : List Coordinate) (x : ℚ) : Coordinate :=
  let front := xs.headD none
  let back := xs.getLastD none
  if Coordinate.atMost (some x) front then ys.headD none
  else if Coordinate.atMost back (some x) then ys.getLastD none
  else
    let idx := lowerBound xs x
    let i0 := idx - 1
    let i1 := min (xs.length - 1) idx
    interpolate q x (xs.getD i0 none) (xs.getD i1 none) (ys.getD i0 none) (ys.getD i1 none)

/-- `static_cast<uint8_t>(std::lround(value * 255.0))` for a value between 0 and 1. -/
def unitByte (value : ℚ) : UInt8 := .ofNat (roundHalfAway (q.fl (value * 255))).toNat

/-- The tone of a table entry, between 0 and 1. -/
def unitTone (tone : UInt8) : ℚ := q.fl (tone.toNat / 255)

/-- `buildLutFromTransferPairs`. -/
def buildLutFromTransferPairs (xs ys : List Coordinate) : Lut8 := fun input ↦
  if xs = [] ∨ ys = [] ∨ xs.length ≠ ys.length then makeLinearLut input
  else
    match curveValue q xs ys (unitTone q input) with
    | some y => unitByte q (clamp01 y)
    | none => q.nanByte

/-- `deriveLightInkLut`. -/
def deriveLightInkLut (parent : Lut8) (fadeStart fadeEnd strength : ℚ) : Lut8 := fun input ↦
  let fadeOut := q.fl (1 - smoothstep q.fl (q.fl fadeStart) (q.fl fadeEnd) (unitTone q input))
  let value := q.fl (q.fl (unitTone q (parent input) * fadeOut) * clamp01 (q.fl strength))
  unitByte q (clamp01 value)

/-- The light channels: the channel each is derived from, and the table derived. -/
def lightParent : LinearizationChannel → Option (LinearizationChannel × (Lut8 → Lut8))
  | .LC => some (.C, fun parent ↦ deriveLightInkLut q parent (45 / 100) (80 / 100) 1)
  | .LM => some (.M, fun parent ↦ deriveLightInkLut q parent (45 / 100) (80 / 100) 1)
  | .LK => some (.K, fun parent ↦ deriveLightInkLut q parent (55 / 100) (88 / 100) (95 / 100))
  | .LLK => some (.K, fun parent ↦ deriveLightInkLut q parent (30 / 100) (65 / 100) (85 / 100))
  | _ => none

/-- `deriveMissingLightChannels`. None of the parents is a light channel, so the order in which the
channels are derived does not matter. -/
def deriveMissingLightChannels (state : MultiInkLinearization) : MultiInkLinearization :=
  { state with
    channelLuts := fun channel ↦
      match lightParent q channel with
      | none => state.channelLuts channel
      | some (parent, derive) =>
        if !state.channelValid channel && state.channelValid parent then
          derive (state.channelLuts parent)
        else state.channelLuts channel }

/-! ## Files -/

/-- A start element: its name and its attributes, which are empty when they are missing. -/
structure XmlElement where
  name : String
  value : String → String

/-- What `QXmlStreamReader` gives for the content of a file: its start elements up to the first
error, and that error. -/
structure XmlDocument where
  elements : List XmlElement
  error : Option String

/-- The curve of an element: `none` when the loop skips it, and the message of a curve that is not
valid. -/
def elementCurve (element : XmlElement) : Option (Except String (LinearizationChannel × Lut8)) :=
  if element.name ≠ "TransferCurve" then none
  else
    let separation := trimmed (element.value "Separation")
    let curveText := trimmed (element.value "Curve")
    if separation = "" ∨ curveText = "" then none
    else
      match mapSeparationName q separation with
      | none => none
      | some channel =>
        match parseCurvePairs q curveText with
        | .error parseError =>
          some (.error ("Invalid curve for '" ++ separation ++ "': " ++ parseError))
        | .ok (xs, ys) => some (.ok (channel, buildLutFromTransferPairs q xs ys))

/-- The assignments to the tables of a channel. -/
def setCurve (state : MultiInkLinearization) (channel : LinearizationChannel) (lut : Lut8) :
    MultiInkLinearization :=
  { state with
    channelLuts := Function.update state.channelLuts channel lut
    channelValid := Function.update state.channelValid channel true }

/-- An error exit after the file was opened: the message is set and the tables are rebuilt. -/
def abandon (state : MultiInkLinearization) (message : String) : MultiInkLinearization :=
  rebuildIdentityLuts { state with lastError := message }

/-- The loop over the elements; the second part of the result is `foundAnySupportedCurve`. -/
def readCurves : List XmlElement → MultiInkLinearization × Bool →
    Except MultiInkLinearization (MultiInkLinearization × Bool)
  | [], found => .ok found
  | element :: rest, (state, found) =>
    match elementCurve q element with
    | none => readCurves rest (state, found)
    | some (.error message) => .error (abandon state message)
    | some (.ok (channel, lut)) => readCurves rest (setCurve state channel lut, true)

/-- `loadTransferCurveXml`, for the document at the path, or `none` when the file does not open. -/
def loadTransferCurveXml (path : String) (file : Option XmlDocument)
    (state : MultiInkLinearization) : MultiInkLinearization × Bool :=
  let state := { rebuildIdentityLuts state with lastError := "" }
  match file with
  | none => ({ state with lastError := "Could not open linearization XML: " ++ path }, false)
  | some document =>
    match readCurves q document.elements (state, false) with
    | .error state => (state, false)
    | .ok (state, foundAnySupportedCurve) =>
      match document.error with
      | some errorString => (abandon state ("XML parse error: " ++ errorString), false)
      | none =>
        if !foundAnySupportedCurve then
          (abandon state "No supported TransferCurve entries were found in the XML.", false)
        else
          ({ rebuildCombosFromChannels (deriveMissingLightChannels q state) with
              hasExternalCurves := true },
            true)

end MultiInkLinearization

end PrintFlow
