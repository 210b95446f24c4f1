import PrintFlow.Core.Qt

/-!
# Rasters, spools and print settings

The data `IPrintOutputClient.h` shares between rasterization, the printer service and the vendor
client.
-/

namespace PrintFlow

open FloatFormat

/-- `enum class DirectPrintRasterFormat : uint8_t`. A cast from a stored byte can give it any
value of its underlying type. -/
structure DirectPrintRasterFormat where
  value : UInt8
  deriving DecidableEq, Repr

namespace DirectPrintRasterFormat

def unspecified : DirectPrintRasterFormat := ⟨0⟩
def nocaiX33Standard : DirectPrintRasterFormat := ⟨1⟩
def nocaiMultiInk : DirectPrintRasterFormat := ⟨2⟩

/-- One of the three enumerators. -/
def IsEnumerator (format : DirectPrintRasterFormat) : Prop := format.value ≤ 2

instance (format : DirectPrintRasterFormat) : Decidable format.IsEnumerator :=
  inferInstanceAs (Decidable (format.value ≤ 2))

end DirectPrintRasterFormat

/-- The settings of one direct print. `printOffsetXmm` and `printOffsetYmm` are the job's origin in
whole millimeters. -/
structure DirectPrintSettings where
  printerIndex : Int32 := -1
  printDirection : Int32 := 0
  printSpeed : Int32 := 1
  wcSequence : Int32 := 0
  eclosionGrade : Int32 := 2
  headSelect : Int32 := 0
  whiteInkPercent : Int32 := 0
  whiteInkPassCount : Int32 := 0
  varnishInkPercent : Int32 := 0
  varnishInkPassCount : Int32 := 0
  headVoltage : Int32 := 512
  disableUv0 : Int32 := 0
  disableUv1 : Int32 := 0
  disableUv2 : Int32 := 0
  disableUv3 : Int32 := 0
  disableUv4 : Int32 := 0
  disableUv5 : Int32 := 0
  carReset : Int32 := 0
  stripBlank : Int32 := 0
  blankDistance : Int32 := 0
  printOffsetXmm : Int32 := 0
  printOffsetYmm : Int32 := 0
  mediaHeightMm : Double := .finite (-1)
  pass : Int32 := 0
  vsdMode : Int32 := 0
  deriving DecidableEq, Repr

/-- The twelve words of a packed X-33 header. -/
abbrev CanonicalHeader := Vector UInt32 12

/-- The places of a header's words are numerals. -/
instance instNeZeroHeaderWords : NeZero 12 := ⟨by decide⟩

/-- A packed raster in memory: `packedLines[channel][row]`, with `none` for a null pointer. -/
structure DirectPrintRaster where
  packedLines : Option (List (List Bytes)) := none
  channelOrder : List Int32 := []
  width : Int32 := 0
  height : Int32 := 0
  xdpi : Int32 := 0
  ydpi : Int32 := 0
  bytesPerLine : Int32 := 0
  format : DirectPrintRasterFormat := .unspecified
  canonicalHeader : CanonicalHeader := Vector.replicate 12 0
  deriving DecidableEq

/-- A finalized, checksummed raster stored in a file. The logical planes are channel-major in the
file; `channelOrder` is the physical plane order of a row and may repeat a logical plane. -/
structure DirectPrintSpool where
  path : String := ""
  channelOrder : List Int32 := []
  logicalChannelCount : Int32 := 0
  width : Int32 := 0
  height : Int32 := 0
  xdpi : Int32 := 0
  ydpi : Int32 := 0
  bytesPerLine : Int32 := 0
  format : DirectPrintRasterFormat := .unspecified
  canonicalHeader : CanonicalHeader := Vector.replicate 12 0
  bodyOffset : UInt64 := 0
  bodyBytes : UInt64 := 0
  sha256 : Bytes := []
  deriving DecidableEq

end PrintFlow
