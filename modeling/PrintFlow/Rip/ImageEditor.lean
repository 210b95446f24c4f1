import PrintFlow.Core.Qt
import PrintFlow.Library.History

/-!
# The image editor

`ImageEditor` applies ImageMagick operations to an image. An edit saves the image for undo, applies
one operation and reports whether it was applied; the operation throws or gives the changed image.
Three edits set a value that all of them modulate the image with.
-/

namespace PrintFlow

open FloatFormat

/-- `Magick::Geometry`, as the editor makes it. -/
inductive Geometry where
  | text (geometry : String)
  | size (width height : Nat)
  | area (width height x y : Int32)
  deriving DecidableEq, Repr

/-- The `Magick::Drawable` values the editor draws. -/
inductive Drawable where
  | font (name : String)
  | pointSize (size : Nat)
  | text (x y : Int32) (text : String)
  | fillColor (color : String)
  | strokeColor (color : String)
  | rectangle (x y right bottom : Int32)
  deriving DecidableEq, Repr

/-- What the editor calls of ImageMagick on an image. An operation gives the changed image, or it
throws, which leaves the image. -/
structure Magick (I : Type) where
  columns : I → Nat
  rows : I → Nat
  baseColumns : I → Nat
  baseRows : I → Nat
  resize : Geometry → I → Option I
  rotate : Double → I → Option I
  flop : I → Option I
  flip : I → Option I
  crop : Geometry → I → Option I
  modulate : (brightness saturation hue : Double) → I → Option I
  sigmoidalContrast : Bool → (contrast midpoint : Double) → I → Option I
  gamma : Double → I → Option I
  sharpen : (radius sigma : Double) → I → Option I
  blur : (radius sigma : Double) → I → Option I
  sepiaTone : Double → I → Option I
  vignette : I → Option I
  swirl : Double → I → Option I
  implode : Double → I → Option I
  draw : List Drawable → I → Option I

/-- The remembered brightness, saturation and hue. -/
structure Modulation where
  brightness : Double := .finite 100
  saturation : Double := .finite 100
  hue : Double := .finite 100
  deriving DecidableEq, Repr

/-- The state that an edit works on. -/
structure EditingState (I : Type) where
  image : I
  modulation : Modulation

/-- `ImageEditor`. The last entry of a stack is the first of its list. -/
structure ImageEditor (I : Type) where
  image : I
  imageLoaded : Bool
  undoStack : List I
  redoStack : List I
  modulation : Modulation

/-- An edit: whether it takes its argument, what it remembers and the operation it applies. -/
structure Edit (I : Type) where
  accepted : Bool := true
  remember : Modulation → Modulation := id
  operation : Modulation → I → Option I

namespace ImageEditor

variable {I : Type} (magick : Magick I)

/-! ## The edits -/

/-- `resizeImage`. -/
def resizeImage (width height : Int32) : Edit I where
  operation _ := magick.resize
    (.text (toString width.toInt ++ "x" ++ toString height.toInt ++ "!"))

/-- `rotate`. -/
def rotate (degrees : Double) : Edit I where
  operation _ := magick.rotate degrees

/-- `flip`, which returns before it saves the image when it does not know the direction. -/
def flip (direction : String) : Edit I where
  accepted := direction == "horizontal" || direction == "vertical"
  operation _ := if direction = "horizontal" then magick.flop else magick.flip

/-- `crop`. -/
def crop (x y width height : Int32) : Edit I where
  operation _ := magick.crop (.area width height x y)

/-- `resizeToOriginal`. -/
def resizeToOriginal : Edit I where
  operation _ image := magick.resize (.size (magick.baseColumns image) (magick.baseRows image)) image

/-- `resizeToHalf`. -/
def resizeToHalf : Edit I where
  operation _ image := magick.resize (.size (magick.columns image / 2) (magick.rows image / 2)) image

/-- `resizeToDouble`. -/
def resizeToDouble : Edit I where
  operation _ image := magick.resize (.size (magick.columns image * 2) (magick.rows image * 2)) image

/-- `m_image.modulate(m_brightness, m_saturation, m_hue)`. -/
def modulate (modulation : Modulation) : I → Option I :=
  magick.modulate modulation.brightness modulation.saturation modulation.hue

/-- A percentage around 100. -/
def percent (value : Int32) : Double := .finite (100 + value.toInt)

/-- `adjustBrightness`. -/
def adjustBrightness (brightness : Int32) : Edit I where
  remember modulation := { modulation with brightness := percent brightness }
  operation := modulate magick

/-- `adjustHue`. -/
def adjustHue (hue : Int32) : Edit I where
  remember modulation := { modulation with hue := percent hue }
  operation := modulate magick

/-- `adjustContrast`. -/
def adjustContrast (increase : Bool) (contrastAmount midpoint : Double) : Edit I where
  operation _ := magick.sigmoidalContrast increase contrastAmount midpoint

/-- `adjustSaturation`. -/
def adjustSaturation (saturation : Int32) : Edit I where
  remember modulation := { modulation with saturation := percent saturation }
  operation := modulate magick

/-- `adjustGamma`. -/
def adjustGamma (gamma : Double) : Edit I where
  operation _ := magick.gamma gamma

/-- `sharpenImage`. -/
def sharpenImage (radius sigma : Double) : Edit I where
  operation _ := magick.sharpen radius sigma

/-- `applyBlur`. -/
def applyBlur (radius sigma : Double) : Edit I where
  operation _ := magick.blur radius sigma

/-- `applySepia`. -/
def applySepia (threshold : Double) : Edit I where
  operation _ := magick.sepiaTone threshold

/-- `applyVignette`. -/
def applyVignette : Edit I where
  operation _ := magick.vignette

/-- `applySwirl`. -/
def applySwirl (degrees : Double) : Edit I where
  operation _ := magick.swirl degrees

/-- `applyImplode`. -/
def applyImplode (factor : Double) : Edit I where
  operation _ := magick.implode factor

/-- `drawText`. -/
def drawText (text : String) (x y : Int32) : Edit I where
  operation _ := magick.draw
    [.font "Arial", .pointSize 24, .text x y text, .fillColor "white"]

/-- `drawRectangle`. -/
def drawRectangle (x y w h : Int32) : Edit I where
  operation _ := magick.draw
    [.strokeColor "red", .fillColor "none", .rectangle x y (x + w) (y + h)]

/-! ## What an edit does to the editor -/

/-- `pushUndoState`. -/
def pushUndoState (editor : ImageEditor I) : ImageEditor I :=
  if editor.imageLoaded then
    { editor with undoStack := editor.image :: editor.undoStack, redoStack := [] }
  else editor

/-- The body of an edit: it saves the image, remembers its value and applies its operation, which
may throw. -/
def perform (edit : Edit I) (editor : ImageEditor I) : ImageEditor I × Bool :=
  if !editor.imageLoaded then (editor, false)
  else if !edit.accepted then (editor, false)
  else
    let editor := pushUndoState editor
    let editor := { editor with modulation := edit.remember editor.modulation }
    match edit.operation editor.modulation editor.image with
    | none => (editor, false)
    | some image => ({ editor with image := image }, true)

/-- `undo`. -/
def undo (editor : ImageEditor I) : ImageEditor I × Bool :=
  match editor.undoStack with
  | [] => (editor, false)
  | image :: rest =>
    ({ editor with
        redoStack := editor.image :: editor.redoStack
        image := image
        undoStack := rest }, true)

/-- `redo`. -/
def redo (editor : ImageEditor I) : ImageEditor I × Bool :=
  match editor.redoStack with
  | [] => (editor, false)
  | image :: rest =>
    ({ editor with
        undoStack := editor.image :: editor.undoStack
        image := image
        redoStack := rest }, true)

end ImageEditor

/-- A call of an edit with its arguments. -/
inductive EditCall where
  | resizeImage (width height : Int32)
  | rotate (degrees : Double)
  | flip (direction : String)
  | crop (x y width height : Int32)
  | resizeToOriginal
  | resizeToHalf
  | resizeToDouble
  | adjustBrightness (brightness : Int32)
  | adjustHue (hue : Int32)
  | adjustContrast (increase : Bool) (contrastAmount midpoint : Double)
  | adjustSaturation (saturation : Int32)
  | adjustGamma (gamma : Double)
  | sharpenImage (radius sigma : Double)
  | applyBlur (radius sigma : Double)
  | applySepia (threshold : Double)
  | applyVignette
  | applySwirl (degrees : Double)
  | applyImplode (factor : Double)
  | drawText (text : String) (x y : Int32)
  | drawRectangle (x y w h : Int32)
  deriving DecidableEq, Repr

/-- The edit that is called. -/
def EditCall.edit {I : Type} (magick : Magick I) : EditCall → Edit I
  | .resizeImage width height => ImageEditor.resizeImage magick width height
  | .rotate degrees => ImageEditor.rotate magick degrees
  | .flip direction => ImageEditor.flip magick direction
  | .crop x y width height => ImageEditor.crop magick x y width height
  | .resizeToOriginal => ImageEditor.resizeToOriginal magick
  | .resizeToHalf => ImageEditor.resizeToHalf magick
  | .resizeToDouble => ImageEditor.resizeToDouble magick
  | .adjustBrightness brightness => ImageEditor.adjustBrightness magick brightness
  | .adjustHue hue => ImageEditor.adjustHue magick hue
  | .adjustContrast increase contrastAmount midpoint =>
    ImageEditor.adjustContrast magick increase contrastAmount midpoint
  | .adjustSaturation saturation => ImageEditor.adjustSaturation magick saturation
  | .adjustGamma gamma => ImageEditor.adjustGamma magick gamma
  | .sharpenImage radius sigma => ImageEditor.sharpenImage magick radius sigma
  | .applyBlur radius sigma => ImageEditor.applyBlur magick radius sigma
  | .applySepia threshold => ImageEditor.applySepia magick threshold
  | .applyVignette => ImageEditor.applyVignette magick
  | .applySwirl degrees => ImageEditor.applySwirl magick degrees
  | .applyImplode factor => ImageEditor.applyImplode magick factor
  | .drawText text x y => ImageEditor.drawText magick text x y
  | .drawRectangle x y w h => ImageEditor.drawRectangle magick x y w h

end PrintFlow
