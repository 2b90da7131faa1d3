import Panel.Code.Macro
import Panel.Code.Program
import Panel.Picture.Convert
import Panel.Picture.Fit
import Panel.Picture.Rule

/-! # Building pictures — the constant data of a picture and its object -/

namespace Panel.Picture

open Cpp Code

/-- The frames of a file and the size they shall have. -/
structure Opened where
  frames : List Frame
  width : Nat
  height : Nat
  deriving BEq, DecidableEq, Repr, Inhabited

/-- What has been written for a picture. -/
structure Written where
  array : Expr
  width : Nat
  height : Nat
  format : Expr
  transparency : Expr
  frames : Nat
  deriving Inhabited

def formatExpr (name : String) : Expr := Expr.named ("image::IMAGE_TYPE_" ++ Text.upper name)

def transparencyExpr (name : String) : Expr := Expr.named ("image::TRANSPARENCY_" ++ Text.upper name)

def framesAt (s : Session) (path : String) : List Frame :=
  match s.pictures.find? (·.1 == path) with
  | some (_, frames) => frames
  | none => []

/-- A number as a side of a box; what is not positive is no room at all. -/
def sideOf (v : Value) : Check Ratio :=
  match v with
  | .int n => pure (Ratio.ofNat n.toNat)
  | .bool b => pure (Ratio.ofNat (if b then 1 else 0))
  | .float x =>
    if x ≤ 0 then pure (Ratio.ofNat 0)
    else match Text.Binary.ofFloat? x with
      | some b => let (num, den) := b.ratio; pure ⟨num, den⟩
      | none => throw .wrongKind
  | _ => throw .wrongKind

def boxOf (v : Value) : Check (Ratio × Ratio) := do
  match v with
  | .list (w :: h :: _) => return (← sideOf w, ← sideOf h)
  | .list (w :: _) =>
    let _ ← sideOf w
    throw .noIndex
  | .list [] => throw .noIndex
  | _ => throw .wrongKind

def drawnSize (v : Value) : Check (Int × Int) := do
  match v with
  | .list [w, h] => return (← Test.convertInt w, ← Test.convertInt h)
  | .list xs => throw (Pixel.miscount 2 xs.length)
  | _ => throw .wrongKind

def drawn (resize : Value) (frames : List Frame) : Check Opened := do
  let size ← if resize.truthy then some <$> drawnSize resize else pure none
  modify fun s => { s with rendered := s.rendered ++ [size] }
  match frames with
  | [] => throw (.badValue "no picture")
  | f :: _ => return ⟨frames, f.width, f.height⟩

def read (path : String) (resize : Value) (frames : List Frame) : Check Opened := do
  match frames with
  | [] => throw (.badValue ("cannot identify image file " ++ Text.quoted path))
  | f :: _ =>
    if resize.truthy then
      let (w, h) ← boxOf resize
      let (width, height) := fitted Ratio.nearestDouble f.width f.height w h
      return ⟨frames, width, height⟩
    else return ⟨frames, f.width, f.height⟩

/-- The frames of a file, and the size that they shall have. -/
def opened (path : String) (resize : Value) : Check Opened := do
  let s ← get
  match Files.fileAt? s path with
  | none => throw (.rejected ("Could not load image file " ++ path))
  | some bytes =>
    let frames := framesAt s path
    tryCatch (if isVector bytes then drawn resize frames else read path resize frames) fun
      | .badValue reason =>
        throw (.rejected ("Could not read image file " ++ path ++ ": " ++ reason))
      | e => throw e

def converted (path : String) (dithered : Bool) (e : Encoder) (f : Frame) :
    Check (Encoder × List (List Pixel)) := do
  match e.format with
  | .binary => return (e, (if f.isAlphaOnly then f.lastChannel else f).blackWhite dithered)
  | .grayscale =>
    if f.isAlphaOnly then
      let rows := f.lastChannel.rows.map (·.map fun p => Pixel.samples (grayAlpha p))
      if e.transparency = .alphaChannel then return (e, rows)
      logWarning ("Grayscale image " ++ path ++ " is alpha only, but transparency is set to "
        ++ e.transparency.name)
      return ({ e with transparency := .alphaChannel }, rows)
    else return (e, f.rows.map (·.map fun p => Pixel.samples (grayAlpha p)))
  | .rgb565 => return (e, f.rows.map (·.map fun p => Pixel.samples (rgba p)))
  | .rgb => return (e, f.rows.map (·.map fun p => Pixel.samples (rgba p)))

def encodeFrames (path : String) (dithered : Bool) (width height : Nat) :
    Encoder → List Frame → Check Encoder
  | e, [] => pure e
  | e, f :: frames => do
    if width = 0 ∨ height = 0 then throw (.badValue "height and width must be > 0")
    let (e, rows) ← converted path dithered e (f.resized width height)
    match e.encodeFrame rows with
    | .ok e => encodeFrames path dithered width height e frames
    | .error fault => throw fault

def storedFormat (name : Value) : Check Format :=
  match Format.ofName? name.show, Retired.ofName? name.show with
  | some f, _ => pure f
  | none, some _ => throw .wrongKind
  | none, none => throw (.missingKey name.show)

def encoderOf (format : Format) (t : Transparency) (inverted bigEndian : Bool) (w h : Nat) : Encoder :=
  { Encoder.new format t inverted w h with bigEndian }

def transparencyOf (config : Value) : Transparency :=
  Transparency.ofName ((config.get? "transparency").getD (.str Transparency.solid.name)).show

def writeFrames (config : Value) (path : String) (o : Opened) (dithered : Bool) (format : Format)
    (inverted : Bool) (frames : List Frame) : Check Written := do
  let e := encoderOf format (transparencyOf config) inverted
    (Value.same ((config.get? "byte_order").getD .null) (.str "BIG_ENDIAN")) o.width
    (o.height * frames.length)
  let e ← encodeFrames path dithered o.width o.height e frames
  let bytes := e.data.toList.map fun (b : Nat) => Value.cpp (.hex b)
  let array ← romArray (← identAt config "raw_data_id") (.list bytes)
  return ⟨array, o.width, o.height, formatExpr format.name, transparencyExpr e.transparency.name,
    frames.length⟩

/-- Writes the data of a picture, of its first frame or of all frames. -/
def write (config : Value) (allFrames : Bool) : Check Written := do
  let path := Files.tidy (← required config "file").show
  let resize := (config.get? "resize").getD .null
  let o ← opened path resize
  if !resize.truthy && (o.width > 500 || o.height > 500) then
    logWarning ("The image \"" ++ path
      ++ "\" you requested is very big. Please consider using the resize parameter.")
  let dithered := !(Value.same (← required config "dither") (.str "NONE"))
  let name ← required config "type"
  let inverted ← required config "invert_alpha"
  let frames := if allFrames then o.frames else o.frames.take 1
  if allFrames && frames.length ≤ 1 then
    logWarning ("Image file " ++ path ++ " has no animation frames")
  writeFrames config path o dithered (← storedFormat name) inverted.truthy frames

def createOne (config : Value) : Check Unit := do
  let w ← write config false
  let id ← identAt config "id"
  let _ ← newObject id
    [.cpp w.array, .int w.width, .int w.height, .cpp w.format, .cpp w.transparency]
  modify fun s => { s with
    imageData := s.imageData ++ [(id.text, .dict
      [("width", .int w.width), ("height", .int w.height), ("type", .cpp w.format),
        ("transparency", .cpp w.transparency)])] }

def create (configs : List Value) : Check Unit := do
  define "USE_IMAGE" none
  modify fun s => { s with imageData := [] }
  configs.forM createOne

end Panel.Picture
