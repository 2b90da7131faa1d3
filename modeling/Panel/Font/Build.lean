import Panel.Font.Rule

/-! # Building fonts — the glyph data, the glyph table and the object -/

namespace Panel.Font

open Cpp Code

def drawOne (src : Source) (point : Nat) (size : Int) (bpp : Nat) : Check Drawn := do
  let face ← Cache.get src
  Cache.note src.key (face.requests point size bpp)
  match face.draw point size bpp with
  | .error e => throw e
  | .ok g =>
    if face.riseUnknown then
      logError ("Unable to determine ascender of font " ++ face.family ++ " " ++ face.style)
    return g

def drawAll (d : Description) (size : Int) (bpp : Nat) : List Char → Check (List Drawn)
  | [] => pure []
  | c :: cs => do
    let g ← drawOne (d.sourceOf c) c.toNat size bpp
    return g :: (← drawAll d size bpp cs)

def offsets : Nat → List Drawn → List Nat
  | _, [] => []
  | start, g :: gs => start :: offsets (start + g.data.length) gs

def tableRow (array : Expr) (g : Drawn) (offset : Nat) : Expr :=
  .array [.integer g.point, .binary "+" array (.integer offset), .integer g.advance,
    .integer g.left, .integer g.top, .integer g.width, .integer g.height]

def table (array : Expr) (gs : List Drawn) : List Expr :=
  List.zipWith (tableRow array) gs (offsets 0 gs)

/-- The height of a letter; glyphs of a byte at most have none. -/
def letterHeight (g : Drawn) : Int := if g.data.length > 1 then g.height else 0

def wholeOf (v : Value) : Check Int :=
  match v with
  | .int n => pure n
  | .bool b => pure (if b then 1 else 0)
  | _ => throw .wrongKind

/-- Writes the data of glyphs and the table that points into it; the result is the table. -/
def writeTable (config : Value) (gs : List Drawn) : Check Expr := do
  let bytes := (gs.flatMap (·.data)).map fun (b : Nat) => Value.cpp (.hex b)
  let array ← romArray (← identAt config "raw_data_id") (.list bytes)
  let glyphId ← identAt config "raw_glyph_id"
  constantArray glyphId.text glyphClass (.list ((table array gs).map Value.cpp))

/-- The measures of a font: how far it rises, its height, how far it falls, and the heights of a
    small and of a capital letter. -/
def measures (config : Value) (src : Source) (base : Face) (size : Int) (bpp : Nat) :
    Check (List Int) := do
  let small ← drawOne src 'x'.toNat size bpp
  let capital ← drawOne src 'X'.toNat size bpp
  let told := pixels base.height
  let (height, ascender) :=
    if told = 0 ∧ ¬base.scalable then (size, size) else (told, pixels base.ascender)
  if told = 0 ∧ base.scalable then
    logError ("Unable to determine height of font " ++ (← required config "file").show)
  return [ascender, height, (pixels base.descender).natAbs, letterHeight small,
    letterHeight capital]

def create (config : Value) : Check Unit := do
  define "USE_FONT" none
  let d ← Description.ofValue config
  let base ← Cache.get d.source
  d.extras.forM fun e => discard (Cache.get e.source)
  let bppValue ← required config "bpp"
  let sizeValue ← required config "size"
  let bpp := (← wholeOf bppValue).toNat
  let size ← wholeOf sizeValue
  let gs ← drawAll d size bpp d.chars
  let glyphs ← writeTable config gs
  let ms ← measures config d.source base size bpp
  let _ ← newObject (← identAt config "id")
    (.cpp glyphs :: .int gs.length :: ms.map Value.int ++ [bppValue])

end Panel.Font
