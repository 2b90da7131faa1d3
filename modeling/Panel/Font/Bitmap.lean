import Panel.Failure
import Panel.Pieces
import Panel.Font.Face

/-! # Glyph bitmaps — the bits of a glyph as a font stores them -/

namespace Panel.Font

/-- A size in 64ths of a pixel in whole pixels, rounded up. -/
def pixels (size : Int) : Int := (size + 63) / 64

/-- The byte at an index; an index below zero counts from the end. -/
def byteAt (buffer : List Nat) (i : Int) : Except Failure Nat :=
  let j := if i < 0 then i + buffer.length else i
  if j < 0 then .error .noIndex
  else match buffer[j.toNat]? with
    | some b => .ok b
    | none => .error .noIndex

/-- The pixel at a place, in `bpp` bits: one bit of a black and white bitmap becomes all bits or
    none, a shade loses its low bits. -/
def Glyph.pixel (g : Glyph) (bpp x y : Nat) : Except Failure Nat := do
  if g.mono then
    let b ← byteAt g.buffer (y * g.pitch + (x / 8 : Nat))
    return if b.testBit (7 - x % 8) then (1 <<< bpp) - 1 else 0
  else
    let b ← byteAt g.buffer (y * g.pitch + x)
    let scale := 256 >>> bpp
    if scale = 0 then .error .zeroDivision else .ok (b / scale)

def Glyph.pixelList (g : Glyph) (bpp : Nat) : Except Failure (List Nat) :=
  ((List.range g.height.toNat).flatMap fun y =>
    (List.range g.width.toNat).map fun x => (x, y)).mapM fun (x, y) => g.pixel bpp x y

/-- The bits of a pixel, most significant first. -/
def bits (bpp pixel : Nat) : List Bool := (List.range bpp).map fun i => pixel.testBit (bpp - i - 1)

/-- A byte of up to eight bits, the first most significant. -/
def byteOf : List Bool → (weight : Nat) → Nat
  | [], _ => 0
  | b :: bs, weight => (if b then weight else 0) + byteOf bs (weight / 2)

def packed (bs : List Bool) : List Nat := (pieces 8 bs).map (byteOf · 0x80)

def Glyph.data (g : Glyph) (bpp : Nat) : Except Failure (List Nat) := do
  return packed ((← g.pixelList bpp).flatMap (bits bpp))

/-- A glyph as it stands in a font. -/
structure Drawn where
  point : Nat
  data : List Nat
  advance : Int
  left : Int
  top : Int
  width : Int
  height : Int
  deriving BEq, DecidableEq, Repr, Inhabited

def Face.requests (f : Face) (point : Nat) (size : Int) (bpp : Nat) : List Request :=
  let scaling :=
    if f.scalable then [Request.setPixelSizes size 0]
    else
      let i := (f.sizes.map pixels).idxOf size
      if i < f.sizes.length then [Request.selectSize i] else []
  let flags := if bpp = 1 then 4 + 131072 else 4 + 8
  scaling ++ [Request.loadChar point flags]

/-- How far glyphs rise above the base line.  A face that does not tell rises by its size, unless it
    is scalable. -/
def Face.rise (f : Face) (size : Int) : Int :=
  let ascender := pixels f.ascender
  if ascender = 0 ∧ ¬f.scalable then size else ascender

/-- Does a scalable face not tell how far it rises? -/
def Face.riseUnknown (f : Face) : Bool := pixels f.ascender == 0 && f.scalable

def Face.draw (f : Face) (point : Nat) (size : Int) (bpp : Nat) : Except Failure Drawn := do
  let g := f.glyph point
  let data ← g.data bpp
  return ⟨point, data, pixels g.advance, g.left, f.rise size - g.top, g.width, g.height⟩

end Panel.Font
