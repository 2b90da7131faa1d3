/-! # Font faces — the glyph bitmaps that a font is built from -/

namespace Panel.Font

/-- The bitmap and the metrics of one glyph. -/
structure Glyph where
  width : Int
  height : Int
  pitch : Int
  buffer : List Nat
  mono : Bool
  advance : Int
  left : Int
  top : Int
  deriving BEq, DecidableEq, Repr, Inhabited

/-- The bitmap of a character that the face does not have. -/
def Glyph.empty : Glyph := ⟨0, 0, 0, [], false, 0, 0, 0⟩

/-- A face: glyphs by code point, and its measures in 64ths of a pixel. -/
structure Face where
  glyphs : List (Nat × Glyph)
  ascender : Int
  descender : Int
  height : Int
  scalable : Bool
  sizes : List Int
  family : String
  style : String
  deriving BEq, DecidableEq, Repr, Inhabited

def Face.covers (f : Face) (point : Nat) : Bool :=
  f.glyphs.any (·.1 == point)

def Face.glyph (f : Face) (point : Nat) : Glyph :=
  match f.glyphs.find? (·.1 == point) with
  | some (_, g) => g
  | none => Glyph.empty

/-- A request to the rasteriser. -/
inductive Request where
  | selectSize (index : Nat)
  | setPixelSizes (width height : Int)
  | loadChar (point : Nat) (flags : Nat)
  deriving BEq, DecidableEq, Repr, Inhabited

/-- A face in use, with the requests made of it so far, the latest first. -/
structure Loaded where
  face : Face
  requests : List Request
  deriving BEq, DecidableEq, Repr, Inhabited

end Panel.Font
