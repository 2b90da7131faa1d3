import Panel.Text.Chars

/-! # Picture formats — how the pixels of a picture are stored, and how it is transparent -/

namespace Panel.Picture

/-- How the pixels are stored. -/
inductive Format where
  | binary
  | grayscale
  | rgb565
  | rgb
  deriving BEq, DecidableEq, Repr, Inhabited

/-- Names of formats that are no longer stored. -/
inductive Retired where
  | transparentBinary
  | rgb24
  | rgba
  deriving BEq, DecidableEq, Repr, Inhabited

/-- How a picture marks transparent pixels.  A name that is none of the known ones is kept. -/
inductive Transparency where
  | solid
  | chromaKey
  | alphaChannel
  | other (name : String)
  deriving BEq, DecidableEq, Repr, Inhabited

namespace Format

/-- The formats in the order in which they are listed. -/
def all : List Format := [.binary, .grayscale, .rgb565, .rgb]

def name : Format → String
  | .binary => "BINARY"
  | .grayscale => "GRAYSCALE"
  | .rgb565 => "RGB565"
  | .rgb => "RGB"

def ofName? (s : String) : Option Format := all.find? (·.name == s)

def hasByteOrder : Format → Bool
  | .rgb565 => true
  | _ => false

end Format

namespace Retired

/-- The retired names in the order in which they are listed. -/
def all : List Retired := [.transparentBinary, .rgb24, .rgba]

def name : Retired → String
  | .transparentBinary => "TRANSPARENT_BINARY"
  | .rgb24 => "RGB24"
  | .rgba => "RGBA"

def advice : Retired → String
  | .transparentBinary => "'type: BINARY' and 'transparency: chroma_key'"
  | .rgb24 => "'type: RGB'"
  | .rgba => "'type: RGB' and 'transparency: alpha_channel'"

def ofName? (s : String) : Option Retired := all.find? (·.name == s)

end Retired

def formatNames : List String := Format.all.map (·.name) ++ Retired.all.map (·.name)

namespace Transparency

/-- The known ways in the order in which they are listed. -/
def all : List Transparency := [.solid, .chromaKey, .alphaChannel]

def name : Transparency → String
  | .solid => "opaque"
  | .chromaKey => "chroma_key"
  | .alphaChannel => "alpha_channel"
  | .other s => s

def ofName (s : String) : Transparency :=
  (all.find? (·.name == s)).getD (.other s)

end Transparency

def Format.transparencies : Format → List Transparency
  | .binary => [.solid, .chromaKey]
  | _ => [.solid, .chromaKey, .alphaChannel]

/-- Can a format be transparent in the way?  Formats whose shades can be inverted also take the name
    of that option here. -/
def Format.allows (f : Format) (t : Transparency) : Bool :=
  f.transparencies.contains t
    || t == .other "invert_alpha" && (f == .binary || f == .grayscale)

/-- Can the picture be inverted without an alpha channel? -/
def Format.invertsShades : Format → Bool
  | .binary => true
  | .grayscale => true
  | _ => false

end Panel.Picture
