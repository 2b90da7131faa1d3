/-! # Sets of glyphs — characters that a font asks for by the name of a set -/

namespace Panel.Font

/-- A named set of characters. -/
structure GlyphSet where
  name : String
  chars : List Char
  deriving BEq, DecidableEq, Repr, Inhabited

namespace GlyphSet

def latinKernel : GlyphSet := ⟨"GF_Latin_Kernel", (List.range 0x5f).map fun i => Char.ofNat (0x20 + i)⟩

/-- The printable characters, and two more. -/
def latinCore : GlyphSet := ⟨"GF_Latin_Core", latinKernel.chars ++ ['°', 'é']⟩

end GlyphSet

/-- The sets that there are. -/
structure GlyphLibrary where
  /-- The sets in the order in which they are listed. -/
  sets : List GlyphSet := [.latinCore, .latinKernel]
  /-- The set for fonts that name no characters. -/
  plain : GlyphSet := .latinKernel
  deriving BEq, DecidableEq, Repr, Inhabited

def GlyphLibrary.find? (l : GlyphLibrary) (name : String) : Option GlyphSet :=
  l.sets.find? (·.name == name)

end Panel.Font
