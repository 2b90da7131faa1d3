/-! # Pictures — frames of pixels as they are read from a file -/

namespace Panel.Picture

/-- The channels of a pixel. -/
inductive Mode where
  | gray
  | grayAlpha
  | rgb
  | rgba
  deriving BEq, DecidableEq, Repr, Inhabited

def Mode.channels : Mode → Nat
  | .gray => 1
  | .grayAlpha => 2
  | .rgb => 3
  | .rgba => 4

/-- One frame: its size and its samples, row by row. -/
structure Frame where
  mode : Mode
  width : Nat
  height : Nat
  samples : List Nat
  deriving BEq, DecidableEq, Repr, Inhabited

end Panel.Picture
