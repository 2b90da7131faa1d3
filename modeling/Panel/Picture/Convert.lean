import Panel.Pieces
import Panel.Picture.Frame
import Panel.Picture.Encoder

/-! # Converting pictures — from the pixels of a file to those that a format stores -/

namespace Panel.Picture

/-- The pixels of a frame, row by row. -/
def Frame.rows (f : Frame) : List (List (List Nat)) :=
  (pieces (f.width * f.mode.channels) f.samples).map (pieces f.mode.channels)

/-- Is there something in the last channel only? -/
def Frame.isAlphaOnly (f : Frame) : Bool :=
  let pixels := pieces f.mode.channels f.samples
  pixels.any (fun p => p.getLastD 0xFF != 0xFF) && pixels.all fun p => p.dropLast.all (· == 0)

/-- The last channel as a picture of its own. -/
def Frame.lastChannel (f : Frame) : Frame :=
  { f with mode := .gray, samples := (pieces f.mode.channels f.samples).map (·.getLastD 0) }

def luminance (r g b : Nat) : Nat := (r * 19595 + g * 38470 + b * 7471 + 0x8000) >>> 16

def grayAlpha : List Nat → List Nat
  | [l] => [l, 0xFF]
  | [r, g, b] => [luminance r g b, 0xFF]
  | [r, g, b, a] => [luminance r g b, a]
  | p => p

def rgba : List Nat → List Nat
  | [l] => [l, l, l, 0xFF]
  | [l, a] => [l, l, l, a]
  | [r, g, b] => [r, g, b, 0xFF]
  | p => p

def shade : List Nat → Nat
  | r :: g :: b :: _ => (299 * r + 587 * g + 114 * b) / 1000
  | l :: _ => l
  | [] => 0

def blackOrWhite (white : Bool) : Pixel := .level (if white then 0xFF else 0)

/-- A row where bright pixels are white. -/
def threshold (row : List Nat) : List Pixel := row.map fun v => blackOrWhite (128 ≤ v)

/-- A row where the error of every pixel goes to its neighbours.  Next to the shades stand the errors
    that the row before left for the pixel to the right; `carry`, `below` and `corner` are on their
    way.  The second result are the errors for the next row. -/
def ditherRow : List (Nat × Int) → (carry below corner : Int) → List Pixel × List Int
  | [], _, below, _ => ([], [below])
  | (v, error) :: rest, carry, below, corner =>
    let level := max 0 (min 0xFF (v + (carry + error).tdiv 16))
    let white := decide (level > 128)
    let miss := level - (if white then 0xFF else 0)
    let (ps, errors) := ditherRow rest (7 * miss) (5 * miss + corner) miss
    (blackOrWhite white :: ps, (3 * miss + below) :: errors)

/-- Rows with the errors that the row before left. -/
def ditherFrom : List Int → List (List Nat) → List (List Pixel)
  | _, [] => []
  | errors, row :: rows =>
    let (ps, errors) := ditherRow (row.zip errors.tail) 0 0 0
    ps :: ditherFrom errors rows

def dither (rows : List (List Nat)) : List (List Pixel) :=
  ditherFrom (List.replicate ((rows.headD []).length + 1) 0) rows

def Frame.blackWhite (f : Frame) (dithered : Bool) : List (List Pixel) :=
  let shades := f.rows.map (·.map shade)
  if dithered then dither shades else shades.map threshold

/-! ## Sizes -/

def scaled (a b : Nat) : Nat :=
  let t := a * b + 128
  ((t >>> 8) + t) >>> 8

def weighted : List Nat → List Nat
  | [l, a] => [scaled l a, a]
  | [r, g, b, a] => [scaled r a, scaled g a, scaled b a, a]
  | p => p

def unscaled (a c : Nat) : Nat := if a = 0 ∨ a = 0xFF then c else min 0xFF (0xFF * c / a)

/-- The colours of a pixel without the weight. -/
def unweighted : List Nat → List Nat
  | [l, a] => [unscaled a l, a]
  | [r, g, b, a] => [unscaled a r, unscaled a g, unscaled a b, a]
  | p => p

def Frame.resized (f : Frame) (width height : Nat) : Frame :=
  if width = f.width ∧ height = f.height then f
  else
    let pixels := ((pieces f.mode.channels f.samples).map (unweighted ∘ weighted)).toArray
    { f with
      width := width
      height := height
      samples := (List.range height).flatMap fun y => (List.range width).flatMap fun x =>
        pixels.getD (y * f.height / height * f.width + x * f.width / width) [] }

end Panel.Picture
