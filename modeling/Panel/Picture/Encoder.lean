import Panel.Failure
import Panel.Picture.Format

/-! # Encoding pictures — pixels to the bytes that the display reads

    An encoder has the whole buffer from the start and a position in it; every pixel is written at
    the position and moves it on. -/

namespace Panel.Picture

/-- One pixel: a single level, or samples by channel. -/
inductive Pixel where
  | level (n : Nat)
  | samples (ns : List Nat)
  deriving BEq, DecidableEq, Repr, Inhabited

namespace Pixel

def isLit : Pixel → Bool
  | .level n => n != 0
  | .samples ns => !ns.isEmpty

/-- Why samples of another number than expected cannot be read. -/
def miscount (expected got : Nat) : Failure :=
  if got < expected then
    .badValue ("not enough values to unpack (expected " ++ toString expected ++ ", got "
      ++ toString got ++ ")")
  else .badValue ("too many values to unpack (expected " ++ toString expected ++ ")")

def grayAlpha : Pixel → Except Failure (Nat × Nat)
  | .samples [l, a] => .ok (l, a)
  | .samples ns => .error (miscount 2 ns.length)
  | .level _ => .error .wrongKind

def rgba : Pixel → Except Failure (Nat × Nat × Nat × Nat)
  | .samples [r, g, b, a] => .ok (r, g, b, a)
  | .samples ns => .error (miscount 4 ns.length)
  | .level _ => .error .wrongKind

end Pixel

/-- An encoder: what it writes, and how far it has come. -/
structure Encoder where
  format : Format
  transparency : Transparency
  /-- Is the alpha channel inverted, or, without one, the shade? -/
  inverted : Bool
  bigEndian : Bool
  data : Array Nat
  /-- The alpha channel that follows the colours. -/
  alpha : Array Nat
  index : Nat
  bit : Nat
  deriving BEq, DecidableEq, Repr, Inhabited

namespace Encoder

def stride (format : Format) (transparency : Transparency) (width : Nat) : Nat :=
  match format with
  | .binary => (width + 7) / 8
  | .grayscale => width
  | .rgb565 => width * 2
  | .rgb => width * (if transparency = .alphaChannel then 4 else 3)

def new (format : Format) (transparency : Transparency) (inverted : Bool) (width height : Nat) :
    Encoder where
  format := format
  transparency := transparency
  inverted := inverted
  bigEndian := false
  data := Array.replicate (stride format transparency width * height) 0
  alpha := if format = .rgb565 then Array.replicate (width * height) 0 else #[]
  index := 0
  bit := 0

def put (e : Encoder) (byte : Nat) : Except Failure Encoder :=
  if h : e.index < e.data.size then
    .ok { e with data := e.data.set e.index byte h, index := e.index + 1 }
  else .error .noIndex

def mark (e : Encoder) (bits : Nat) : Except Failure Encoder :=
  if h : e.index < e.data.size then
    .ok { e with data := e.data.set e.index (e.data[e.index] ||| bits) h }
  else .error .noIndex

def nextBit (e : Encoder) : Encoder :=
  if e.bit + 1 = 8 then { e with bit := 0, index := e.index + 1 } else { e with bit := e.bit + 1 }

def encodeBit (e : Encoder) (lit : Bool) : Except Failure Encoder := do
  let e ← if lit != e.inverted then e.mark (0x80 >>> (e.bit % 8)) else .ok e
  return e.nextBit

/-- The level that stands for a pixel: under a colour key, 1 means transparent; with an alpha
    channel, a pixel that is not solid is its alpha. -/
def grayLevel (transparency : Transparency) (inverted : Bool) (level alpha : Nat) : Nat :=
  let keyed :=
    if transparency = .chromaKey then
      if alpha ≠ 0xFF then 1 else if level = 1 then 0 else level
    else level
  let shade := if inverted then keyed ^^^ 0xFF else keyed
  if transparency = .alphaChannel ∧ alpha ≠ 0xFF then alpha else shade

/-- Keeps the key colour for transparent pixels: a pixel that has the key colour becomes black, any
    other transparent one becomes the key colour. -/
def keyed (r g b alpha : Nat) : Nat × Nat × Nat :=
  if r = 0 ∧ g = 1 ∧ b = 0 then (0, 0, 0) else if alpha < 128 then (0, 1, 0) else (r, g, b)

def colours (transparency : Transparency) (r g b alpha : Nat) : Nat × Nat × Nat :=
  if transparency = .chromaKey then keyed r g b alpha else (r, g, b)

def noteAlpha (e : Encoder) (alpha : Nat) : Except Failure Encoder :=
  if h : e.index / 2 < e.alpha.size then .ok { e with alpha := e.alpha.set (e.index / 2) alpha h }
  else .error .noIndex

/-- Writes the two bytes of a word in the order of the encoder. -/
def putWord (e : Encoder) (word : Nat) : Except Failure Encoder := do
  if e.bigEndian then (← e.put (word >>> 8)).put (word &&& 0xFF)
  else (← e.put (word &&& 0xFF)).put (word >>> 8)

/-- Writes a pixel of five, six and five bits. -/
def encode565 (e : Encoder) (r g b alpha : Nat) : Except Failure Encoder := do
  let alpha := if e.inverted then alpha ^^^ 0xFF else alpha
  let e ← e.noteAlpha alpha
  let (r, g, b) := colours e.transparency (r >>> 3) (g >>> 2) (b >>> 3) alpha
  e.putWord ((r <<< 11) ||| (g <<< 5) ||| b)

/-- Writes a pixel of three bytes, and a fourth with an alpha channel. -/
def encodeColour (e : Encoder) (r g b alpha : Nat) : Except Failure Encoder := do
  let (r, g, b) := colours e.transparency r g b alpha
  let e ← e.put b
  let e ← e.put g
  let e ← e.put r
  if e.transparency = .alphaChannel then
    e.put (if e.inverted then alpha ^^^ 0xFF else alpha)
  else return e

def encode (e : Encoder) (p : Pixel) : Except Failure Encoder :=
  match e.format with
  | .binary => e.encodeBit p.isLit
  | .grayscale => do
    let (level, alpha) ← p.grayAlpha
    e.put (grayLevel e.transparency e.inverted level alpha)
  | .rgb565 => do
    let (r, g, b, alpha) ← p.rgba
    e.encode565 r g b alpha
  | .rgb => do
    let (r, g, b, alpha) ← p.rgba
    e.encodeColour r g b alpha

/-- Ends a row: rows of bits begin with a new byte. -/
def endRow (e : Encoder) : Encoder :=
  if e.format = .binary ∧ e.bit ≠ 0 then { e with bit := 0, index := e.index + 1 } else e

/-- Ends a frame: the alpha channel follows the colours. -/
def endFrame (e : Encoder) : Encoder :=
  if e.format = .rgb565 ∧ e.transparency = .alphaChannel then { e with data := e.data ++ e.alpha }
  else e

def encodeRow (e : Encoder) (row : List Pixel) : Except Failure Encoder := do
  return (← row.foldlM encode e).endRow

def encodeRows (e : Encoder) (rows : List (List Pixel)) : Except Failure Encoder :=
  rows.foldlM encodeRow e

def encodeFrame (e : Encoder) (rows : List (List Pixel)) : Except Failure Encoder := do
  return (← e.encodeRows rows).endFrame

end Encoder

end Panel.Picture
