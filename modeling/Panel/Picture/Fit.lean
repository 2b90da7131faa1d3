/-! # Fitting — the size of a picture inside a box

    The picture keeps its shape and never grows.  The ratio is worked out in steps, and every step is
    rounded as the caller says: not at all, or to the nearest number of double precision. -/

namespace Panel.Picture

/-- A fraction; the denominator is not zero. -/
structure Ratio where
  num : Nat
  den : Nat
  deriving BEq, DecidableEq, Repr, Inhabited

namespace Ratio

def ofNat (n : Nat) : Ratio := ⟨n, 1⟩

def least (a b : Ratio) : Ratio := if b.num * a.den < a.num * b.den then b else a

def times (n : Nat) (r : Ratio) : Ratio := ⟨n * r.num, r.den⟩

def dividedBy (r : Ratio) (n : Nat) : Ratio := ⟨r.num, r.den * n⟩

def floor (r : Ratio) : Nat := r.num / r.den

/-- The quotient rounded to the nearest whole number, halves to even. -/
def nearestNat (num den : Nat) : Nat :=
  let q := num / den
  let twice := 2 * (num % den)
  if twice < den then q else if den < twice then q + 1 else q + q % 2

def nearestDouble (r : Ratio) : Ratio :=
  if r.num = 0 then r
  else
    let guess : Int := (r.num.log2 : Int) - r.den.log2
    let tooHigh := if guess ≥ 0 then r.num < r.den <<< guess.toNat
      else r.num <<< (-guess).toNat < r.den
    let shift : Int := 52 - (if tooHigh then guess - 1 else guess)
    if shift ≥ 0 then ⟨nearestNat (r.num <<< shift.toNat) r.den, 1 <<< shift.toNat⟩
    else ⟨nearestNat r.num (r.den <<< (-shift).toNat) <<< (-shift).toNat, 1⟩

end Ratio

def fitted (nearest : Ratio → Ratio) (width height : Nat) (boxWidth boxHeight : Ratio) : Nat × Nat :=
  let ratio := Ratio.least
    (nearest ((Ratio.least (Ratio.ofNat width) boxWidth).dividedBy width))
    (nearest ((Ratio.least (Ratio.ofNat height) boxHeight).dividedBy height))
  ((nearest (ratio.times width)).floor, (nearest (ratio.times height)).floor)

end Panel.Picture
