import Panel.Text.Chars

/-! # Decimal numbers — the shortest text of a double, and reading numbers -/

namespace Panel.Text

/-- A finite double as sign, significand and binary exponent. -/
structure Binary where
  negative : Bool
  significand : Nat
  exponent : Int

/-- Splits a double into its parts; `none` for infinities and not-a-number. -/
def Binary.ofFloat? (x : Float) : Option Binary :=
  let bits : Nat := x.toBits.toNat
  let frac : Nat := bits % (1 <<< 52)
  let expo : Nat := bits >>> 52 % (1 <<< 11)
  let negative := bits >>> 63 == 1
  if expo == 2047 then none
  else if expo == 0 then some ⟨negative, frac, -1074⟩
  else some ⟨negative, frac + (1 <<< 52), (expo : Int) - 1075⟩

def Binary.ratio (b : Binary) : Nat × Nat :=
  if 0 ≤ b.exponent then (b.significand <<< b.exponent.toNat, 1)
  else (b.significand, 1 <<< (-b.exponent).toNat)

/-- `num / den * 10 ^ (-e)` as a quotient. -/
def scaleRatio (num den : Nat) (e : Int) : Nat × Nat :=
  if 0 ≤ e then (num, den * Nat.pow 10 e.toNat) else (num * Nat.pow 10 (-e).toNat, den)

def atLeastPower (num den : Nat) (e : Int) : Bool :=
  let (n, d) := scaleRatio num den e
  d ≤ n

/-- The decimal exponent of `num / den`, searched upwards from `low`. -/
def decimalExponentFrom (num den : Nat) : Nat → Int → Int
  | 0, low => low
  | steps + 1, low =>
    if atLeastPower num den (low + 1) then decimalExponentFrom num den steps (low + 1) else low

def decimalExponent (num den : Nat) : Int :=
  let bits : Int := (num.log2 : Int) - (den.log2 : Int) - 1
  let guess := Int.fdiv (bits * 30103) 100000 - 1
  decimalExponentFrom num den 4 guess

/-- The interval of reals that round to a double: both ends over one denominator, and whether the
    ends belong to it. -/
structure Interval where
  low : Nat
  high : Nat
  den : Nat
  closed : Bool

def Binary.interval (b : Binary) : Interval :=
  let m := b.significand
  let lowOffset := if m == 1 <<< 52 && b.exponent > -1074 then 1 else 2
  let low := 4 * m - lowOffset
  let high := 4 * m + 2
  let e := b.exponent - 2
  if 0 ≤ e then ⟨low <<< e.toNat, high <<< e.toNat, 1, m % 2 == 0⟩
  else ⟨low, high, 1 <<< (-e).toNat, m % 2 == 0⟩

/-- Does `digits * 10 ^ e` lie in the interval? -/
def Interval.holds (i : Interval) (digits : Nat) (e : Int) : Bool :=
  let (n, d) :=
    if 0 ≤ e then (digits * Nat.pow 10 e.toNat, 1) else (digits, Nat.pow 10 (-e).toNat)
  let low := i.low * d
  let high := i.high * d
  let x := n * i.den
  if i.closed then low ≤ x && x ≤ high else low < x && x < high

/-- The digits at one grid width: the neighbour of the value that reads back, the nearer of two. -/
def gridDigits? (b : Binary) (k : Int) (count : Nat) : Option Nat :=
  let (num, den) := b.ratio
  let e := k - (count : Int) + 1
  let (n, d) := scaleRatio num den e
  let below := n / d
  let above := below + 1
  let i := b.interval
  match i.holds below e && 0 < below, i.holds above e with
  | true, true =>
    let rest := n % d
    if 2 * rest < d then some below
    else if d < 2 * rest then some above
    else if below % 2 == 0 then some below else some above
  | true, false => some below
  | false, true => some above
  | false, false => none

/-- Tries the grids of `count`, `count + 1`, … digits. -/
def shortestFrom (b : Binary) (k : Int) : Nat → Nat → Nat × Int
  | 0, count => (b.significand, k - (count : Int) + 1)
  | steps + 1, count =>
    match gridDigits? b k count with
    | some d => (d, k - (count : Int) + 1)
    | none => shortestFrom b k steps (count + 1)

/-- The fewest digits that read back as the double, with the exponent of the last digit. -/
def shortest (b : Binary) : Nat × Int :=
  let (num, den) := b.ratio
  shortestFrom b (decimalExponent num den) 17 1

def trimZeros (ds : List Char) : List Char :=
  (ds.reverse.dropWhile (· == '0')).reverse

/-- Writes digits with the point after `point` of them. -/
def writeDecimal (ds : List Char) (point : Int) : String :=
  if -4 < point && point ≤ 16 then
    if point ≤ 0 then
      "0." ++ String.ofList (List.replicate (-point).toNat '0' ++ ds)
    else if (ds.length : Int) ≤ point then
      String.ofList (ds ++ List.replicate (point.toNat - ds.length) '0') ++ ".0"
    else
      String.ofList (ds.take point.toNat) ++ "." ++ String.ofList (ds.drop point.toNat)
  else
    let e := point - 1
    let mantissa := match ds with
      | [] => "0"
      | [d] => String.ofList [d]
      | d :: rest => String.ofList (d :: '.' :: rest)
    mantissa ++ (if e < 0 then "e-" else "e+") ++ zeroPad 2 (toString e.natAbs)

/-- The text of a double: the shortest digits that read back. -/
def floatText (x : Float) : String :=
  match Binary.ofFloat? x with
  | none => if x.isNaN then "nan" else if x < 0 then "-inf" else "inf"
  | some b =>
    let body :=
      if b.significand == 0 then "0.0"
      else
        let (d, e) := shortest b
        let all := (toString d).toList
        writeDecimal (trimZeros all) ((all.length : Int) + e)
    if b.negative then "-" ++ body else body

def truncate? (x : Float) : Option Int :=
  (Binary.ofFloat? x).map fun b =>
    let (n, d) := b.ratio
    if b.negative then -((n / d : Nat) : Int) else ((n / d : Nat) : Int)

def isWhole (x : Float) : Bool :=
  match Binary.ofFloat? x with
  | none => false
  | some b => let (n, d) := b.ratio; n % d == 0

/-- The nearest integer of a finite double, a half to the even neighbour. -/
def roundEven? (x : Float) : Option Int :=
  (Binary.ofFloat? x).map fun b =>
    let (n, d) := b.ratio
    let q := n / d
    let r := n % d
    let m := if 2 * r < d then q else if d < 2 * r then q + 1 else if q % 2 == 0 then q else q + 1
    if b.negative then -(m : Int) else (m : Int)

/-! ## Reading -/

/-- A run of digits with single underscores between them: the digit values, and the rest. -/
def digitRun : List Char → List Nat × List Char
  | [] => ([], [])
  | '_' :: c :: cs =>
    match digitValue? c with
    | some d => let (ds, rest) := digitRun cs; (d :: ds, rest)
    | none => ([], '_' :: c :: cs)
  | c :: cs =>
    match digitValue? c with
    | some d => let (ds, rest) := digitRun cs; (d :: ds, rest)
    | none => ([], c :: cs)

/-- A run of digits that does not begin with an underscore. -/
def digits (cs : List Char) : List Nat × List Char :=
  match cs with
  | '_' :: _ => ([], cs)
  | _ => digitRun cs

def ofDigits (ds : List Nat) : Nat :=
  ds.foldl (fun n d => n * 10 + d) 0

def sign : List Char → Bool × List Char
  | '-' :: cs => (true, cs)
  | '+' :: cs => (false, cs)
  | cs => (false, cs)

def readInt? (s : String) : Option Int :=
  let (negative, cs) := sign (trim s).toList
  match digits cs with
  | ([], _) => none
  | (ds, []) => some (if negative then -(ofDigits ds : Int) else (ofDigits ds : Int))
  | _ => none

def hexValue? (c : Char) : Option Nat :=
  match digitValue? c with
  | some d => some d
  | none =>
    if 'a' ≤ c && c ≤ 'f' then some (c.toNat - 87)
    else if 'A' ≤ c && c ≤ 'F' then some (c.toNat - 55)
    else none

def hexRun? : List Char → Nat → Option Nat
  | [], n => some n
  | '_' :: c :: cs, n => (hexValue? c).bind fun d => hexRun? cs (n * 16 + d)
  | c :: cs, n => (hexValue? c).bind fun d => hexRun? cs (n * 16 + d)

/-- A hexadecimal integer, with or without `0x`. -/
def readHex? (s : String) : Option Int :=
  let (negative, cs) := sign (trim s).toList
  let body := match cs with
    | '0' :: 'x' :: rest => (match rest with | '_' :: r => r | r => r)
    | '0' :: 'X' :: rest => (match rest with | '_' :: r => r | r => r)
    | rest => rest
  match body with
  | [] => none
  | '_' :: _ => none
  | _ => (hexRun? body 0).map fun n => if negative then -(n : Int) else (n : Int)

/-- `significand * 10 ^ e` as a double, with exponents far outside the range cut off. -/
def scientific (significand : Nat) (e : Int) : Float :=
  if significand == 0 then 0.0
  else
    let size : Int := ((toString significand).length : Int) + e
    if size > 400 then 1.0 / 0.0
    else if size < -400 then 0.0
    else if 0 ≤ e then Float.ofScientific significand false e.toNat
    else Float.ofScientific significand true (-e).toNat

/-- The exponent part of a number, if the rest of it is one. -/
def exponentPart? (cs : List Char) : Option Int :=
  match cs with
  | [] => some 0
  | c :: rest =>
    if c == 'e' || c == 'E' then
      let (negative, body) := sign rest
      match digits body with
      | ([], _) => none
      | (ds, []) => some (if negative then -(ofDigits ds : Int) else (ofDigits ds : Int))
      | _ => none
    else none

def readMagnitude? (cs : List Char) : Option Float :=
  let word := lower (String.ofList cs)
  if word == "inf" || word == "infinity" then some (1.0 / 0.0)
  else if word == "nan" then some (0.0 / 0.0)
  else
    let (whole, rest) := digits cs
    match rest with
    | '.' :: more =>
      let (frac, tail) := digits more
      if whole.isEmpty && frac.isEmpty then none
      else (exponentPart? tail).map fun e =>
        scientific (ofDigits (whole ++ frac)) (e - (frac.length : Int))
    | _ =>
      if whole.isEmpty then none
      else (exponentPart? rest).map fun e => scientific (ofDigits whole) e

def readFloat? (s : String) : Option Float :=
  let (negative, cs) := sign (trim s).toList
  (readMagnitude? cs).map fun x => if negative then -x else x

/-- An integer as a double; `none` if it is too large. -/
def floatOfInt? (n : Int) : Option Float :=
  let x := Float.ofInt n
  if x.isInf then none else some x

end Panel.Text
