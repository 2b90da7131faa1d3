import Panel.Property.Constant
import Panel.Rule.Period
import Panel.Cpp.Library

/-! # Measures — lengths, angles, shares and counts -/

namespace Panel

open Cpp Test Text Constants

/-! ## Arithmetic on values -/

namespace Value

/-- A value taken a number of times: numbers are multiplied, texts and lists repeated. -/
def times (v : Value) (n : Nat) : Check Value :=
  match v with
  | .int m => pure (.int (m * n))
  | .bool b => pure (.int (if b then n else 0))
  | .float x => pure (.float (x * Float.ofNat n))
  | .list xs => pure (.list (List.replicate n xs).flatten)
  | .cpp (.object e a) => pure (.cpp (Expr.operate "*" (.object e a) (.integer n)))
  | _ =>
    match v.text? with
    | some s => pure (.str (String.join (List.replicate n s)))
    | none => throw .wrongKind

def timesFloat (v : Value) (y : Float) : Check Value :=
  match v with
  | .float x => pure (.float (x * y))
  | .bool b => pure (.float ((if b then 1.0 else 0.0) * y))
  | .int n =>
    match floatOfInt? n with
    | some x => pure (.float (x * y))
    | none => throw .tooLarge
  | .cpp (.object e a) => pure (.cpp (Expr.operate "*" (.object e a) (.real y)))
  | _ => throw .wrongKind

def wholeTimes (n : Nat) (v : Value) : Check Value := do
  return .int (← convertInt (← v.times n))

end Value

namespace Property

/-! ## Shares -/

/-- An opacity between 0 and 1, as a share or by name. -/
def acceptOpacity : Test := fun v => do
  if asksChoices v then return .list (opacity.choices.map .str)
  let w ← anyOf [percentage, opacity.oneOf.validate] v
  let w := if w.text? == some "LV_OPA_COVER" then .float 1.0 else w
  let w := if w.text? == some "LV_OPA_TRANSP" then .float 0.0 else w
  floatRange (.float 0.0) (.float 1.0) w

def opacity : Property :=
  mapped acceptOpacity lvOpacity fun v => do
    return .cpp (← Code.castOf "uint8_t" (← v.timesFloat 255.0))

/-- A share between 0 and 1, or a count of 255ths. -/
def acceptPercentage : Test := fun v => do
  let w ← anyOf
    [percentage, floatRange (.float 0.0) (.float 1.0), intRange (some 0) (some 255)] v
  match intOf? w with
  | some n => return .float (Float.ofInt n / 255.0)
  | none => return w

def percentage : Property :=
  mapped acceptPercentage float (Value.wholeTimes 255)

/-! ## Lengths -/

def pixelText? (v : Value) : Option String :=
  match v.text? with
  | some s => if hasSuffix "px" (lower s) then some (dropEnd 2 s) else none
  | none => none

def isPercentCode (s : String) : Bool :=
  match removePrefix "lv_pct(" s with
  | rest =>
    if rest == s then false
    else
      let rest := String.ofList (withoutFinalNewline rest.toList)
      hasSuffix ")" rest &&
        (match (dropEnd 1 rest).toList with
          | [] => false
          | ds => ds.all fun c => (digitValue? c).isSome)

/-- A number of pixels, or a share of the parent. -/
def acceptPixelsOrPercent : Test := fun v => do
  if asksChoices v then return .list [.str "pixels", .str "..%"]
  match pixelText? v with
  | some s => integer (.str s)
  | none =>
    match v.text? with
    | some s =>
      if isPercentCode s then
        throw (.badValue ("invalid literal for int() with base 10: "
          ++ quoted (dropEnd 1 (drop 6 s))))
      else anyOf [integer, signedShare] v
    | none => anyOf [integer, signedShare] v

/-- A length: pixels as they are, a share as a percentage. -/
def formPixelsOrPercent (v : Value) : Check Value :=
  match v with
  | .int _ => pure v
  | .bool _ => pure v
  | _ => do
    let n ← convertInt (← v.times 100)
    return .literal ("lv_pct(" ++ toString n ++ ")")

def pixelsOrPercent : Property := mapped acceptPixelsOrPercent uint32 formPixelsOrPercent

def acceptPixels : Test := fun v =>
  match pixelText? v with
  | some s => natural (.str s)
  | none => natural v

def pixels : Property := mapped acceptPixels uint32 fun v => pure (literal v)

/-- A number of pixels that may be negative. -/
def acceptPadding : Test := fun v =>
  match pixelText? v with
  | some s => integer (.str s)
  | none => integer v

def padding : Property := mapped acceptPadding int32 fun v => pure (literal v)

/-- A size in one axis: pixels, a share, or as large as the content. -/
def acceptSize : Test := fun v => do
  if asksChoices v then
    return .list [.str "SIZE_CONTENT", .str "number of pixels", .str "percentage"]
  let v ← match pixelText? v with
    | some s => integer (.str s)
    | none => pure v
  match v.text? with
  | some s => if upper s == "SIZE_CONTENT" then return .str "LV_SIZE_CONTENT"
  | none => pure ()
  acceptPixelsOrPercent v

def size : Property :=
  mapped acceptSize uint32 fun v =>
    if v.isText then pure (literal v) else formPixelsOrPercent v

/-- A radius: a size, a share, or a circle. -/
def acceptFraction : Test := fun v => do
  if asksChoices v then return .list (radius.choices.map .str)
  let w ← Test.anyOf [size.validate, Test.percentage, radius.oneOf.validate] v
  match w with
  | .float _ => w.wholeTimes 255
  | _ => return w

def fraction : Property := mapped acceptFraction uint32 fun v => pure (literal v)

/-! ## Magnifications and angles -/

def scale : Property :=
  mapped (floatRange (.float 0.1) (.float 10.0)) uint32 (Value.wholeTimes 256)

def acceptAngle : Test := fun v => do
  floatRange (.float 0.0) (.float 360.0) (← angle v)

def tenthsOfDegree : Property := mapped acceptAngle uint32 (Value.wholeTimes 10)

def degrees : Property :=
  mapped acceptAngle uint32 fun v => do return .int (← convertInt v)

/-! ## Counts, times and truth values -/

def boolean : Property := mapped Test.boolean bool fun v => pure (literal v)

/-- A time in milliseconds, or `never`. -/
def acceptMilliseconds : Test := fun v =>
  if v.isObject || v.text? == some "never" then Period.milliseconds (.str "2147483647ms")
  else Period.milliseconds v

def milliseconds : Property :=
  mapped acceptMilliseconds int32 fun
    | .period _ micros => pure (.int (micros / 1000))
    | _ => throw .noAttribute

def number : Property := plain Test.number float none

def integer : Property := plain Test.integer int none

def natural : Property := plain Test.natural int none

def acceptByte : Test := intRange (some 0) (some 255)

/-- Animation, as a truth value or by name. -/
def acceptAnimated : Test := fun v =>
  let v := match v with
    | .bool b => .str (if b then "ON" else "OFF")
    | other => other
  animation.oneOf.validate v

def acceptKeyCode : Test := fun v => do
  let w ← anyOf
    [allOf [strictText, lengthWithin 1 1], intRange (some 0) (some 255)] v
  match w.text? with
  | some s => return .int ((s.toList.headD 'a').toNat)
  | none => return w

def endValue (config : Value) : Build Value :=
  integer.emit ((config.get? "end_value").getD .null)

/-- The start value of a range, or its only value. -/
def startValue (config : Value) : Build Value :=
  match config.get? "start_value" with
  | some v => integer.emit v
  | none => integer.emit ((config.get? "value").getD .null)

end Property

end Panel
