import Panel.Code.Express
import Panel.Rule.Test

/-! # Numbers of a configuration — arithmetic on values that are numbers or stand for them

    Whole numbers stay whole, a double makes a double of the other operand, and an operand that is
    an object of the program makes an expression. -/

namespace Panel

open Cpp Test

namespace Value

/-- The double of a number, if it is not too large. -/
def toFloat (v : Value) : Check Float :=
  match v with
  | .float x => pure x
  | .bool b => pure (if b then 1.0 else 0.0)
  | .int n =>
    match Text.floatOfInt? n with
    | some x => pure x
    | none => throw .tooLarge
  | _ => throw .wrongKind

/-- Combines two numbers, or writes the operation if one is an object. -/
def combine (op : String) (whole : Int → Int → Int) (real : Float → Float → Float) (a b : Value) :
    Check Value := do
  if a.isObject || b.isObject then
    return .cpp (Expr.operate op (← Code.express a) (← Code.express b))
  match intOf? a, intOf? b with
  | some m, some n => return .int (whole m n)
  | _, _ => return .float (real (← a.toFloat) (← b.toFloat))

def plus (a b : Value) : Check Value := combine "+" (· + ·) (· + ·) a b

def minus (a b : Value) : Check Value := combine "-" (· - ·) (· - ·) a b

def multiply (a b : Value) : Check Value := combine "*" (· * ·) (· * ·) a b

/-- Is the first number at most the second?  A comparison with an object always holds. -/
def atMost (a b : Value) : Check Bool := do
  if a.isObject || b.isObject then return true
  match atLeast? b a with
  | some r => return r
  | none => throw .wrongKind

/-- Is the first number below the second?  A comparison with an object always holds. -/
def isBelow (a b : Value) : Check Bool := do
  if a.isObject || b.isObject then return true
  match atLeast? b a with
  | some r => return r && !Value.same a b
  | none => throw .wrongKind

def tenTo (v : Value) : Check Value :=
  match intOf? v with
  | some n =>
    if 0 ≤ n then pure (.int (Int.pow 10 n.toNat))
    else pure (.float (Text.scientific 1 n))
  | none =>
    match v with
    | .float x => pure (.float (Float.pow 10.0 x))
    | .cpp _ => throw .wrongKind
    | _ => throw .wrongKind

end Value

end Panel
