import Panel.Session

/-! # Values as expressions — which configuration values can stand in generated code -/

namespace Panel

open Cpp

namespace Code

def periodNumber? : PeriodUnit → Int → Option Int
  | .free, _ => none
  | .micro, n => some n
  | .milli, n => some (n / 1000)
  | .second, n => some (n / 1000000)
  | .minute, n => some (n / 60000000)

mutual

def express? : Value → Except Failure Expr
  | .null => .error .notExpression
  | .bool b => .ok (.boolean b)
  | .int n => .ok (.integer n)
  | .float x => .ok (.real x)
  | .str s => .ok (.quoted s)
  | .placed s _ _ => .ok (.quoted s)
  | .choice _ mapped => .ok (.raw mapped)
  | .list xs => (expressItems? xs).map .array
  | .dict _ => .error .notExpression
  | .lambda _ => .error .notExpression
  | .period unit micros =>
    match periodNumber? unit micros with
    | some n => .ok (.integer n)
    | none => .error .notExpression
  | .ident id =>
    .error (.badValue ("ID " ++ id.text ++ " cannot be used as an expression directly. Please "
      ++ "use cg.get_variable to fetch the id variable first."))
  | .cpp e => .ok e
  | .probe => .error .notExpression

/-- The expressions of the items of a list, nulls left out. -/
def expressItems? : List Value → Except Failure (List Expr)
  | [] => .ok []
  | .null :: vs => expressItems? vs
  | v :: vs => do return (← express? v) :: (← expressItems? vs)

end

/-- The values without the nulls at their end. -/
def withoutTrailingNulls (vs : List Value) : List Value :=
  (vs.reverse.dropWhile fun
    | .null => true
    | _ => false).reverse

def arguments? (vs : List Value) : Except Failure (List Expr) :=
  (withoutTrailingNulls vs).mapM express?

/-- The expression of a value, or its failure. -/
def express (v : Value) : Check Expr :=
  match express? v with
  | .ok e => pure e
  | .error e => throw e

/-- The expressions of an argument list, or the failure of one. -/
def arguments (vs : List Value) : Check (List Expr) :=
  match arguments? vs with
  | .ok es => pure es
  | .error e => throw e

/-- A call of a function by name; members of its result are written right after it. -/
def callOf (name : String) (args : List Value) : Check Expr := do
  return .object (.call (.raw name) [] (← arguments args)) .bare

def methodOf (e : Expr) (name : String) (args : List Value) : Check Expr := do
  return e.method name (← arguments args)

def castOf (type : String) (v : Value) : Check Expr := do
  return .cast type (← express v)

end Code

end Panel
