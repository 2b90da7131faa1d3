import Panel.Rule.Test
import Panel.Code.Block

/-! # Properties — values that are checked in a configuration and written into code

    A property has two sides: `validate` decides which values a configuration may give, and
    `emitWith` turns an accepted value into what generated code holds.  A lambda may stand for any
    value; it is inlined where it is used. -/

namespace Panel

open Cpp Code

/-- A property: how its values are checked, and how they are written. -/
structure Property where
  validate : Test
  emitWith : List Param → Value → Build Value

namespace Property

/-- Writes a value where the current block gives the parameters. -/
def emit (p : Property) (v : Value) : Build Value := p.emitWith [] v

def emitLambda (type : CppType) (params : List Param) (body : String) : Build Expr := do
  let params ← lambdaParams params
  return inlined (← closure body params "=" (some type))

/-- The items of a list with identifiers replaced by the objects they name. -/
def resolveItems : List Value → Build (List Value)
  | [] => pure []
  | .ident id :: vs => do
    let e ← resolve id
    return .cpp e :: (← resolveItems vs)
  | v :: vs => do return v :: (← resolveItems vs)

/-- Writes a value as it is: an identifier is resolved, a whole number is made one if the type asks
    for it. -/
def emitPlain (whole : Bool) (v : Value) : Build Value := do
  match v with
  | .ident id => return .cpp (← resolve id)
  | _ =>
    let v ← match v with
      | .list xs => do pure (Value.list (← resolveItems xs))
      | other => pure other
    let v ← if whole then (Value.int <$> (Test.convertInt v : Check Int)) else pure v
    return .cpp (← express v)

/-- Checks a value unless it is a lambda, which must return something. -/
def validateWith (needs : Option String) (test : Test) : Test := fun v => do
  match needs with
  | some name => let _ ← Test.needsComponent name v
  | none => pure ()
  if v.isLambda then Test.returningLambda v else test v

/-- A property whose values are written as they are. -/
def plain (test : Test) (type : CppType) (needs : Option String) : Property where
  validate := validateWith needs test
  emitWith params v :=
    match v with
    | .null => pure .null
    | .lambda body => do return .cpp (← emitLambda type params body)
    | _ => emitPlain (type == int) v

/-- A property whose values are mapped to what is written. -/
def mapped (test : Test) (type : CppType) (form : Value → Check Value) : Property where
  validate := validateWith none test
  emitWith params v :=
    match v with
    | .null => pure .null
    | .lambda body => do return .cpp (← emitLambda type params body)
    | _ => form v

/-- A text stands for the code it spells; any other value for itself. -/
def literal (v : Value) : Value :=
  match v.text? with
  | some s => .literal s
  | none => v

def asksChoices : Value → Bool
  | .probe => true
  | v => v.isObject

end Property

end Panel
