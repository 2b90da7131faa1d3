import Panel.Session

/-! # Access — what generation takes out of a checked configuration

    A checked configuration has its required keys; a missing one ends the work. -/

namespace Panel

def required (v : Value) (key : String) : Check Value :=
  match v with
  | .dict es =>
    match Entries.get? es key with
    | some x => pure x
    | none => throw (.missingKey key)
  | _ => throw .wrongKind

def identOf (v : Value) : Check Ident :=
  match v with
  | .ident id => pure id
  | _ => throw .noAttribute

def identAt (config : Value) (key : String) : Check Ident := do
  identOf (← required config key)

/-- What a value is made of: the items of a list, the characters of a text, the keys of a
    dictionary. -/
def elementsOf (v : Value) : Check (List Value) :=
  match v with
  | .list vs => pure vs
  | .dict es => pure (es.map fun (k, _) => .str k)
  | v =>
    match v.text? with
    | some s => pure (s.toList.map fun c => .str c.toString)
    | none => throw .wrongKind

/-- The elements of all elements of a value, in order. -/
def joined (v : Value) : Check (List Value) := do
  let parts ← (← elementsOf v).mapM elementsOf
  return parts.flatten

end Panel
