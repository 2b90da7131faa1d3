import Panel.Value

/-! # Tagged values — every value as scalars, texts, lists and dictionaries

    What JSON has no form for becomes a dictionary whose first key is a tag, a word that starts
    with a dollar sign.  The two directions serve different ends and are not inverse: a
    configuration that comes in can name places and raw code, and a result that goes out says what
    a word is mapped to. -/

namespace Panel

open Cpp

namespace Value

def tag (word : String) (v : Value) : Value := .dict [(word, v)]

/-! ## Reading -/

def identFrom (es : Entries) (name : Value) : Ident :=
  let type := match Entries.get? es "type" with
    | some (.str t) => some (CppType.classOf t [])
    | _ => none
  let declared := match Entries.get? es "decl" with
    | some (.bool b) => b
    | _ => false
  ⟨name.text?, type, declared, name.text?.isSome⟩

def ofTag? : Entries → Option Value
  | [("$lambda", .str s)] => some (.lambda s)
  | [("$float", .str s)] => some (.float ((Text.readFloat? s).getD 0.0))
  | [("$lit", .str s)] => some (.cpp (Expr.named s))
  | [("$raw", .str s)] => some (.cpp (.raw s))
  | [("$yaml", .list [.str s, .str document, .int line])] => some (.placed s document line.toNat)
  | [("$ms", .int n)] => some (.period .milli (n * 1000))
  | [("$fn", _)] => some .probe
  | es => (Entries.get? es "$id").map fun name => .ident (identFrom es name)

mutual

/-- The value that tagged data stands for. -/
def untagged : Value → Value
  | .list vs => .list (untaggedItems vs)
  | .dict es =>
    match ofTag? es with
    | some v => v
    | none => .dict (untaggedEntries es)
  | other => other

def untaggedItems : List Value → List Value
  | [] => []
  | v :: vs => untagged v :: untaggedItems vs

def untaggedEntries : List (String × Value) → List (String × Value)
  | [] => []
  | (k, v) :: es => (k, untagged v) :: untaggedEntries es

end

/-! ## Writing -/

mutual

def tagged : Value → Value
  | .choice key mapped => tag "$enum" (.list [.str key, .str mapped])
  | .placed s _ _ => .str s
  | .float x => tag "$float" (.str (Text.floatText x))
  | .ident id =>
    .dict [("$id", (id.name.map Value.str).getD .null), ("type", .str id.typeText),
      ("decl", .bool id.declared)]
  | .lambda body => tag "$lambda" (.str body)
  | .period _ micros => tag "$us" (.int micros)
  | .cpp e => tag "$cpp" (.str (unmarked e.render))
  | .list vs => .list (taggedItems vs)
  | .dict es => .dict (taggedEntries es)
  | .probe => tag "$object" (.str "object")
  | other => other

def taggedItems : List Value → List Value
  | [] => []
  | v :: vs => tagged v :: taggedItems vs

def taggedEntries : List (String × Value) → List (String × Value)
  | [] => []
  | (k, v) :: es => (k, tagged v) :: taggedEntries es

end

end Value

end Panel
