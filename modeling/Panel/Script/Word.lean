import Panel.Report
import Panel.Json.Tagged

/-! # Words of scripts

    A script drives the library step by step.  A step is a word with arguments, and answers with a
    value; a step that only does something answers with null. -/

namespace Panel.Script

open Cpp

abbrev Command := List Value

/-- The items of a list; anything else has none. -/
def items (v : Value) : List Value := v.items?.getD []

/-- The text of a text; anything else has an empty one. -/
def word (v : Value) : String := v.text?.getD ""

def wordsOf (v : Value) : List String := (items v).map word

def isTrue : Value → Bool
  | .bool b => b
  | _ => false

/-- The value of a whole number; anything else counts as zero. -/
def whole : Value → Int
  | .int n => n
  | _ => 0

def given? : Value → Option Value
  | .null => none
  | v => some v

def member (v : Value) (key : String) : Value := (v.get? key).getD .null

def commandOf (v : Value) : Command := (items v).map Value.untagged

/-! ## Types -/

def namedType? : String → Option CppType
  | "float" => some float
  | "int" => some int
  | "bool" => some bool
  | "void" => some void
  | "obj" => some lvObj
  | "style" => some lvStyle
  | "string" => some stdString
  | _ => none

/-- The type that a value names; a word that names none is a type by itself. -/
def typeOf (v : Value) : Option CppType :=
  v.text?.map fun t => (namedType? t).getD (CppType.plain (Text.cppString t))

def typeText (v : Value) : String := ((v.text?.bind namedType?).map (·.name)).getD v.show

/-- Parameters, each a type and a name. -/
def paramsOf (v : Value) : List Param :=
  (items v).filterMap fun p =>
    match items p with
    | [t, n] => (typeOf t).map fun type => ⟨type, word n⟩
    | _ => none

/-! ## Answers -/

def rendered (e : Expr) : Value := .str e.render

def raw (text : String) : Value := .cpp (.raw text)

def paramRows (ps : List Param) : Value := .list (ps.map fun p => Report.texts [p.type.name, p.name])

end Panel.Script
