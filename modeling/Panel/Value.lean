import Panel.Cpp.Expr

/-! # Configuration values — what a panel is described with -/

namespace Panel

open Cpp Text

/-- The name of an object: what it is called, its type, whether it is declared here, and whether
    the name was given by hand. -/
structure Ident where
  name : Option String
  type : Option CppType
  declared : Bool
  manual : Bool
  deriving BEq, DecidableEq, Repr, Inhabited

namespace Ident

/-- A declaration; without a name it is given one later. -/
def declaration (name : Option String) (type : CppType) : Ident :=
  ⟨name, some type, true, name.isSome⟩

/-- A reference; without a name it stands for the only candidate. -/
def reference (name : Option String) (type : CppType) : Ident :=
  ⟨name, some type, false, name.isSome⟩

def text (i : Ident) : String := i.name.getD ""

def typeText (i : Ident) : String :=
  match i.type with
  | some t => t.name
  | none => "None"

end Ident

/-- The unit a time period is counted in when it is written as a number. -/
inductive PeriodUnit where
  | free
  | micro
  | milli
  | second
  | minute
  deriving BEq, DecidableEq, Repr, Inhabited

/-- A configuration value. -/
inductive Value where
  | null
  | bool (b : Bool)
  | int (n : Int)
  | float (x : Float)
  | str (s : String)
  | placed (s document : String) (line : Nat)
  | choice (key mapped : String)
  | list (items : List Value)
  | dict (entries : List (String × Value))
  | lambda (body : String)
  | period (unit : PeriodUnit) (micros : Int)
  | ident (id : Ident)
  | cpp (e : Expr)
  | probe
  deriving Inhabited

abbrev Entries := List (String × Value)

namespace Entries

def get? (es : Entries) (key : String) : Option Value :=
  (es.find? (·.1 == key)).map (·.2)

def has (es : Entries) (key : String) : Bool :=
  es.any (·.1 == key)

/-- The value at a key unless it is missing or null. -/
def given? (es : Entries) (key : String) : Option Value :=
  match es.get? key with
  | some .null => none
  | other => other

/-- Puts a value at a key: in place if the key is there, else at the end. -/
def put : Entries → String → Value → Entries
  | [], key, v => [(key, v)]
  | (k, w) :: es, key, v => if k == key then (k, v) :: es else (k, w) :: put es key v

def without (es : Entries) (key : String) : Entries :=
  es.filter (·.1 != key)

def keys (es : Entries) : List String := es.map (·.1)

end Entries

namespace Value

/-- The text of a text, wherever it stands and whatever it is mapped to. -/
def text? : Value → Option String
  | .str s => some s
  | .placed s _ _ => some s
  | .choice key _ => some key
  | _ => none

def isText (v : Value) : Bool := v.text?.isSome

def entries? : Value → Option Entries
  | .dict es => some es
  | _ => none

def items? : Value → Option (List Value)
  | .list xs => some xs
  | _ => none

def isDict (v : Value) : Bool := v.entries?.isSome

def isLambda : Value → Bool
  | .lambda _ => true
  | _ => false

/-- Is the value an object of the program, with operators? -/
def isObject : Value → Bool
  | .cpp e => e.isObject
  | _ => false

/-- Does the value count as set: not null, false, zero or empty? -/
def truthy : Value → Bool
  | .null => false
  | .bool b => b
  | .int n => n != 0
  | .float x => x != 0.0
  | .str s => s != ""
  | .placed s _ _ => s != ""
  | .choice key _ => key != ""
  | .list xs => !xs.isEmpty
  | .dict es => !es.isEmpty
  | _ => true

/-- The look-up of a key in a dictionary; any other value has none. -/
def get? (v : Value) (key : String) : Option Value :=
  match v with
  | .dict es => Entries.get? es key
  | _ => none

/-- The value at a key unless it is missing or null. -/
def given? (v : Value) (key : String) : Option Value :=
  match v with
  | .dict es => Entries.given? es key
  | _ => none

def has (v : Value) (key : String) : Bool :=
  match v with
  | .dict es => Entries.has es key
  | _ => false

def put (v : Value) (key : String) (x : Value) : Value :=
  match v with
  | .dict es => .dict (Entries.put es key x)
  | other => other

mutual

def depth : Value → Nat
  | .list xs => depthList xs + 1
  | .dict es => depthEntries es + 1
  | _ => 0

def depthList : List Value → Nat
  | [] => 0
  | v :: vs => max (depth v) (depthList vs)

def depthEntries : List (String × Value) → Nat
  | [] => 0
  | (_, v) :: es => max (depth v) (depthEntries es)

end

/-- The text of a period: in its own unit if that is milliseconds, else in the smallest unit that
    it needs. -/
def periodText (unit : PeriodUnit) (micros : Int) : String :=
  let count (n : Int) (unit : String) := toString n ++ unit
  if unit == .milli then count (micros / 1000) "ms"
  else if micros == 0 then "0s"
  else if micros % 1000 != 0 then count micros "us"
  else if micros % 1000000 != 0 then count (micros / 1000) "ms"
  else if micros % 60000000 != 0 then count (micros / 1000000) "s"
  else if micros % 3600000000 != 0 then count (micros / 60000000) "min"
  else if micros % 86400000000 != 0 then count (micros / 3600000000) "h"
  else count (micros / 86400000000) "d"

mutual

/-- A value as an item of a container in a message: texts stand between quotes. -/
def inspect : Value → String
  | .null => "None"
  | .bool b => if b then "True" else "False"
  | .int n => toString n
  | .float x => floatText x
  | .str s => quoted s
  | .placed s _ _ => quoted s
  | .choice key _ => quoted key
  | .list xs => "[" ++ String.intercalate ", " (inspectList xs) ++ "]"
  | .dict es => "\x7b" ++ String.intercalate ", " (inspectEntries es) ++ "\x7d"
  | .lambda body => "Lambda<" ++ body ++ ">"
  | .period _ micros => "TimePeriod<" ++ toString micros ++ ">"
  | .ident id =>
    "ID<" ++ id.name.getD "None" ++ " declaration=" ++ (if id.declared then "True" else "False")
      ++ ", type=" ++ id.typeText ++ ", manual=" ++ (if id.manual then "True" else "False") ++ ">"
  | .cpp e => e.render
  | .probe => "<object object at 0x>"

def inspectList : List Value → List String
  | [] => []
  | v :: vs => inspect v :: inspectList vs

def inspectEntries : List (String × Value) → List String
  | [] => []
  | (k, v) :: es => (quoted k ++ ": " ++ inspect v) :: inspectEntries es

end

def «show» : Value → String
  | .str s => s
  | .placed s _ _ => s
  | .choice key _ => key
  | .lambda body => body
  | .period unit micros => periodText unit micros
  | .ident id => id.text
  | other => inspect other

mutual

/-- Are two values equal?  Numbers compare by value, identifiers by name. -/
def same : Value → Value → Bool
  | .null, .null => true
  | .bool a, .bool b => a == b
  | .bool a, .int n => (if a then 1 else 0) == n
  | .int n, .bool a => (if a then 1 else 0) == n
  | .int m, .int n => m == n
  | .float x, .float y => x == y
  | .float x, .int n => x == Float.ofInt n
  | .int n, .float x => x == Float.ofInt n
  | .float x, .bool a => x == (if a then 1.0 else 0.0)
  | .bool a, .float x => x == (if a then 1.0 else 0.0)
  | .list xs, .list ys => sameList xs ys
  | .dict es, .dict fs => es.length == fs.length && sameEntries es fs
  | .lambda a, .lambda b => a == b
  | .period _ a, .period _ b => a == b
  | .ident a, .ident b => a.name == b.name
  | .probe, .probe => true
  | a, b =>
    match a.text?, b.text? with
    | some s, some t => s == t
    | _, _ => false

def sameList : List Value → List Value → Bool
  | [], [] => true
  | x :: xs, y :: ys => same x y && sameList xs ys
  | _, _ => false

/-- Does every entry of the first dictionary stand in the second? -/
def sameEntries : List (String × Value) → List (String × Value) → Bool
  | [], _ => true
  | (k, v) :: es, fs =>
    (match fs.find? (·.1 == k) with
      | some (_, w) => same v w
      | none => false) && sameEntries es fs

end

instance : Coe Expr Value := ⟨.cpp⟩

def literal (s : String) : Value := .cpp (Expr.named s)

end Value

end Panel
