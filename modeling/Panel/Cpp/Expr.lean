import Panel.Text.Decimal
import Panel.Text.Quote
import Panel.Cpp.Type

/-! # C++ expressions and statements — the tree that generated code is printed from -/

namespace Panel.Cpp

open Text

/-- The operator that a member is taken with. -/
inductive Access where
  | dot
  | arrow
  | scope
  | bare
  | joined
  deriving BEq, DecidableEq, Repr, Inhabited

def Access.text : Access → String
  | .dot => "."
  | .arrow => "->"
  | .scope => "::"
  | .bare => ""
  | .joined => "_"

/-- A parameter of a closure. -/
structure Param where
  type : CppType
  name : String
  deriving BEq, DecidableEq, Repr, Inhabited

/-- A closure: parameters, capture list, result type and body text. -/
structure Closure where
  params : List Param
  capture : String
  result : Option CppType
  body : String
  deriving BEq, DecidableEq, Repr, Inhabited

/-- A C++ expression. -/
inductive Expr where
  | raw (text : String)
  | object (base : Expr) (access : Access)
  | boolean (b : Bool)
  | integer (n : Int)
  | hex (n : Int)
  | real (x : Float)
  | quoted (s : String)
  | array (items : List Expr)
  | call (callee : Expr) (template : List Expr) (args : List Expr)
  | binary (op : String) (lhs rhs : Expr)
  | unary (op : String) (operand : Expr)
  | cast (type : String) (operand : Expr)
  | closure (c : Closure)
  | assign (target : Expr) (value : Expr)
  | define (type modifier name : String) (value : Expr)
  | declare (type modifier name : String)
  deriving Inhabited

/-- Puts two blanks in front of every line but the first and the last, if there are more than
    two. -/
def indentInner (text : String) : String :=
  match lines text with
  | first :: second :: third :: rest =>
    let tail := second :: third :: rest
    first ++ String.join (tail.dropLast.map ("  " ++ ·)) ++ tail.getLastD ""
  | _ => text

def integerText (n : Int) : String :=
  toString n ++
    (if n > 4294967295 then "ULL" else if n > 2147483647 then "UL"
      else if n < -2147483648 then "LL" else "")

/-- A hexadecimal literal of at least two digits, in upper case. -/
def hexText (n : Int) : String :=
  (if n < 0 then "-0x" else "0x") ++ zeroPad 2 (upper (inBase 16 n.natAbs))

def realText (x : Float) : String :=
  if x.isNaN then "NAN" else floatText x ++ "f"

def paramsText (ps : List Param) : String :=
  String.intercalate ", " (ps.map fun p => p.type.name ++ " " ++ p.name)

def Closure.text (c : Closure) : String :=
  let arrow := match c.result with
    | some t => " -> " ++ t.name
    | none => ""
  indentInner ("[" ++ c.capture ++ "](" ++ paramsText c.params ++ ")" ++ arrow ++ " \x7b\n"
    ++ c.body ++ "\n\x7d")

mutual

def Expr.render : Expr → String
  | .raw text => text
  | .object base _ => base.render
  | .boolean b => if b then "true" else "false"
  | .integer n => integerText n
  | .hex n => hexText n
  | .real x => realText x
  | .quoted s => cppString s
  | .array [] => "\x7b\x7d"
  | .array (e :: es) => "\x7b" ++ String.intercalate ", " (renderAll (e :: es)) ++ "\x7d"
  | .call callee template args =>
    let front := callee.render
    let middle := match renderAll template with
      | [] => ""
      | ts => "<" ++ String.intercalate ", " ts ++ ">"
    front ++ middle ++ "(" ++ indentInner (String.intercalate ", " (renderAll args)) ++ ")"
  | .binary op lhs rhs => "(" ++ lhs.render ++ " " ++ op ++ " " ++ rhs.render ++ ")"
  | .unary op operand => "(" ++ op ++ operand.render ++ ")"
  | .cast type operand => "static_cast<" ++ type ++ ">(" ++ operand.render ++ ")"
  | .closure c => c.text
  | .assign target value => target.render ++ " = " ++ value.render
  | .define type modifier name value => type ++ " " ++ modifier ++ name ++ " = " ++ value.render
  | .declare type modifier name => type ++ " " ++ modifier ++ name

def renderAll : List Expr → List String
  | [] => []
  | e :: es => e.render :: renderAll es

end

/-- Can members be taken of the expression, and operators be applied to it? -/
def Expr.isObject : Expr → Bool
  | .object _ _ => true
  | _ => false

/-- An object printed as `text`, whose members are taken with a point. -/
def Expr.named (text : String) : Expr := .object (.raw text) .dot

def Expr.pointer (name : String) : Expr := .object (.raw name) .arrow

def Expr.access : Expr → Access
  | .object _ a => a
  | _ => .dot

/-- A member of an object.  A leading `P` on an object whose operator is not `::` or empty says
    that the member is a pointer and is dropped; so is one leading underscore. -/
def Expr.member (e : Expr) (name : String) : Expr :=
  let op := e.access
  let isPointer := hasPrefix "P" name && op != .scope && op != .bare
  let afterPointer := if isPointer then drop 1 name else name
  let bare := removePrefix "_" afterPointer
  .object (.raw (e.render ++ op.text ++ bare)) (if isPointer then .arrow else .dot)

def Expr.invoke (e : Expr) (args : List Expr) : Expr :=
  .object (.call (match e with | .object base _ => base | other => other) [] args) e.access

def Expr.method (e : Expr) (name : String) (args : List Expr) : Expr :=
  (e.member name).invoke args

def Expr.index (e : Expr) (i : Expr) : Expr :=
  .object (.raw (e.render ++ "[" ++ i.render ++ "]")) .dot

def Expr.operate (op : String) (lhs rhs : Expr) : Expr :=
  .object (.binary op lhs rhs) .dot

def Expr.nullptr : Expr := .object (.raw "nullptr") .scope

/-- What is added to a code block: an expression, a ready statement, or a `return`. -/
inductive Item where
  | expr (e : Expr)
  | raw (text : String)
  | result (e : Expr)
  deriving Inhabited

/-- The text of an item without its final semicolon rule. -/
def Item.text : Item → String
  | .expr e => e.render
  | .raw text => text
  | .result e => "return " ++ e.render ++ ";"

/-- A statement: an item on its own, or one that was added at an indentation level. -/
inductive Stmt where
  | item (i : Item)
  | indented (level : Int) (i : Item)
  deriving Inhabited

def Stmt.render : Stmt → String
  | .item (.expr e) => e.render ++ ";"
  | .item i => i.text
  | .indented level i =>
    let body := indent (4 * level).toNat (trim i.text)
    match i with
    | .raw _ => body
    | _ => body ++ ";"

/-! ## Marks of places -/

/-- Does a line say which place of a configuration the next line comes from? -/
def isMark (line : String) : Bool := hasPrefix "#line " line

/-- A text without its marks of places. -/
def unmarked (text : String) : String :=
  String.intercalate "\n" ((parts '\n' text).filter fun l => !isMark l)

/-- The texts of statements: no blanks at the end, no marks of places. -/
def statementTexts (ss : List Stmt) : List String :=
  let texts := ss.map fun s => trimRight s.render
  (texts.filter fun t => !(isMark t && !t.toList.contains '\n')).map unmarked

end Panel.Cpp
