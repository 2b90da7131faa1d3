import Panel.Session
import Panel.Text.Pattern

/-! # Lambdas — code of the configuration inside generated code -/

namespace Panel

open Cpp Text

namespace Code

/-! ## Comments -/

/-- What stands up to the closing quote, with it, and the rest; none if the quote never closes. -/
def quotedPart? (quote : Char) : List Char → Option (List Char × List Char)
  | [] => none
  | '\\' :: c :: cs => (quotedPart? quote cs).map fun (p, r) => ('\\' :: c :: p, r)
  | ['\\'] => none
  | c :: cs =>
    if c == quote then some ([c], cs)
    else (quotedPart? quote cs).map fun (p, r) => (c :: p, r)

/-- What follows the end of a block comment; none if it never ends. -/
def afterComment? : List Char → Option (List Char)
  | [] => none
  | '*' :: '/' :: cs => some cs
  | _ :: cs => afterComment? cs

/-- Walks over code and replaces comments, in as many steps as it has characters. -/
def withoutCommentsWithin : Nat → List Char → List Char
  | 0, cs => cs
  | _ + 1, [] => []
  | n + 1, '/' :: '/' :: cs => ' ' :: withoutCommentsWithin n (cs.dropWhile (· != '\n'))
  | n + 1, '/' :: '*' :: cs =>
    match afterComment? cs with
    | some rest => ' ' :: withoutCommentsWithin n rest
    | none => '/' :: withoutCommentsWithin n ('*' :: cs)
  | n + 1, c :: cs =>
    if c == '"' || c == '\'' then
      match quotedPart? c cs with
      | some (part, rest) => c :: part ++ withoutCommentsWithin n rest
      | none => c :: withoutCommentsWithin n cs
    else c :: withoutCommentsWithin n cs

def withoutComments (code : String) : String :=
  String.ofList (withoutCommentsWithin code.length code.toList)

/-! ## References -/

/-- A piece of code: text, or a reference to an object, perhaps followed by a point. -/
inductive Piece where
  | text (s : String)
  | reference (name : String) (dotted : Bool)
  deriving BEq, DecidableEq, Repr, Inhabited

/-- The name in an `id(…)` call that begins after its opening bracket. -/
def referredName? (cs : List Char) : Option (String × List Char) :=
  match callArgument? (fun c => c.isAlphanum || c == '_') cs with
  | some (name, rest) =>
    if (name.toList.head?.map Char.isDigit).getD true then none else some (name, rest)
  | none => none

/-- Splits code at its references, in as many steps as it has characters. -/
def piecesWithin : Nat → List Char → List Char → List Piece
  | 0, cs, seen => [.text (String.ofList (seen.reverse ++ cs))]
  | _ + 1, [], seen => [.text (String.ofList seen.reverse)]
  | n + 1, c :: cs, seen =>
    let reference? := match c, cs with
      | 'i', 'd' :: '(' :: rest => referredName? rest
      | _, _ => none
    match reference? with
    | some (name, '.' :: rest) =>
      .text (String.ofList seen.reverse) :: .reference name true :: piecesWithin n rest []
    | some (name, rest) =>
      .text (String.ofList seen.reverse) :: .reference name false :: piecesWithin n rest []
    | none => piecesWithin n cs (c :: seen)

def pieces (body : String) : List Piece :=
  let code := (withoutComments body).toList
  piecesWithin (code.length + 1) code []

/-- The names that a lambda body refers to, in order. -/
def references (body : String) : List String :=
  (pieces body).filterMap fun
    | .reference name _ => some name
    | .text _ => none

/-! ## Objects -/

def registered? (s : Session) (name : Option String) : Option Variable :=
  s.objects.find? (·.id.name == name)

def awaitVariable (name : Option String) : Build Variable :=
  Build.waitFor fun s => (registered? s name).map .ok

/-- The object that an identifier names, waiting for it. -/
def resolve (id : Ident) : Build Expr := do
  return (← awaitVariable id.name).value

def isGlobal (id : Ident) : Bool :=
  match id.type with
  | some t => t.isClass && t.inheritsFrom globalsComponent
  | none => false

def referenceText (v : Variable) (dotted : Bool) : String :=
  if isGlobal v.id then
    (v.value.method "value" []).render ++ (if dotted then "." else "")
  else if dotted then v.value.render ++ v.value.access.text
  else v.value.render

/-- The text of pieces, every reference resolved in order. -/
def piecesText : List Piece → Build String
  | [] => pure ""
  | .text s :: ps => do return s ++ (← piecesText ps)
  | .reference name dotted :: ps => do
    let v ← awaitVariable (some name)
    return referenceText v dotted ++ (← piecesText ps)

/-! ## Closures -/

def closure (body : String) (params : List Param) (capture : String) (result : Option CppType) :
    Build Closure := do
  return ⟨params, capture, result, ← piecesText (pieces body)⟩

def returned? (body : String) : Option String :=
  let text := trim body
  if hasPrefix "return" text && hasSuffix ";" text then
    some (trim (dropEnd 1 (drop 6 text)))
  else none

/-- A closure as a value: the expression it returns, cast unless its type is a class, or else a
    call of it with its own parameter names. -/
def inlined (c : Closure) : Expr :=
  match returned? c.body with
  | some e =>
    match c.result with
    | some t => if t.isClass then .raw e else .cast t.name (.raw e)
    | none => .cast "None" (.raw e)
  | none => .call (.closure c) [] (c.params.map fun p => Expr.named p.name)

end Code

end Panel
