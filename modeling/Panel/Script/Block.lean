import Panel.Script.Word
import Panel.Code.Block
import Panel.Code.Program

/-! # Scripts for code blocks — contexts, scopes and statements one by one -/

namespace Panel.Script

open Cpp Code

/-- An open scope: is it that of a condition, and does it have to be closed? -/
structure Scope where
  conditional : Bool
  isOpen : Bool

/-- The contexts entered and the scopes opened, innermost first. -/
structure Bench where
  contexts : List Nat := []
  scopes : List Scope := []

abbrev BenchWork := StateT Bench Build

def innermost : BenchWork Nat := do
  match (← get).contexts with
  | i :: _ => pure i
  | [] => throw .noIndex

/-- The innermost context, which must become a lambda. -/
def innermostLambda : BenchWork Context := do
  let c ← context (← innermost)
  if c.form == .main then throw .noAttribute
  return c

def enter (c : Context) : BenchWork Value := do
  let i ← Code.enter c
  modify fun b => { b with contexts := i :: b.contexts }
  return .null

def leave : BenchWork Value := do
  Code.leave (← innermost)
  modify fun b => { b with contexts := b.contexts.drop 1 }
  return .null

def note (scope : Scope) : BenchWork Unit :=
  modify fun b => { b with scopes := scope :: b.scopes }

def otherwise : BenchWork Value := do
  match (← get).scopes with
  | [] => throw .noIndex
  | scope :: _ => do
    if !scope.conditional then throw .noAttribute
    if !scope.isOpen then throw .brokenPromise
    Code.otherwise
    return .null

def close : BenchWork Value := do
  match (← get).scopes with
  | [] => throw .noIndex
  | scope :: rest => do
    if scope.isOpen then closeScope
    modify fun b => { b with scopes := rest }
    return .null

/-- The parameter at a position; a position below zero counts from the end. -/
def paramAt (position : Int) : BenchWork Value := do
  let ps := (← innermostLambda).params
  let i := if position < 0 then position + ps.length else position
  match if i < 0 then none else ps[i.toNat]? with
  | some p => return raw p.name
  | none => throw .noIndex

def familyStem : String → String
  | "LV" => "LV_"
  | "lv_obj" => "lv_obj_"
  | _ => "lv_"

/-- Calls a function of a family: as a statement, or only as an expression. -/
def callMember (family name : String) (args : Value) : Check Value := do
  let function := familyStem family ++ name
  if family == "lv_expr" then return .cpp (← callOf function (items args))
  else return .cpp (← call function (items args))

def declared (name : String) (type : Value) : Ident := ⟨some name, typeOf type, true, true⟩

def block : Command → BenchWork Value
  | [.str "lambda", params, result, capture] =>
    enter (Code.Context.fresh .lambda (paramsOf params) (typeOf result) (word capture))
  | [.str "lv"] => enter Code.Context.setup
  | [.str "main"] => enter Code.Context.main
  | [.str "exit"] => leave
  | [.str "raw", .str text] => do
    addLine text
    return raw text
  | [.str "expr", .str text] => do
    add (.raw text)
    return raw text
  | [.str "call", .str family, .str name, args] => callMember family (currentName name) args
  | [.str "prop", .str family, .str name, args] => callMember family name args
  | [.str "repr", .str family, names] =>
    let full := (wordsOf names).foldl (fun t a => t ++ currentName a) (familyStem family)
    return Report.texts [full, "MockLv<" ++ full ++ ">"]
  | [.str "if", .null] => do
    note ⟨true, false⟩
    return .null
  | [.str "if", condition] => do
    openIf condition.show
    note ⟨true, true⟩
    return .null
  | [.str "else"] => otherwise
  | [.str "end"] => close
  | .str "local" :: name :: type :: rest => do
    let modifier := ((rest.getD 1 .null).text?).getD "*"
    let e ← openLocal (word name) (typeText type) (given? (rest.headD .null)) modifier
    note ⟨false, true⟩
    return .cpp e
  | [.str "assign", target, v] => do
    assign (.raw target.show) v
    return .null
  | [.str "return", v] => do
    let e ← express v
    addItem (.result e)
    return raw ("return " ++ e.render ++ ";")
  | [.str "pvar", type, .str name] =>
    return .cpp (← globalPointer (typeText type) (declared name type))
  | [.str "var", type, .str name] =>
    return .cpp (← globalVariable (typeText type) (declared name type))
  | [.str "code"] => return Report.texts (Code.Context.lines (← innermostLambda))
  | [.str "get_lambda"] => do
    let _ ← innermostLambda
    return .str (← blockLambda (← innermost)).text
  | [.str "param", position] => paramAt (whole position)
  | [.str "context_args"] => do
    match automationParams (← getThe Session) with
    | .ok ps => return paramRows ps
    | .error e => throw e
  | [.str "block"] => do
    openScope
    return .null
  | [.str "endblock"] => do
    closeScope
    return .null
  | [.str "marks", v] => do
    addLineMarks v
    return .list [.null, Report.texts (lineMarks v)]
  | [.str "invoke", .str text] => do
    if (← context (← innermost)).form != .setup then throw .wrongKind
    addMain (.item (.raw text))
    return raw text
  | _ => throw .noAttribute

/-- Runs a step and says, beside its outcome, where the current context stands. -/
def blockStep (c : Command) (s : Session) (b : Bench) :
    Except Failure Value × Entries × Session × Bench :=
  let (r, s) := ((block c).run b).now s
  let (r, b) : Except Failure Value × Bench := match r with
    | .ok (v, b) => (.ok v, b)
    | .error e => (.error e, b)
  let level : Entries := match currentContext? s with
    | none => []
    | some c =>
      ("indent", .int c.level)
        :: (if c.form == .main then [] else [("lines", .int c.code.length)])
  (r, level, s, b)

end Panel.Script
