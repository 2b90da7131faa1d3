import Panel.Code.Express
import Panel.Code.Lambda

/-! # Code blocks — where statements go while they are generated

    Blocks are stacked: a new one remembers the current block and restores it when it is left. -/

namespace Panel

open Cpp

namespace Code

/-- The parameter of the setup code: the panel component itself. -/
def componentParam : Param := ⟨CppType.plain "lvgl::LvglComponent *", "lv_component"⟩

def eventParam : Param := ⟨CppType.plain "lv_event_t *", "event"⟩

/-- The object of the panel component inside code that has it as a parameter. -/
def componentObject : Expr := Expr.pointer "lv_component"

/-! ## The stack of blocks -/

def Context.fresh (form : ContextForm) (params : List Param) (result : Option CppType)
    (capture : String) : Context :=
  ⟨form, none, 0, [], params, result, capture⟩

def Context.setup : Context := Context.fresh .setup [componentParam] (some void) ""

def Context.main : Context := Context.fresh .main [] none ""

/-- The block of a lambda without a result. -/
def Context.lambda (params : List Param) : Context := Context.fresh .lambda params (some void) ""

def currentContext? (s : Session) : Option Context :=
  s.current.bind fun i => s.contexts[i]?

def modifyContext (f : Context → Context) (s : Session) : Session :=
  match s.current with
  | some i => { s with contexts := s.contexts.modify i f }
  | none => s

/-- Makes a block current; the answer is its number. -/
def enter (c : Context) : Check Nat :=
  modifyGet fun s =>
    (s.contexts.length,
      { s with
        contexts := s.contexts ++ [{ c with previous := s.current }]
        current := some s.contexts.length })

/-- Makes the block current that was so before the given one was entered. -/
def leave (i : Nat) : Check Unit :=
  modify fun s => { s with current := (s.contexts[i]?).bind (·.previous) }

/-- Runs work inside a block, leaving it also when the work fails.  The marks of the lines that the
    block comes from are left out. -/
def inBlock {α : Type} (c : Context) (work : Nat → Build α) : Build α := do
  let i ← enter c
  let outcome : Except Failure α ← tryCatch (.ok <$> work i) fun e => pure (.error e)
  leave i
  match outcome with
  | .ok a => return a
  | .error e => throw e

/-! ## Statements -/

def addMain (s : Stmt) : Check Unit :=
  modify fun t => { t with main := t.main ++ [s] }

def addItem (i : Item) : Check Unit := do
  match currentContext? (← get) with
  | none => pure ()
  | some c =>
    match c.form with
    | .setup => addMain (.item i)
    | .main => addMain (.indented c.level i)
    | .lambda => modify (modifyContext fun c => { c with code := c.code ++ [.indented c.level i] })

def add (e : Expr) : Check Unit := addItem (.expr e)

def addLine (line : String) : Check Unit := addItem (.raw line)

def assign (target : Expr) (v : Value) : Check Unit := do
  add (.define "" "" target.render (← express v))

/-- Moves the indentation of the current block; there must be one. -/
def shift (levels : Int) : Check Unit := do
  match currentContext? (← get) with
  | none => throw .noAttribute
  | some _ => modify (modifyContext fun c => { c with level := c.level + levels })

def openScope : Check Unit := do
  addLine "\x7b"
  shift 1

def closeScope : Check Unit := do
  shift (-1)
  addLine "\x7d"

def openIf (condition : String) : Check Unit := do
  addLine ("if (" ++ condition ++ ") \x7b")
  shift 1

def otherwise : Check Unit := do
  shift (-1)
  addLine "\x7d else \x7b"
  shift 1

/-- Runs work, then runs the end also when the work fails. -/
def andFinally {α : Type} (work : Build α) (last : Build Unit) : Build α := do
  let outcome : Except Failure α ← tryCatch (.ok <$> work) fun e => pure (.error e)
  last
  match outcome with
  | .ok a => return a
  | .error e => throw e

/-- Runs work inside the scope of a condition; without a condition just runs it. -/
def guardedBy {α : Type} (condition : Option Expr) (work : Build α) : Build α :=
  match condition with
  | none => work
  | some c => do
    openIf c.render
    andFinally work closeScope

/-- Opens the scope of a local variable; the answer is the variable. -/
def openLocal (name : String) (type : String) (rhs : Option Value) (modifier : String) :
    Check Expr := do
  openScope
  let var := name ++ "_VAR_"
  match rhs with
  | some v => add (.define type modifier var (← express v))
  | none => add (.declare type modifier var)
  return Expr.named var

def withLocal {α : Type} (name type : String) (rhs : Option Value) (modifier : String)
    (work : Expr → Build α) : Build α := do
  let var ← openLocal name type rhs modifier
  andFinally (work var) closeScope

/-- The line directives for a value that carries its place. -/
def lineMarks : Value → List String
  | .placed _ document line =>
    ["#line " ++ toString (line + 1) ++ " \"" ++ document.replace "\\" "\\\\" ++ "\""]
  | _ => []

/-- Adds the line directives for a value; an identifier must be declared by the configuration. -/
def addLineMarks (v : Value) : Check Unit := do
  match v with
  | .ident id =>
    if !(← get).declared.contains id.text then
      throw (.missingKey ("ID " ++ id.text ++ " not found in configuration"))
  | _ => (lineMarks v).forM addLine

/-! ## Library calls -/

def currentName (name : String) : String :=
  if name == "event_send" then "obj_send_event"
  else if name == "dither" then "bg_dither_mode"
  else name

/-- Adds the call of a function; the answer is the call as an object. -/
def call (name : String) (args : List Value) : Check Expr := do
  let e ← callOf name args
  add e
  return e

def run (name : String) (args : List Value) : Check Unit := do
  let _ ← call name args

def runMethod (e : Expr) (name : String) (args : List Value) : Check Unit := do
  add (← methodOf e name args)

/-! ## Finished blocks -/

def Context.lines (c : Context) : List String :=
  c.code.map fun s => Text.trimRight s.render

def context (i : Nat) : Check Context := do
  match (← get).contexts[i]? with
  | some c => return c
  | none => throw .noIndex

def blockLambda (i : Nat) : Build Closure := do
  let c ← context i
  closure (String.intercalate "\n" (Context.lines c) ++ "\n") c.params c.capture c.result

/-- The parameters that automations inside the current block can use. -/
def automationParams (s : Session) : Except Failure (List Param) :=
  match currentContext? s with
  | none => .ok []
  | some c =>
    match c.form with
    | .setup => .ok []
    | .lambda => .ok c.params
    | .main => .error .noAttribute

/-- The parameters to build a lambda with: those given, or those of the current block. -/
def lambdaParams (given : List Param) : Check (List Param) := do
  if given.isEmpty then
    match automationParams (← get) with
    | .ok ps => return ps
    | .error e => throw e
  else return given

end Code

end Panel
