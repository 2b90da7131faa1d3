import Panel.Automation.Grammar
import Panel.Widget.Properties

/-! # Behaviours — actions and conditions as generated objects -/

namespace Panel

open Cpp Code

/-- The generators that refer to each other. -/
structure Generator where
  /-- Builds a widget of a kind inside a parent. -/
  widget : Kind → Value → Expr → Build (Option Widget)
  /-- Writes what the kind of a widget does with its options. -/
  options : Widget → Value → Build Unit
  /-- Builds a list of actions with parameters. -/
  actions : Value → List Param → Build (List Expr)
  condition : Value → List Param → Build Expr

/-- An action or a condition. -/
structure Behaviour where
  name : String
  type : CppType
  rule : Grammar → Test
  build : Generator → Value → Ident → List Param → Build Expr

namespace Behaviour

def toRule (g : Grammar) (b : Behaviour) : Automation.Rule := ⟨b.type, b.rule g⟩

def ruleOf? (registry : List Behaviour) (g : Grammar) (name : String) : Option Automation.Rule :=
  (registry.find? (·.name == name)).map (toRule g)

def buildEntry (g : Generator) (registry : List Behaviour) (v : Value) (params : List Param) :
    Build Expr := do
  match v with
  | .dict es =>
    match es.findSome? fun (k, options) =>
      (registry.find? (·.name == k)).map fun b => (b, options) with
    | some (b, options) => do
      let id ← identAt v "type_id"
      b.build g options id params
    | none => throw .exhausted
  | _ => throw .noAttribute

def buildEntries (g : Generator) (registry : List Behaviour) (params : List Param) :
    List Value → Build (List Expr)
  | [] => pure []
  | v :: vs => do
    let e ← buildEntry g registry v params
    return e :: (← buildEntries g registry params vs)

end Behaviour

namespace Automation

/-- A new object of an entry, with the types of the parameters as template arguments. -/
def newEntry (id : Ident) (params : List Param) (args : List Value) : Check Expr :=
  newTemplate id (templateOf params) args

def generate (g : Generator) (trigger : Expr) (params : List Param) (config : Value) :
    Build Expr := do
  let id ← identAt config "automation_id"
  let obj ← newEntry id params [.cpp trigger]
  let actions ← required config "then"
  let built ← g.actions actions params
  addToMain (obj.method "add_actions" [.array built])
  return obj

/-- Runs work in a block of its own and leaves it; the answer is the closure of the block. -/
def closureOf (params : List Param) (result : CppType) (work : Build Unit) : Build Closure := do
  let i ← inBlock (Code.Context.fresh .lambda params (some result) "") fun i => do
    work
    return i
  blockLambda i

def awaitNames : List String → Build Unit
  | [] => pure ()
  | n :: ns => do
    let _ ← awaitVariable (some n)
    awaitNames ns

/-- Waits for everything that the lambdas of a configuration refer to. -/
def awaitLambdas : Entries → Build Unit
  | [] => pure ()
  | (_, .lambda body) :: es => do
    awaitNames (references body)
    awaitLambdas es
  | _ :: es => awaitLambdas es

def forWidgets (work : Widget → Build Unit) : List Widget → Build Unit
  | [] => pure ()
  | w :: ws => do
    work w
    forWidgets work ws

/-- An action that runs code for widgets, once all widgets are there. -/
def widgetAction (widgets : List Widget) (work : Widget → Build Unit) (id : Ident)
    (params : List Param) (config : Entries) : Build Expr := do
  awaitLambdas config
  Widget.awaitAll
  let c ← closureOf params void (forWidgets work widgets)
  newEntry id params [.cpp (.closure c)]

end Automation

end Panel
