import Panel.Automation.Behaviour

/-! # Designs — how widgets of a kind are configured and built -/

namespace Panel

open Cpp Code

/-- How widgets of a kind are configured and built. -/
structure Design where
  /-- The options of the kind; a kind without a record of options cannot be a container. -/
  fields : Grammar → Option Record := fun _ => some (.of [])
  changes : Grammar → List Field := fun _ => []
  /-- A check of the configuration before anything else. -/
  prepare : Test := pure
  /-- The expression that creates the object; by default the library's function for the kind. -/
  creator : Option (Generator → Expr → Value → Build Expr) := none
  /-- What is written right after the object is created. -/
  created : Generator → Expr → Value → Build Unit := fun _ _ _ => pure ()
  /-- What is written for the options, also by updates. -/
  options : Generator → Widget → Value → Build Unit := fun _ _ _ => pure ()
  /-- A way of building that replaces the common steps and gives no widget. -/
  create? : Option (Generator → Value → Expr → Build Unit) := none

namespace Design

/-- A kind whose updates take the same options. -/
def same (fields : Grammar → Record) : Design where
  fields := fun g => some (fields g)
  changes := fun g => (fields g).fields

/-- A kind whose updates take other options. -/
def distinct (fields : Grammar → Record) (changes : List Field) : Design where
  fields := fun g => some (fields g)
  changes := fun _ => changes

end Design

namespace Widget

def change (key : String) (f : Widget → Widget) : Check Unit :=
  modify fun s => { s with widgets := s.widgets.map fun w => if w.key == key then f w else w }

def latest (w : Widget) : Check Widget := do
  return (find? (← get) w.key).getD w

def applyTheme (w : Widget) : Check Unit := do
  match (← get).themes.find? (·.1 == w.kind.typeStem) with
  | none => pure ()
  | some (_, parts) =>
    parts.forM fun (part, states) =>
      states.forM fun (state, style) =>
        w.addStyle (.cpp style) (selector part state)

def createChildren (g : Generator) (parent : Expr) : List Value → Build Unit
  | [] => pure ()
  | .dict ((name, config) :: _) :: rest => do
    match Kind.ofName? name with
    | some kind => let _ ← g.widget kind config parent
    | none => throw (.missingKey name)
    createChildren g parent rest
  | .dict [] :: _ => throw .exhausted
  | _ :: _ => throw .noAttribute

def addChildren (g : Generator) (w : Widget) (config : Value) : Build Unit := do
  match config.get? "widgets" with
  | none => pure ()
  | some (.list items) => createChildren g w.obj items
  | some _ => throw .wrongKind

def creatorOf (design : Design) (g : Generator) (kind : Kind) (config : Value) (parent : Expr) :
    Build Expr :=
  match design.creator with
  | some f => f g parent config
  | none => callOf ("lv_" ++ kind.traits.libraryName ++ "_create") [.cpp parent]

def declareVariable (g : Generator) (design : Design) (kind : Kind) (config : Value) (id : Ident)
    (creator : Expr) : Build Expr := do
  if kind.traits.isCompound then
    let var ← newObject id []
    runMethod var "set_obj" [.cpp creator]
    design.created g (var.member "obj") config
    return var
  else
    let var ← globalPointer "lv_obj_t" id
    assign var (.cpp creator)
    design.created g var config
    return var

def createCommon (design : Design) (g : Generator) (kind : Kind) (config : Value) (parent : Expr) :
    Build Widget := do
  let creator ← creatorOf design g kind config parent
  noteUses (kind.name :: kind.traits.uses)
  let id ← identAt config "id"
  addLineMarks (.ident id)
  let var ← declareVariable g design kind config id creator
  let w := fresh id.text var kind config
  w.note
  w.applyTheme
  w.applyCommon config
  w.addChildren g config
  design.options g w config
  w.latest

/-- Builds a widget; kinds with steps of their own give none. -/
def create (design : Design) (g : Generator) (kind : Kind) (config : Value) (parent : Expr) :
    Build (Option Widget) := do
  match design.create? with
  | some f => do
    f g config parent
    return none
  | none => return some (← createCommon design g kind config parent)

end Widget

def needComponents (names : List String) : Check Unit :=
  modify fun s => { s with components := names.foldl addTo s.components }

namespace Kinds

/-- The value of an option, null if it is not given. -/
def at? (config : Value) (key : String) : Value := (config.get? key).getD .null

/-- The value of an option that counts as set. -/
def setAt? (config : Value) (key : String) : Option Value :=
  match config.get? key with
  | some v => if v.truthy then some v else none
  | none => none

def itemsAt (config : Value) (key : String) : List Value :=
  match config.get? key with
  | some (.list xs) => xs
  | _ => []

def itemsOf : Value → List Value
  | .list xs => xs
  | _ => []

def callFor (function : String) (w : Widget) (config : Value) (key : String) (p : Property) :
    Build Unit := do
  match config.given? key with
  | none => pure ()
  | some v => do
    let v ← p.emit v
    run function [.cpp w.obj, v]

def forItems {α : Type} (work : α → Build Unit) : List α → Build Unit
  | [] => pure ()
  | x :: xs => do
    work x
    forItems work xs

end Kinds

end Panel
