import Panel.Component.Build
import Panel.Component.Final
import Panel.Entity
import Panel.Outside
import Panel.Schedule

/-! # Assembly — from a description to a program, stage by stage -/

namespace Panel

open Cpp

/-- What an order is about. -/
inductive Subject where
  | widgets (config : Value)
  | panels (config : Value)

/-- What is to be assembled. -/
structure Order where
  subject : Subject
  actions : Option Value := none
  conditions : Option Value := none
  entities : List (Entity × Value) := []
  params : List Param := []
  env : List Domain := []
  /-- Are the parts around the subject built before it? -/
  isEarly : Bool := false

namespace Assembly

/-! ## Validation -/

def subjectKey : Subject → String
  | .widgets _ => "widgets"
  | .panels _ => "lvgl"

def validateSubject : Subject → Check Value
  | .widgets v => Schema.anyWidgets (Grammar.ofValue v) (.fixed []) v
  | .panels v => Component.rule v

/-- A part around the subject, if it is there. -/
def validatePart (key : String) (rule : Grammar → Test) : Option Value → Check Entries
  | none => pure []
  | some v => do return [(key, ← rule (Grammar.ofValue v) v)]

/-- Entities by their rules, under numbered keys. -/
def validateEntities : Nat → List (Entity × Value) → Check Entries
  | _, [] => pure []
  | n, (e, v) :: rest => do
    let done ← e.rule v
    return ("platform" ++ toString n, done) :: (← validateEntities (n + 1) rest)

def validate (o : Order) : Check Entries := do
  let subject ← validateSubject o.subject
  let actions ← validatePart "actions" (·.actions) o.actions
  let conditions ← validatePart "conditions" (·.conditions) o.conditions
  let entities ← validateEntities 0 o.entities
  return (subjectKey o.subject, subject) :: actions ++ conditions ++ entities

/-! ## Names and final rules -/

def place (parts : Entries) : Check Unit :=
  modify fun s => { s with config := s.config ++ parts }

/-- The panel that stands for the surroundings of widgets. -/
def bareSurroundings : Value := .dict [("displays", .list []), ("buffer_size", .float 0.0)]

def finish (o : Order) (declared : List Found) : Check Unit := do
  match o.subject with
  | .widgets _ => do
    let _ ← Component.finalCheck declared [bareSurroundings]
  | .panels _ => do
    let configs := ((Entries.get? (← get).config "lvgl").bind Value.items?).getD []
    let done ← Component.finalCheck declared configs
    modify fun s => { s with config := Entries.put s.config "lvgl" (.list done) }

/-! ## Code -/

/-- Makes the panels and sections that other components declare known as widgets. -/
def noteOutside (env : List Domain) : Check Unit :=
  env.forM fun (domain, entries) => entries.forM fun entry => do
    let name := (outsideIdent domain entry).text
    let note (kind : Kind) : Check Unit :=
      (Widget.fresh name (Expr.pointer name) kind (.dict entry)).note
    if domain == "lvgl" then note .screen
    if domain == "section" then note .dial

def buildWidgets (g : Generator) (widgets : List Value) : Build Unit := do
  Code.inBlock Code.Context.setup fun _ =>
    Widget.createChildren g (Expr.named "parent") widgets
  modify fun s => { s with completed := true }
  Code.inBlock Code.Context.setup fun _ => Automation.generateTriggers g

def buildSubject (g : Generator) (s : Subject) (config : Entries) : Build Unit :=
  let items := ((Entries.get? config (subjectKey s)).bind Value.items?).getD []
  match s with
  | .widgets _ => buildWidgets g items
  | .panels _ => Component.createPanels g items

def keep (name : String) (built : List Expr) : Check Unit :=
  modify fun s => { s with built := s.built ++ [(name, built)] }

/-- The module that actions outside any component are registered from. -/
def freeModule : String := "esphome.coroutine"

def surroundings (g : Generator) (o : Order) (config : Entries) : List (String × Build Unit) :=
  let entities := o.entities.zipIdx.map fun ((e, _), i) =>
    ("lvgl." ++ e.name,
      e.build ((Entries.get? config ("platform" ++ toString i)).getD .null))
  let actions := match Entries.get? config "actions" with
    | some v => [(freeModule, do
        let built ← g.actions v o.params
        keep "actions" built)]
    | none => []
  let conditions := match Entries.get? config "conditions" with
    | some v => [(freeModule, do
        let built ← Automation.buildConditions g o.params (v.items?.getD [])
        keep "conditions" built)]
    | none => []
  entities ++ actions ++ conditions

/-- Generates the code of an order whose configuration is settled. -/
def generate (o : Order) (s : Session) : Except Failure Unit × Session :=
  let s := ((noteOutside o.env).on (s.registerOutside o.env)).2
  let config := s.config
  let g := Generator.ofValue (.dict config)
  let subject := ("lvgl", buildSubject g o.subject config)
  let around := surroundings g o config
  Schedule.run (if o.isEarly then around ++ [subject] else subject :: around) s

/-! ## All stages -/

/-- A stage of the work. -/
inductive Stage where
  | validate
  | names
  | final
  | generate
  deriving BEq, DecidableEq, Repr, Inhabited

def Stage.number : Stage → Nat
  | .validate => 0
  | .names => 1
  | .final => 2
  | .generate => 3

/-- Does the work for a goal include a stage?  Widgets need not be looked at as a whole. -/
def includes (isWhole : Bool) (goal stage : Stage) : Bool :=
  stage.number ≤ goal.number && (stage != .final || isWhole)

/-- The outcome of a stage, with the stage at a failure. -/
def atStage {α : Type} (stage : Stage) (r : Except Failure α × Session) :
    Except (Stage × Failure) α × Session :=
  match r with
  | (.ok a, s) => (.ok a, s)
  | (.error e, s) => (.error (stage, e), s)

/-- Runs the stages up to the goal; the session's configuration is what they have made of it. -/
def run (o : Order) (isWhole : Bool) (goal : Stage) (s : Session) :
    Except (Stage × Failure) Unit × Session :=
  let s := s.withOutside o.env
  match atStage .validate ((do place (← validate o)).on s) with
  | (.error e, s) => (.error e, s)
  | (.ok (), s) =>
    if !includes isWhole goal .names then (.ok (), s)
    else
      match atStage .names (Naming.settle.on s) with
      | (.error e, s) => (.error e, s)
      | (.ok declared, s) =>
        let last := if includes isWhole goal .final then finish o declared else pure ()
        match atStage .final (last.on s) with
        | (.error e, s) => (.error e, s)
        | (.ok (), s) =>
          if !includes isWhole goal .generate then (.ok (), s)
          else atStage .generate (generate o s)

end Assembly

end Panel
