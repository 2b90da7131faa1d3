import Panel.Automation.Standard
import Panel.Automation.Screen
import Panel.Kinds.Calendar
import Panel.Kinds.Canvas
import Panel.Kinds.Chart
import Panel.Kinds.Choice
import Panel.Kinds.Keys
import Panel.Kinds.MessageBox
import Panel.Kinds.Meter
import Panel.Kinds.Pages
import Panel.Kinds.Picture
import Panel.Kinds.Plain
import Panel.Kinds.Scale
import Panel.Kinds.Table
import Panel.Kinds.Vector

/-! # The registry — every kind of widget and every behaviour -/

namespace Panel

open Cpp Kinds Automation

def Kind.design : Kind → Design
  | .animimg => Kinds.animimg
  | .arc => Kinds.arc
  | .arclabel => Kinds.arclabel
  | .bar => Kinds.bar
  | .button => Kinds.button
  | .buttonmatrix => Kinds.buttonmatrix
  | .calendar => Kinds.calendar
  | .canvas => Kinds.canvas
  | .chart => Kinds.chart
  | .checkbox => Kinds.checkbox
  | .container => Kinds.container
  | .dropdown => Kinds.dropdown
  | .dropdownList => Kinds.dropdownList
  | .image => Kinds.image
  | .imgbtn => Kinds.imgbtn
  | .keyboard => Kinds.keyboard
  | .label => Kinds.label
  | .led => Kinds.led
  | .line => Kinds.line
  | .list => Kinds.list
  | .lottie => Kinds.lottie
  | .matrixButton => Kinds.matrixButton
  | .menu => Kinds.menu
  | .meter => Kinds.meter
  | .obj => Kinds.obj
  | .page => Kinds.page
  | .qrcode => Kinds.qrcode
  | .roller => Kinds.roller
  | .scale => Kinds.scale
  | .slider => Kinds.slider
  | .spangroup => Kinds.spangroup
  | .spinbox => Kinds.spinbox
  | .spinner => Kinds.spinner
  | .svg => Kinds.svg
  | .switch => Kinds.switch
  | .table => Kinds.table
  | .tabview => Kinds.tabview
  | .tex3d => Kinds.tex3d
  | .textarea => Kinds.textarea
  | .tile => Kinds.tile
  | .tileview => Kinds.tileview
  | .win => Kinds.win
  | .footerButton => Kinds.footerButton
  | .headerButton => Kinds.headerButton
  | .dial => {}
  | .needle => {}
  | .sweep => {}
  | .pointer => {}
  | .screen => {}
  | .layer => {}

namespace Behaviour

def kindActions : List Behaviour :=
  [updateCalendar, updateMatrixButton, updateIndicator] ++ scaleActions
    ++ canvasActions ++ chartActions ++ pageActions ++ animimgActions
    ++ spinActions ++ lottieActions

def updates : List Behaviour :=
  (.list :: Kind.all).map fun k => updateOf k k.design

/-- Everything that automations can do; of two behaviours with one name the first counts. -/
def actions : List Behaviour :=
  standardActions ++ widgetActions ++ screenActions ++ kindActions
    ++ updates

def conditions : List Behaviour :=
  standardConditions ++ screenConditions ++ pageConditions

end Behaviour

/-! ## Widgets in a configuration -/

namespace Schema

/-- The record of a widget of a kind, with further fields. -/
def widgetRecord? (g : Grammar) (k : Kind) (extras : List Field) : Option Record :=
  let base := (objectRecord g k.traits).extend [.generated "id" (Test.declareId k.traits.type)]
  (k.design.fields g).map fun own => (base.extend extras).extend own.fields

/-- A widget of a kind, with further fields. -/
def container (g : Grammar) (k : Kind) (extras : List Field) : Test := fun v => do
  match widgetRecord? g k extras with
  | none => throw .brokenPromise
  | some r => (← withLayout g.widgets r v).run v

/-- One entry of a list of widgets: the name of a kind with its options. -/
def oneWidget (g : Grammar) (children : ChildFields) (index : Nat) (path : String → List Step)
    (entry : Value) : Check Value := do
  match entry with
  | .dict [(name, options)] =>
    match Kind.ofName? name with
    | none => throw (.invalidAt [.index index] ("Unknown widget type: " ++ name))
    | some k =>
      let fields := Layout.childFields (← get) children
      if (widgetRecord? g k fields).isNone then throw .brokenPromise
      let options : Value := if options.truthy then options else .dict []
      let done ← tryCatch (do container g k fields (← k.design.prepare options)) fun e =>
        throw (e.within (path name))
      return .dict [(name, done)]
  | _ =>
    throw (.invalidAt [.index index] "Each widget must be a dictionary with a single key")

def widgetsFrom (g : Grammar) (children : ChildFields) (path : Nat → String → List Step) :
    Nat → List Value → Check (List Value)
  | _, [] => pure []
  | i, v :: vs => do
    let w ← oneWidget g children i (path i) v
    return w :: (← widgetsFrom g children path (i + 1) vs)

/-- The widgets of a container: a list, or a dictionary with at most one of each kind. -/
def anyWidgets (g : Grammar) (children : ChildFields) : Test := fun v => do
  match v with
  | .dict es =>
    return .list (← widgetsFrom g children (fun _ name => [.key name]) 0
      (es.map fun e => .dict [e]))
  | .list vs =>
    return .list (← widgetsFrom g children (fun i name => [.index i, .key name]) 0 vs)
  | _ => refuse "Expected a list of widgets"

end Schema

/-! ## The knots -/

namespace Grammar

/-- Rules that accept nothing, because the configuration is too deep. -/
def exhausted : Grammar where
  widgets := fun _ _ => throw .tooDeep
  container := fun _ _ _ => throw .tooDeep
  actions := fun _ => throw .tooDeep
  condition := fun _ => throw .tooDeep
  conditions := fun _ => throw .tooDeep

def ofDepth : Nat → Grammar
  | 0 => exhausted
  | n + 1 =>
    let g := ofDepth n
    let action? := Behaviour.ruleOf? Behaviour.actions g
    let condition? := Behaviour.ruleOf? Behaviour.conditions g
    { widgets := Schema.anyWidgets g
      container := Schema.container g
      actions := entries "action" action?
      condition := oneCondition condition?
      conditions := entries "condition" condition? }

def ofValue (v : Value) : Grammar := ofDepth (2 * v.depth + 8)

end Grammar

namespace Generator

/-- Generators that build nothing, because the configuration is too deep. -/
def exhausted : Generator where
  widget := fun _ _ _ => throw .tooDeep
  options := fun _ _ => throw .tooDeep
  actions := fun _ _ => throw .tooDeep
  condition := fun _ _ => throw .tooDeep

def ofDepth : Nat → Generator
  | 0 => exhausted
  | n + 1 =>
    let g := ofDepth n
    { widget := fun k config parent => Widget.create k.design g k config parent
      options := fun w config => w.kind.design.options g w config
      actions := fun v params =>
        Behaviour.buildEntries g Behaviour.actions params (v.items?.getD [])
      condition := fun v params => Behaviour.buildEntry g Behaviour.conditions v params }

def ofValue (v : Value) : Generator := ofDepth (2 * v.depth + 8)

end Generator

end Panel
