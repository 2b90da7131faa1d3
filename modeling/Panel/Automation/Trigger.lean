import Panel.Automation.Widgets

/-! # Triggers — what starts the automations of widgets -/

namespace Panel

open Cpp Code Text Constants

namespace Automation

/-- Runs work whose components are registered from a module. -/
def fromModule {α : Type} (name : String) (work : Build α) : Build α := do
  let before := (← get).source
  modify fun s => { s with source := name }
  let a ← work
  modify fun s => { s with source := before }
  return a

/-- The event handler that fires a trigger, if the widget is the selected one. -/
def fireTrigger (trigger : Expr) (args : List Expr) (selected : Option Expr) : Build Closure :=
  closureOf [eventParam] void
    (guardedBy selected (add (trigger.method "trigger" args)))

def onEvents (obj : Expr) (handler : Closure) (events : List Value) : Check Unit := do
  let args ← arguments ([.cpp obj, .cpp (.closure handler)] ++ events)
  add (.call (.raw "LvglComponent::add_event_cb") [] args)

def addTrigger (g : Generator) (w : Widget) (events : List Value) (condition : Option Expr)
    (config : Value) : Build Unit := do
  let selected := condition.orElse fun _ => w.isSelected?
  let id ← identAt config "trigger_id"
  let var ← newObject id []
  let params := w.kind.traits.params ++ [⟨eventPointer, "event"⟩]
  let values ← w.values
  let _ ← generate g var params config
  let handler ← fireTrigger var (values ++ [.raw "event"]) selected
  onEvents w.obj handler events

/-- The first automation of an option. -/
def firstAutomation (v : Value) : Check Value :=
  match v with
  | .list (a :: _) => pure a
  | .list [] => throw .noIndex
  | _ => throw .wrongKind

def eventTriggers (g : Generator) (w : Widget) : Entries → Build Unit
  | [] => pure ()
  | (option, v) :: es => do
    let name := upper (removePrefix "on_" option)
    match events.find? (·.1 == name) with
    | some (_, event) =>
      if eventOptions.contains option then
        let config ← firstAutomation v
        let _ ← w.addFlag (.str "LV_OBJ_FLAG_CLICKABLE")
        addTrigger g w [.literal ("LV_EVENT_" ++ event)] none config
    | none => pure ()
    eventTriggers g w es

def gestureDirection (option : String) : String :=
  match upper (removePrefix "on_swipe_" option) with
  | "UP" => "TOP"
  | "DOWN" => "BOTTOM"
  | other => other

def swipeTriggers (g : Generator) (w : Widget) : Entries → Build Unit
  | [] => pure ()
  | (option, v) :: es => do
    if swipeOptions.contains option then
      let config ← firstAutomation v
      let _ ← w.clearFlag (.str "LV_OBJ_FLAG_SCROLLABLE")
      let selected := Expr.named
        ("lv_indev_get_gesture_dir(lv_indev_get_act()) == LV_DIR_" ++ gestureDirection option)
      addTrigger g w [.literal "LV_EVENT_GESTURE"] (some selected) config
    swipeTriggers g w es

/-- The events at which the value of a widget may have changed. -/
def valueEvents : List Value :=
  [.literal "LV_EVENT_VALUE_CHANGED", .literal "lvgl::lv_api_event",
    .literal "lvgl::lv_update_event"]

def valueTriggers (g : Generator) (w : Widget) : List Value → Build Unit
  | [] => pure ()
  | config :: rest => do
    addTrigger g w valueEvents none config
    valueTriggers g w rest

/-- Triggers that fire once the program has started. -/
def bootTriggers (g : Generator) : List Value → Build Unit
  | [] => pure ()
  | config :: rest => do
    let id ← identAt config "trigger_id"
    let var ← newObject id [.int 390]
    registerComponent var config
    let _ ← generate g var [] config
    bootTriggers g rest

def applyAlignment (w : Widget) (config : Value) : Check Unit := do
  let key := Widget.keyOf (← required config "id")
  match Widget.find? (← get) key with
  | none => throw (.missingKey key)
  | some target => do
    let align := Property.literal (← required config "align")
    let x ← required config "x"
    let y ← required config "y"
    run "lv_obj_align_to" [.cpp w.obj, .cpp target.obj, align, x, y]

/-- All triggers of a widget, and its place beside another. -/
def widgetTriggers (g : Generator) (w : Widget) : Build Unit := do
  match w.kind, w.config with
  | .screen, _ => pure ()
  | _, .dict es => do
    eventTriggers g w es
    swipeTriggers g w es
    valueTriggers g w (Kinds.itemsAt w.config "on_value")
    bootTriggers g (Kinds.itemsAt w.config "on_boot")
    match Kinds.setAt? w.config "align_to" with
    | some config => applyAlignment w config
    | none => pure ()
  | _, _ => pure ()

/-- The triggers of `n` widgets from a position on; their number must not change meanwhile. -/
def triggersFrom (g : Generator) (count : Nat) : Nat → Nat → Build Unit
  | 0, _ => pure ()
  | n + 1, i => do
    match (← get).widgets[i]? with
    | none => pure ()
    | some w => widgetTriggers g w
    if (← get).widgets.length != count then
      throw (.rejected "dictionary changed size during iteration")
    triggersFrom g count n (i + 1)

def generateTriggers (g : Generator) : Build Unit := do
  let count := (← get).widgets.length
  fromModule "lvgl.trigger" (triggersFrom g count count 0)

end Automation

end Panel
