import Panel.Kinds.Label
import Panel.Schema.Widget

/-! # Behaviours of widgets — actions on widgets of any kind -/

namespace Panel

open Cpp Code Test Schema Widget

namespace Automation

/-! ## Updates -/

/-- Tells a widget that its value was set, if a configuration sets it. -/
def announceValue (w : Widget) (config : Value) : Check Unit := do
  match w.kind.traits.valueOption with
  | some option =>
    if config.has option then
      run "lv_obj_send_event"
        [.cpp w.obj, .literal "lvgl::lv_update_event", .cpp Expr.nullptr]
  | none => pure ()

def updateTargets (config : Value) : Build (List Widget) := do
  targets (← required config "id") "id"

def updateOf (k : Kind) (design : Design) : Behaviour where
  name := "lvgl." ++ k.name ++ ".update"
  type := objUpdateAction
  rule := fun g =>
    (((updateRecord k.traits.type k.traits.parts).check (noteUpdate k)).extend
      (design.changes g)).run
  build := fun g config id params => do
    let widgets ← updateTargets config
    widgetAction widgets (fun w => do
      w.applyCommon config
      g.options w config
      announceValue w config) id params (config.entries?.getD [])

def updateWidget : Behaviour where
  name := "lvgl.widget.update"
  type := objUpdateAction
  rule := fun _ => (updateRecord objBase Constants.parts).run
  build := fun _ config id params => do
    let widgets ← updateTargets config
    widgetAction widgets (fun w => w.applyCommon config) id params (config.entries?.getD [])

/-! ## Switching on and off -/

/-- An action on widgets that are only named. -/
def onTargets (name : String) (choose : Widget → Widget) (work : Widget → Build Unit) :
    Behaviour where
  name := name
  type := objUpdateAction
  rule := fun _ => targets pseudoButton
  build := fun _ config id params => do
    let widgets ← targets config "id"
    widgetAction (widgets.map choose) work id params []

/-- The object that is shown and hidden in place of a widget. -/
def shownObject (w : Widget) : Widget :=
  match w.outer with
  | some obj => { w with obj := obj, var := obj, cell := none, outer := none, moveToFront := true }
  | none => w

def switchActions : List Behaviour :=
  [onTargets "lvgl.widget.disable" id fun w => do
      let _ ← w.addState (stateValue "DISABLED"),
    onTargets "lvgl.widget.enable" id fun w => do
      let _ ← w.clearState (stateValue "DISABLED"),
    onTargets "lvgl.widget.hide" shownObject fun w => do
      let _ ← w.addFlag (.str "LV_OBJ_FLAG_HIDDEN"),
    onTargets "lvgl.widget.show" shownObject fun w => do
      let _ ← w.clearFlag (.str "LV_OBJ_FLAG_HIDDEN")
      if w.moveToFront then run "lv_obj_move_foreground" [.cpp w.obj]]

/-! ## Redrawing -/

def activeScreen (panel : Expr) : Widget :=
  fresh "" (panel.method "get_screen_active" []) .screen (.dict [])

/-- A reference to a widget, which may be given alone. -/
def oneWidget (t : Test) : Test := maybeSimple "id" (Record.of [.required "id" t]).run

/-- Redraws a widget, or the active screen. -/
def redraw : Behaviour where
  name := "lvgl.widget.redraw"
  type := objUpdateAction
  rule := fun _ => anyOf [oneWidget (useId lvObj), panelReference.run]
  build := fun _ config id params => do
    let widgets ←
      if config.has "lvgl_id" then do
        let panel ← resolve (← identAt config "lvgl_id")
        pure [activeScreen panel]
      else targets config "id"
    widgetAction widgets (fun w => run "lv_obj_invalidate" [.cpp w.obj]) id params []

def noteRefreshed : Test := fun v => do
  (v.items?.getD []).forM fun entry => do
    match ← required entry "id" with
    | .ident id => modify fun s => { s with refreshed := addTo s.refreshed id }
    | _ => pure ()
  return v

/-- Can a value change while the program runs? -/
def isDynamic : Value → Bool
  | .lambda _ => true
  | .dict _ => true
  | _ => false

/-- Sets anew what may have changed: of the style only what is code, of the options all if one of
    them may have changed. -/
def refreshWidget (g : Generator) (w : Widget) : Build Unit := do
  match w.config with
  | .dict es => do
    w.applyCommon (.dict (es.filter (·.2.isLambda)))
    let options := es.filter fun e => !Style.styleNames.contains e.1
    if options.any fun e => isDynamic e.2 then
      g.options w (.dict options)
      announceValue w (.dict options)
  | _ => throw .noAttribute

def refresh : Behaviour where
  name := "lvgl.widget.refresh"
  type := objUpdateAction
  rule := fun _ => allOf [ensureList (oneWidget (useId lvObj)), noteRefreshed]
  build := fun g config id params => do
    let widgets ← targets config "id"
    widgetAction widgets (refreshWidget g) id params []

/-! ## Focus -/

/-- A reference to a widget that gets the focus, which is noted. -/
def focusedId : Test := fun v => do
  let v ← useId pseudoButton v
  match v with
  | .ident id => modify fun s => { s with focused := addTo s.focused id }
  | _ => pure ()
  return v

def focusMove : Test := maybeSimple "action"
  (panelReference.extend
    [.optional "group" (useId lvGroup),
      .required "action" (upperWord ["MARK", "RESTORE", "NEXT", "PREVIOUS"]),
      .defaulted "freeze" (.bool false) boolean]).run

def focusTarget : Test := maybeSimple "id"
  (Record.of
    [.required "id" focusedId,
      .defaulted "freeze" (.bool false) boolean,
      .defaulted "editing" (.bool false) boolean]).run

def focusGroup (target : Option Widget) (config : Value) : Build Expr := do
  match target with
  | some w =>
    let group ← callOf "lv_obj_get_group" [.cpp w.obj]
    castOf "lv_group_t *" (.cpp group)
  | none =>
    match config.get? "group" with
    | some (.ident id) => resolve id
    | _ => callOf "lv_group_get_default" []

/-- Keeps the focus where it is, or lets it go. -/
def freezeFocus (group : Expr) (isFrozen : Bool) : Check Unit :=
  run "lv_group_focus_freeze" [.cpp group, .bool isFrozen]

def focusOn (group : Expr) (w : Widget) (config : Value) : Build Unit := do
  freezeFocus group false
  run "lv_group_focus_obj" [.cpp w.obj]
  if (← required config "editing").truthy then
    run "lv_group_set_editing" [.cpp group, .bool true]

def moveFocus (group : Expr) (config : Value) : Build Unit := do
  let action := (← required config "action").show
  let panel ← resolve (← identAt config "lvgl_id")
  if action == "MARK" then runMethod panel "set_focus_mark" [.cpp group]
  else
    freezeFocus group false
    if action == "RESTORE" then runMethod panel "restore_focus_mark" [.cpp group]
    else if action == "NEXT" then run "lv_group_focus_next" [.cpp group]
    else run "lv_group_focus_prev" [.cpp group]

def focus : Behaviour where
  name := "lvgl.widget.focus"
  type := objUpdateAction
  rule := fun _ => anyOf [focusMove, focusTarget]
  build := fun _ config id params => do
    let target := (← targets config "id").head?
    let group ← focusGroup target config
    let c ← closureOf params void do
      match target with
      | some w => focusOn group w config
      | none => moveFocus group config
      if (← required config "freeze").truthy then freezeFocus group true
    newEntry id params [.cpp (.closure c)]

def widgetActions : List Behaviour :=
  switchActions ++ [updateWidget, redraw, refresh, focus]

end Automation

end Panel
