import Panel.Widget.Traits
import Panel.Style.Collect
import Panel.Code.Program

/-! # Widgets as objects — what generated code can do with one -/

namespace Panel

open Cpp Code Property Expr

/-- The largest number of a range without an end. -/
def endless : Int := 9223372036854775807

namespace Widget

/-! ## Records -/

def fresh (key : String) (var : Expr) (kind : Kind) (config : Value) : Widget where
  key := key
  var := var
  kind := kind
  config := config
  obj := if kind.traits.isCompound then named (var.render ++ "->obj") else var
  scale := .float 1.0
  rangeFrom := .int (-endless)
  rangeTo := .int endless
  outer := none
  moveToFront := false
  cell := none

/-- Puts a widget among others: in place of one with the same key, else at the end. -/
def putAmong : List Widget → Widget → List Widget
  | [], w => [w]
  | v :: vs, w => if v.key == w.key then w :: vs else v :: putAmong vs w

def note (w : Widget) : Check Unit :=
  modify fun s => { s with widgets := putAmong s.widgets w }

def find? (s : Session) (key : String) : Option Widget :=
  s.widgets.find? (·.key == key)

/-- Waits for the widget of a key; once all widgets are there it must be among them. -/
def await (key : String) : Build Widget :=
  Build.waitFor fun s =>
    match find? s key with
    | some w => some (.ok w)
    | none =>
      if s.completed then
        some (.error (.invalid ("Widget " ++ key
          ++ " not found, yet all widgets should be defined by now")))
      else none

/-- Waits until all widgets are there. -/
def awaitAll : Build Unit :=
  Build.waitFor fun s => if s.completed then some (.ok ()) else none

def keyOf : Value → String
  | .ident id => id.text
  | v => v.show

/-- Waits for the widget that a value refers to; only identifiers refer to widgets. -/
def awaitValue : Value → Build Widget
  | .ident id => await id.text
  | v => Build.waitFor fun s =>
    if s.completed then
      some (.error (.invalid ("Widget " ++ v.show
        ++ " not found, yet all widgets should be defined by now")))
    else none

/-- Waits for the widgets that entries refer to, in order. -/
def awaitEntries (key : String) : List Value → Build (List Widget)
  | [] => pure []
  | c :: cs => do
    if ← Test.contains c key then
      let v ← Style.valueAt c key
      let w ← awaitValue v
      return w :: (← awaitEntries key cs)
    else awaitEntries key cs

def targets (config : Value) (key : String) : Build (List Widget) := do
  if !config.truthy then return []
  awaitEntries key (match config with
    | .list cs => cs
    | other => [other])

/-! ## States and flags -/

/-- Several values joined, or an object that may be such, cast to their type; a text is code. -/
def joined (type : String) (v : Value) : Check Value := do
  if ← Test.contains v "|" then return .literal ("(" ++ type ++ ")(" ++ v.show ++ ")")
  else return literal v

def stateValue (word : String) : Value := .literal ("LV_STATE_" ++ word)

/-- The control of a matrix button that a state stands for. -/
def controlOf (state : Value) : Check Value := do
  let word := Text.removePrefix "LV_STATE_" (Text.upper state.show)
  if Constants.matrixControls.choices.contains word then
    return .literal ("LV_BUTTONMATRIX_CTRL_" ++ word)
  else throw .brokenPromise

def addState (w : Widget) (state : Value) : Check Expr := do
  match w.cell with
  | some (_, i) =>
    call "lv_buttonmatrix_set_button_ctrl" [.cpp w.obj, .int i, ← controlOf state]
  | none => call "lv_obj_add_state" [.cpp w.obj, ← joined "lv_state_t" state]

def clearState (w : Widget) (state : Value) : Check Expr := do
  match w.cell with
  | some (_, i) =>
    call "lv_buttonmatrix_clear_button_ctrl" [.cpp w.obj, .int i, ← controlOf state]
  | none => call "lv_obj_remove_state" [.cpp w.obj, ← joined "lv_state_t" state]

def objectHasState (obj : Expr) (state : Value) : Check Expr := do
  let now ← callOf "lv_obj_get_state" [.cpp obj]
  return operate "!=" (operate "&" now (← express (literal state)))
    (.integer 0)

def hasState (w : Widget) (state : Value) : Check Expr := do
  match w.cell with
  | some (_, i) =>
    callOf "lv_buttonmatrix_has_button_ctrl" [.cpp w.obj, .int i, ← controlOf state]
  | none => objectHasState w.obj state

/-- Whether a matrix button is the selected one; nothing for any other widget. -/
def isSelected? (w : Widget) : Option Expr :=
  w.cell.map fun (var, _) =>
    operate "==" (var.method "get_selected" []) (named w.var.render)

def isPressed (w : Widget) : Check Expr := do
  match w.isSelected? with
  | some selected =>
    return operate "&" selected (← objectHasState w.obj (stateValue "PRESSED"))
  | none => w.hasState (stateValue "PRESSED")

def isChecked (w : Widget) : Check Expr := w.hasState (stateValue "CHECKED")

def addFlag (w : Widget) (flag : Value) : Check Expr := do
  call "lv_obj_add_flag" [.cpp w.obj, ← joined "lv_obj_flag_t" flag]

def clearFlag (w : Widget) (flag : Value) : Check Expr := do
  call "lv_obj_remove_flag" [.cpp w.obj, ← joined "lv_obj_flag_t" flag]

/-! ## Styles and properties -/

def defaultState : Value := stateValue "DEFAULT"

def addStyle (w : Widget) (style state : Value) : Check Unit := do
  run "lv_obj_add_style" [.cpp w.obj, .literal style.show, ← joined "lv_state_t" state]

def setStyle (w : Widget) (name : String) (v state : Value) : Check Unit := do
  match v with
  | .null => pure ()
  | _ =>
    modify fun s => { s with stylesUsed := addTo s.stylesUsed name }
    run ("lv_obj_set_style_" ++ name) [.cpp w.obj, literal v, state]

/-- How a property is set: with an animation or not, and by the functions of which base. -/
structure Manner where
  animated : Option Value := none
  base : Option String := none

def argument : Value → Value
  | .period _ micros => .int (micros / 1000)
  | .ident id => .literal id.text
  | v => literal v

def setValue (w : Widget) (name : String) (v : Value) (manner : Manner) : Check Unit := do
  let name ← currentProperty name
  let base := match manner.base with
    | some b => if b == "" then w.kind.traits.libraryName else b
    | none => w.kind.traits.libraryName
  let animation := match manner.animated with
    | some a =>
      if w.kind.traits.animated then [.literal (if a.truthy then "LV_ANIM_ON" else "LV_ANIM_OFF")]
      else []
    | none => []
  run ("lv_" ++ base ++ "_set_" ++ name) ([.cpp w.obj, argument v] ++ animation)

/-- Sets a property to the value that a configuration gives for it, if it does. -/
def setOption (w : Widget) (name : String) (config : Value) (writer : Option Property)
    (manner : Manner) : Build Unit := do
  match config.given? name with
  | none => pure ()
  | some v =>
    let v ← match writer.orElse fun _ => Style.property? name with
      | some p => p.emit v
      | none => pure v
    w.setValue name v manner

/-- Sets a property: from a configuration, or to a value unless it is null. -/
def setProperty (w : Widget) (name : String) (v : Value) (manner : Manner) : Build Unit :=
  match v with
  | .dict _ => w.setOption name v none manner
  | .null => pure ()
  | _ => w.setValue name v manner

def property (w : Widget) (name : String) (base : Option String) : Expr :=
  .raw ("lv_" ++ (base.getD w.kind.accessStem) ++ "_get_" ++ name ++ "(" ++ w.obj.render ++ ")")

/-! ## Values -/

/-- The number that a widget holds, divided by its scale. -/
def number (w : Widget) : Check Expr := do
  let now := (object (.raw ("lv_" ++ w.kind.traits.libraryName)) .joined).method
    "get_value" [w.obj]
  if w.scale.isObject || Value.same w.scale (.float 1.0) then return now
  match ← Test.number w.scale with
  | .float x => return operate "/" now (.real x)
  | _ => throw .wrongKind

def values (w : Widget) : Check (List Expr) := do
  match w.kind.traits.reading with
  | .object => return [w.obj]
  | .number => return [← w.number]
  | .property name => return [w.property name none]
  | .checked => return [← w.hasState (stateValue "CHECKED")]
  | .methods names => return names.map fun n => w.var.method n []
  | .function name => return [← callOf name [.cpp w.obj]]
  | .spelled name => return [named (name ++ "(" ++ w.obj.render ++ ")")]
  | .shownTab =>
    let content ← callOf "lv_tabview_get_content" [.cpp w.obj]
    let shown ← callOf "lv_tabview_get_tab_act" [.cpp w.obj]
    return [← callOf "lv_obj_get_child" [.cpp content, .cpp shown]]

def value (w : Widget) : Check Expr := do
  match ← w.values with
  | v :: _ => return v
  | [] => throw .noIndex

end Widget

end Panel
