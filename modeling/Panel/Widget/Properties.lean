import Panel.Widget.Object

/-! # Common options — what every widget can be given

    `Widget.applyCommon` writes the options that all kinds share, in this order: the layout, the
    styles and style properties of every part and state, the group, the flags, the states, and the
    scroll options. -/

namespace Panel

open Cpp Code Property Text

namespace Widget

/-! ## Layout -/

/-- The code of a value, if there is one. -/
def codeAt (layout : Value) (key : String) : Value :=
  literal ((layout.get? key).getD .null)

def tracksText (tracks : Value) : Check String :=
  match tracks with
  | .list xs =>
    pure ("\x7b" ++ String.intercalate "," (xs.map Value.show) ++ ", LV_GRID_TEMPLATE_LAST\x7d")
  | _ => throw .wrongKind

def applyTracks (w : Widget) (id : Value) (layout : Value) (option direction : String) :
    Check Unit := do
  let text ← tracksText (← required layout option)
  let array ← constantArray (id.show ++ "_" ++ direction ++ "_dsc")
    (CppType.plain "lv_coord_t") (.cpp (.raw text))
  w.setStyle ("grid_" ++ direction ++ "_dsc_array") (.cpp array) defaultState

def applyGrid (w : Widget) (config layout : Value) : Check Unit := do
  let id ← required config "id"
  w.applyTracks id layout "grid_rows" "row"
  w.applyTracks id layout "grid_columns" "column"
  w.setStyle "grid_column_align" (codeAt layout "grid_column_align") defaultState
  w.setStyle "grid_row_align" (codeAt layout "grid_row_align") defaultState

/-- Writes a flexible layout; children that are stretched across the flow stand in its middle. -/
def applyFlex (w : Widget) (layout : Value) : Check Unit := do
  let flow := literal (← required layout "flex_flow")
  run "lv_obj_set_flex_flow" [.cpp w.obj, flow]
  let along := literal (← required layout "flex_align_main")
  let across ← required layout "flex_align_cross"
  let across := if across.isObject || across.text? == some "LV_FLEX_ALIGN_STRETCH"
    then .literal "LV_FLEX_ALIGN_CENTER" else literal across
  let track := literal (← required layout "flex_align_track")
  run "lv_obj_set_flex_align" [.cpp w.obj, along, across, track]

def applyLayout (w : Widget) (config layout : Value) : Check Unit := do
  let type ← required layout "type"
  match type.text? with
  | none => throw .noAttribute
  | some name =>
    noteUses [name]
    run "lv_obj_set_layout" [.cpp w.obj, .literal ("LV_LAYOUT_" ++ upper name)]
    w.setStyle "pad_row" ((layout.get? "pad_row").getD .null) defaultState
    w.setStyle "pad_column" ((layout.get? "pad_column").getD .null) defaultState
    if name == "grid" then w.applyGrid config layout
    if name == "flex" then w.applyFlex layout

/-! ## Styles -/

def selector (part state : String) : Value :=
  let part := "LV_PART_" ++ upper part
  let state := "LV_STATE_" ++ upper state
  if state == "LV_STATE_DEFAULT" then .literal part
  else if part == "LV_PART_MAIN" then .literal state
  else .cpp (joinEnums [state, part] "")

def walked (v : Value) : Check (List Value) :=
  match v with
  | .list xs => pure xs
  | .dict es => pure (es.map fun e => .str e.1)
  | _ =>
    match v.text? with
    | some s => pure (s.toList.map fun c => .str (String.ofList [c]))
    | none => throw .wrongKind

def applyStyleProperties (w : Widget) (select : Value) : Entries → Build Unit
  | [] => pure ()
  | (name, v) :: es => do
    match Style.property? name with
    | none => pure ()
    | some p => do
      let v ← p.emit v
      let name ← currentProperty name
      w.setStyle name v select
    applyStyleProperties w select es

/-- Writes the styles and style properties of one state of a part. -/
def applyState (w : Widget) (part state : String) (props : Entries) : Build Unit := do
  let select := selector part state
  match Entries.get? props "styles" with
  | none => pure ()
  | some styles => do
    let styles ← walked styles
    styles.forM fun style => w.addStyle style select
  w.applyStyleProperties select props

def applyStates (w : Widget) (part : String) : List (String × Entries) → Build Unit
  | [] => pure ()
  | (state, props) :: rest => do
    w.applyState part state props
    applyStates w part rest

def applyParts (w : Widget) : List (String × List (String × Entries)) → Build Unit
  | [] => pure ()
  | (part, states) :: rest => do
    w.applyStates part states
    applyParts w rest

/-! ## Flags and states -/

/-- Switches that are on, off, or decided by a lambda. -/
structure Switches where
  on : List String
  off : List String
  decided : List (String × String)

def Switches.of (es : Entries) : Switches where
  on := es.filterMap fun (k, v) => if !v.isLambda && v.truthy then some k else none
  off := es.filterMap fun (k, v) => if !v.isLambda && !v.truthy then some k else none
  decided := es.filterMap fun (k, v) =>
    match v with
    | .lambda body => some (k, body)
    | _ => none

def applyDecided (stem : String) (set clear : Value → Check Expr) :
    List (String × String) → Build Unit
  | [] => pure ()
  | (name, body) :: rest => do
    let c ← closure body [] "=" (some bool)
    guardedBy (some (inlined c)) do
      let _ ← set (.str (stem ++ upper name))
      otherwise
      let _ ← clear (.str (stem ++ upper name))
    applyDecided stem set clear rest

/-- Writes switches: those that are on, those that are off, those that lambdas decide. -/
def applySwitches (stem : String) (set clear : Value → Check Expr) (s : Switches) :
    Build Unit := do
  if !s.on.isEmpty then
    let _ ← set (.cpp (joinEnums s.on stem))
  if !s.off.isEmpty then
    let _ ← clear (.cpp (joinEnums s.off stem))
  applyDecided stem set clear s.decided

def mainDefault (parts : List (String × List (String × Entries))) : Entries :=
  ((parts.find? (·.1 == "main")).bind fun (_, states) =>
    (states.find? (·.1 == "default")).map (·.2)).getD []

/-- The object that a value refers to; any other value for itself. -/
def resolved (v : Value) : Build Value := do
  match v with
  | .ident id => return .cpp (← resolve id)
  | other => return other

def applyScroll (w : Widget) (config : Value) : List String → Build Unit
  | [] => pure ()
  | name :: names => do
    w.setOption name config none { base := some "obj" }
    applyScroll w config names

/-- Writes the layout that a configuration asks for, if it does. -/
def applyLayoutOption (w : Widget) (config : Value) : Check Unit := do
  match config.get? "layout" with
  | some layout => if layout.truthy then w.applyLayout config layout
  | none => pure ()

/-- Adds the widget to the group that a configuration names, if it does. -/
def applyGroup (w : Widget) (config : Value) : Build Unit := do
  match config.get? "group" with
  | some group =>
    if group.truthy then
      let group ← resolved group
      run "lv_group_add_obj" [group, .cpp w.obj]
  | none => pure ()

def flagsOf (parts : List (String × List (String × Entries))) : Entries :=
  (mainDefault parts).filter fun e => Constants.flags.contains e.1

def applyStateOption (w : Widget) (config : Value) : Build Unit := do
  match config.get? "state" with
  | some (.dict states) =>
    applySwitches "LV_STATE_" w.addState w.clearState (Switches.of states)
  | some v => if v.truthy then throw .noAttribute
  | none => pure ()

def applyCommon (w : Widget) (config : Value) : Build Unit := do
  if !config.isDict then throw .noAttribute
  w.applyLayoutOption config
  let parts ← Style.collectParts config
  w.applyParts parts
  w.applyGroup config
  applySwitches "LV_OBJ_FLAG_" w.addFlag w.clearFlag (Switches.of (flagsOf parts))
  w.applyStateOption config
  w.applyScroll config (Schema.objectProperties.map (·.1))

end Widget

end Panel
