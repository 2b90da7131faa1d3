import Panel.Automation.Widgets
import Panel.Style.Create
import Panel.Code.Macro
import Panel.Kinds.Pages

/-! # Behaviours of the panel — its layers, pausing, idling, and styles -/

namespace Panel

open Cpp Code Property Schema

namespace Automation

/-! ## Layers -/

/-- The layer of a panel that a function of the library gives, with the options of a key. -/
def applyLayer (g : Generator) (panel : Expr) (config : Value) (key function : String) :
    Build Unit := do
  match Kinds.setAt? config key with
  | none => pure ()
  | some options => do
    let layer ← callOf function [.cpp (panel.method "get_disp" [])]
    withLocal key "lv_obj_t" (some (.cpp layer)) "*" fun var => do
      let w := Widget.fresh "" var .layer options
      w.applyCommon options
      w.addChildren g options

def applyLayers (g : Generator) (panel : Expr) (config : Value) : Build Unit := do
  applyLayer g panel config "top_layer" "lv_display_get_layer_top"
  applyLayer g panel config "bottom_layer" "lv_display_get_layer_bottom"

def backgroundOptions : List String := background.fields.map (·.key)

def backgroundWarning (names : List String) : String :=
  let isOne := names.length == 1
  "The propert" ++ (if isOne then "y " else "ies ") ++ "'" ++ String.intercalate "','" names ++ "'"
    ++ (if isOne then " is " else " are ") ++ "deprecated, use 'bottom_layer' instead."

/-- Writes the background options, which are those of the bottom layer. -/
def applyBackground (g : Generator) (panel : Expr) (config : Value) : Build Unit := do
  match config with
  | .dict es => do
    let given := es.filter fun e => backgroundOptions.contains e.1
    if given.isEmpty then return ()
    warn (backgroundWarning (given.map (·.1)))
    let options := given.map fun e => (Text.removePrefix "disp_" e.1, e.2)
    let options := if Entries.has options "bg_opa" then options
      else options ++ [("bg_opa", .float 1.0)]
    applyLayers g panel (.dict [("bottom_layer", .dict options)])
  | _ => throw .noAttribute

/-! ## Actions -/

def screenUpdate : Record :=
  let layer := parts Kind.layer.traits.parts
  ((layer.extend panelReference.fields).extend background.fields).extend
    [.optional "top_layer" layer.run, .optional "bottom_layer" layer.run]

def updateScreen : Behaviour where
  name := "lvgl.update"
  type := lvglAction
  rule := fun _ => screenUpdate.run
  build := fun g config id params => do
    match ← Widget.targets config "lvgl_id" with
    | [] => throw .noIndex
    | w :: _ =>
      let c ← closureOf [componentParam] void (applyBackground g w.var config)
      let var ← newEntry id params [.cpp (.closure c)]
      setParent var w.var
      return var

def setPaused (name : String) (more : List Field) (args : Value → Check (List Value)) :
    Behaviour where
  name := name
  type := lvglAction
  rule := fun _ => (panelReference.extend more).run
  build := fun _ config id params => do
    let panel ← resolve (← identAt config "lvgl_id")
    let c ← closureOf [componentParam] void do
      let args ← args config
      runMethod componentObject "set_paused" args
    let var ← newEntry id params [.cpp (.closure c)]
    setParent var panel
    return var

def updateStyle : Behaviour where
  name := "lvgl.style.update"
  type := objUpdateAction
  rule := fun _ => (fullStyle.extend [.required "id" (Test.useId lvStyle)]).run
  build := fun _ config id params => do
    Widget.awaitAll
    let sheet ← resolve (← identAt config "id")
    let c ← closureOf params void (Style.apply sheet config)
    newEntry id params [.cpp (.closure c)]

def screenActions : List Behaviour :=
  [updateScreen,
    setPaused "lvgl.pause" [.defaulted "show_snow" (.bool false) boolean.validate]
      fun config => do return [.bool true, ← required config "show_snow"],
    setPaused "lvgl.resume" [] fun _ => pure [.bool false, .bool false],
    updateStyle]

/-! ## Conditions -/

def panelCondition (id : Ident) (params : List Param) (config : Value) (holds : Build Expr) :
    Build Expr := do
  let c ← closureOf [componentParam] bool do
    addItem (.result (← holds))
  let var ← newTemplate id (lvglComponent :: templateOf params) [.cpp (.closure c)]
  setParent var (← resolve (← identAt config "lvgl_id"))
  return var

def isPaused : Behaviour where
  name := "lvgl.is_paused"
  type := lvglCondition
  rule := fun _ => panelReference.run
  build := fun _ config id params =>
    panelCondition id params config (pure (componentObject.method "is_paused" []))

def isIdle : Behaviour where
  name := "lvgl.is_idle"
  type := lvglCondition
  rule := fun _ => (panelReference.extend
    [.required "timeout" (Test.templatable milliseconds.validate)]).run
  build := fun _ config id params => do
    let timeout ← milliseconds.emit (← required config "timeout")
    panelCondition id params config do
      let idle ← callOf "lv_disp_get_inactive_time"
        [.cpp (componentObject.method "get_disp" [])]
      return Expr.operate ">" idle (← express timeout)

def screenConditions : List Behaviour := [isPaused, isIdle]

end Automation

end Panel
