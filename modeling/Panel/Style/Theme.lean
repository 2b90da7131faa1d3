import Panel.Style.Create
import Panel.Code.Macro
import Panel.Widget.Design

/-! # Themes, style definitions and gradients — what widgets share -/

namespace Panel

open Cpp Code Test

namespace Style

/-! ## Themes -/

def stateSheets (stem : String) : List (String × Entries) → Build (List (String × Expr))
  | [] => pure []
  | (state, props) :: rest => do
    let sheet ← create (stem ++ "_" ++ state) (.dict props)
    return (state, sheet) :: (← stateSheets stem rest)

def partSheets (stem : String) :
    List (String × List (String × Entries)) → Build (List (String × List (String × Expr)))
  | [] => pure []
  | (part, states) :: rest => do
    let sheets ← stateSheets (stem ++ "_" ++ part) states
    return (part, sheets) :: (← partSheets stem rest)

def themeSheets : Entries → Build Unit
  | [] => pure ()
  | (kind, style) :: rest => do
    let parts ← collectParts style
    let sheets ← partSheets ("_lv_theme_style_" ++ kind) parts
    modify fun s => { s with themes := putNamed s.themes kind sheets }
    themeSheets rest

def applyTheme (config : Value) : Build Unit := do
  match Kinds.setAt? config "theme" with
  | none => pure ()
  | some (.dict theme) => do
    noteUses ["theme"]
    themeSheets theme
  | some _ => throw .noAttribute

/-! ## Definitions -/

def createAll : List Value → Build Unit
  | [] => pure ()
  | style :: rest => do
    let id ← required style "id"
    let _ ← create (Widget.keyOf id) style
    createAll rest

def applyDefinitions (config : Value) : Build Unit :=
  createAll (Kinds.itemsAt config "style_definitions")

/-! ## Gradients -/

def enoughStops : Test := fun v => do
  match length? v with
  | none => throw .wrongKind
  | some n => if n < 2 then refuse "Must have at least 2 stops" else return v

def gradientStop : Record := .of
  [.required "color" Property.color.validate,
    .defaulted "opa" (.float 1.0) Property.opacity.validate,
    .required "position" Property.percentage.validate]

def gradients : Test := ensureList (Record.of
  [.generated "id" (declareId lvGradient),
    .required "direction" (upperWord ["HOR", "HORIZONTAL", "VER", "VERTICAL"]),
    .defaulted "dither" (.str "NONE") Constants.dither.oneOf.validate,
    .required "stops" (allOf [listOf gradientStop.run, enoughStops])]).run

def stopArray (name : String) (type : CppType) (p : Property) (stops : List Value) (key : String) :
    Build Expr := do
  let values ← stopValues stops
  constantArray name type (.list values)
where
  stopValues : List Value → Build (List Value)
    | [] => pure []
    | stop :: rest => do
      let v ← p.emit (← required stop key)
      return v :: (← stopValues rest)

/-- Builds a gradient; the answer is the number of its stops. -/
def createGradient (gradient : Value) : Build Nat := do
  let id ← match ← required gradient "id" with
    | .ident id => pure id
    | _ => throw .noAttribute
  let var ← newObject id []
  let stops := Kinds.itemsAt gradient "stops"
  let direction := (← required gradient "direction").show
  run (if Text.hasPrefix "VER" direction then "lv_grad_vertical_init"
    else "lv_grad_horizontal_init") [.cpp var]
  let colors ← stopArray (id.text ++ "_colors_") lvColor Property.color stops "color"
  let opacities ← stopArray (id.text ++ "_opacities_") lvOpacity Property.opacity stops "opa"
  let positions ← stopArray (id.text ++ "_positions_") uint8 Property.percentage stops "position"
  run "lv_grad_init_stops"
    [.cpp var, .cpp colors, .cpp opacities, .cpp positions, .int stops.length]
  return stops.length

/-- Builds gradients; the answer is the largest number of stops, at least the given one. -/
def createGradients (most : Nat) : List Value → Build Nat
  | [] => pure most
  | gradient :: rest => do
    let n ← createGradient gradient
    createGradients (max most n) rest

def applyGradients (config : Value) : Build Unit := do
  let all := Kinds.itemsAt config "gradients"
  if all.any (·.has "dither") then
    warn "The 'dither' option for gradients is not supported by LVGL 9.x and will be ignored"
  let most ← createGradients 2 all
  defineMacro "LV_GRADIENT_MAX_STOPS" (toString most)

/-! ## The top layer -/

def applyTopLayer (g : Generator) (panel : Expr) (config : Value) : Build Unit := do
  let layer ← call "lv_disp_get_layer_top" [.cpp (panel.method "get_disp" [])]
  match Kinds.setAt? config "top_layer" with
  | none => pure ()
  | some options =>
    withLocal "top_layer" "lv_obj_t" (some (.cpp layer)) "*" fun var => do
      let w := Widget.fresh "" var .obj options
      w.applyCommon options
      w.addChildren g options

end Style

end Panel
