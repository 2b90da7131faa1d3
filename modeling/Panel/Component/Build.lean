import Panel.Component.Rule
import Panel.Automation.Trigger

/-! # The code of panels -/

namespace Panel

open Cpp Code Text Kinds Automation Input

namespace Component

/-! ## The library -/

def fixedMacros : List (String × String) :=
  [("_LV_KCONFIG_PRESENT", "1"), ("LV_DRAW_BUF_STRIDE_ALIGN", "1"), ("LV_DRAW_BUF_ALIGN", "4")]

/-- Macros for memory, drawing and decoding. -/
def engineMacros : List (String × String) :=
  [("LV_USE_STDLIB_MALLOC", "LV_STDLIB_CUSTOM"), ("LV_USE_FLOAT", "1"), ("LV_USE_MATRIX", "1"),
    ("LV_USE_VECTOR_GRAPHIC", "1"), ("LV_USE_THORVG_INTERNAL", "1"),
    ("LV_VG_LITE_THORVG_16PIXELS_ALIGN", "1"), ("LV_USE_OS", "LV_OS_FREERTOS"),
    ("LV_DRAW_THREAD_STACK_SIZE", "(48 * 1024)"), ("LV_USE_SVG", "1"), ("LV_USE_LOTTIE", "1"),
    ("LV_USE_LIBPNG", "0"), ("LV_USE_BMP", "1"), ("LV_USE_GIF", "0")]

def setMacros (macros : List (String × String)) : Check Unit :=
  macros.forM fun (name, value) => defineMacro name value

def defaultFontName : String := "esphome_lv_default_font"

def defaultFontType : CppType := CppType.plain "const lv_font_t *"

def applyLogLevel (config : Value) : Check Unit := do
  let level := (← required config "log_level").show
  match logLevels.find? (·.1 == level) with
  | none => throw (.missingKey level)
  | some (_, own) => defineMacro "LV_LOG_LEVEL" ("LV_LOG_LEVEL_" ++ own)
  defineMacro "LV_USE_LOG" "1"
  define "LVGL_LOG_LEVEL" (some ("ESPHOME_LOG_LEVEL_" ++ level))

def applyColors (config : Value) : Build Unit := do
  let depth ← required config "color_depth"
  defineMacro "LV_COLOR_DEPTH" depth.show
  (← get).fontsUsed.forM fun font => enableMacro ("LV_FONT_" ++ upper font)
  if Value.same depth (.int 16) then
    let order := (← required config "byte_order").show
    defineMacro "LV_COLOR_16_SWAP" (if order == "big_endian" then "1" else "0")
  let key ← Property.color.emit (← required config "transparency_key")
  defineMacro "LV_COLOR_CHROMA_KEY" key.show

def awaitFonts : List Ident → Build Unit
  | [] => pure ()
  | id :: rest => do
    let _ ← resolve id
    awaitFonts rest

def applyDefaultFont (config : Value) : Build Unit := do
  let font ← required config "default_font"
  if isBuiltinFont font then
    let code ← Property.font.emit font
    defineMacro "LV_FONT_DEFAULT" code.show
  else
    defineMacro "LV_FONT_CUSTOM_DECLARE" ("LV_FONT_DECLARE(*" ++ defaultFontName ++ ")")
    let code ← Property.font.emit font
    let object := (Expr.pointer code.show).method "get_lv_font" []
    let _ ← newVariable (Ident.declaration (some defaultFontName) defaultFontType)
      (.cpp object)
    defineMacro "LV_FONT_DEFAULT" defaultFontName

def applyLibrary (config : Value) : Build Unit := do
  addLibrary "lvgl/lvgl" "9.4.0"
  define "USE_LVGL" none
  define "ESPHOME_ENTITY_BUTTON_COUNT" (some "0")
  setMacros fixedMacros
  if ((config.get? "use_ppa").getD (.bool false)).truthy then
    define "USE_LVGL_PPA" none
    addFlag ("-I" ++ (← get).home ++ "/lvgl/ppa")
  setMacros engineMacros
  addLibrary "pngdec" "1.0.1"
  applyLogLevel config
  applyColors config
  addFlag "-Isrc"
  addGlobal (.raw "using namespace lvgl")
  awaitFonts (← get).clientFonts
  applyDefaultFont config
  addToMain (.call (.raw "LvglComponent::esphome_lvgl_init") [] [])

/-! ## Panels -/

/-- The part of a screen that is drawn at a time: one over the number, or as small as it gets. -/
def bufferPart (share : Value) : Check Value := do
  match ← Test.number share with
  | .float x =>
    if 0.75 ≤ x then return .int 1
    else if 0.375 ≤ x then return .int 2
    else if 0.19 < x then return .int 4
    else if x != 0.0 then return .int 8
    else return share
  | _ => throw .wrongKind

def resolveAll : List Value → Build (List Value)
  | [] => pure []
  | v :: vs => do
    let e ← resolve (← identOf v)
    return .cpp e :: (← resolveAll vs)

def createPage (g : Generator) (panel : Expr) (config page : Value) : Build Unit := do
  let id ← identAt page "id"
  let var ← newObject id [← required page "skip"]
  let w := Widget.fresh id.text var .page page
  w.note
  add (panel.method "add_page" [var])
  w.applyCommon config
  w.applyCommon page
  w.addChildren g page

def createPages (g : Generator) (panel : Expr) (config : Value) : Build Unit := do
  runMethod panel "set_page_wrap" [← required config "page_wrap"]
  forItems (createPage g panel config) (itemsAt config "pages")

def createComponent (config : Value) : Build Expr := do
  let part ← bufferPart (← required config "buffer_size")
  let shown ← resolveAll (itemsAt config "displays")
  let options ← ["full_refresh", "draw_rounding", "resume_on_input",
    "update_when_display_idle"].mapM fun key => (required config key : Build Value)
  let id ← identAt config "id"
  let var ← newObject id (.list shown :: part :: options)
  registerComponent var config
  (Widget.fresh id.text var .screen config).note
  return var

def createContents (g : Generator) (panel group : Expr) (config : Value) : Build Unit := do
  let order := (← required config "byte_order").show
  addToMain (panel.method "set_big_endian" [.boolean (order == "big_endian")])
  applyTouchscreens panel config
  applyEncoders panel group config
  applyKeypads panel group config
  Style.applyTheme config
  Style.applyGradients config
  Style.applyDefinitions config
  let screen := activeScreen panel
  screen.applyCommon config
  screen.addChildren g config
  createPages g panel config
  applyLayers g panel config
  applyBackground g panel config
  createMessageBoxes g panel config

def createPanel (g : Generator) (group : Expr) (config : Value) : Build Unit := do
  let panel ← createComponent config
  inBlock Code.Context.setup fun _ => createContents g panel group config

/-! ## Triggers -/

def pageTriggers (g : Generator) (page : Widget) (option : String) : List Value → Build Unit
  | [] => pure ()
  | config :: rest => do
    let var ← newObject (← identAt config "trigger_id") []
    let _ ← generate g var [] config
    let handler ← fireTrigger var [] none
    let word := upper (removePrefix "on_" option)
    onEvents page.obj handler [.literal ("LV_EVENT_SCREEN_" ++ word ++ "_START")]
    pageTriggers g page option rest

def allPageTriggers (g : Generator) : List Value → Build Unit
  | [] => pure ()
  | config :: rest => do
    match ← Widget.targets config "id" with
    | [] => throw .noIndex
    | page :: _ => do
      pageTriggers g page "on_load" (itemsAt config "on_load")
      pageTriggers g page "on_unload" (itemsAt config "on_unload")
    allPageTriggers g rest

/-- A trigger that fires when nothing is touched for a time. -/
def createIdleTrigger (g : Generator) (panel : Expr) (config : Value) : Build Unit := do
  let timeout ← templated (← required config "timeout") [] uint32
  let var ← newObject (← identAt config "trigger_id") [.cpp panel, timeout]
  let _ ← generate g var [] config

def createPlainTrigger (g : Generator) (panel : Expr) (config : Value) (option : String) :
    Build Unit := do
  match setAt? config option with
  | none => pure ()
  | some automation => do
    let var ← newObject (← identAt automation "trigger_id") []
    let _ ← generate g var [] automation
    let word := removePrefix "on_" option
    addToMain (panel.method ("set_" ++ word ++ "_trigger") [var])

def panelTriggers (g : Generator) (config : Value) : Build Unit := do
  let panel ← resolve (← identAt config "id")
  fromModule "lvgl.widgets.page" (allPageTriggers g (itemsAt config "pages"))
  applyInitialFocus config
  forItems (createIdleTrigger g panel) (itemsAt config "on_idle")
  forItems (createPlainTrigger g panel config) plainTriggers
  fromModule "lvgl.trigger"
    (bootTriggers g (itemsAt config "on_boot"))

/-! ## The whole -/

def transparentStyles : List String :=
  ["transform_rotation", "transform_scale", "transform_scale_x", "transform_scale_y"]

def defineUses : Check Unit := do
  let s ← get
  s.components.forM fun c => define ("USE_LVGL_" ++ upper c) none
  if transparentStyles.any s.stylesUsed.contains then
    defineMacro "LV_COLOR_SCREEN_TRANSP" "1"
  s.uses.forM fun use => do
    let word := upper use
    enableMacro ("LV_USE_" ++ word)
    define ("USE_LVGL_" ++ word) none
    define ("USE_" ++ word) none

/-- Reports options that go by another name now, and the remarks that were kept. -/
def report : Check Unit := do
  let s ← get
  s.remapped.forM fun name => do
    match renamedProperties.find? (·.1 == name) with
    | some (_, current) =>
      logWarning ("Property '" ++ name ++ "' is deprecated, use '" ++ current ++ "' instead")
    | none => throw (.missingKey name)
  s.warnings.forM logWarning

def createPanels (g : Generator) (configs : List Value) : Build Unit := do
  match configs with
  | [] => throw .noIndex
  | first :: _ => do
    applyLibrary first
    let group ← createDefaultGroup first
    forItems (createPanel g group) configs
    modify fun s => { s with completed := true }
    inBlock Code.Context.setup fun _ => do
      generateTriggers g
      forItems (panelTriggers g) configs
    defineUses
    addFlag "-DLV_CONF_H=1"
    addFlag "-DLV_CONF_PATH=\\\"lv_conf.h\\\""
    addFlag ("-I" ++ (← get).home ++ "/lvgl")
    report

end Component

end Panel
