import Panel.Automation.Trigger
import Panel.Kinds.Range

/-! # Entities — widgets as sensors, switches, numbers and the like -/

namespace Panel

open Cpp Code Test Automation Widget Record CppType Expr

/-- A sort of entity. -/
inductive Entity where
  | binarySensor
  | light
  | number
  | select
  | sensor
  | switch
  | text
  | textSensor
  deriving BEq, DecidableEq, Repr, Inhabited

namespace Entity

def name : Entity → String
  | .binarySensor => "binary_sensor"
  | .light => "light"
  | .number => "number"
  | .select => "select"
  | .sensor => "sensor"
  | .switch => "switch"
  | .text => "text"
  | .textSensor => "text_sensor"

def all : List Entity :=
  [.binarySensor, .light, .number, .select, .sensor, .switch, .text, .textSensor]

def ofName? (s : String) : Option Entity := all.find? (·.name == s)

/-! ## Types -/

def type : Entity → CppType
  | .binarySensor => Cpp.binarySensor
  | .light => classOf "lvgl::LVLight" [classOf "light::LightOutput" []]
  | .number =>
    classOf "lvgl::LVGLNumber" [classOf "number::Number" [entityBase], component]
  | .select =>
    classOf "lvgl::LVGLSelect" [classOf "select::Select" [entityBase], component]
  | .sensor => Cpp.sensor
  | .switch =>
    classOf "lvgl::LVGLSwitch" [classOf "switch_::Switch" [entityBase], component]
  | .text => classOf "lvgl::LVGLText" [classOf "text::Text" []]
  | .textSensor => classOf "text_sensor::TextSensor" [entityBase]

/-- A family of widget types, which no reference is checked against. -/
def family (word : String) : CppType :=
  plain ("<class 'esphome.components.lvgl.types." ++ word ++ "'>")

/-- What the widget of an entity must be. -/
def widgetType : Entity → CppType
  | .binarySensor => pseudoButton
  | .light => Kind.led.traits.type
  | .number => family "LvNumber"
  | .select => family "LvSelect"
  | .sensor => family "LvNumber"
  | .switch => pseudoButton
  | .text => family "LvText"
  | .textSensor => family "LvText"

/-! ## Rules -/

def nameField : Field := .optional "name" Test.text

def rule (e : Entity) : Test :=
  let widget := Field.required "widget" (useId e.widgetType)
  let base := [.generated "id" (declareId e.type), nameField, widget]
  match e with
  | .light => (of
      [nameField,
        .defaulted "gamma_correct" (.float 0.0)
          (Test.allOf [Test.number, Test.within (some (.int 0)) none]),
        widget, .generated "output_id" (declareId e.type)]).run
  | .number => (of
      (base ++ [.defaulted "animated" (.bool true) Property.acceptAnimated,
        .defaulted "update_on_release" (.bool false) boolean,
        .defaulted "restore_value" (.bool false) boolean])).run
  | .select => (of
      (base ++ [.defaulted "animated" (.bool false) boolean,
        .defaulted "restore_value" (.bool false) boolean])).run
  | _ => (of base).run

/-! ## Code -/

def apiEvent : Value := .literal "lvgl::lv_api_event"

def updateEvent : Value := .literal "lvgl::lv_update_event"

def event (word : String) : Value := .literal ("LV_EVENT_" ++ word)

def target (config : Value) : Build Widget := do
  match ← targets config "widget" with
  | w :: _ => return w
  | [] => throw .noIndex

def register (e : Entity) (var : Expr) : Check Unit :=
  addToMain ((named "App").method ("register_" ++ e.name) [var])

def create (e : Entity) (config : Value) (args : List Value) : Build Expr := do
  let var ← newObject (← identAt config "id") args
  register e var
  return var

def reporter (var : Expr) (state : Build Expr) : Build Closure :=
  closureOf [eventParam] void do
    add (var.method "publish_state" [← state])

def announce (w : Widget) : Check Unit :=
  run "lv_obj_send_event" [.cpp w.obj, apiEvent, .cpp nullptr]

def inSetup (work : Build Unit) : Build Unit :=
  inBlock Code.Context.setup fun _ => work

def buildBinarySensor (config : Value) : Build Unit := do
  let var ← create .binarySensor config []
  let w ← target config
  awaitAll
  let handler ← reporter var w.isPressed
  inSetup do
    add (var.method "publish_initial_state" [← w.isPressed])
    onEvents w.obj handler [event "PRESSED", event "RELEASED"]

def buildLight (config : Value) : Build Unit := do
  let var ← newObject (← identAt config "output_id") []
  register .light var
  let w ← target config
  awaitAll
  inSetup (add (var.method "set_obj" [w.obj]))

def buildReader (e : Entity) (config : Value) : Build Unit := do
  let var ← create e config []
  let w ← target config
  awaitAll
  let handler ← reporter var w.value
  inSetup (onEvents w.obj handler [event "VALUE_CHANGED", apiEvent, updateEvent])

def setTrait (var : Expr) (name : String) (v : Value) : Check Unit := do
  addToMain (← methodOf (.object (var.member "traits") .dot) ("set_" ++ name) [v])

/-- Sets the number of a widget to a parameter, in parts. -/
def setNumber (w : Widget) (config : Value) : Build Unit := do
  let scale ← w.kind.scaleOf w.config
  let product := operate "*" (named "v") (named scale.show)
  w.setProperty "value" (.cpp product) { animated := some (← required config "animated") }
  announce w

def buildNumber (config : Value) : Build Unit := do
  let w ← target config
  awaitAll
  let reading ← closureOf [] float do
    addItem (.result (← w.value))
  let control ← closureOf [⟨float, "v"⟩] void (setNumber w config)
  let changed := event
    (if (← required config "update_on_release").truthy then "RELEASED" else "VALUE_CHANGED")
  let restore ← required config "restore_value"
  let high ← w.kind.largest w.config
  let low ← w.kind.smallest w.config
  let step ← w.kind.step w.config
  let var ← create .number config
    [.cpp (.closure control), .cpp (.closure reading), changed, restore]
  setTrait var "min_value" low
  setTrait var "max_value" high
  setTrait var "step" step
  let handler ← closureOf [eventParam] void
    (add (var.method "on_value" []))
  registerComponent var config
  let args ← arguments [.cpp w.obj, .cpp (.closure handler), updateEvent, changed]
  addToMain (.call (.raw "LvglComponent::add_event_cb") [] args)

def buildSelect (config : Value) : Build Unit := do
  let w ← target config
  let options := (w.config.get? "options").getD (.list [])
  let animation : Value := .literal
    (if (← required config "animated").truthy then "LV_ANIM_ON" else "LV_ANIM_OFF")
  let restore ← required config "restore_value"
  let var ← create .select config [.cpp w.var, animation, restore]
  setTrait var "options" options
  registerComponent var config

/-- Checks a widget or not, as a parameter says. -/
def setChecked (w : Widget) (var : Expr) : Build Unit := do
  let checked := stateValue "CHECKED"
  guardedBy (some (named "v")) do
    let _ ← w.addState checked
    otherwise
    let _ ← w.clearState checked
  announce w
  add (var.method "publish_state" [.raw "v"])

def buildSwitch (config : Value) : Build Unit := do
  let w ← target config
  awaitAll
  let id ← identAt config "id"
  let control ← closureOf [⟨bool, "v"⟩] void (setChecked w (pointer id.text))
  let var ← newObject id [.cpp (.closure control)]
  registerComponent var config
  register .switch var
  let handler ← reporter var w.value
  inSetup do
    onEvents w.obj handler [event "VALUE_CHANGED", updateEvent]
    add (var.method "publish_state" [← w.value])

def buildText (config : Value) : Build Unit := do
  let var ← create .text config []
  let w ← target config
  awaitAll
  let control ← closureOf [⟨stdString, "text_value"⟩] void do
    w.setProperty "text" (.str "text_value.c_str()") {}
    announce w
    add (var.method "publish_state" [← w.value])
  let handler ← reporter var w.value
  inSetup do
    add (var.method "set_control_lambda" [.closure control])
    onEvents w.obj handler [event "VALUE_CHANGED", updateEvent]
    add (var.method "publish_state" [← w.value])

def build (e : Entity) (config : Value) : Build Unit :=
  match e with
  | .binarySensor => buildBinarySensor config
  | .light => buildLight config
  | .number => buildNumber config
  | .select => buildSelect config
  | .sensor => buildReader .sensor config
  | .switch => buildSwitch config
  | .text => buildText config
  | .textSensor => buildReader .textSensor config

end Entity

end Panel
