import Panel.Widget.Design

/-! # Input devices — touch screens, rotary encoders and keypads -/

namespace Panel

open Cpp Code Test Kinds

namespace Input

/-! ## Rules -/

def pressTime : Test := allOf
  [Property.milliseconds.validate, within none (some (.period .milli 65535000))]

def pressTimes : List Field :=
  [.defaulted "long_press_time" (.str "400ms") pressTime,
    .defaulted "long_press_repeat_time" (.str "100ms") pressTime]

def listener : Record := .of
  ([.generated "id" (allOf
        [declareId encoderListener, needsComponent "binary_sensor"]),
      .optional "group" (declareId lvGroup),
      .optional "initial_focus" (allOf
        [Schema.targets pseudoButton, lengthWithin 1 1])]
    ++ pressTimes)

/-- The buttons that stand for the turning of an encoder. -/
def turnButtons : Record := .of
  [.required "left_button" (useId binarySensor),
    .required "right_button" (useId binarySensor)]

def encoders : Test := ensureList (listener.extend
  [.required "enter_button" (useId binarySensor),
    .required "sensor" (anyOf
      [allOf [useId rotaryEncoder, needsComponent "rotary_encoder"],
        turnButtons.run])]).run

def keypadKeys : List String :=
  ["up", "down", "right", "left", "esc", "del", "backspace", "enter", "next", "prev", "home", "end",
    "0", "1", "2", "3", "4", "5", "6", "7", "8", "9", "#", "*"]

def keypads : Test := ensureList (listener.extend
  (keypadKeys.map fun k => .optional k (useId binarySensor))).run

def touchscreen : Test := maybeSimple "touchscreen_id" (Record.of
  ([.required "touchscreen_id" (useId Cpp.touchscreen)] ++ pressTimes
    ++ [.generated "id" (declareId touchListener)])).run

/-- Touch screens; if none is named and there is one, it is used. -/
def touchscreens : Test := fun v => do
  let all ← ensureList touchscreen v
  if all.truthy || !(← get).loaded.contains "touchscreen" then return all
  return .list [← touchscreen v]

/-! ## Listeners -/

def timeAt (config : Value) (key : String) : Check Value := do
  match ← required config key with
  | .period _ micros => return .int (Int.fdiv micros 1000)
  | _ => throw .noAttribute

def objectAt (config : Value) (key : String) : Build Expr := do
  resolve (← identAt config key)

def createTouchListener (panel : Expr) (config : Value) : Build Unit := do
  needComponents ["touchscreen"]
  let screen ← objectAt config "touchscreen_id"
  let time ← timeAt config "long_press_time"
  let again ← timeAt config "long_press_repeat_time"
  let var ← newObject (← identAt config "id") [time, again, .cpp panel]
  addToMain (screen.method "register_listener" [var])

def createKeyListener (panel : Expr) (type : String) (config : Value) : Build Expr := do
  needComponents ["KEY_LISTENER"]
  let time ← timeAt config "long_press_time"
  let again ← timeAt config "long_press_repeat_time"
  let var ← newObject (← identAt config "id")
    [.literal ("::LV_INDEV_TYPE_" ++ type), time, again]
  setParent var panel
  return var

def addButton (var : Expr) (config : Value) (key code : String) : Build Unit := do
  let button ← objectAt config key
  addToMain (var.method "add_button" [button, .raw code])

/-- Puts a listener into a group of its own, or into that of all. -/
def joinGroup (var group : Expr) (config : Value) : Build Unit := do
  let group ← match setAt? config "group" with
    | some (.ident id) => do
      let own ← globalPointer "lv_group_t" id
      let creator ← callOf "lv_group_create" []
      assign own (.cpp creator)
      pure own
    | some _ => throw .noAttribute
    | none => pure group
  run "lv_indev_set_group" [.cpp (var.method "get_drv" []), .cpp group]

def addTurns (var : Expr) (config : Value) : Build Unit := do
  match setAt? config "sensor" with
  | none => pure ()
  | some (.dict buttons) => do
    addButton var (.dict buttons) "left_button" "::LV_KEY_LEFT"
    addButton var (.dict buttons) "right_button" "::LV_KEY_RIGHT"
  | some _ => do
    let sensor ← objectAt config "sensor"
    runMethod var "set_sensor" [.cpp sensor]

def createEncoder (panel group : Expr) (config : Value) : Build Unit := do
  let var ← createKeyListener panel "ENCODER" config
  addTurns var config
  addButton var config "enter_button" "::LV_KEY_ENTER"
  joinGroup var group config

def addKeys (var : Expr) (config : Value) : List String → Build Unit
  | [] => pure ()
  | key :: rest => do
    if keypadKeys.contains key then addButton var config key ("LV_KEY_" ++ Text.upper key)
    addKeys var config rest

def createKeypad (panel group : Expr) (config : Value) : Build Unit := do
  let var ← createKeyListener panel "KEYPAD" config
  addKeys var config ((config.entries?.getD []).map (·.1))
  joinGroup var group config

def focusFirst (config : Value) : Build Unit := do
  match setAt? config "initial_focus" with
  | none => pure ()
  | some targets => do
    match ← Widget.targets targets "id" with
    | w :: _ => run "lv_group_focus_obj" [.cpp w.obj]
    | [] => throw .noIndex

/-- The entries of a list that must be there. -/
def listAt (config : Value) (key : String) : Check (List Value) := do
  match ← required config key with
  | .list xs => return xs
  | _ => throw .wrongKind

def applyTouchscreens (panel : Expr) (config : Value) : Build Unit := do
  let all ← listAt config "touchscreens"
  forItems (createTouchListener panel) all

def applyEncoders (panel group : Expr) (config : Value) : Build Unit := do
  let all ← listAt config "encoders"
  forItems (createEncoder panel group) all

def applyKeypads (panel group : Expr) (config : Value) : Build Unit := do
  let all ← listAt config "keypads"
  forItems (createKeypad panel group) all

def applyInitialFocus (config : Value) : Build Unit := do
  let all ← listAt config "encoders"
  forItems focusFirst all

/-- Gives the focus to the objects that the listeners of a configuration begin with. -/
def applyObjectFocus (config : Value) : Build Unit := do
  let all ← listAt config "encoders"
  forItems (fun listener => do
    match setAt? listener "initial_focus" with
    | none => pure ()
    | some target => run "lv_group_focus_obj" [← Widget.resolved target]) all

def createDefaultGroup (config : Value) : Build Expr := do
  let creator ← callOf "lv_group_create" []
  let group ← pointerTo (← identAt config "default_group") creator
  addToMain (← callOf "lv_group_set_default" [.cpp group])
  return group

end Input

end Panel
