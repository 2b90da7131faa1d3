import Panel.Kinds.Label

/-! # Widgets for a number in a range — arcs, bars, sliders, spin boxes — and spinners -/

namespace Panel

open Cpp Code Property Test Constants Design

namespace Kinds

/-! ## Arcs -/

def arcRecord : Record := .of
  [.optional "value" number.validate,
    .defaulted "min_value" (.int 0) integer.validate,
    .defaulted "max_value" (.int 100) integer.validate,
    .defaulted "start_angle" (.int 135) degrees.validate,
    .defaulted "end_angle" (.int 45) degrees.validate,
    .defaulted "rotation" (.float 0.0) degrees.validate,
    .defaulted "adjustable" (.bool false) isBool,
    .defaulted "mode" (.str "NORMAL") arcModes.oneOf.validate,
    .defaulted "change_rate" (.int 720) natural.validate]

/-- The options of an arc that can be changed, with their writers.  The ends of the arc are looked
    for under the names of its background. -/
def arcOptions : List (String × Property) :=
  [("min_value", integer), ("max_value", integer),
    ("bg_start_angle", degrees), ("bg_end_angle", degrees),
    ("rotation", degrees), ("mode", arcModes.oneOf),
    ("change_rate", natural)]

def setOptions (w : Widget) (config : Value) : List (String × Property) → Build Unit
  | [] => pure ()
  | (name, p) :: rest => do
    w.setOption name config (some p) {}
    setOptions w config rest

def arc : Design :=
  { distinct (fun _ => arcRecord)
      [.optional "value" number.validate,
        .optional "min_value" integer.validate,
        .optional "max_value" integer.validate,
        .optional "start_angle" degrees.validate,
        .optional "end_angle" degrees.validate,
        .optional "rotation" degrees.validate,
        .optional "mode" arcModes.oneOf.validate,
        .optional "change_rate" natural.validate] with
    options := fun _ w config => do
      setOptions w config arcOptions
      match config.get? "adjustable" with
      | none => pure ()
      | some adjustable =>
        if !adjustable.truthy then
          run "lv_obj_remove_style" [.cpp w.obj, .cpp Expr.nullptr, .literal "LV_PART_KNOB"]
          let _ ← w.clearFlag (.literal "LV_OBJ_FLAG_CLICKABLE")
        else if !config.has "group" then
          let group ← callOf "lv_group_get_default" []
          run "lv_group_add_obj" [.cpp group, .cpp w.obj]
      w.setProperty "value" (← startValue config) {} }

/-! ## Bars -/

/-- A start value needs a range, and of the two limits both or none are given. -/
def checkBar : Test := fun config => do
  let isRange := match config.get? "mode" with
    | some v => v.text? == some "LV_BAR_MODE_RANGE"
    | none => false
  if !isRange && config.has "start_value" then
    refuse "start_value is only allowed when mode is set to 'RANGE'"
  if config.has "min_value" != config.has "max_value" then
    refuse "If either min_value or max_value is set, both must be set"
  return config

def barRecord : Record :=
  (Record.of
    [.optional "value" integer.validate,
      .optional "start_value" integer.validate,
      .optional "min_value" integer.validate,
      .optional "max_value" integer.validate,
      .optional "mode" barModes.oneOf.validate,
      .defaulted "animated" (.bool true) acceptAnimated]).check checkBar

def bar : Design :=
  { same fun _ => barRecord with
    options := fun _ w config => do
      match setAt? config "mode" with
      | some mode => run "lv_bar_set_mode" [.cpp w.obj, literal mode]
      | none => pure ()
      let animation := literal (← required config "animated")
      match config.get? "min_value" with
      | some low => do
        let low ← integer.emit low
        let high ← integer.emit (← required config "max_value")
        run "lv_bar_set_range" [.cpp w.obj, low, high]
      | none => pure ()
      let value ← integer.emit (at? config "value")
      if value.truthy then run "lv_bar_set_value" [.cpp w.obj, value, animation]
      let start ← integer.emit (at? config "start_value")
      if start.truthy then run "lv_bar_set_start_value" [.cpp w.obj, start, animation] }

/-! ## Sliders -/

def sliderRecord : Record := .of
  [.optional "value" number.validate,
    .defaulted "min_value" (.int 0) integer,
    .defaulted "max_value" (.int 100) integer,
    .defaulted "mode" (.str "NORMAL") sliderModes.oneOf.validate,
    .defaulted "animated" (.bool true) acceptAnimated]

def slider : Design :=
  { distinct (fun _ => sliderRecord)
      [.optional "value" number.validate,
        .defaulted "animated" (.bool true) acceptAnimated] with
    options := fun _ w config => do
      noteUses ["bar"]
      match config.get? "min_value" with
      | some low => do
        let high ← required config "max_value"
        run "lv_slider_set_range" [.cpp w.obj, low, high]
        let mode ← required config "mode"
        run "lv_slider_set_mode" [.cpp w.obj, literal mode]
      | none => pure ()
      match ← startValue config with
      | .null => pure ()
      | value => do
        let animation := literal (← required config "animated")
        run "lv_slider_set_value" [.cpp w.obj, value, animation] }

/-! ## Spin boxes -/

def spinLimit : Int := 2147483647

/-- The range must fit, there must be digits before the point, and the selected digit must be
    there. -/
def checkSpinbox : Test := fun config => do
  let low ← convertInt (← required config "range_from")
  let high ← convertInt (← required config "range_to")
  let selected ← required config "selected_digit"
  let digits ← required config "digits"
  let inside (n : Int) : Bool := -1 - spinLimit ≤ n && n ≤ spinLimit
  if !(inside low && inside high) then
    throw (.invalidAt [.key "range_from"] "Range outside allowed limits")
  if ← digits.atMost (← required config "decimal_places") then
    throw (.invalidAt [.key "digits"] "Number of digits must exceed number of decimal places")
  if ← digits.atMost selected then
    throw (.invalidAt [.key "selected_digit"]
      "Initial selected digit must be less than number of digits")
  return config

def spinboxRecord : Record :=
  (Record.of
    [.optional "value" number.validate,
      .defaulted "range_from" (.int 0) number,
      .defaulted "range_to" (.int 100) number,
      .defaulted "digits" (.int 4) (intRange (some 1) (some 10)),
      .optional "step" (never "step has been replaced by selected_digit"),
      .defaulted "selected_digit" (.int 0) natural,
      .defaulted "decimal_places" (.int 0) (intRange (some 0) (some 6)),
      .defaulted "rollover" (.bool false) boolean.validate]).check checkSpinbox

/-- How many parts a spin box counts in one. -/
def spinScale (config : Value) : Check Value := do
  Value.tenTo (← required config "decimal_places")

def spinbox : Design :=
  { distinct (fun _ => spinboxRecord) [.required "value" number.validate] with
    options := fun _ w config => do
      match config.get? "digits" with
      | none => pure ()
      | some digits => do
        let scale ← spinScale config
        let low ← Value.multiply (.int (← convertInt (← required config "range_from"))) scale
        let high ← Value.multiply (.int (← convertInt (← required config "range_to"))) scale
        let selected ← required config "selected_digit"
        Widget.change w.key fun w =>
          { w with scale := scale, rangeFrom := low, rangeTo := high }
        run "lv_spinbox_set_range" [.cpp w.obj, low, high]
        w.setProperty "step" (← Value.tenTo selected) {}
        w.setOption "rollover" config none {}
        let whole ← digits.minus (← required config "decimal_places")
        run "lv_spinbox_set_digit_format" [.cpp w.obj, digits, whole]
      match config.given? "value" with
      | none => pure ()
      | some v => do
        let v ← express (← number.emit v)
        let scale ← express (← spinScale w.config)
        run "lv_spinbox_set_value"
          [.cpp w.obj, .cpp (Expr.operate "*" (Expr.named v.render) scale)] }

/-- The rule of an action on one widget, which may be named alone. -/
def oneTarget (type : CppType) : Test :=
  maybeSimple "id" (Record.of [.required "id" (useId type)]).run

def callAction (name function : String) (type : CppType) : Behaviour where
  name := name
  type := objUpdateAction
  rule := fun _ => oneTarget type
  build := fun _ config id params => do
    let widgets ← Widget.targets config "id"
    Automation.widgetAction widgets (fun w => run function [.cpp w.obj]) id params []

def spinActions : List Behaviour :=
  [callAction "lvgl.spinbox.increment" "lv_spinbox_increment" Kind.spinbox.traits.type,
    callAction "lvgl.spinbox.decrement" "lv_spinbox_decrement" Kind.spinbox.traits.type]

/-! ## Spinners -/

def spinnerRecord : Record := .of
  [.defaulted "arc_length" (.int 200)
      (allOf [degrees.validate, intRange (some 0) (some 360)]),
    .defaulted "spin_time" (.str "2s") milliseconds.validate]

def spinner : Design :=
  { same fun _ => spinnerRecord with
    options := fun _ w config => do
      let time ← milliseconds.emit (at? config "spin_time")
      let length ← convertInt (← required config "arc_length")
      run "lv_spinner_set_anim_params"
        [.cpp w.obj, time, .int (if length < 180 then length + 180 else length)] }

end Kinds

/-! ## Ranges -/

namespace Kind

def isRanged : Kind → Bool
  | .arc => true
  | .bar => true
  | .slider => true
  | .scale => true
  | _ => false

def largest (k : Kind) (config : Value) : Check Value := do
  if k.isRanged then
    return .int (← convertInt ((config.get? "max_value").getD (.int 100)))
  match k with
  | .spinbox => required config "range_to"
  | _ => return .int endless

def smallest (k : Kind) (config : Value) : Check Value := do
  if k.isRanged then
    return .int (← convertInt ((config.get? "min_value").getD (.int 0)))
  match k with
  | .spinbox => required config "range_from"
  | _ => return .int (-endless)

def step (k : Kind) (config : Value) : Check Value :=
  match k with
  | .spinbox => do Value.tenTo (← required config "selected_digit")
  | _ => pure (.int 1)

/-- How many parts a widget counts in one. -/
def scaleOf (k : Kind) (config : Value) : Check Value :=
  match k with
  | .spinbox => Kinds.spinScale config
  | _ => pure (.float 1.0)

end Kind

end Panel
