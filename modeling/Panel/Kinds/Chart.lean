import Panel.Kinds.Calendar
import Panel.Kinds.Table

/-! # Charts — series of points, their axes and cursors, and actions that change them -/

namespace Panel

open Cpp Code Property Test

namespace Kinds

def seriesPointer : CppType := CppType.plain "lv_chart_series_t *"
def cursorPointer : CppType := CppType.plain "lv_chart_cursor_t *"

/-- Words that stand for the values of an enumeration with a stem. -/
def stemmed (stem : String) (words : List String) : List (String × String) :=
  words.map fun w => (w, stem ++ w)

def cursorDirections : List (String × String) :=
  stemmed "LV_DIR_" ["NONE", "LEFT", "RIGHT", "TOP", "BOTTOM", "HOR", "VER", "ALL"]

def chartTypes : List (String × String) :=
  stemmed "LV_CHART_TYPE_" ["NONE", "LINE", "BAR", "SCATTER"]

def updateModes : List (String × String) :=
  stemmed "LV_CHART_UPDATE_MODE_" ["SHIFT", "CIRCULAR"]

def chartAxes : List (String × String) :=
  stemmed "LV_CHART_AXIS_" ["PRIMARY_Y", "SECONDARY_Y", "PRIMARY_X", "SECONDARY_X"]

def axisRecord : Record := .of
  [.optional "min_value" integer.validate, .optional "max_value" integer.validate,
    .optional "div_line_count" natural]

def cursorRecord : Record := .of
  [.required "id" (declareId cursorPointer),
    .defaulted "color" (.int 0xFF0000) color.validate,
    .defaulted "direction" (.str "ALL") (choiceOf cursorDirections)]

def seriesRecord : Record := .of
  [.required "id" (declareId seriesPointer),
    .optional "color" color.validate,
    .defaulted "axis" (.str "PRIMARY_Y") (choiceOf chartAxes),
    .optional "points" (ensureList integer.validate),
    .optional "x_points" (ensureList integer.validate),
    .optional "y_points" (ensureList integer.validate)]

def chartRecord : Record := .of
  [.defaulted "type" (.str "LINE") (choiceOf chartTypes),
    .defaulted "point_count" (.int 10) natural,
    .defaulted "update_mode" (.str "SHIFT") (choiceOf updateModes),
    .defaulted "div_line_count_hor" (.int 3) natural,
    .defaulted "div_line_count_ver" (.int 5) natural,
    .optional "series" (ensureList seriesRecord.run),
    .optional "axis_primary_y" axisRecord.run,
    .optional "axis_secondary_y" axisRecord.run,
    .optional "axis_primary_x" axisRecord.run,
    .optional "axis_secondary_x" axisRecord.run,
    .optional "cursors" (ensureList cursorRecord.run)]

def applyAxis (w : Widget) (config : Value) (axis : String) : Build Unit := do
  match setAt? config ("axis_" ++ axis) with
  | none => pure ()
  | some options =>
    match options.get? "min_value", options.get? "max_value" with
    | some low, some high => do
      let low ← integer.emit low
      let high ← integer.emit high
      run "lv_chart_set_range"
        [.cpp w.obj, .literal ("LV_CHART_AXIS_" ++ Text.upper axis), low, high]
    | _, _ => pure ()

def writeCoordinate (w : Widget) (series : Expr) (axis index value : String) : Check Unit :=
  addLine ("lv_chart_get_" ++ axis ++ "_array(" ++ w.obj.render ++ ", " ++ series.render
    ++ ")[" ++ index ++ "] = " ++ value ++ ";")

/-- Writes points with both coordinates. -/
def applyPairs (w : Widget) (series : Expr) : Nat → List (Value × Value) → Build Unit
  | _, [] => pure ()
  | i, (x, y) :: rest => do
    let x ← integer.emit x
    let y ← integer.emit y
    writeCoordinate w series "x" (toString i) x.show
    writeCoordinate w series "y" (toString i) y.show
    applyPairs w series (i + 1) rest

def applySeries (w : Widget) (series : Value) : Build Unit := do
  let color ← match series.get? "color" with
    | some color => Property.color.emit color
    | none => pure (.literal "lv_palette_main(LV_PALETTE_RED)")
  let axis ← mappedWord chartAxes (← required series "axis")
  let id ← identAt series "id"
  let var ← globalPointer "lv_chart_series_t" id
  let creator ← callOf "lv_chart_add_series" [.cpp w.obj, color, axis]
  assign var (.cpp creator)
  match itemsAt series "x_points", itemsAt series "y_points" with
  | x :: xs, y :: ys => do
    applyPairs w var 0 ((x :: xs).zip (y :: ys))
    run "lv_chart_refresh" [.cpp w.obj]
  | _, _ =>
    forItems (fun v => do
      let v ← integer.emit v
      run "lv_chart_set_next_value" [.cpp w.obj, .cpp var, v]) (itemsAt series "points")

def applyCursor (w : Widget) (cursor : Value) : Build Unit := do
  let color ← color.emit (← required cursor "color")
  let direction ← mappedWord cursorDirections (← required cursor "direction")
  let id ← identAt cursor "id"
  let var ← globalPointer "lv_chart_cursor_t" id
  let creator ← callOf "lv_chart_add_cursor" [.cpp w.obj, color, direction]
  assign var (.cpp creator)

def chart : Design :=
  { Design.distinct (fun _ => chartRecord) [] with
    options := fun _ w config => do
      needComponents ["chart"]
      let type ← mappedWord chartTypes (← required config "type")
      run "lv_chart_set_type" [.cpp w.obj, type]
      let count ← required config "point_count"
      run "lv_chart_set_point_count" [.cpp w.obj, count]
      let mode ← mappedWord updateModes (← required config "update_mode")
      run "lv_chart_set_update_mode" [.cpp w.obj, mode]
      let across ← required config "div_line_count_hor"
      let down ← required config "div_line_count_ver"
      run "lv_chart_set_div_line_count" [.cpp w.obj, across, down]
      applyAxis w config "primary_y"
      applyAxis w config "secondary_y"
      applyAxis w config "primary_x"
      applyAxis w config "secondary_x"
      forItems (applySeries w) (itemsAt config "series")
      forItems (applyCursor w) (itemsAt config "cursors") }

/-! ## Actions -/

/-- A whole number that may be a lambda. -/
def wholeField (key : String) : Field := .required key (templatable integer)

def chartField : Field := .required "id" (useId Kind.chart.traits.type)

def seriesField : Field := .required "series_id" (useId seriesPointer)

/-- An action that changes a chart, and draws it again. -/
def chartAction (name : String) (fields : List Field)
    (work : Value → Build (Widget → Build Unit)) : Behaviour where
  name := "lvgl.chart." ++ name
  type := objUpdateAction
  rule := fun _ => (Record.of (chartField :: fields)).run
  build := fun _ config id params => do
    let widgets ← Widget.targets config "id"
    let change ← work config
    Automation.widgetAction widgets (fun w => do
      change w
      run "lv_chart_refresh" [.cpp w.obj]) id params []

def seriesOf (config : Value) : Build Expr := do
  resolve (← identAt config "series_id")

def chartActions : List Behaviour :=
  [chartAction "set_next_value" [seriesField, wholeField "value"] fun config => do
      let series ← seriesOf config
      let value ← required config "value"
      return fun w => do
        run "lv_chart_set_next_value" [.cpp w.obj, .cpp series, ← emitWhole value],
    callAction "lvgl.chart.refresh" "lv_chart_refresh" Kind.chart.traits.type,
    chartAction "set_value_by_id" [seriesField, wholeField "point_index", wholeField "value"]
      fun config => do
        let series ← seriesOf config
        let index ← required config "point_index"
        let value ← required config "value"
        return fun w => do
          let index ← emitWhole index
          let value ← emitWhole value
          run "lv_chart_set_value_by_id" [.cpp w.obj, .cpp series, index, value],
    chartAction "set_value_by_id2"
      [seriesField, wholeField "point_index", wholeField "x_value", wholeField "y_value"]
      fun config => do
        let series ← seriesOf config
        let index ← required config "point_index"
        let x ← required config "x_value"
        let y ← required config "y_value"
        return fun w => do
          let index ← emitWhole index
          let x ← emitWhole x
          let y ← emitWhole y
          writeCoordinate w series "x" index.show x.show
          writeCoordinate w series "y" index.show y.show,
    chartAction "set_series_color"
      [seriesField, .required "series_color" color.validate] fun config => do
        let series ← seriesOf config
        let color ← color.emit (← required config "series_color")
        return fun w => run "lv_chart_set_series_color" [.cpp w.obj, .cpp series, color],
    chartAction "set_cursor_point"
      [.required "cursor_id" (useId cursorPointer), seriesField, wholeField "point_index"]
      fun config => do
        let cursor ← resolve (← identAt config "cursor_id")
        let series ← seriesOf config
        let index ← required config "point_index"
        return fun w => do
          let index ← emitWhole index
          run "lv_chart_set_cursor_point" [.cpp w.obj, .cpp cursor, .cpp series, index]]

end Kinds

end Panel
