import Panel.Kinds.Scale
import Panel.Style.Create

/-! # Meters — round scales with indicators around a pivot -/

namespace Panel

open Cpp Property Code Test Widget Record

namespace Kinds

/-! ## Options -/

def meterLine : Record :=
  (of
    [.defaulted "width" (.int 4) integer,
      .defaulted "color" (.int 0) color.validate,
      .optional "r_mod" padding.validate,
      .optional "length" acceptPixelsOrPercent,
      .defaulted "radial_offset" (.int 0) acceptPixelsOrPercent,
      .defaulted "value" (.float 0.0) number.validate,
      .defaulted "opa" (.float 1.0) opacity.validate]).check
    (atMostOneKey ["r_mod", "length"])

def meterPicture : Record := .of
  [.required "src" Property.image.validate,
    .defaulted "pivot_x" (.int 0) pixels.validate,
    .optional "pivot_y" pixels.validate,
    .optional "value" number.validate,
    .defaulted "opa" (.float 1.0) opacity.validate]

def rangeEnds : List Field :=
  [.optional "value" number.validate, .optional "start_value" number.validate,
    .optional "end_value" number.validate]

/-- A value and a start are not given together. -/
def oneValue : Test := atMostOneKey ["value", "start_value"]

def meterArc : Record :=
  ((of
    ([.defaulted "width" (.int 4) integer,
      .defaulted "color" (.int 0) color.validate,
      .optional "r_mod" padding.validate,
      .optional "padding" padding.validate]
      ++ rangeEnds ++ [.optional "opa" opacity.validate])).check
    (atMostOneKey ["r_mod", "padding"])).check oneValue

def meterTicks : Record :=
  (of
    ([.defaulted "width" (.int 4) integer,
      .defaulted "color_start" (.int 0) color.validate,
      .optional "color_end" color.validate]
      ++ rangeEnds
      ++ [.defaulted "local" (.bool false) boolean.validate])).check oneValue

/-- An indicator, in one of its forms: a look, and the names of what draws it. -/
def indicatorRecord : Record := .of
  [.exclusive "line" "indicators" none
      (meterLine.extend [.generated "id" (declareId needleType)]).run,
    .exclusive "image" "indicators" none (allOf
      [(meterPicture.extend
          [.generated "id" (declareId pointerType),
            .generated "image_id" (declareId Kind.image.traits.type)]).run,
        needsComponent "image"]),
    .exclusive "arc" "indicators" none
      (meterArc.extend [.generated "id" (declareId sweepType)]).run,
    .exclusive "tick_style" "indicators" none
      (meterTicks.extend [.generated "id" (declareId sweepType)]).run]

def meterMajor : Record := .of
  [.defaulted "stride" (.int 3) natural,
    .defaulted "width" (.int 5) size.validate,
    .defaulted "length" (.str "15%") size.validate,
    .defaulted "radial_offset" (.int 0) size.validate,
    .defaulted "color" (.int 0) color.validate,
    .defaulted "label_gap" (.int 4) size.validate]

def meterScale : Record := .of
  [.generated "id" (declareId lvObj),
    .optional "ticks" (of
      [.defaulted "count" (.int 12) natural,
        .defaulted "width" (.int 2) natural,
        .defaulted "length" (.int 10) size.validate,
        .defaulted "radial_offset" (.int 0) size.validate,
        .defaulted "color" (.int 0x808080) color.validate,
        .optional "major" meterMajor.run]).run,
    .defaulted "range_from" (.float 0.0) integer.validate,
    .defaulted "range_to" (.float 100.0) integer.validate,
    .defaulted "angle_range" (.int 270) degrees.validate,
    .defaulted "rotation" (.int 0) degrees.validate,
    .optional "indicators" (ensureList indicatorRecord.run)]

def meterRecord : Record := .of
  [.optional "pivot" Schema.states.run, .optional "indicator" Schema.states.run,
    .optional "scales" (ensureList meterScale.run)]

/-! ## Indicators -/

/-- The angle at which a value stands, as a statement and an expression. -/
def needleAngle (obj : Expr) (v : Value) : Check Expr :=
  call "lv_get_needle_angle_for_value" [.cpp obj, v]

def moveSection (w : Widget) (start stop : Value) : Check Unit :=
  let function := "lv_scale_section_set_range"
  match start, stop with
  | .null, .null => pure ()
  | .null, stop => run function [.cpp w.obj, .int 0, stop]
  | start, .null => run function [.cpp w.obj, start, start]
  | start, stop => run function [.cpp w.obj, start, stop]

/-- Moves a range; its end stands at the start value too. -/
def moveSweep (w : Widget) (start stop : Value) : Check Unit := do
  match start with
  | .null => pure ()
  | _ => do
    let angle ← needleAngle w.obj start
    run "lv_arc_set_start_angle" [.cpp w.obj, .cpp angle]
  match stop with
  | .null => pure ()
  | _ => do
    let angle ← needleAngle w.obj start
    run "lv_arc_set_end_angle" [.cpp w.obj, .cpp angle]

def turnPicture (w : Widget) (start : Value) : Check Unit := do
  run "lv_image_set_needle_value" [.cpp w.obj, start]
  let angle ← needleAngle w.obj start
  run "lv_obj_set_style_transform_rotation"
    [.cpp w.obj, .cpp (Expr.operate "*" angle (.integer 10)), mainPart]

def moveIndicator (w : Widget) (config : Value) : Build Unit := do
  let start ← startValue config
  let stop ← endValue config
  match w.kind with
  | .dial => moveSection w start stop
  | .sweep => moveSweep w start stop
  | .needle =>
    match start with
    | .null => pure ()
    | _ => runMethod w.var "set_value" [start]
  | .pointer =>
    match start with
    | .null => pure ()
    | _ => turnPicture w start
  | _ => pure ()

def createIndicator (g : Generator) (kind : Kind) (props : Entries) (parent : Expr) :
    Build Widget :=
  createCommon {} g kind (.dict props) parent

def applyTickStyle (scaleVar : Expr) (options start stop : Value) : Build Unit := do
  let first ← color.emit (← required options "color_start")
  let last ← color.emit (← required options "color_end")
  let isLocal ← required options "local"
  if first.truthy && last.truthy then
    onDrawTask scaleVar
      (run "lv_scale_draw_event_cb" [.literal "e", start, stop, first, last, isLocal]
        : Check Unit)

def applySweep (g : Generator) (scaleVar : Expr) (options : Value) : Build Unit := do
  noteUses ["arc"]
  let gap := (options.get? "padding").getD ((options.get? "r_mod").getD (.int 0))
  let width ← required options "width"
  let color ← required options "color"
  let opacity ← required options "opa"
  let id ← required options "id"
  let props := [("arc_width", width), ("arc_color", color), ("arc_opa", opacity), ("id", id),
    ("align", .literal "LV_ALIGN_CENTER")]
  let w ← createIndicator g .sweep (if gap.truthy then props ++ [("pad_all", gap)] else props)
    scaleVar
  moveIndicator w options

/-- The length of a line: as given, by how much it is shortened, or all of it. -/
def lineLength (options : Value) : Check Value := do
  match options.get? "length", setAt? options "r_mod" with
  | some length, _ => return length
  | none, some shortened => do
    modify fun s => { s with remapped := addTo s.remapped "r_mod" }
    match shortened with
    | .int n => return .int (-(n.natAbs : Int))
    | .float x => return .float (-x.abs)
    | .bool b => return .int (if b then -1 else 0)
    | _ => throw .wrongKind
  | none, none => return .float 1.0

def applyNeedleLine (g : Generator) (scaleVar : Expr) (options : Value) : Build Unit := do
  noteUses ["line"]
  let length ← lineLength options
  let id ← required options "id"
  let opacity ← required options "opa"
  let width ← required options "width"
  let color ← required options "color"
  let offset ← required options "radial_offset"
  let w ← createIndicator g .needle
    [("id", id), ("opa", opacity), ("line_width", width), ("line_color", color),
      ("line_rounded", .bool true), ("align", .literal "LV_ALIGN_TOP_LEFT"), ("length", length),
      ("radial_offset", offset)] scaleVar
  moveIndicator w options

def halfOf (v : Value) : Check Value :=
  match v with
  | .int n => pure (.int (Int.fdiv n 2))
  | .bool _ => pure (.int 0)
  | .float x => pure (.float (x / 2.0).floor)
  | _ => throw .wrongKind

def applyPointer (g : Generator) (scaleVar : Expr) (options : Value) : Build Unit := do
  noteUses ["image"]
  let src ← required options "src"
  let data ← match (← get).imageData.find? (·.1 == src.show) with
    | some (_, data) => pure data
    | none => throw (.missingKey src.show)
  let pivotX ← pixels.emit (← required options "pivot_x")
  let middle ← halfOf (← required data "height")
  let pivotY ← pixels.emit ((options.get? "pivot_y").getD middle)
  let x ← (← halfOf (← required data "width")).minus pivotX
  let opacity ← required options "opa"
  let id ← required options "id"
  let w ← createIndicator g .pointer
    [("x", x), ("transform_pivot_x", pivotX), ("transform_pivot_y", pivotY), ("src", src),
      ("opa", opacity), ("id", id), ("align", .literal "LV_ALIGN_CENTER")] scaleVar
  moveIndicator w options

def applyIndicator (g : Generator) (scaleVar : Expr) (scaleConfig indicator : Value) :
    Build Unit := do
  match indicator with
  | .dict ((form, options) :: _) => do
    let _ ← required options "id"
    let low ← required scaleConfig "range_from"
    let start := orElseValue (← startValue options) low
    let high ← required scaleConfig "range_to"
    let stop := orElseValue (← endValue options) high
    if form == "tick_style" then applyTickStyle scaleVar options start stop
    if form == "arc" then applySweep g scaleVar options
    if form == "line" then applyNeedleLine g scaleVar options
    if form == "image" then applyPointer g scaleVar options
  | .dict [] => throw .exhausted
  | _ => throw .noAttribute

/-! ## Scales of a meter -/

def applyMeterMajor (scaleVar : Expr) (ticks major : Value) : Build Unit := do
  let stride ← required major "stride"
  run "lv_scale_set_major_tick_every" [.cpp scaleVar, stride]
  run "lv_scale_set_label_show" [.cpp scaleVar, .bool true]
  stylePart scaleVar "length" size major "length" indicatorPart
  stylePart scaleVar "radial_offset" size ticks "radial_offset" indicatorPart
  stylePart scaleVar "line_width" size major "width" indicatorPart
  stylePart scaleVar "line_color" color major "color" indicatorPart
  applyLabelGap scaleVar major

def applyMeterTicks (scaleVar : Expr) (ticks : Value) : Build Unit := do
  let count ← required ticks "count"
  run "lv_scale_set_total_tick_count" [.cpp scaleVar, count]
  stylePart scaleVar "length" size ticks "length" itemsPart
  stylePart scaleVar "line_width" size ticks "width" itemsPart
  stylePart scaleVar "radial_offset" size ticks "radial_offset" itemsPart
  stylePart scaleVar "line_color" color ticks "color" itemsPart
  run "lv_obj_set_style_arc_opa" [.cpp scaleVar, .literal "LV_OPA_TRANSP", mainPart]
  match ticks.get? "major" with
  | some major => applyMeterMajor scaleVar ticks major
  | none => run "lv_scale_set_major_tick_every" [.cpp scaleVar, .int 0]

def applyMeterLook (scaleVar : Expr) : Build Unit := do
  let full ← pixelsOrPercent.emit (.float 1.0)
  run "lv_obj_set_style_height" [.cpp scaleVar, full, mainPart]
  run "lv_obj_set_style_width" [.cpp scaleVar, full, mainPart]
  run "lv_obj_set_style_align" [.cpp scaleVar, .literal "LV_ALIGN_CENTER", mainPart]
  run "lv_obj_set_style_bg_opa" [.cpp scaleVar, .literal "LV_OPA_TRANSP", mainPart]
  run "lv_obj_set_style_radius" [.cpp scaleVar, .literal "LV_RADIUS_CIRCLE", .int 0]

def applyMeterScale (g : Generator) (meterVar : Expr) (tickStyle scaleConfig : Value) :
    Build Unit := do
  let id ← identAt scaleConfig "id"
  let creator ← callOf "lv_scale_create" [.cpp meterVar]
  let scaleVar ← pointerTo id creator
  applyMeterLook scaleVar
  (fresh "" scaleVar .dial .null).applyCommon tickStyle
  run "lv_scale_set_mode" [.cpp scaleVar, .literal "LV_SCALE_MODE_ROUND_INNER"]
  let low ← integer.emit (← required scaleConfig "range_from")
  let high ← integer.emit (← required scaleConfig "range_to")
  run "lv_scale_set_range" [.cpp scaleVar, low, high]
  let range ← degrees.emit (← required scaleConfig "angle_range")
  let rotation ← degrees.emit (← required scaleConfig "rotation")
  run "lv_scale_set_angle_range" [.cpp scaleVar, range]
  if rotation.truthy then run "lv_scale_set_rotation" [.cpp scaleVar, rotation]
  match setAt? scaleConfig "ticks" with
  | some ticks => applyMeterTicks scaleVar ticks
  | none => run "lv_scale_set_total_tick_count" [.cpp scaleVar, .int 0]
  forItems (applyIndicator g scaleVar scaleConfig) (itemsAt scaleConfig "indicators")

/-! ## The design -/

/-- The look of a pivot unless it is given. -/
def pivotStyle : Entries :=
  [("radius", .literal "LV_RADIUS_CIRCLE"), ("align", .literal "LV_ALIGN_CENTER"),
    ("bg_color", .int 0), ("bg_opa", .float 1.0), ("width", .int 15), ("height", .int 15)]

def applyPivot (meterVar : Expr) (config : Value) : Build Unit := do
  let given := ((config.get? "indicator").getD ((config.get? "pivot").getD (.dict [])))
  match given with
  | .dict es => do
    let style := es.foldl (fun all e => Entries.put all e.1 e.2) pivotStyle
    let creator ← callOf "lv_container_create" [.cpp meterVar]
    withLocal "pivot" "lv_obj_t" (some (.cpp creator)) "*" fun pivot =>
      (fresh "" pivot .obj .null).applyCommon (.dict style)
  | _ => throw .wrongKind

def meter : Design :=
  let base : Design :=
    { Design.same fun _ => meterRecord with
      prepare := atMostOneKey ["indicator", "pivot"]
      created := fun _ var _ => do
        let sheet ← Style.lightMeter.sheet
        run "lv_obj_add_style" [.cpp var, .cpp sheet, mainPart] }
  { base with
    create? := some fun g config parent => do
      needComponents ["scale"]
      match config with
      | .dict es => do
        let ticks := (Entries.get? es "ticks").getD (.dict [])
        let w ← createCommon base g .meter (.dict (Entries.without es "ticks")) parent
        forItems (applyMeterScale g w.obj (.dict [("indicator", ticks)]))
          (itemsAt config "scales")
        applyPivot w.obj config
      | _ => throw .noAttribute }

def updateIndicator : Behaviour where
  name := "lvgl.indicator.update"
  type := objUpdateAction
  rule := fun _ => (of
    [.required "id" (useId lvObj),
      .exclusive "value" "value" none number.validate,
      .exclusive "start_value" "value" none number.validate,
      .optional "end_value" number.validate,
      .optional "opa" opacity.validate]).run
  build := fun _ config id params => do
    let widgets ← targets config "id"
    Automation.widgetAction widgets (fun w => moveIndicator w config) id params
      (config.entries?.getD [])

end Kinds

end Panel
