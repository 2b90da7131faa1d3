import Panel.Kinds.Range

/-! # Scales — ticks, coloured sections and needles -/

namespace Panel

open Cpp Property Code Test Automation Record Widget

namespace Kinds

/-! ## Options -/

def sectionPart : Record := .of
  [.optional "color" color.validate, .optional "width" natural]

/-- A start and a lower end are not given together. -/
def oneStart : Test := atMostOneKey ["start_value", "range_from"]

def sectionEnds : List Field :=
  [.optional "start_value" number.validate, .optional "end_value" number.validate,
    .optional "range_from" integer.validate, .optional "range_to" integer.validate]

def sectionRecord : Record :=
  (of
    ([.generated "id" (declareId lvScaleSection)] ++ sectionEnds
      ++ [.defaulted "color" (.int 0) color.validate,
        .defaulted "width" (.int 4) natural,
        .optional "indicator" sectionPart.run, .optional "items" sectionPart.run,
        .optional "main" sectionPart.run])).check oneStart

def lineNeedle : List Field :=
  [.generated "id" (declareId lvObj),
    .defaulted "value" (.int 0) integer.validate,
    .defaulted "needle_length" (.int 60) natural,
    .defaulted "needle_width" (.int 3) natural,
    .defaulted "needle_color" (.int 0xFF0000) color.validate,
    .defaulted "needle_rounded" (.bool true) boolean.validate]

def pictureNeedle : List Field :=
  [.generated "id" (declareId lvObj),
    .required "src" Property.image.validate,
    .defaulted "value" (.int 0) integer.validate,
    .defaulted "pivot_x" (.int 3) integer,
    .defaulted "pivot_y" (.int 4) integer]

def needleRecord : Record := .of
  (lineNeedle
    ++ [.optional "src" Property.image.validate, .optional "pivot_x" integer,
      .optional "pivot_y" integer])

/-- A needle by its form: one with a source is a picture. -/
def needleByForm : Test := fun v => do
  if ← contains v "src" then (of pictureNeedle).run v
  else (of lineNeedle).run v

def majorTicks : Record := .of
  [.defaulted "stride" (.int 3) natural,
    .defaulted "offset" (.int 0) (intRange (some 0) (some 65535)),
    .defaulted "width" (.int 5) size.validate,
    .defaulted "length" (.str "15%") size.validate,
    .defaulted "color" (.int 0) color.validate,
    .defaulted "radial_offset" (.int 0) size.validate,
    .defaulted "label_gap" (.int 4) size.validate,
    .defaulted "label_show" (.bool true) boolean.validate,
    .defaulted "rotate_match_ticks" (.bool false) boolean.validate,
    .defaulted "keep_upright" (.bool false) boolean.validate,
    .defaulted "translate_x" (.int 0) integer,
    .defaulted "translate_y" (.int 0) integer]

def tickRecord : Record := .of
  [.defaulted "count" (.int 12) natural,
    .defaulted "width" (.int 2) natural,
    .defaulted "length" (.int 10) size.validate,
    .defaulted "color" (.int 0x808080) color.validate,
    .defaulted "radial_offset" (.int 0) size.validate,
    .optional "major" majorTicks.run]

def scaleRecord : Record := .of
  [.optional "value" number.validate,
    .defaulted "min_value" (.int 0) integer.validate,
    .defaulted "max_value" (.int 100) integer.validate,
    .defaulted "mode" (.str "ROUND_OUTER") Constants.scaleModes.oneOf.validate,
    .defaulted "rotation" (.int 0) degrees.validate,
    .defaulted "angle_range" (.int 270) degrees.validate,
    .optional "ticks" tickRecord.run,
    .optional "sections" (ensureList sectionRecord.run),
    .defaulted "animated" (.bool true) acceptAnimated,
    .optional "text_src" (ensureList text),
    .optional "post_fix" text,
    .optional "pre_fix" text,
    .optional "needles" (ensureList needleRecord.run),
    .optional "custom_label_cb" lambda]

def scaleChanges : List Field :=
  [.optional "value" number.validate,
    .optional "min_value" integer.validate,
    .optional "max_value" integer.validate,
    .optional "mode" Constants.scaleModes.oneOf.validate,
    .optional "rotation" degrees.validate,
    .optional "angle_range" degrees.validate,
    .defaulted "animated" (.bool true) acceptAnimated]

/-! ## Ticks -/

def itemsPart : Value := .literal "LV_PART_ITEMS"
def indicatorPart : Value := .literal "LV_PART_INDICATOR"
def mainPart : Value := .literal "LV_PART_MAIN"

def stylePart (obj : Expr) (property : String) (p : Property) (options : Value) (key : String)
    (part : Value) : Build Unit := do
  let v ← p.emit (← required options key)
  run ("lv_obj_set_style_" ++ property) [.cpp obj, v, part]

/-- Writes the gap between labels and ticks, less the one that is there anyway. -/
def applyLabelGap (obj : Expr) (major : Value) : Build Unit := do
  let gap ← size.emit (← required major "label_gap")
  let gap : Value := match gap with
    | .int n => .int (n - 10)
    | other => other
  run "lv_obj_set_style_pad_radial" [.cpp obj, gap, indicatorPart]

def drawEvent : Param := ⟨eventPointer, "e"⟩

def onDrawTask (obj : Expr) (work : Build Unit) : Build Unit := do
  let c ← closureOf [drawEvent] void work
  run "lv_obj_add_event_cb"
    [.cpp obj, .cpp (.closure c), .literal "LV_EVENT_DRAW_TASK_ADDED", .cpp Expr.nullptr]
  run "lv_obj_add_flag" [.cpp obj, .literal "LV_OBJ_FLAG_SEND_DRAW_TASK_EVENTS"]

def applyLabelTransform (w : Widget) (major : Value) : Check Unit := do
  let line (property value : String) : Check Unit :=
    addLine ("lv_obj_set_style_" ++ property ++ "(" ++ w.obj.render ++ ", " ++ value
      ++ ", LV_PART_INDICATOR);")
  if isSet major "rotate_match_ticks" then
    line "transform_rotation" "LV_SCALE_LABEL_ROTATE_MATCH_TICKS"
  if isSet major "keep_upright" then
    line "transform_rotation"
      "LV_SCALE_LABEL_ROTATE_MATCH_TICKS | LV_SCALE_LABEL_ROTATE_KEEP_UPRIGHT"
  let shift (key : String) : Check Unit := do
    let v := (major.get? key).getD (.int 0)
    if !Value.same v (.int 0) then line key v.show
  shift "translate_x"
  shift "translate_y"
where
  isSet (config : Value) (key : String) : Bool := (setAt? config key).isSome

def applyMajorTicks (w : Widget) (major : Value) : Build Unit := do
  let offset := (major.get? "offset").getD (.int 0)
  let stride ← required major "stride"
  let isShifted ← Value.isBelow (.int 0) offset
  run "lv_scale_set_major_tick_every" [.cpp w.obj, if isShifted then .int 1 else stride]
  run "lv_scale_set_label_show" [.cpp w.obj, (major.get? "label_show").getD (.bool true)]
  stylePart w.obj "length" size major "length" indicatorPart
  stylePart w.obj "line_width" size major "width" indicatorPart
  stylePart w.obj "line_color" color major "color" indicatorPart
  stylePart w.obj "radial_offset" size major "radial_offset" indicatorPart
  applyLabelGap w.obj major
  applyLabelTransform w major
  if isShifted then
    onDrawTask w.obj
      (run "lv_scale_tick_offset_event_cb" [.literal "e", offset, stride] : Check Unit)

def applyTicks (w : Widget) (ticks : Value) : Build Unit := do
  let count ← required ticks "count"
  run "lv_scale_set_total_tick_count" [.cpp w.obj, count]
  stylePart w.obj "length" size ticks "length" itemsPart
  stylePart w.obj "line_width" size ticks "width" itemsPart
  stylePart w.obj "line_color" color ticks "color" itemsPart
  stylePart w.obj "radial_offset" size ticks "radial_offset" itemsPart
  match setAt? ticks "major" with
  | some major => applyMajorTicks w major
  | none => run "lv_scale_set_major_tick_every" [.cpp w.obj, .int 0]

/-! ## Labels, sections and needles -/

/-- A number that no other made-up name has. -/
def newAddress : Check Nat :=
  modifyGet fun s => (s.addresses, { s with addresses := s.addresses + 1 })

def applyLabels (w : Widget) (texts : Value) : Check Unit := do
  let name := "scale_labels_" ++ toString (← newAddress)
  let labels := (itemsOf texts).map fun t => "\"" ++ t.show ++ "\""
  addLine ("static const char *" ++ name ++ "[] = \x7b" ++ String.intercalate ", " labels
    ++ ", NULL\x7d;")
  addLine ("lv_scale_set_text_src(" ++ w.obj.render ++ ", " ++ name ++ ");")

/-- Writes a new style with a colour and a width, if they are given, for a part of a section. -/
def applySectionStyle (sect : Expr) (name part : String) (color width : Option Value) :
    Build Unit := do
  addLine ("static lv_style_t " ++ name ++ ";")
  addLine ("lv_style_init(&" ++ name ++ ");")
  match color with
  | some color => do
    let color ← Property.color.emit color
    addLine ("lv_style_set_line_color(&" ++ name ++ ", " ++ color.show ++ ");")
  | none => pure ()
  match width with
  | some width => addLine ("lv_style_set_line_width(&" ++ name ++ ", " ++ width.show ++ ");")
  | none => pure ()
  addLine ("lv_scale_section_set_style(" ++ sect.render ++ ", LV_PART_" ++ part ++ ", &" ++ name
    ++ ");")

/-- Writes the style of a part of a section, if it is set. -/
def applySectionPart (sect : Expr) (id : Ident) (options : Value) (key : String) : Build Unit :=
  match setAt? options key with
  | some style =>
    applySectionStyle sect ("style_" ++ id.text ++ "_" ++ key) (Text.upper key)
      (style.get? "color") (style.get? "width")
  | none => pure ()

/-- A value if it counts as set, else another. -/
def orElseValue (v other : Value) : Value := if v.truthy then v else other

/-- Writes a section; where it has no ends it takes those of the scale. -/
def applySection (w : Widget) (config options : Value) : Build Unit := do
  let id ← identAt options "id"
  let low := (options.get? "range_from").getD ((config.get? "min_value").getD (.int 0))
  let high := (options.get? "range_to").getD ((config.get? "max_value").getD (.int 100))
  let start := orElseValue (← startValue options) low
  let stop := orElseValue (← endValue options) high
  let creator ← call "lv_scale_add_section" [.cpp w.obj]
  let sect ← pointerTo id creator
  run "lv_scale_section_set_range" [.cpp sect, start, stop]
  applySectionStyle sect ("style_" ++ id.text) "INDICATOR"
    (some ((options.get? "color").getD (.int 0))) (some ((options.get? "width").getD (.int 4)))
  applySectionPart sect id options "items"
  applySectionPart sect id options "main"
  applySectionPart sect id options "indicator"

/-- The name that a needle goes by in code; the same needle keeps its name. -/
def needleName (id : Ident) (stem : String) : Check String := do
  match (← get).needles.find? (·.1 == id.text) with
  | some (_, needle) =>
    if Text.hasPrefix stem needle.name then return needle.name
    else return stem ++ toString (← newAddress)
  | none => return stem ++ toString (← newAddress)

def noteNeedle (id : Ident) (n : Needle) : Check Unit :=
  modify fun s =>
    { s with needles := s.needles.filter (·.1 != id.text) ++ [(id.text, n)] }

def applyNeedle (w : Widget) (options : Value) : Build Unit := do
  let id ← identAt options "id"
  let value := ((options.get? "value").getD (.int 0)).show
  let obj := w.obj.render
  match options.get? "src" with
  | some src => do
    noteUses ["img"]
    let name ← needleName id "needle_img_"
    let pivotX := ((options.get? "pivot_x").getD (.int 3)).show
    let pivotY := ((options.get? "pivot_y").getD (.int 4)).show
    addLine ("lv_obj_t *" ++ name ++ " = lv_image_create(" ++ obj ++ ");")
    addLine ("lv_image_set_src(" ++ name ++ ", " ++ src.show ++ ");")
    addLine ("lv_image_set_pivot(" ++ name ++ ", " ++ pivotX ++ ", " ++ pivotY ++ ");")
    addLine ("lv_scale_set_image_needle_value(" ++ obj ++ ", " ++ name ++ ", " ++ value
      ++ ");")
    noteNeedle id ⟨name, none⟩
  | none => do
    let name ← needleName id "needle_line_"
    let length := (options.get? "needle_length").getD (.int 60)
    let width := ((options.get? "needle_width").getD (.int 3)).show
    let color ← color.emit ((options.get? "needle_color").getD (.int 0xFF0000))
    addLine ("lv_obj_t *" ++ name ++ " = lv_line_create(" ++ obj ++ ");")
    addLine ("lv_obj_set_style_line_width(" ++ name ++ ", " ++ width ++ ", 0);")
    addLine ("lv_obj_set_style_line_color(" ++ name ++ ", " ++ color.show ++ ", 0);")
    if ((options.get? "needle_rounded").getD (.bool true)).truthy then
      addLine ("lv_obj_set_style_line_rounded(" ++ name ++ ", true, 0);")
    addLine ("lv_scale_set_line_needle_value(" ++ obj ++ ", " ++ name ++ ", " ++ length.show
      ++ ", " ++ value ++ ");")
    addLine ("static int32_t " ++ name ++ "_len = " ++ length.show ++ ";")
    noteNeedle id ⟨name, some length⟩

/-! ## The design -/

def applyAngles (w : Widget) (config : Value) : Build Unit := do
  match config.get? "rotation" with
  | some v => do
    let v ← degrees.emit v
    run "lv_scale_set_rotation" [.cpp w.obj, v]
  | none => pure ()
  match config.get? "angle_range" with
  | some v => do
    let v ← degrees.emit v
    run "lv_scale_set_angle_range" [.cpp w.obj, v]
  | none => pure ()

def applyScaleRange (w : Widget) (config low high : Value) : Check Unit := do
  match config.get? "mode" with
  | some mode => run "lv_scale_set_mode" [.cpp w.obj, literal mode]
  | none => pure ()
  if config.has "min_value" || config.has "max_value" then
    run "lv_scale_set_range"
      [.cpp w.obj, (config.get? "min_value").getD low, (config.get? "max_value").getD high]

def scale : Design :=
  { Design.distinct (fun _ => scaleRecord) scaleChanges with
    options := fun _ w config => do
      needComponents ["scale"]
      noteUses ["scale"]
      applyScaleRange w config (.int 0) (.int 100)
      applyAngles w config
      match setAt? config "ticks" with
      | some ticks => applyTicks w ticks
      | none => run "lv_scale_set_total_tick_count" [.cpp w.obj, .int 0]
      match setAt? config "text_src" with
      | some texts => applyLabels w texts
      | none => pure ()
      forItems (fun key => do
        if (setAt? config key).isSome then
          addLine ("lv_scale_set_post_draw(" ++ w.obj.render ++ ", true);"))
        ["post_fix", "pre_fix"]
      forItems (applySection w config) (itemsAt config "sections")
      match itemsAt config "needles" with
      | [] => pure ()
      | needles => do
        noteUses ["line"]
        forItems (applyNeedle w) needles
      match setAt? config "custom_label_cb" with
      | some body => onDrawTask w.obj (addLine body.show : Check Unit)
      | none => pure ()
      let _ ← startValue config }

/-! ## Actions -/

def updateScale : Behaviour where
  name := "lvgl.scale.update"
  type := objUpdateAction
  rule := fun _ => (of
    (scaleChanges ++ [.required "id" (useId Kind.scale.traits.type)])).run
  build := fun _ config id params => do
    let widgets ← targets config "id"
    widgetAction widgets (fun w => do
      let isRange := config.has "min_value" || config.has "max_value"
      let low ← if isRange then w.kind.smallest w.config else pure .null
      let high ← if isRange then w.kind.largest w.config else pure .null
      applyScaleRange w config low high
      applyAngles w config) id params (config.entries?.getD [])

/-- Changes a section of a scale for widgets, whose styles are numbered. -/
def changeSections (config : Value) : Nat → List Widget → Build Unit
  | _, [] => pure ()
  | n, w :: ws => do
    let start ← startValue config
    let stop ← endValue config
    match start, stop with
    | .null, _ => pure ()
    | start, .null => run "lv_scale_section_set_range" [.cpp w.obj, start, start]
    | start, stop => run "lv_scale_section_set_range" [.cpp w.obj, start, stop]
    let isStyled := config.has "color" || config.has "width"
    if isStyled then
      applySectionStyle w.obj ("scale_section_update_style_" ++ toString n) "INDICATOR"
        (config.get? "color") (config.get? "width")
    changeSections config (if isStyled then n + 1 else n) ws

def updateSection : Behaviour where
  name := "lvgl.scale.section.update"
  type := objUpdateAction
  rule := fun _ => ((of
    ([.required "id" (useId lvScaleSection)] ++ sectionEnds
      ++ [.optional "color" color.validate, .optional "width" natural])).check
    oneStart).run
  build := fun _ config id params => do
    let widgets ← targets config "id"
    awaitLambdas (config.entries?.getD [])
    awaitAll
    let c ← closureOf params void (changeSections config 0 widgets)
    newEntry id params [.cpp (.closure c)]

def moveNeedle (config : Value) (w : Widget) : Build Unit := do
  let name := ((config.get? "needle_id").getD .null).show
  let value := ((config.get? "value").getD (.int 0)).show
  match (← get).needles.find? (·.1 == name) with
  | none => pure ()
  | some (_, ⟨var, none⟩) =>
    addLine ("lv_scale_set_image_needle_value(" ++ w.obj.render ++ ", " ++ var ++ ", "
      ++ value ++ ");")
  | some (_, ⟨var, some length⟩) =>
    let length := (config.get? "needle_length").getD length
    addLine ("lv_scale_set_line_needle_value(" ++ w.obj.render ++ ", " ++ var ++ ", "
      ++ length.show ++ ", " ++ value ++ ");")

def updateNeedle : Behaviour where
  name := "lvgl.scale.needle.update"
  type := objUpdateAction
  rule := fun _ => (of
    [.required "scale_id" (useId Kind.scale.traits.type),
      .required "needle_id" text,
      .required "value" integer.validate,
      .optional "needle_length" natural]).run
  build := fun _ config id params => do
    let widgets ← targets config "scale_id"
    widgetAction widgets (moveNeedle config) id params (config.entries?.getD [])

def scaleActions : List Behaviour := [updateScale, updateSection, updateNeedle]

end Kinds

end Panel
