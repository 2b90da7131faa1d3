import Panel.Component.Rule

/-! # The catalogue — rules by name

    Every part of a configuration can be checked on its own.  The catalogue finds the rule of a
    part by name: properties and words, parts that all widgets share, parts of one kind, and the
    options of a kind as a whole or as an update takes them. -/

namespace Panel.Catalogue

open Cpp Property Kinds Schema Input

/-! ## Single values -/

/-- The properties that are both checked and written. -/
def properties : List (String × Property) :=
  [("opacity", .opacity), ("color", .color), ("pixels_or_percent", .pixelsOrPercent),
    ("pixels", .pixels), ("padding", .padding), ("scale", .scale), ("angle", .tenthsOfDegree),
    ("angle_degrees", .degrees), ("size", .size), ("fraction", .fraction), ("image", .image),
    ("image_list", .imageList), ("bool", .boolean), ("milliseconds", .milliseconds),
    ("text", .text), ("float", .number), ("int", .integer), ("positive_int", .natural),
    ("percentage", .percentage), ("gradient", .gradient), ("font", .font)]

/-- The name of an identifier; asked for its choices, it names what it is. -/
def identifierName : Test := fun v =>
  if asksChoices v then pure (.str "id") else Test.idName v

def words : List (String × Test) :=
  [("animated", acceptAnimated), ("key_code", acceptKeyCode),
    ("id_name", identifierName), ("stop_value", acceptByte),
    ("option_string", acceptOption)]

/-- The rule for a single value, and the property if there is one. -/
def value? (name : String) : Option (Test × Option Property) :=
  match properties.find? (·.1 == name) with
  | some (_, p) => some (p.validate, some p)
  | none => (words.find? (·.1 == name)).map fun (_, t) => (t, none)

/-! ## Parts -/

/-- The rule of a part. -/
inductive Part where
  | record (r : Grammar → Record)
  | test (t : Grammar → Test)

namespace Part

/-- A record that refers to no other rule. -/
def ofRecord (r : Record) : Part := .record fun _ => r

def ofFields (fs : List Field) : Part := ofRecord (.of fs)

/-- A test that refers to no other rule. -/
def ofTest (t : Test) : Part := .test fun _ => t

def run (p : Part) (g : Grammar) : Test :=
  match p with
  | .record r => (r g).run
  | .test t => t g

def keys? : Part → Option (List String)
  | .record r => some ((r (Grammar.ofDepth 1)).fields.map (·.key))
  | .test _ => none

end Part

open Part

/-- The current name of a property; a value that is no text has no other name. -/
def currentName : Test := fun v =>
  match v with
  | .list _ => throw .wrongKind
  | .dict _ => throw .wrongKind
  | v =>
    match v.text? with
    | some s => Value.str <$> currentProperty s
    | none => pure v

/-- The parts that widgets, pages and panels share. -/
def shared : List (String × Part) :=
  [("style", ofRecord style), ("full_style", ofRecord fullStyle),
    ("state", ofRecord states), ("set_state", ofRecord setStates),
    ("flag", ofRecord setFlags), ("flag_list", ofTest flagList),
    ("text", ofFields textFields), ("text_value", ofTest textValue),
    ("styled_text", ofTest styledText), ("time_text", ofRecord timeText),
    ("format_text", ofTest checkedFormat), ("format_text.check", ofTest checkFormat),
    ("point", ofRecord point), ("point_value", ofTest pointValue),
    ("align_to", ofRecord alignTo), ("disp_bg", ofRecord background),
    ("targets", ofTest (targets pseudoButton)), ("panel", ofRecord panelReference),
    ("property_name", ofTest currentName), ("press_time", ofTest pressTime),
    ("encoder", ofRecord listener), ("encoders", ofTest encoders),
    ("keypads", ofTest keypads), ("touchscreen", ofTest touchscreen),
    ("touchscreens", ofTest touchscreens), ("gradients", ofTest Style.gradients),
    ("gradient_stops", ofTest Style.enoughStops), ("theme", .test Component.theme),
    ("displays", ofTest Component.displays), ("panels", ofTest Component.rule),
    ("one_panel", .test Component.panel), ("welcome", ofTest Component.withWelcome),
    ("grid_free_space", ofTest Layout.freeSpace), ("grid_track", ofTest Layout.track),
    ("flex_layout", ofFields Layout.flexFields), ("grid_cell", ofFields (Layout.cellFields none)),
    ("focused_id", ofTest Automation.focusedId), ("refreshed", ofTest Automation.noteRefreshed),
    ("msgbox", .test messageBox)]

def ofKinds : List (String × Part) :=
  [("animimg.base", ofRecord animimgBase), ("animimg.repeat_count", ofTest repeatCount),
    ("bar.check", ofTest checkBar), ("buttonmatrix.button", .record matrixButtonRecord),
    ("canvas.draw", ofFields placeFields),
    ("canvas.draw_opa", ofFields opaquePlaceFields),
    ("canvas.scale_map", ofTest spreadScale), ("chart.axis", ofRecord axisRecord),
    ("chart.cursor", ofRecord cursorRecord), ("chart.series", ofRecord seriesRecord),
    ("dropdown.base", ofRecord dropdownBase), ("image.base", ofRecord imageBase),
    ("list.item", ofRecord listItemRecord),
    ("lottie.file", ofTest (builtInFile "Lottie")),
    ("lottie.path", ofTest animationPath), ("lottie.source", ofTest checkAnimation),
    ("menu.page", .test menuPageRule), ("meter.indicator", ofRecord indicatorRecord),
    ("meter.indicator_line", ofRecord meterLine),
    ("meter.indicator_image", ofRecord meterPicture),
    ("meter.indicator_arc", ofRecord meterArc),
    ("meter.indicator_ticks", ofRecord meterTicks),
    ("meter.scale", ofRecord meterScale), ("page.show", ofRecord showRecord),
    ("roller.base", ofRecord rollerBase),
    ("scale.section_part_style", ofRecord sectionPart),
    ("scale.section", ofRecord sectionRecord),
    ("scale.line_needle", ofFields lineNeedle),
    ("scale.image_needle", ofFields pictureNeedle),
    ("scale.needle", ofRecord needleRecord),
    ("scale.needle_form", ofTest needleByForm), ("scale.tick", ofRecord tickRecord),
    ("span", ofRecord spanRecord), ("spinbox.check", ofTest checkSpinbox),
    ("svg.file", ofTest (builtInFile "SVG")), ("svg.path", ofTest drawingPath),
    ("svg.source", ofTest checkDrawing), ("table.cell", ofRecord cellRecord),
    ("table.column", ofRecord columnRecord),
    ("tileview.tile_select", ofTest checkTileChoice), ("win", .test windowRule),
    ("win.header_button", ofRecord windowButtonRecord)]

/-- The options of a kind, or those that an update of it takes. -/
def kind? (name : String) : Option Part :=
  let options (k : Kind) : Part := .record fun g => (k.design.fields g).getD (.of [])
  let changes (k : Kind) : Part := .record fun g => .of (k.design.changes g)
  let kinds := Kind.list :: Kind.all
  match kinds.find? (·.name == name) with
  | some k => some (options k)
  | none => (kinds.find? fun k => k.name ++ ".changes" == name).map changes

def action? (name : String) : Option Part :=
  (Behaviour.actions.find? fun b => b.name == "lvgl." ++ name).map fun b => .test b.rule

/-- The part of a name: a part that all share, one of a kind, a kind, or an action. -/
def find? (name : String) : Option Part :=
  match (shared ++ ofKinds).find? (·.1 == name) with
  | some (_, p) => some p
  | none => (kind? name).orElse fun _ => action? name

end Panel.Catalogue
