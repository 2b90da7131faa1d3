import Panel.Property.Basic

/-! # Constants — words that stand for enumeration values of the library

    A constant family has a stem that every value begins with.  A configuration may leave the stem
    out and need not care about case. -/

namespace Panel

open Cpp Property Text

/-- A family of enumeration values: its stem, its words as they were written, and its C++ type. -/
structure Constant where
  stem : String
  words : List String
  type : String
  deriving BEq, DecidableEq, Repr, Inhabited

namespace Constant

/-- A family whose type is named after its stem. -/
def of (stem : String) (words : List String) : Constant :=
  ⟨stem, words, lower stem ++ "t"⟩

def choices (c : Constant) : List String := c.words.map upper

def extend (c : Constant) (more : List String) : Constant :=
  { c with words := c.choices ++ more }

/-- The value of a word, with or without the stem. -/
def accept (c : Constant) : Test := fun v => do
  if asksChoices v then return .list (c.choices.map .str)
  match v.text? with
  | some s =>
    if hasPrefix c.stem s then
      return .str (← Test.wordOf { upper := true } (c.choices.map (c.stem ++ ·)) v)
  | none => pure ()
  return .str (c.stem ++ (← Test.wordOf { upper := true } c.words v))

def spelled (c : Constant) (s : String) : String :=
  if hasPrefix c.stem s then upper s else c.stem ++ upper s

/-- The code of one value, or of several joined and cast to the type. -/
def form (c : Constant) (v : Value) : Expr :=
  let values := match v with
    | .list xs => xs
    | other => [other]
  match values.map fun x => c.spelled x.show with
  | [one] => Expr.named one
  | several => .cast c.type (Expr.named (String.intercalate "|" several))

def get? (c : Constant) (word : String) : Option Expr :=
  if c.choices.contains (upper word) then some (c.form (.str word)) else none

def oneOf (c : Constant) : Property :=
  mapped c.accept uint32 fun v => pure (.cpp (c.form v))

def severalOf (c : Constant) : Property :=
  mapped (Test.ensureList c.oneOf.validate) uint32 fun v => pure (.cpp (c.form v))

end Constant

/-! ## The families -/

namespace Constants

def directions : Constant := .of "LV_DIR_" ["LEFT", "RIGHT", "BOTTOM", "TOP"]

def screenAnimation : Constant := .of "LV_SCR_LOAD_ANIM_"
  ["NONE", "OVER_LEFT", "OVER_RIGHT", "OVER_TOP", "OVER_BOTTOM", "MOVE_LEFT", "MOVE_RIGHT",
    "MOVE_TOP", "MOVE_BOTTOM", "FADE_IN", "FADE_OUT", "OUT_LEFT", "OUT_RIGHT", "OUT_TOP",
    "OUT_BOTTOM"]

def gradientDirection : Constant := .of "LV_GRAD_DIR_" ["NONE", "HOR", "VER"]

def dither : Constant := .of "LV_DITHER_" ["NONE", "ORDERED", "ERR_DIFF"]

/-- What a label does with a text that does not fit. -/
def longModes : Constant := .of "LV_LABEL_LONG_" ["WRAP", "DOT", "SCROLL", "SCROLL_CIRCULAR", "CLIP"]

def states : List String :=
  ["default", "checked", "focused", "focus_key", "edited", "hovered", "pressed", "scrolled",
    "disabled", "user_1", "user_2", "user_3", "user_4"]

def parts : List String :=
  ["main", "header", "sidebar", "scrollbar", "indicator", "knob", "selected", "items", "cursor",
    "textarea_placeholder"]

def part : Constant := .of "LV_PART_" (parts.map upper)

def keyboardModes : Constant :=
  .of "LV_KEYBOARD_MODE_" ["TEXT_LOWER", "TEXT_UPPER", "SPECIAL", "NUMBER"]

def rollerModes : Constant := .of "LV_ROLLER_MODE_" ["NORMAL", "INFINITE"]

def tileDirections : Constant := directions.extend ["HOR", "VER", "ALL"]

def scrollDirections : Constant := tileDirections.extend ["NONE"]

def snapDirections : Constant := .of "LV_SCROLL_SNAP_" ["NONE", "START", "END", "CENTER"]

def childAlignments : Constant := .of "LV_ALIGN_"
  ["TOP_LEFT", "TOP_MID", "TOP_RIGHT", "LEFT_MID", "CENTER", "RIGHT_MID", "BOTTOM_LEFT",
    "BOTTOM_MID", "BOTTOM_RIGHT"]

def siblingAlignments : Constant := .of "LV_ALIGN_"
  ["OUT_LEFT_TOP", "OUT_TOP_LEFT", "OUT_TOP_MID", "OUT_TOP_RIGHT", "OUT_RIGHT_TOP",
    "OUT_LEFT_MID", "OUT_RIGHT_MID", "OUT_LEFT_BOTTOM", "OUT_BOTTOM_LEFT", "OUT_BOTTOM_MID",
    "OUT_BOTTOM_RIGHT", "OUT_RIGHT_BOTTOM"]

def alignments : Constant := childAlignments.extend siblingAlignments.choices

def flexFlows : Constant := .of "LV_FLEX_FLOW_"
  ["ROW", "COLUMN", "ROW_WRAP", "COLUMN_WRAP", "ROW_REVERSE", "COLUMN_REVERSE",
    "ROW_WRAP_REVERSE", "COLUMN_WRAP_REVERSE"]

def flags : List String :=
  ["hidden", "clickable", "click_focusable", "checkable", "scrollable", "scroll_elastic",
    "scroll_momentum", "scroll_one", "scroll_chain_hor", "scroll_chain_ver", "scroll_chain",
    "scroll_on_focus", "scroll_with_arrow", "snappable", "press_lock", "event_bubble",
    "gesture_bubble", "adv_hittest", "ignore_layout", "floating", "overflow_visible", "layout_1",
    "layout_2", "send_draw_task_events", "widget_1", "widget_2", "user_1", "user_2", "user_3",
    "user_4"]

def flag : Constant := .of "LV_OBJ_FLAG_" flags

def arcModes : Constant := .of "LV_ARC_MODE_" ["NORMAL", "REVERSE", "SYMMETRICAL"]

def barModes : Constant := .of "LV_BAR_MODE_" ["NORMAL", "SYMMETRICAL", "RANGE"]

def sliderModes : Constant := .of "LV_SLIDER_MODE_" ["NORMAL", "SYMMETRICAL", "RANGE"]

def matrixControls : Constant := .of "LV_BUTTONMATRIX_CTRL_"
  ["HIDDEN", "NO_REPEAT", "DISABLED", "CHECKABLE", "CHECKED", "CLICK_TRIG", "POPOVER", "RECOLOR",
    "CUSTOM_1", "CUSTOM_2"]

def cellAlignments : Constant := .of "LV_GRID_ALIGN_" ["START", "CENTER", "END"]

def gridAlignments : Constant :=
  cellAlignments.extend ["STRETCH", "SPACE_EVENLY", "SPACE_AROUND", "SPACE_BETWEEN"]

def flexAlignments : Constant := .of "LV_FLEX_ALIGN_"
  ["START", "CENTER", "END", "SPACE_EVENLY", "SPACE_AROUND", "SPACE_BETWEEN"]

def flexCrossAlignments : Constant := flexAlignments.extend ["STRETCH"]

def menuModes : Constant := .of "LV_MENU_HEADER_" ["TOP_FIXED", "TOP_UNFIXED", "BOTTOM_FIXED"]

def keys : Constant := .of "LV_KEY_"
  ["UP", "DOWN", "RIGHT", "LEFT", "ESC", "DEL", "BACKSPACE", "ENTER", "NEXT", "PREV", "HOME",
    "END"]

def scaleModes : Constant := .of "LV_SCALE_MODE_"
  ["HORIZONTAL_TOP", "HORIZONTAL_BOTTOM", "VERTICAL_LEFT", "VERTICAL_RIGHT", "ROUND_INNER",
    "ROUND_OUTER"]

def opacity : Constant := .of "LV_OPA_" ["TRANSP", "COVER"]

def radius : Constant := .of "LV_RADIUS_" ["CIRCLE"]

def animation : Constant := .of "LV_ANIM_" ["OFF", "ON"]

def byName : List (String × Constant) :=
  [("DIRECTIONS", directions), ("LV_ANIM", screenAnimation), ("LV_GRAD_DIR", gradientDirection),
    ("LV_DITHER", dither), ("LV_LONG_MODES", longModes), ("LV_PART", part),
    ("KEYBOARD_MODES", keyboardModes), ("ROLLER_MODES", rollerModes),
    ("TILE_DIRECTIONS", tileDirections), ("SCROLL_DIRECTIONS", scrollDirections),
    ("SNAP_DIRECTIONS", snapDirections), ("CHILD_ALIGNMENTS", childAlignments),
    ("SIBLING_ALIGNMENTS", siblingAlignments), ("ALIGN_ALIGNMENTS", alignments),
    ("FLEX_FLOWS", flexFlows), ("LV_OBJ_FLAG", flag), ("ARC_MODES", arcModes),
    ("BAR_MODES", barModes), ("SLIDER_MODES", sliderModes),
    ("BUTTONMATRIX_CTRLS", matrixControls), ("LV_CELL_ALIGNMENTS", cellAlignments),
    ("LV_GRID_ALIGNMENTS", gridAlignments), ("LV_FLEX_ALIGNMENTS", flexAlignments),
    ("LV_FLEX_CROSS_ALIGNMENTS", flexCrossAlignments), ("LV_MENU_MODES", menuModes),
    ("LV_KEYS", keys), ("LV_SCALE_MODE", scaleModes)]

/-- Options of a configuration, and the events of the library they react to. -/
def events : List (String × String) :=
  [("PRESS", "PRESSED"), ("PRESSING", "PRESSING"), ("PRESS_LOST", "PRESS_LOST"),
    ("SHORT_CLICK", "SHORT_CLICKED"), ("SINGLE_CLICK", "SINGLE_CLICKED"),
    ("DOUBLE_CLICK", "DOUBLE_CLICKED"), ("TRIPLE_CLICK", "TRIPLE_CLICKED"),
    ("LONG_PRESS", "LONG_PRESSED"), ("LONG_PRESS_REPEAT", "LONG_PRESSED_REPEAT"),
    ("CLICK", "CLICKED"), ("RELEASE", "RELEASED"), ("SCROLL_BEGIN", "SCROLL_BEGIN"),
    ("SCROLL_THROW_BEGIN", "SCROLL_THROW_BEGIN"), ("SCROLL_END", "SCROLL_END"),
    ("SCROLL", "SCROLL"), ("GESTURE", "GESTURE"), ("KEY", "KEY"), ("FOCUS", "FOCUSED"),
    ("DEFOCUS", "DEFOCUSED"), ("LEAVE", "LEAVE"), ("HIT_TEST", "HIT_TEST"),
    ("INDEV_RESET", "INDEV_RESET"), ("HOVER_OVER", "HOVER_OVER"), ("HOVER_LEAVE", "HOVER_LEAVE"),
    ("COVER_CHECK", "COVER_CHECK"), ("REFR_EXT_DRAW_SIZE", "REFR_EXT_DRAW_SIZE"),
    ("DRAW_MAIN_BEGIN", "DRAW_MAIN_BEGIN"), ("DRAW_MAIN", "DRAW_MAIN"),
    ("DRAW_MAIN_END", "DRAW_MAIN_END"), ("DRAW_POST_BEGIN", "DRAW_POST_BEGIN"),
    ("DRAW_POST", "DRAW_POST"), ("DRAW_POST_END", "DRAW_POST_END"),
    ("DRAW_TASK_ADDED", "DRAW_TASK_ADDED"), ("CHANGE", "VALUE_CHANGED"), ("INSERT", "INSERT"),
    ("REFRESH", "REFRESH"), ("READY", "READY"), ("CANCEL", "CANCEL"), ("CREATE", "CREATE"),
    ("DELETE", "DELETE"), ("CHILD_CHANGED", "CHILD_CHANGED"), ("CHILD_CREATED", "CHILD_CREATED"),
    ("CHILD_DELETED", "CHILD_DELETED"), ("SCREEN_UNLOAD_START", "SCREEN_UNLOAD_START"),
    ("SCREEN_LOAD_START", "SCREEN_LOAD_START"), ("SCREEN_LOADED", "SCREEN_LOADED"),
    ("SCREEN_UNLOADED", "SCREEN_UNLOADED"), ("SIZE_CHANGED", "SIZE_CHANGED"),
    ("STYLE_CHANGED", "STYLE_CHANGED"), ("LAYOUT_CHANGED", "LAYOUT_CHANGED"),
    ("GET_SELF_SIZE", "GET_SELF_SIZE"), ("INVALIDATE_AREA", "INVALIDATE_AREA"),
    ("RESOLUTION_CHANGED", "RESOLUTION_CHANGED"),
    ("COLOR_FORMAT_CHANGED", "COLOR_FORMAT_CHANGED"), ("REFR_REQUEST", "REFR_REQUEST"),
    ("REFR_START", "REFR_START"), ("REFR_READY", "REFR_READY"), ("RENDER_START", "RENDER_START"),
    ("RENDER_READY", "RENDER_READY"), ("FLUSH_START", "FLUSH_START"),
    ("FLUSH_FINISH", "FLUSH_FINISH"), ("FLUSH_WAIT_START", "FLUSH_WAIT_START"),
    ("FLUSH_WAIT_FINISH", "FLUSH_WAIT_FINISH"), ("ALL_EVENTS", "ALL")]

def eventOptions : List String := events.map fun (name, _) => "on_" ++ lower name

def swipeOptions : List String :=
  (directions.choices ++ ["up", "down"]).map fun d => "on_swipe_" ++ lower d

end Constants

/-- Joins enumeration values in sorted order, with a stem or each cast to an integer. -/
def joinEnums (names : List String) (stem : String) : Expr :=
  let sorted := names.mergeSort (fun a b => decide (a ≤ b))
  Expr.named (String.intercalate "|" (sorted.map fun e =>
    if stem == "" then "(int)" ++ upper e else stem ++ upper e))

end Panel
