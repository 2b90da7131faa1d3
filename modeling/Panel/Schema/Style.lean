import Panel.Schema.Text
import Panel.Property.Color
import Panel.Property.Source

/-! # Styles — how a widget looks, by state and by part -/

namespace Panel

open Cpp

/-- A property whose accepted values are written as they are. -/
def Property.unmapped (t : Test) : Property := ⟨t, fun _ v => pure v⟩

namespace Schema

def borderSides : Constant := .of "LV_BORDER_SIDE_"
  ["NONE", "TOP", "BOTTOM", "LEFT", "RIGHT", "INTERNAL"]

def textAlignments : Constant := .of "LV_TEXT_ALIGN_" ["LEFT", "CENTER", "RIGHT", "AUTO"]

def textDecorations : Constant := .of "LV_TEXT_DECOR_" ["NONE", "UNDERLINE", "STRIKETHROUGH"]

def scrollbarModes : Constant := .of "LV_SCROLLBAR_MODE_" ["OFF", "ON", "ACTIVE", "AUTO"]

open Property in
def styleProperties : List (String × Property) :=
  [("align", Constants.childAlignments.oneOf), ("arc_opa", opacity), ("arc_color", color),
    ("arc_rounded", boolean), ("arc_width", pixels), ("anim_time", milliseconds),
    ("bg_color", color), ("bg_grad", gradient), ("bg_grad_color", color),
    ("bg_grad_dir", Constants.gradientDirection.oneOf), ("bg_grad_stop", unmapped acceptByte),
    ("bg_image_opa", opacity), ("bg_image_recolor", color), ("bg_image_recolor_opa", opacity),
    ("bg_image_src", image), ("bg_image_tiled", boolean), ("bg_main_stop", unmapped acceptByte),
    ("bg_opa", opacity), ("border_color", color), ("border_opa", opacity),
    ("border_post", boolean), ("border_side", borderSides.severalOf), ("border_width", natural),
    ("clip_corner", boolean), ("color_filter_opa", opacity), ("height", size),
    ("image_recolor", color), ("image_recolor_opa", opacity), ("line_color", color),
    ("line_dash_gap", natural), ("line_dash_width", natural), ("line_opa", opacity),
    ("line_rounded", boolean), ("line_width", natural), ("opa", opacity), ("opa_layered", opacity),
    ("outline_color", color), ("outline_opa", opacity), ("outline_pad", padding),
    ("outline_width", pixels), ("length", pixelsOrPercent), ("pad_all", padding),
    ("pad_bottom", padding), ("pad_left", padding), ("pad_right", padding), ("pad_top", padding),
    ("radial_offset", size), ("shadow_color", color), ("shadow_offset_x", integer),
    ("shadow_offset_y", integer), ("shadow_opa", opacity), ("shadow_spread", integer),
    ("shadow_width", natural), ("text_align", textAlignments.oneOf), ("text_color", color),
    ("text_decor", textDecorations.severalOf), ("text_font", font),
    ("text_letter_space", natural), ("text_line_space", natural), ("text_opa", opacity),
    ("transform_angle", tenthsOfDegree), ("transform_height", pixelsOrPercent),
    ("transform_pivot_x", pixelsOrPercent), ("transform_pivot_y", pixelsOrPercent),
    ("transform_rotation", tenthsOfDegree), ("transform_scale", scale),
    ("transform_scale_x", scale), ("transform_scale_y", scale),
    ("transform_skew_x", tenthsOfDegree), ("transform_skew_y", tenthsOfDegree),
    ("transform_zoom", scale), ("translate_x", pixelsOrPercent), ("translate_y", pixelsOrPercent),
    ("max_height", pixelsOrPercent), ("max_width", pixelsOrPercent),
    ("min_height", pixelsOrPercent), ("min_width", pixelsOrPercent), ("radius", fraction),
    ("width", size), ("x", pixelsOrPercent), ("y", pixelsOrPercent)]

def objectProperties : List (String × Property) :=
  [("scroll_dir", Constants.scrollDirections.oneOf),
    ("scroll_snap_x", Constants.snapDirections.oneOf),
    ("scroll_snap_y", Constants.snapDirections.oneOf),
    ("scrollbar_mode", scrollbarModes.oneOf)]

def propertyFields (ps : List (String × Property)) : List Field :=
  ps.map fun (name, p) => .optional name p.validate

def styleFields : List Field :=
  propertyFields styleProperties
    ++ [.optional "styles" (Test.ensureList (Test.useId lvStyle)),
      .optional "scrollbar_mode" scrollbarModes.oneOf.validate,
      .optional "scroll_dir" Constants.scrollDirections.oneOf.validate,
      .optional "scroll_snap_x" Constants.snapDirections.oneOf.validate,
      .optional "scroll_snap_y" Constants.snapDirections.oneOf.validate]

def style : Record := .of styleFields

/-- A place in a grid cell or a distribution of grid tracks. -/
def gridAlignment : Property := Constants.gridAlignments.oneOf

def fullStyle : Record :=
  style.extend
    [.optional "grid_cell_x_align" gridAlignment.validate,
      .optional "grid_cell_y_align" gridAlignment.validate,
      .optional "pad_row" Property.padding.validate,
      .optional "pad_column" Property.padding.validate]

/-- Styles by state; properties at the top are those of the default state. -/
def states : Record :=
  (Record.of (Constants.states.map fun s => .optional s style.run)).extend styleFields

def setStates : Record :=
  .of (Constants.states.map fun s => .optional s Property.boolean.validate)

def setFlags : Record :=
  .of (Constants.flags.map fun f => .optional f Property.boolean.validate)

def flagList : Test := Test.ensureList Constants.flag.oneOf.validate

/-- Styles by state and part, and flags. -/
def parts (names : List String) : Record :=
  (states.extend setFlags.fields).extend (names.map fun p => .optional p states.run)

def styledText : Test := Test.maybeSimple "text" (style.extend textFields).run

def background : Record := .of
  [.optional "disp_bg_image" (Test.anyOf [Test.lowerWord ["none"], Property.image.validate]),
    .optional "disp_bg_color" Property.color.validate,
    .optional "disp_bg_opa" Property.opacity.validate]

def panelReference : Record := .of [.generated "lvgl_id" (Test.useId lvglComponent)]

end Schema

/-! ## Names that have changed -/

def renamedProperties : List (String × String) :=
  [("transform_angle", "transform_rotation"), ("zoom", "scale"), ("angle", "rotation"),
    ("r_mod", "length")]

/-- The name that a property goes by now; the use of an old one is noted. -/
def currentProperty (name : String) : Check String := do
  match renamedProperties.find? (·.1 == name) with
  | none => return name
  | some (old, new) =>
    modify fun s => { s with remapped := addTo s.remapped old }
    return new

end Panel
