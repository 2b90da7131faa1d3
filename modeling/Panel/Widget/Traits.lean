import Panel.Session
import Panel.Cpp.Library

/-! # Traits of widget kinds — what is known of a kind before any widget of it is built -/

namespace Panel

open Cpp Text

/-- Where the value of a widget is read from. -/
inductive Reading where
  | object
  /-- A number, divided by the scale of the widget. -/
  | number
  | property (name : String)
  | checked
  /-- Member functions of the widget's variable. -/
  | methods (names : List String)
  /-- A function of the library applied to the object. -/
  | function (name : String)
  /-- A function of the library, spelled as code. -/
  | spelled (name : String)
  | shownTab
  deriving BEq, DecidableEq, Repr, Inhabited

/-- What is known of a kind. -/
structure Traits where
  type : CppType
  libraryName : String
  parts : List String
  /-- The parameters of automations of the widget. -/
  params : List Param := [⟨objPointer, "obj"⟩]
  reading : Reading := .object
  hasValueEvent : Bool := false
  valueOption : Option String := none
  animated : Bool := false
  uses : List String := []
  deriving Inhabited

namespace Traits

/-- A kind whose value is the object itself. -/
def plain (type : CppType) (libraryName : String) (parts : List String) : Traits :=
  { type, libraryName, parts }

def number (type libraryName : String) (parts : List String) : Traits :=
  { type := widgetType type [], libraryName, parts
    params := [⟨float, "x"⟩]
    reading := .number
    hasValueEvent := true
    valueOption := some "value" }

def text (type libraryName : String) (parts : List String) : Traits :=
  { type := widgetType type [], libraryName, parts
    params := [⟨stdString, "text"⟩]
    reading := .property "text"
    hasValueEvent := true
    valueOption := some "text" }

def boolean (type : CppType) (libraryName : String) (parts : List String) : Traits :=
  { type, libraryName, parts
    params := [⟨bool, "x"⟩]
    reading := .checked
    hasValueEvent := true }

def select (type libraryName : String) (parts : List String) : Traits :=
  { type := widgetType type [compound], libraryName, parts
    params := [⟨int, "x"⟩, ⟨stdString, "text"⟩]
    reading := .methods ["get_selected_index", "get_selected_text"]
    hasValueEvent := true }

/-- Is a widget of the kind wrapped in an object of the panel component? -/
def isCompound (t : Traits) : Bool := t.type.inheritsFrom compound

end Traits

/-! ## Types that configurations refer to -/

def buttonType : CppType := widgetType "lv_button_t" []
def matrixButtonType : CppType := widgetType "uint16_t" [pseudoButton]
def matrixType : CppType := widgetType "LvButtonMatrixType" [keyProvider, compound]
def keyboardType : CppType := widgetType "LvKeyboardType" [keyProvider, compound]
def textareaType : CppType := widgetType "lv_textarea_t" []
def pageType : CppType := widgetType "LvPageType" [compound]
def tileType : CppType := widgetType "lv_tileview_tile_t" []
def scaleType : CppType := widgetType "lv_scale_t" []

def needleType : CppType := widgetType "IndicatorLine" [compound, lvObj]

def sweepType : CppType := widgetType "lv_scale_section_t" [lvObj]

def pointerType : CppType := widgetType "lv_image_t" [lvObj]

def editorParts : List String := ["main", "scrollbar", "selected", "cursor", "textarea_placeholder"]

def Kind.traits : Kind → Traits
  | .animimg =>
    { type := widgetType "lv_animimg_t" [], libraryName := "animimg", parts := ["main"]
      uses := ["img", "image", "label"] }
  | .arc => Traits.number "lv_arc_t" "arc" ["main", "indicator", "knob"]
  | .arclabel =>
    { type := widgetType "lv_arclabel_t" [], libraryName := "arclabel", parts := ["main"]
      uses := ["label"] }
  | .bar => { Traits.number "lv_bar_t" "bar" ["main", "indicator"] with animated := true }
  | .button => { Traits.boolean buttonType "btn" ["main"] with uses := ["btn"] }
  | .buttonmatrix =>
    { type := matrixType, libraryName := "buttonmatrix", parts := ["main", "items"]
      params := [⟨uint16, "x"⟩]
      reading := .methods ["get_selected"]
      uses := ["buttonmatrix"] }
  | .calendar =>
    { type := widgetType "LvCalendarType" [compound], libraryName := "calendar"
      parts := ["main", "items"]
      params := [⟨uint16, "year"⟩, ⟨uint8, "month"⟩, ⟨uint8, "day"⟩]
      reading := .methods ["get_selected_year", "get_selected_month", "get_selected_day"]
      hasValueEvent := true
      uses := ["calendar"] }
  | .canvas =>
    { type := widgetType "lv_canvas_t" [], libraryName := "canvas", parts := ["main"]
      uses := ["image", "label"] }
  | .chart =>
    { type := widgetType "lv_chart_t" [], libraryName := "chart"
      parts := ["main", "items", "indicator", "cursor", "scrollbar"]
      params := [⟨int32, "point_index"⟩]
      reading := .function "lv_chart_get_pressed_point"
      hasValueEvent := true
      uses := ["label"] }
  | .checkbox => Traits.boolean (widgetType "lv_checkbox_t" []) "checkbox" ["main", "indicator"]
  | .container => Traits.plain lvObj "container" ["main", "scrollbar"]
  | .dropdown =>
    { Traits.select "LvDropdownType" "dropdown" ["main", "indicator"] with uses := ["label"] }
  | .dropdownList =>
    Traits.plain (widgetType "lv_dropdown_list_t" []) "dropdown_list"
      ["main", "selected", "scrollbar"]
  | .image =>
    { type := widgetType "lv_img_t" [], libraryName := "image", parts := ["main"]
      uses := ["image", "label"] }
  | .imgbtn =>
    { type := widgetType "lv_imgbtn_t" [], libraryName := "imgbtn", parts := ["main"]
      uses := ["img"] }
  | .keyboard =>
    { type := keyboardType, libraryName := "keyboard", parts := ["main", "items"]
      params := [⟨stdString, "text"⟩]
      reading := .spelled "lv_textarea_get_text"
      hasValueEvent := true
      uses := ["keyboard", "textarea"] }
  | .label => Traits.text "lv_label_t" "label" ["main", "scrollbar", "selected"]
  | .led => Traits.plain (widgetType "lv_led_t" []) "led" ["main"]
  | .line => Traits.plain (widgetType "LvLineType" [compound]) "line" ["main"]
  | .list =>
    { type := ⟨"lvgl::LvCompound(\"lv_list_t\")", [compound.name], false⟩, libraryName := "list"
      parts := ["main", "scrollbar"]
      uses := ["btn", "label"] }
  | .lottie =>
    { type := widgetType "lv_lottie_t" [], libraryName := "lottie", parts := ["main"]
      uses := ["LOTTIE", "THORVG_INTERNAL", "VECTOR_GRAPHIC"] }
  | .matrixButton => Traits.boolean matrixButtonType "btnmatrix_btn" []
  | .menu =>
    { type := widgetType "lv_menu_t" [], libraryName := "menu"
      parts := ["main", "header", "sidebar"]
      uses := ["btn", "label"] }
  | .meter => Traits.plain lvObj "container" ["main", "indicator", "items"]
  | .obj => Traits.plain lvObj "obj" ["main", "scrollbar"]
  | .page => Traits.plain pageType "page" []
  | .qrcode =>
    { type := lvObj, libraryName := "qrcode", parts := ["main"]
      uses := ["canvas", "image"] }
  | .roller =>
    { Traits.select "LvRollerType" "roller" ["main", "selected"] with
      animated := true
      uses := ["label"] }
  | .scale =>
    { Traits.number "lv_scale_t" "scale" ["main", "indicator", "items"] with animated := true }
  | .slider =>
    { Traits.number "lv_slider_t" "slider" ["main", "indicator", "knob"] with animated := true }
  | .spangroup =>
    { type := widgetType "lv_spangroup_t" [], libraryName := "spangroup", parts := ["main"]
      uses := ["label"] }
  | .spinbox =>
    { Traits.number "lv_spinbox_t" "spinbox" editorParts with uses := ["textarea", "label"] }
  | .spinner =>
    { type := widgetType "lv_spinner_t" [], libraryName := "spinner"
      parts := ["main", "indicator"]
      uses := ["arc"] }
  | .svg =>
    { type := widgetType "lv_canvas_t" [], libraryName := "canvas", parts := ["main"]
      uses := ["CANVAS", "SVG", "THORVG_INTERNAL", "VECTOR_GRAPHIC"] }
  | .switch =>
    Traits.boolean (widgetType "lv_switch_t" []) "switch" ["main", "indicator", "knob"]
  | .table =>
    { type := widgetType "lv_table_t" [], libraryName := "table", parts := ["main", "items"]
      uses := ["label"] }
  | .tabview =>
    { type := widgetType "lv_tabview_t" [], libraryName := "tabview", parts := ["main"]
      params := [⟨objPointer, "tab"⟩]
      reading := .shownTab
      hasValueEvent := true
      uses := ["btnmatrix", "flex"] }
  | .tex3d =>
    { type := widgetType "lv_3dtexture_t" [], libraryName := "tex3d", parts := ["main"]
      uses := ["img"] }
  | .textarea => Traits.text "lv_textarea_t" "textarea" editorParts
  | .tile => Traits.plain tileType "lv_tileview_tile_t" ["main"]
  | .tileview =>
    { type := widgetType "lv_tileview_t" [], libraryName := "tileview"
      parts := ["main", "scrollbar"]
      params := [⟨objPointer, "tile"⟩]
      reading := .property "tile_act"
      hasValueEvent := true }
  | .win =>
    { type := widgetType "lv_win_t" [], libraryName := "win", parts := ["main", "header", "body"]
      uses := ["btn", "label"] }
  | .footerButton => Traits.boolean buttonType "button" ["main"]
  | .headerButton => Traits.boolean buttonType "button" ["main"]
  | .dial => Traits.plain scaleType "scale" ["main", "items", "indicator"]
  | .needle => Traits.plain needleType "line" ["main"]
  | .sweep => Traits.plain sweepType "arc" ["main"]
  | .pointer => Traits.plain pointerType "image" ["main"]
  | .screen => Traits.plain lvObj "lv_screen_active()" []
  | .layer => Traits.plain lvObj "obj" ["main", "scrollbar"]

/-- The name of a kind's type without the decoration of the library. -/
def Kind.typeStem (k : Kind) : String :=
  removeSuffix "_t" (removePrefix "lv_" k.traits.type.name)

/-- The part of a type's name that the library's functions for it begin with. -/
def Kind.accessStem (k : Kind) : String :=
  let name := k.traits.type.name
  if hasPrefix "Lv" name then
    lower (removeSuffix "Type" (removePrefix "Lv" name))
  else k.typeStem

end Panel
