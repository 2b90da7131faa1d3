/-! # Kinds of widgets

    Every kind that a panel can hold, and the helper kinds that are created as parts of others. -/

namespace Panel

/-- A kind of widget. -/
inductive Kind where
  | animimg | arc | arclabel | bar | button | buttonmatrix | calendar | canvas | chart | checkbox
  | container | dropdown | dropdownList | image | imgbtn | keyboard | label | led | line | list
  | lottie | matrixButton | menu | meter | obj | page | qrcode | roller | scale | slider
  | spangroup | spinbox | spinner | svg | switch | table | tabview | tex3d | textarea | tile
  | tileview | win
  | footerButton | headerButton | dial | needle | sweep | pointer | screen | layer
  deriving BEq, DecidableEq, Repr, Inhabited

namespace Kind

def name : Kind → String
  | .animimg => "animimg" | .arc => "arc" | .arclabel => "arclabel" | .bar => "bar"
  | .button => "button" | .buttonmatrix => "buttonmatrix" | .calendar => "calendar"
  | .canvas => "canvas" | .chart => "chart" | .checkbox => "checkbox" | .container => "container"
  | .dropdown => "dropdown" | .dropdownList => "dropdown_list" | .image => "image"
  | .imgbtn => "imgbtn" | .keyboard => "keyboard" | .label => "label" | .led => "led"
  | .line => "line" | .list => "list" | .lottie => "lottie" | .matrixButton => "btnmatrix_btn"
  | .menu => "menu" | .meter => "meter" | .obj => "obj" | .page => "page" | .qrcode => "qrcode"
  | .roller => "roller" | .scale => "scale" | .slider => "slider" | .spangroup => "spangroup"
  | .spinbox => "spinbox" | .spinner => "spinner" | .svg => "svg" | .switch => "switch"
  | .table => "table" | .tabview => "tabview" | .tex3d => "tex3d" | .textarea => "textarea"
  | .tile => "lv_tileview_tile_t" | .tileview => "tileview" | .win => "win"
  | .footerButton => "button" | .headerButton => "button" | .dial => "scale"
  | .needle => "indicator" | .sweep => "indicator" | .pointer => "indicator"
  | .screen => "lv_screen_active()" | .layer => "obj"

def all : List Kind :=
  [.obj, .button, .label, .page, .animimg, .image, .arc, .arclabel, .buttonmatrix, .matrixButton,
    .calendar, .canvas, .line, .chart, .checkbox, .container, .dropdownList, .dropdown, .imgbtn,
    .keyboard, .textarea, .led, .lottie, .bar, .menu, .meter, .qrcode, .roller, .scale, .slider,
    .spangroup, .spinbox, .spinner, .svg, .switch, .table, .tabview, .tex3d, .tile, .tileview,
    .win]

def ofName? (s : String) : Option Kind :=
  all.find? (·.name == s)

end Kind

end Panel
