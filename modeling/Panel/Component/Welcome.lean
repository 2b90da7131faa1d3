import Panel.Value

/-! # The welcome page — what a panel shows that has neither widgets nor pages -/

namespace Panel

namespace Welcome

def widget (kind : String) (options : Entries) : Value := .dict [(kind, .dict options)]

def text (s : String) : Value := .str s

def setLabel (v : Value) : Value :=
  .dict [("lvgl.label.update", .dict [("id", text "hello_world_label_"), ("text", v)])]

def refresh (id : String) : Value := .dict [("lvgl.widget.refresh", text id)]

def flex (flow cross track main : String) : Value := .dict
  [("type", text "flex"), ("flex_flow", text flow), ("flex_align_cross", text cross),
    ("flex_align_track", text track), ("flex_align_main", text main)]

def button : Value := widget "button"
  [("checkable", .bool true), ("radius", .int 4), ("text_font", text "montserrat_20"),
    ("on_click", setLabel (text "Clicked!")),
    ("widgets", .list [widget "label" [("text", text "Button")]])]

/-- The title, which needs a wide screen. -/
def title : Value := widget "label"
  [("id", text "hello_world_title_"), ("text", text "ESPHome"),
    ("text_font", text "montserrat_20"), ("width", text "100%"), ("text_align", text "center"),
    ("on_boot", refresh "hello_world_title_"),
    ("hidden", .lambda "return lv_obj_get_width(lv_scr_act()) < 400;")]

def checkbox : Value := widget "checkbox"
  [("text", text "Checkbox"), ("id", text "hello_world_checkbox_"),
    ("on_boot", refresh "hello_world_checkbox_"),
    ("hidden", .lambda "return lv_obj_get_width(lv_scr_act()) < 240;"),
    ("on_click", setLabel (text "Checked!"))]

def topRow : Value := widget "obj"
  [("align", text "top_mid"), ("outline_width", .int 0), ("border_width", .int 0),
    ("pad_all", .int 4), ("scrollable", .bool false), ("height", text "size_content"),
    ("width", text "100%"), ("layout", flex "row" "center" "start" "space_between"),
    ("widgets", .list [button, title, checkbox])]

def spinner : Value := widget "spinner"
  [("id", text "hello_world_spinner_"),
    ("indicator", .dict [("arc_color", text "tomato")]), ("height", .int 100),
    ("width", .int 100), ("spin_time", text "2s"), ("arc_length", text "60deg"),
    ("widgets", .list [widget "label"
      [("id", text "hello_world_label_"), ("text", text "Hello World!"),
        ("align", text "center")]])]

def code : Value := widget "obj"
  [("id", text "hello_world_qrcode_"), ("outline_width", .int 0), ("border_width", .int 0),
    ("hidden", .lambda ("return lv_obj_get_width(lv_scr_act()) < 300 && "
      ++ "lv_obj_get_height(lv_scr_act()) < 400;")),
    ("widgets", .list
      [widget "label"
          [("text_font", text "montserrat_14"), ("text", text "esphome.io"),
            ("align", text "top_mid")],
        widget "qrcode"
          [("text", text "https://esphome.io"), ("size", .int 80), ("align", text "bottom_mid"),
            ("on_boot", refresh "hello_world_qrcode_")]])]

def middle : Value := widget "obj"
  [("id", text "hello_world_container_"), ("align", text "center"), ("y", .int 14),
    ("pad_all", .int 0), ("outline_width", .int 0), ("border_width", .int 0),
    ("width", text "100%"), ("height", text "size_content"), ("scrollable", .bool false),
    ("on_click", .dict [("lvgl.spinner.update", .dict
      [("id", text "hello_world_spinner_"), ("arc_color", text "springgreen")])]),
    ("layout", flex "row_wrap" "center" "center" "space_evenly"),
    ("widgets", .list [spinner, code])]

def slider : Value := widget "slider"
  [("width", text "80%"), ("align", text "bottom_mid"),
    ("on_value", setLabel (.dict [("format", text "%.0f%%"), ("args", .list [text "x"])]))]

def page : Value := .list [widget "obj"
  [("id", text "hello_world_card_"), ("pad_all", .int 12), ("bg_color", text "white"),
    ("height", text "100%"), ("width", text "100%"), ("scrollable", .bool false),
    ("widgets", .list [topRow, middle, slider])]]

end Welcome

end Panel
