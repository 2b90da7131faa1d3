import Panel.Kinds.Label
import Panel.Style.Create
import Panel.Code.Macro

/-! # Message boxes — boxes over a dimmed screen, with a title, a text and buttons -/

namespace Panel

open Cpp Code Schema Widget

namespace Kinds

/-- Buttons at the bottom, which have a text. -/
def footerButton : Design :=
  { Design.same fun _ => .of textFields with
    creator := some fun _ parent config => do
      let text ← required config "text"
      callOf "lv_msgbox_add_footer_button" [.cpp parent, text] }

/-- Buttons at the top, which have a picture. -/
def headerButton : Design :=
  { Design.same fun _ => .of [.required "src" Property.image.validate] with
    creator := some fun _ parent config => do
      let src ← required config "src"
      callOf "lv_msgbox_add_header_button" [.cpp parent, src] }

def messageBoxFields (g : Grammar) : List Field :=
  (style.extend
    [.generated "id" (Test.declareId lvObj),
      .required "title" styledText,
      .defaulted "body" (.str "") styledText,
      .optional "buttons" (Test.ensureList (g.container .footerButton [])),
      .optional "header_buttons" (Test.ensureList (g.container .headerButton [])),
      .defaulted "close_button" (.bool true) Property.boolean.validate,
      .optional "button_style" (parts Kind.button.traits.parts).run]).fields

def messageBox (g : Grammar) : Test := g.container .obj (messageBoxFields g)

def boxText (config : Value) (key : String) : Build Value := do
  let styled ← required config key
  Property.text.emit ((styled.get? "text").getD (.str ""))

def createFooterButton (g : Generator) (box : Expr) (button : Value) : Build Unit := do
  let _ ← g.widget .footerButton button box

def createHeaderButton (g : Generator) (box : Expr) (button : Value) : Build Unit := do
  let src ← Property.image.emit (← required button "src")
  let _ ← g.widget .headerButton (button.put "src" src) box

def onClick (obj : Expr) (handler : Closure) : Check Unit :=
  run "lv_obj_add_event_cb"
    [.cpp obj, .cpp (.closure handler), .literal "LV_EVENT_CLICKED", .cpp Expr.nullptr]

/-- Closes a message box at a click: on its own button, or anywhere. -/
def applyClosing (outer box : Widget) (hasButton : Bool) : Build Unit := do
  let handler ← Automation.closureOf [eventParam] void do
    let _ ← outer.addFlag (.literal "LV_OBJ_FLAG_HIDDEN")
    let red ← Property.color.emit (.str "red")
    outer.setStyle "bg_color" red defaultState
  if hasButton then
    let creator ← callOf "lv_msgbox_add_close_button" [.cpp box.var]
    withLocal "close_btn_" "lv_obj_t" (some (.cpp creator)) "*" fun button => do
      run "lv_obj_remove_event_cb" [.cpp button, .cpp Expr.nullptr]
      onClick button handler
  else onClick outer.var handler

def createMessageBox (g : Generator) (layer : Expr) (config : Value) : Build Unit := do
  noteUses ["flex", "button", "label", "msgbox", "btn"]
  if config.has "button_style" then
    warn "'button_style' for msgbox is deprecated - style the buttons directly."
  let id ← identAt config "id"
  let outerId := Ident.reference (some (id.text ++ "_outer")) lvObj
  let outerCreator ← callOf "lv_obj_create" [.cpp layer]
  let outerVar ← pointerTo outerId outerCreator
  let outer := { fresh outerId.text outerVar .obj config with moveToFront := true }
  outer.note
  let creator ← callOf "lv_msgbox_create" [.cpp outerVar]
  let var ← pointerTo id creator
  let box := { fresh id.text var .obj config with outer := some outer.obj }
  box.note
  let text ← boxText config "body"
  let title ← boxText config "title"
  let close ← required config "close_button"
  let full ← Property.pixelsOrPercent.emit (.float 1.0)
  run "lv_obj_set_size" [.cpp outerVar, full, full]
  let sheet ← Style.messageBackground.sheet
  outer.addStyle (.cpp sheet) defaultState
  let _ ← outer.addFlag (.literal "LV_OBJ_FLAG_HIDDEN")
  run "lv_msgbox_add_title" [.cpp var, title]
  run "lv_msgbox_add_text" [.cpp var, text]
  run "lv_obj_set_style_align" [.cpp var, .literal "LV_ALIGN_CENTER", .int 0]
  box.applyCommon config
  box.addChildren g config
  forItems (createFooterButton g var) (itemsAt config "buttons")
  forItems (createHeaderButton g var) (itemsAt config "header_buttons")
  applyClosing outer box close.truthy

def createMessageBoxes (g : Generator) (panel : Expr) (config : Value) : Build Unit := do
  let layer ← call "lv_disp_get_layer_top" [.cpp (panel.method "get_disp" [])]
  forItems (createMessageBox g layer) (itemsAt config "msgboxes")

end Kinds

end Panel
