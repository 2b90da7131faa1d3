import Panel.Widget.Design
import Panel.Number

/-! # Widgets that show a text — labels, buttons, check boxes, texts along an arc, text areas -/

namespace Panel

open Cpp Code Property Schema Design

namespace Kinds

/-! ## Labels -/

def labelFields : List Field :=
  textFields
    ++ [.optional "recolor" boolean.validate,
      .optional "long_mode" Constants.longModes.oneOf.validate]

def label : Design :=
  { same fun _ => .of labelFields with
    options := fun _ w config => do
      match setAt? config "text" with
      | some v => w.setProperty "text" (← text.emit v) {}
      | none => pure ()
      w.setOption "long_mode" config none {}
      w.setOption "recolor" config none {} }

/-! ## Buttons -/

/-- A button has a text or widgets, not both. -/
def prepareButton : Test := fun v => do
  if ← Test.contains v "text" then
    if ← Test.contains v "widgets" then refuse "Cannot use both text and widgets in a button"
    noteUses ["label"]
  return v

/-- Writes the text of a button, which is a label inside it; the label has no name. -/
def buttonOptions (w : Widget) (config : Value) : Build Unit := do
  match setAt? config "text" with
  | none => pure ()
  | some text => do
    let child ← callOf "lv_obj_get_child" [.cpp w.obj, .int 0]
    let inner := Widget.fresh "" child .label .null
    inner.note
    inner.setProperty "text" (← Property.text.emit text) {}

def button : Design :=
  { same fun _ => .of textFields with
    prepare := prepareButton
    created := fun _ var config =>
      if config.has "text" then run "lv_label_create" [.cpp var] else pure ()
    options := fun _ w config => buttonOptions w config }

def checkButtonUpdate (update config : Value) (path : List Step) : Check Unit := do
  if update.has "text" && !config.has "text" then
    throw (.invalidAt path "Button must have 'text:' configured to allow updating text")

/-! ## Check boxes -/

def checkbox : Design :=
  { same fun _ => .of
      (textFields ++ [.optional "pad_column" padding.validate]) with
    options := fun _ w config => callFor "lv_checkbox_set_text" w config "text" text }

/-! ## Texts along an arc -/

def arclabelRecord : Record := .of
  [.required "text" text.validate,
    .defaulted "radius" (.int 100) pixels.validate,
    .defaulted "start_angle" (.int 0) degrees.validate,
    .defaulted "end_angle" (.int 360) degrees.validate,
    .defaulted "rotation" (.int 0) degrees.validate]

/-- The angle that an arc covers, a full turn if it would be nothing. -/
def arcSize (start stop : Value) : Check Value := do
  let size ← stop.minus start
  if ← size.atMost (.int 0) then size.plus (.int 360) else return size

def arclabelOptions (w : Widget) (config : Value) : Build Unit := do
  needComponents ["arclabel"]
  let obj := Value.cpp w.obj
  let text ← required config "text"
  run "lv_arclabel_set_text" [obj, ← Property.text.emit text]
  let radius ← pixels.emit ((config.get? "radius").getD (.int 100))
  run "lv_arclabel_set_radius" [obj, radius]
  let start := (config.get? "start_angle").getD (.int 0)
  run "lv_arclabel_set_angle_start" [obj, start]
  let size ← arcSize start ((config.get? "end_angle").getD (.int 360))
  run "lv_arclabel_set_angle_size" [obj, size]
  run "lv_arclabel_set_offset" [obj, (config.get? "rotation").getD (.int 0)]
  let side ← (← radius.multiply (.int 2)).plus (.int 40)
  run "lv_obj_set_size" [obj, side, side]

def updateArclabel (w : Widget) (config : Value) : Build Unit := do
  match config.get? "text" with
  | some text => run "lv_arclabel_set_text" [.cpp w.obj, ← Property.text.emit text]
  | none => pure ()

def arclabel : Design :=
  { distinct (fun _ => arclabelRecord) [.optional "text" text.validate] with
    options := fun _ w config => arclabelOptions w config }

/-! ## Text areas -/

def textareaFields : List Field :=
  textFields
    ++ [.optional "placeholder_text" text.validate,
      .optional "accepted_chars" text.validate,
      .optional "one_line" boolean.validate,
      .optional "password_mode" boolean.validate,
      .optional "max_length" integer.validate]

def propertyFor (w : Widget) (config : Value) (p : Property) (key : String) : Build Unit := do
  match config.given? key with
  | none => pure ()
  | some v => w.setProperty key (← p.emit v) {}

def textarea : Design :=
  { same fun _ => .of textareaFields with
    options := fun _ w config => do
      propertyFor w config text "text"
      propertyFor w config text "placeholder_text"
      propertyFor w config text "accepted_chars"
      propertyFor w config integer "max_length"
      propertyFor w config boolean "password_mode"
      propertyFor w config boolean "one_line" }

end Kinds

end Panel
