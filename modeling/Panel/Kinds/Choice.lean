import Panel.Kinds.Range

/-! # Widgets to choose from — drop-downs and rollers -/

namespace Panel

open Cpp Code Property Constants

namespace Kinds

/-- The option to choose, by index or by text. -/
def selectionFields : List Field :=
  [.exclusive "selected_index" "selected_text" none integer.validate,
    .exclusive "selected_text" "selected_text" none text.validate]

def choices : Test := Test.ensureList acceptOption

/-- The options of a drop-down that can always be given. -/
def dropdownBase : Record := .of
  ([.optional "symbol" text.validate] ++ selectionFields
    ++ [.optional "dropdown_list" (Schema.parts Kind.dropdownList.traits.parts).run])

def dropdownRecord : Record :=
  dropdownBase.extend
    [.required "options" choices,
      .defaulted "dir" (.str "BOTTOM") directions.oneOf.validate]

def applySelection (w : Widget) (config animation : Value) : Build Unit := do
  match config.given? "selected_index" with
  | none => pure ()
  | some v => do
    let v ← integer.emit v
    runMethod w.var "set_selected_index" [v, animation]
  match config.given? "selected_text" with
  | none => pure ()
  | some v => do
    let v ← text.emit v
    runMethod w.var "set_selected_text" [v, animation]

def dropdown : Design :=
  { Design.distinct (fun _ => dropdownRecord)
      (dropdownBase.extend
        [.optional "options" choices,
          .optional "dir" directions.oneOf.validate]).fields with
    options := fun _ w config => do
      needComponents ["dropdown"]
      match setAt? config "options" with
      | some options => runMethod w.var "set_options" [options]
      | none => pure ()
      match setAt? config "symbol" with
      | some symbol => do
        let symbol ← text.emit symbol
        run "lv_dropdown_set_symbol" [.cpp (w.var.member "obj"), symbol]
      | none => pure ()
      applySelection w config (.literal "LV_ANIM_OFF")
      match setAt? config "dir" with
      | some direction => run "lv_dropdown_set_dir" [.cpp w.obj, literal direction]
      | none => pure ()
      match setAt? config "dropdown_list" with
      | some list => do
        let inner ← callOf "lv_dropdown_get_list" [.cpp w.obj]
        withLocal "dropdown_list" "lv_obj_t" (some (.cpp inner)) "*" fun var =>
          (Widget.fresh "" var .dropdownList list).applyCommon list
      | none => pure () }

/-! ## Rollers -/

/-- The options of a roller that can always be given. -/
def rollerBase : Record := .of
  (selectionFields
    ++ [.optional "visible_row_count" integer.validate,
      .optional "mode" rollerModes.oneOf.validate])

def roller : Design :=
  { Design.distinct (fun _ => rollerBase.extend [.required "options" choices])
      (rollerBase.extend
        [.defaulted "animated" (.bool true) acceptAnimated,
          .optional "options" choices]).fields with
    options := fun _ w config => do
      needComponents ["roller"]
      match setAt? config "mode" with
      | some mode => do
        let mode ← rollerModes.oneOf.emit mode
        runMethod w.var "set_mode" [mode]
      | none => pure ()
      match setAt? config "options" with
      | some options => runMethod w.var "set_options" [options]
      | none => pure ()
      applySelection w config
        (literal ((config.get? "animated").getD (.str "LV_ANIM_OFF")))
      propertyFor w config integer "visible_row_count" }

end Kinds

end Panel
