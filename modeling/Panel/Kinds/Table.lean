import Panel.Kinds.Range

/-! # Widgets with several texts — tables, groups of spans, lists -/

namespace Panel

open Cpp Code Test Property

namespace Kinds

/-! ## Tables -/

def cellRecord : Record := .of
  [.required "row" natural, .required "column" natural,
    .required "text" text.validate]

def columnRecord : Record := .of
  [.required "id" natural, .required "width" natural]

def tableRecord : Record := .of
  [.optional "row_count" natural, .optional "column_count" natural,
    .optional "cells" (ensureList cellRecord.run),
    .optional "columns" (ensureList columnRecord.run)]

def callIfCount (function : String) (w : Widget) (config : Value) (key : String) : Build Unit :=
  match setAt? config key with
  | some v => do
    let v ← integer.emit v
    run function [.cpp w.obj, v]
  | none => pure ()

def table : Design :=
  { Design.same fun _ => tableRecord with
    options := fun _ w config => do
      needComponents ["TABLE"]
      callIfCount "lv_table_set_row_count" w config "row_count"
      callIfCount "lv_table_set_column_count" w config "column_count"
      forItems (fun column => do
        let id ← required column "id"
        let width ← required column "width"
        run "lv_table_set_column_width" [.cpp w.obj, id, width]) (itemsAt config "columns")
      forItems (fun cell => do
        let row ← required cell "row"
        let column ← required cell "column"
        let text ← text.emit (← required cell "text")
        run "lv_table_set_cell_value" [.cpp w.obj, row, column, text])
        (itemsAt config "cells") }

/-! ## Spans -/

def spanModes : List (String × String) :=
  [("FIXED", "LV_SPAN_MODE_FIXED"), ("EXPAND", "LV_SPAN_MODE_EXPAND"),
    ("BREAK", "LV_SPAN_MODE_BREAK")]

def spanDecorations : List (String × String) :=
  [("NONE", "LV_TEXT_DECOR_NONE"), ("UNDERLINE", "LV_TEXT_DECOR_UNDERLINE"),
    ("STRIKETHROUGH", "LV_TEXT_DECOR_STRIKETHROUGH")]

def mappedWord (mapping : List (String × String)) (v : Value) : Check Value :=
  match mapping.find? fun m => v.text? == some m.1 with
  | some (_, code) => pure (.literal code)
  | none => throw (.missingKey v.show)

def spanRecord : Record := .of
  [.required "text" text.validate, .optional "text_color" color.validate,
    .optional "text_font" text, .optional "text_decor" (choiceOf spanDecorations)]

def spangroupRecord : Record := .of
  [.defaulted "mode" (.str "BREAK") (choiceOf spanModes),
    .optional "spans" (ensureList spanRecord.run)]

def applySpan (w : Widget) (span : Value) : Build Unit := do
  let var ← callOf "lv_spangroup_new_span" [.cpp w.obj]
  let text ← text.emit (← required span "text")
  run "lv_span_set_text" [.cpp var, text]
  let style ← callOf "lv_span_get_style" [.cpp var]
  match span.get? "text_color" with
  | some color => do
    let color ← Property.color.emit color
    run "lv_style_set_text_color" [.cpp style, color]
  | none => pure ()
  match span.get? "text_decor" with
  | some decoration => do
    let decoration ← mappedWord spanDecorations decoration
    run "lv_style_set_text_decor" [.cpp style, decoration]
  | none => pure ()

def spangroup : Design :=
  { Design.distinct (fun _ => spangroupRecord) [] with
    options := fun _ w config => do
      needComponents ["spangroup"]
      let mode ← mappedWord spanModes (← required config "mode")
      run "lv_spangroup_set_mode" [.cpp w.obj, mode]
      forItems (applySpan w) (itemsAt config "spans") }

/-! ## Lists -/

def listItemRecord : Record := .of
  [.required "type" (lowerWord ["button", "text"]),
    .required "text" text.validate,
    .optional "src" Property.image.validate]

def listRecord : Record := .of [.optional "items" (ensureList listItemRecord.run)]

def applyListItem (w : Widget) (item : Value) : Build Unit := do
  let type ← required item "type"
  let text ← text.emit (← required item "text")
  if type.text? == some "button" then
    match item.get? "src" with
    | some src => do
      let icon ← Property.image.emit src
      run "lv_list_add_button" [.cpp w.obj, icon, text]
    | none => run "lv_list_add_button" [.cpp w.obj, .literal "NULL", text]
  else run "lv_list_add_text" [.cpp w.obj, text]

def list : Design :=
  { Design.same fun _ => listRecord with
    options := fun _ w config => do
      needComponents ["list"]
      forItems (applyListItem w) (itemsAt config "items") }

end Kinds

end Panel
