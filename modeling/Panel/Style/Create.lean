import Panel.Style.Collect
import Panel.Code.Program

/-! # Styles as objects — style sheets of the program that widgets share -/

namespace Panel

open Cpp

namespace Style

/-- A value of a style as code; several words are joined. -/
def sheetValue (v : Value) : Check Value :=
  match v with
  | .list xs =>
    match xs.mapM Value.text? with
    | some words => pure (.literal (String.intercalate "|" words))
    | none => throw .wrongKind
  | other => pure (Property.literal other)

def applyAll (sheet : Expr) (style : Value) : List (String × Property) → Build Unit
  | [] => pure ()
  | (name, p) :: rest => do
    match style.given? name with
    | none => pure ()
    | some v => do
      let v ← sheetValue (← p.emit v)
      let name ← currentProperty name
      Code.run ("lv_style_set_" ++ name) [.cpp sheet, v]
    applyAll sheet style rest

def apply (sheet : Expr) (style : Value) : Build Unit := do
  if !style.isDict then throw .noAttribute
  applyAll sheet style allStyles

def create (name : String) (style : Value) : Build Expr := do
  let sheet ← Code.newObject (Ident.declaration (some name) lvStyle) []
  Code.run "lv_style_init" [.cpp sheet]
  if style.truthy then apply sheet style
  return sheet

/-- A sheet that is made at its first use. -/
structure Named where
  name : String
  style : Value

def Named.sheet (n : Named) : Build Expr := do
  match (← get).namedStyles.find? (·.1 == n.name) with
  | some (_, sheet) => return sheet
  | none => do
    let sheet ← create (n.name ++ "_style") n.style
    modify fun s => { s with namedStyles := s.namedStyles ++ [(n.name, sheet)] }
    return sheet

def messageBackground : Named :=
  ⟨"msgbox_outer", .dict
    [("bg_opa", .int 128), ("bg_color", .str "black"), ("border_width", .int 0),
      ("pad_all", .int 0), ("radius", .int 0)]⟩

def lightMeter : Named :=
  ⟨"lv_meter_light", .dict
    [("bg_opa", .float 1.0), ("bg_color", .int 0xEEEEEE), ("line_width", .int 1),
      ("line_color", .int 0xEEEEEE), ("arc_width", .int 2), ("arc_color", .int 0xEEEEEE),
      ("pad_all", .int 10), ("border_width", .int 2), ("border_color", .int 0xEEEEEE),
      ("radius", .str "LV_RADIUS_CIRCLE")]⟩

def setsAny (config : Value) : Check Bool := do
  for name in styleNames do
    if ← Test.contains config name then return true
  return false

end Style

end Panel
