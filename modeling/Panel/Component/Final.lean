import Panel.Component.Rule
import Panel.Naming
import Panel.Code.Macro

/-! # Final validation — rules that need the whole configuration -/

namespace Panel

open Cpp Kinds

namespace Component

/-! ## Several panels -/

def displaysOf (config : Value) : Check (List Value) := do
  match ← required config "displays" with
  | .list xs => return xs
  | _ => throw .wrongKind

/-- An input device of one of several panels needs a group of its own. -/
def checkGroups (config : Value) : Check Unit :=
  ["encoders", "keypads"].forM fun item =>
    (itemsAt config item).forM fun device => do
      if !(← Test.contains device "group") then
        refuse ("'" ++ item ++ "' must have an explicit group set when using multiple LVGL "
          ++ "instances")

/-- Options that several panels must have in common. -/
def sharedOptions : List String := ["log_level", "color_depth", "byte_order", "transparency_key"]

/-- Options of a panel must be those of the first. -/
def checkShared (first config : Value) : Check Unit :=
  sharedOptions.forM fun item => do
    if !Value.same (← required first item) (← required config item) then
      refuse ("Config item '" ++ item ++ "' must be the same for all LVGL instances")

/-- What several panels must have in common. -/
def checkSeveral (configs : List Value) : Check Unit := do
  let shown ← configs.mapM displaysOf
  if !distinctNames shown.flatten then
    refuse "A display ID may be used in only one LVGL instance"
  configs.forM checkGroups
  match configs with
  | [] => throw .noIndex
  | first :: rest => rest.forM (checkShared first)

/-! ## References -/

/-- The options of what an identifier declares, and the place of its name. -/
def optionsOf (declared : List Found) (id : Ident) : Check (Value × List Step) := do
  let path ← Naming.placeOf declared id
  let config := (← get).config
  return (Naming.valueAt (.dict config) path.dropLast, path)

/-- A display must leave the drawing to the panel; the answer is the rounding that it needs. -/
def checkDisplay (declared : List Found) (rounding : Value) (v : Value) : Check Value := do
  match v with
  | .ident id =>
    let (display, _) ← optionsOf declared id
    if (← Test.contains display "lambda") || (← Test.contains display "pages") then
      refuse "Using lambda: or pages: in display config is not compatible with LVGL"
    match display.get? "auto_clear_enabled" with
    | some (.bool true) =>
      refuse "Using auto_clear_enabled: true in display config not compatible with LVGL"
    | _ => pure ()
    match setAt? display "draw_rounding" with
    | some own => return if ← Value.isBelow own rounding then rounding else own
    | none => return rounding
  | _ => throw .noAttribute

def checkDisplays (declared : List Found) : List Value → Value → Check Value
  | [], rounding => pure rounding
  | v :: vs, rounding => do
    let rounding ← checkDisplay declared rounding v
    checkDisplays declared vs rounding

/-- A picture must have a type that the library can draw. -/
def checkPicture (declared : List Found) (id : Ident) : Check Unit := do
  let (options, path) ← optionsOf declared id
  let type ← required options "type"
  if ["RGBA", "RGB24"].contains type.show then
    throw (.invalidAt path.dropLast "Using RGBA or RGB24 in image config not compatible with LVGL")

/-- A widget that gets the focus must be adjustable, if it can be so. -/
def checkFocused (declared : List Found) (id : Ident) : Check Unit := do
  let (options, path) ← optionsOf declared id
  match options.get? "adjustable" with
  | some v =>
    if !v.truthy then throw (.invalidAt path "A non adjustable arc may not be focused")
  | none => pure ()

/-- A widget that is refreshed must have something that can change. -/
def checkRefreshed (declared : List Found) (id : Ident) : Check Unit := do
  let (options, _) ← optionsOf declared id
  if !(options.entries?.getD []).any fun e => Automation.isDynamic e.2 then
    refuse ("Widget '" ++ id.text ++ "' does not have any dynamic properties to refresh")

/-- An update must fit the widgets that it names. -/
def checkUpdate (declared : List Found) (kind : Kind) (update : Value) : Check Unit :=
  (itemsAt update "id").forM fun entry => do
    match ← required entry "id" with
    | .ident id =>
      let (options, path) ← optionsOf declared id
      if kind == .button then checkButtonUpdate update options (path.drop 1)
    | _ => throw .noAttribute

/-! ## The whole -/

/-- Half of a screen or more needs memory that not every chip has. -/
def checkMemory (config : Value) : Check Unit := do
  let s ← get
  let isLarge ← Value.isBelow (.float 0.5) (← required config "buffer_size")
  if s.platform == "esp32" && isLarge && !Entries.has s.config "psram" then
    Code.logWarning "buffer_size: may need to be reduced without PSRAM"

def checkPages (config : Value) : Check Unit := do
  match itemsAt config "pages" with
  | [] => pure ()
  | pages => do
    let skips ← pages.mapM fun p => required p "skip"
    if skips.all Value.truthy then refuse "At least one page must not be skipped"

/-- Checks a panel; the answer is the panel with the rounding of its displays. -/
def checkPanel (declared : List Found) (config : Value) : Check Value := do
  checkPages config
  let shown ← displaysOf config
  let rounding := (config.get? "draw_rounding").getD .null
  let needed ← checkDisplays declared shown rounding
  checkMemory config
  let s ← get
  s.imagesUsed.forM (checkPicture declared)
  s.focused.forM (checkFocused declared)
  s.refreshed.forM (checkRefreshed declared)
  s.updated.forM fun (kind, updates) => updates.forM (checkUpdate declared kind)
  return if config.has "draw_rounding" then config.put "draw_rounding" needed else config

def finalCheck (declared : List Found) (configs : List Value) : Check (List Value) := do
  if configs.length != 1 then checkSeveral configs
  configs.mapM (checkPanel declared)

end Component

end Panel
