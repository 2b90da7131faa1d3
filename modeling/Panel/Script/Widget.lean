import Panel.Script.Word
import Panel.Registry

/-! # Scripts for widgets — what a single widget can be asked and told -/

namespace Panel.Script

open Cpp Widget

def shownWidget (w : Widget) : Value := .tag "$widget" (rendered w.var)

def pathStep : Value → Step
  | .str key => .key key
  | v => .index (whole v).toNat

def writeOptions (w : Widget) (config : Value) : Build Value := do
  w.kind.design.options (Generator.ofValue config) w config
  return .null

def kind (w : Widget) : Command → Build Value
  | [.str "name"] => return .str w.kind.name
  | [.str "lv_name"] => return .str w.kind.traits.libraryName
  | [.str "animated"] => return .bool w.kind.traits.animated
  | [.str "required_component"] => return .null
  | [.str "parts"] => return Report.texts w.kind.traits.parts
  | [.str "w_type"] => return raw w.kind.traits.type.name
  | [.str "get_uses"] => return Report.texts w.kind.traits.uses
  | [.str "is_compound"] => return .bool w.kind.traits.isCompound
  | [.str "get_max", config] => w.kind.largest config
  | [.str "get_min", config] => w.kind.smallest config
  | [.str "get_step", config] => w.kind.step config
  | [.str "get_scale", config] => w.kind.scaleOf config
  | [.str "validate", config] => w.kind.design.prepare config
  | [.str "final_validate", _, update, config, path] => do
    if w.kind == .button then
      Kinds.checkButtonUpdate update config ((items path).map pathStep)
    return .null
  | [.str "to_code_update", _, config] => do
    if w.kind != .arclabel then throw .noAttribute
    Kinds.updateArclabel w config
    return .null
  | [.str "to_code", _, config] => writeOptions w config
  | _ => throw .noAttribute

/-- How a property is set: what animates it, and another name to build on. -/
def mannerOf (options : Value) : Widget.Manner :=
  { animated := given? (member options "animated"), base := (member options "lv_name").text? }

def stateOf (rest : List Value) : Value := rest.headD defaultState

def widget (w : Widget) : Command → Build Value
  | .str "set_property" :: .str name :: v :: rest => do
    w.setProperty name v (mannerOf (rest.headD .null))
    return .null
  | [.str "to_code", config] => writeOptions w config
  | [.str "create", config] => do
    let made ← (Generator.ofValue config).widget w.kind config (Expr.named "parent")
    return (made.map shownWidget).getD .null
  | [.str "properties", config] => do
    w.applyCommon config
    return .null
  | .str "type" :: rest => kind w rest
  | [.str "str"] => return .list [rendered w.var, rendered w.obj]
  | .str "widgets" :: config :: rest => do
    let ws ← targets config (word (rest.headD (.str "id")))
    return .list (ws.map shownWidget)
  | [.str "get_args"] => return paramRows w.kind.traits.params
  | [.str "completed", v] => do
    modify fun s => { s with completed := isTrue v }
    return .null
  | [.str "add_state", v] => return .cpp (← w.addState v)
  | [.str "clear_state", v] => return .cpp (← w.clearState v)
  | [.str "has_state", v] => return .cpp (← w.hasState v)
  | [.str "is_pressed"] => return .cpp (← w.isPressed)
  | [.str "is_checked"] => return .cpp (← w.isChecked)
  | [.str "is_selected"] => return (w.isSelected?.map Value.cpp).getD .null
  | [.str "add_flag", v] => return .cpp (← w.addFlag v)
  | [.str "clear_flag", v] => return .cpp (← w.clearFlag v)
  | .str "add_style" :: style :: rest => do
    w.addStyle style (stateOf rest)
    return .null
  | .str "set_style" :: .str name :: v :: rest => do
    w.setStyle name v (stateOf rest)
    return .null
  | .str "get_property" :: .str name :: rest =>
    return .cpp (w.property name ((rest.headD .null).text?.filter (· != "")))
  | [.str "get_value"] => return .cpp (← w.value)
  | [.str "get_values"] => return .list ((← w.values).map Value.cpp)
  | [.str "get_number_value"] => return .cpp (← w.number)
  | [.str "get_scale"] => w.kind.scaleOf w.config
  | [.str "check_null"] => if w.cell.isNone then throw .noAttribute else return .null
  | [.str "map_ctrls", v] => if w.cell.isNone then throw .noAttribute else controlOf v
  | _ => throw .noAttribute

def linesOf (block : Nat) (s : Session) : List String :=
  match ((Code.context block).on s).1 with
  | .ok c => Code.Context.lines c
  | .error _ => []

/-- Runs a step on the widget of a key inside a block; gives the lines that it adds, too. -/
def widgetStep (block : Nat) (fallback : Widget) (key : String) (c : Command) (s : Session) :
    Except Failure Value × List String × Session :=
  let w := (find? s key).getD fallback
  let (r, t) := (widget w c).now { s with current := some block }
  (r, ((linesOf block t).drop (linesOf block s).length).map Text.trimRight, t)

end Panel.Script
