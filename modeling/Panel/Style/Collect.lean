import Panel.Schema.Style

/-! # Collected styles — what a configuration sets, by part and state -/

namespace Panel

open Test Constants

namespace Style

def allStyles : List (String × Property) :=
  Schema.styleProperties ++
    [("grid_cell_row_pos", .unmapped natural), ("grid_cell_column_pos", .unmapped natural),
      ("grid_cell_row_span", .unmapped natural),
      ("grid_cell_column_span", .unmapped natural),
      ("grid_cell_x_align", Schema.gridAlignment), ("grid_cell_y_align", Schema.gridAlignment),
      ("flex_grow", .unmapped integer), ("pad_row", .padding), ("pad_column", .padding)]

def styleNames : List String := allStyles.map (·.1)

def property? (name : String) : Option Property :=
  (allStyles.find? (·.1 == name)).map (·.2)

def valueAt (config : Value) (key : String) : Check Value :=
  match config with
  | .dict es =>
    match Entries.get? es key with
    | some v => pure v
    | none => throw (.missingKey key)
  | .cpp (.object e a) => pure (.cpp ((Cpp.Expr.object e a).index (.raw key)))
  | _ => throw .wrongKind

/-- The entries of a configuration among the given keys, in the order of the keys. -/
def among (config : Value) : List String → Check Entries
  | [] => pure []
  | key :: keys => do
    if ← contains config key then
      let v ← valueAt config key
      return (key, v) :: (← among config keys)
    else among config keys

def collectedNames : List String := styleNames ++ flags ++ ["styles", "group"]

def collectProps (config : Value) : Check Entries := among config collectedNames

/-- Puts an item under a name: in place if the name is there, else at the end. -/
def putNamed {α : Type} : List (String × α) → String → α → List (String × α)
  | [], name, a => [(name, a)]
  | (n, b) :: rest, name, a =>
    if n == name then (n, a) :: rest else (n, b) :: putNamed rest name a

def collectUnder {α : Type} (collect : Value → Check α) (config : Value) :
    List String → List (String × α) → Check (List (String × α))
  | [], found => pure found
  | name :: names, found => do
    if ← contains config name then
      let a ← collect (← valueAt config name)
      collectUnder collect config names (putNamed found name a)
    else collectUnder collect config names found

def collectStates (config : Value) : Check (List (String × Entries)) := do
  collectUnder collectProps config states [("default", ← collectProps config)]

/-- The properties that a configuration gives for every part and state. -/
def collectParts (config : Value) : Check (List (String × List (String × Entries))) := do
  collectUnder collectStates config parts [("main", ← collectStates config)]

end Style

end Panel
