import Panel.Rule.Record
import Panel.Text.Pattern

/-! # Grids — where the widgets of a grid go -/

namespace Panel

namespace Grid

/-- The cells taken so far: row, column and number of the widget. -/
abbrev Cells := List ((Nat × Nat) × Nat)

/-- A grid: its size, and whether several widgets may share a cell. -/
structure Shape where
  rows : Nat
  columns : Nat
  shared : Bool
  deriving BEq, DecidableEq, Repr, Inhabited

def Cells.at? (cells : Cells) (row column : Nat) : Option Nat :=
  (cells.find? fun c => c.1 == (row, column)).map (·.2)

def Shape.cells (g : Shape) : List (Nat × Nat) :=
  (List.range g.rows).flatMap fun r => (List.range g.columns).map fun c => (r, c)

/-- The first cell that no widget takes. -/
def firstFree? (g : Shape) (taken : Cells) : Option (Nat × Nat) :=
  g.cells.find? fun (r, c) => (taken.at? r c).isNone

/-- An index into a list of the given size; negative ones count from its end. -/
def index? (n : Int) (size : Nat) : Option Nat :=
  if 0 ≤ n then (if n < size then some n.toNat else none)
  else if 0 ≤ n + size then some (n + size).toNat
  else none

/-- The cells that a span covers, row by row, as far as they can matter for a grid. -/
def spanned (g : Shape) (row column rowSpan columnSpan : Int) : List (Int × Int) :=
  let rowsToLookAt := min rowSpan.toNat (g.rows + row.natAbs + 1)
  let columnsToLookAt := min columnSpan.toNat (g.columns + column.natAbs + 1)
  (List.range rowsToLookAt).flatMap fun (i : Nat) =>
    (List.range columnsToLookAt).map fun (j : Nat) => (row + (i : Int), column + (j : Int))

def occupyFrom (g : Shape) (number : Nat) (outside : String) : List (Int × Int) → Cells →
    Except Failure Cells
  | [], taken => .ok taken
  | (r, c) :: rest, taken =>
    if g.rows ≤ r || g.columns ≤ c then .error (.invalid outside)
    else
      match index? r g.rows, index? c g.columns with
      | some i, some j =>
        match taken.at? i j with
        | some other =>
          if g.shared then occupyFrom g number outside rest (((i, j), number) :: taken)
          else .error (.invalid ("Cell span " ++ toString r ++ "/" ++ toString c
            ++ " already occupied by widget at index " ++ toString other))
        | none => occupyFrom g number outside rest (((i, j), number) :: taken)
      | _, _ => .error .noIndex

def occupy (g : Shape) (number : Nat) (row column rowSpan columnSpan : Int) (taken : Cells) :
    Except Failure Cells :=
  let outside := "Cell at " ++ toString row ++ "/" ++ toString column ++ " span "
    ++ toString rowSpan ++ "x" ++ toString columnSpan ++ " exceeds grid size "
    ++ toString g.rows ++ "x" ++ toString g.columns
  occupyFrom g number outside (spanned g row column rowSpan columnSpan) taken

/-! ## Widgets -/

/-- The keys of the place of a widget. -/
def rowKey : String := "grid_cell_row_pos"
def columnKey : String := "grid_cell_column_pos"
def rowSpanKey : String := "grid_cell_row_span"
def columnSpanKey : String := "grid_cell_column_span"

def numberAt (es : Entries) (key : String) : Except Failure Int :=
  match Entries.get? es key with
  | none => .error (.missingKey key)
  | some v =>
    match Test.intOf? v with
    | some n => .ok n
    | none => .error .wrongKind

def settle (g : Shape) (number : Nat) (es : Entries) (row column : Int) (taken : Cells) :
    Except Failure (Entries × Cells) := do
  let rowSpan ← numberAt es rowSpanKey
  if rowSpan ≤ 0 then return (es, taken)
  let columnSpan ← numberAt es columnSpanKey
  return (es, ← occupy g number row column rowSpan columnSpan taken)

/-- Gives one widget its place: the one it asks for, or the first free cell. -/
def place (g : Shape) (number : Nat) (es : Entries) (taken : Cells) :
    Except Failure (Entries × Cells) := do
  if Entries.has es columnKey != Entries.has es rowKey then
    throw (.invalid "Both row and column positions must be specified, or both omitted")
  let (es, row, column) ←
    if Entries.has es rowKey then do
      pure (es, ← numberAt es rowKey, ← numberAt es columnKey)
    else
      match firstFree? g taken with
      | none => throw (.invalid "No free cells available in grid layout")
      | some (r, c) =>
        pure (Entries.put (Entries.put es rowKey (.int r)) columnKey (.int c), (r : Int),
          (c : Int))
  settle g number es row column taken

/-- Gives every widget of a list its place. -/
def placeAll (g : Shape) : Nat → List Value → Cells → Except Failure (List Value)
  | _, [], _ => .ok []
  | number, .dict ((kind, .dict es) :: others) :: ws, taken => do
    let (es, taken) ← match place g number es taken with
      | .ok r => Except.ok r
      | .error e => Except.error (e.within [.key "widgets", .index number])
    return .dict ((kind, .dict es) :: others) :: (← placeAll g (number + 1) ws taken)
  | _, .dict [] :: _, _ => .error .exhausted
  | _, .dict _ :: _, _ => .error .wrongKind
  | _, _ :: _, _ => .error .noAttribute

/-! ## Layouts -/

def sizeOf? (s : String) : Option (Nat × Nat) :=
  match Text.sizePair? ['x'] s with
  | some (r, c, []) => some (r, c)
  | _ => none

def equalTracks (rows columns : Nat) : Value :=
  .dict [("type", .str "grid"),
    ("grid_rows", .list (List.replicate rows (.str "LV_GRID_FR(1)"))),
    ("grid_columns", .list (List.replicate columns (.str "LV_GRID_FR(1)")))]

def trackCount (layout : Entries) (key : String) : Except Failure Nat :=
  match Entries.get? layout key with
  | none => .error (.missingKey key)
  | some v =>
    match Test.length? v with
    | some n => .ok n
    | none => .error .wrongKind

/-- The layout of a container, a size text made into a grid of equal tracks. -/
def layoutOf (config : Entries) : Except Failure (Entries × Entries) :=
  match Entries.get? config "layout" with
  | some (.dict layout) => .ok (config, layout)
  | some v =>
    match v.text? with
    | none => .error .brokenPromise
    | some s =>
      match sizeOf? s with
      | some (rows, columns) =>
        match equalTracks rows columns with
        | .dict layout => .ok (Entries.put config "layout" (.dict layout), layout)
        | _ => .error .brokenPromise
      | none =>
        .error (.invalidAt [.key "layout"] ("Invalid grid layout format: "
          ++ (Value.dict config).show ++ ", expected 'rows x columns'"))
  | none => .error .brokenPromise

/-- The grid that a layout describes. -/
def shapeOf (layout : Entries) : Except Failure Shape := do
  match (Entries.get? layout "type").map Value.text? with
  | some (some t) => if Text.lower t != "grid" then throw .brokenPromise
  | _ => throw .noAttribute
  let shared := ((Entries.get? layout "multiple_widgets_per_cell").getD (.bool false)).truthy
  let rows ← trackCount layout "grid_rows"
  let columns ← trackCount layout "grid_columns"
  return ⟨rows, columns, shared⟩

def placeWidgets (g : Shape) (config : Entries) : Except Failure Entries :=
  match Entries.get? config "widgets" with
  | none => .ok config
  | some (.list ws) =>
    (placeAll g 0 ws []).map fun placed => Entries.put config "widgets" (.list placed)
  | some _ => .error .wrongKind

/-- The container of a grid with a place for every widget. -/
def arrange (config : Entries) : Except Failure Entries := do
  let (config, layout) ← layoutOf config
  placeWidgets (← shapeOf layout) config

end Grid

end Panel
