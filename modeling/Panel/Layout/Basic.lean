import Panel.Layout.Grid
import Panel.Schema.Style

/-! # Layouts — how a container arranges its widgets -/

namespace Panel

open Cpp Property Test Text Constants

/-- The fields that a container adds to its children. -/
inductive ChildFields where
  | fixed (fields : List Field)
  /-- The fields of flexible children, as they stand when a child is checked. -/
  | flexible

/-- A way to arrange widgets. -/
inductive Layout where
  | flex
  | grid
  | horizontal
  | vertical
  | none
  deriving BEq, DecidableEq, Repr, Inhabited

/-- The rule of a layout option: fields of a dictionary, or a test. -/
inductive LayoutRule where
  | fields (fs : List Field)
  | test (t : Test)

namespace LayoutRule

def run : LayoutRule → Test
  | .fields fs => (Record.of fs).run
  | .test t => t

end LayoutRule

namespace Layout

def name : Layout → String
  | .flex => "flex"
  | .grid => "grid"
  | .horizontal => "horizontal"
  | .vertical => "vertical"
  | .none => "none"

def flexFields : List Field :=
  [.required "type" (lowerWord ["flex"]),
    .defaulted "flex_flow" (.str "row_wrap") flexFlows.oneOf.validate,
    .defaulted "flex_align_main" (.str "start") flexAlignments.oneOf.validate,
    .defaulted "flex_align_cross" (.str "start") flexCrossAlignments.oneOf.validate,
    .defaulted "flex_align_track" (.str "start") flexAlignments.oneOf.validate,
    .optional "pad_row" padding.validate,
    .optional "pad_column" padding.validate,
    .optional "flex_grow" integer]

/-- A dimension that children fill unless they say otherwise. -/
def fullSize (dimension : String) : Field :=
  .defaulted dimension (.str "100%") size.validate

def flexibleChild (s : Session) : List Field :=
  .optional "flex_grow" integer :: s.stretched.map fullSize

/-- The fields that stand for child fields in a session. -/
def childFields (s : Session) : ChildFields → List Field
  | .fixed fs => fs
  | .flexible => flexibleChild s

/-- Free space in a grid, shared by parts. -/
def freeSpace : Test := fun v => do
  let s := upper v.show
  if hasPrefix "FR(" s && hasSuffix ")" s then
    let n ← natural (.str (removePrefix "FR(" (removeSuffix ")" s)))
    return .str ("LV_GRID_FR(" ++ n.show ++ ")")
  else refuse "must be a size in pixels, CONTENT or FR(nn)"

def gridContent : Constant := .of "LV_GRID_" ["CONTENT"]

def track : Test :=
  anyOf [size.validate, gridContent.oneOf.validate, freeSpace]

def gridFields : List Field :=
  [.required "type" (lowerWord ["grid"]),
    .required "grid_rows" (listOf track),
    .required "grid_columns" (listOf track),
    .optional "grid_column_align" Schema.gridAlignment.validate,
    .optional "grid_row_align" Schema.gridAlignment.validate,
    .optional "pad_row" padding.validate,
    .optional "pad_column" padding.validate,
    .defaulted "multiple_widgets_per_cell" (.bool false) boolean]

def cellFields (align : Option String) : List Field :=
  let alignment (key : String) : Field :=
    ⟨key, .optional, align.map .str, Schema.gridAlignment.validate⟩
  [.optional "grid_cell_row_pos" natural,
    .optional "grid_cell_column_pos" natural,
    .defaulted "grid_cell_row_span" (.int 1) natural,
    .defaulted "grid_cell_column_span" (.int 1) natural,
    alignment "grid_cell_x_align", alignment "grid_cell_y_align"]

/-- The text of a value that has one, in lower case. -/
def loweredText (v : Option Value) : Check String :=
  match v.bind Value.text? with
  | some s => pure (lower s)
  | Option.none => throw .noAttribute

/-- Does a layout ask for children that are stretched across the flow? -/
def asksStretch (layout : Entries) : Bool :=
  match Entries.get? layout "flex_align_cross" with
  | some v => v.isObject || v.text? == some "LV_FLEX_ALIGN_STRETCH"
  | Option.none => false

def shareOf (layout : Entries) : Value := (Entries.get? layout "flex_grow").getD .null

def across (flow : String) : String :=
  if hasPart "COLUMN" (upper flow) then "width" else "height"

def crossSize (layout : Entries) : Check String :=
  match Entries.get? layout "flex_flow" with
  | Option.none => throw (.missingKey "flex_flow")
  | some v =>
    match v.text? with
    | Option.none => throw .noAttribute
    | some flow => pure (across flow)

def stretch (dimension : String) : Check Unit :=
  modify fun s => { s with stretched := addTo s.stretched dimension }

/-- The fields of the children of a flexible layout; stretching children across the flow changes
    the fields of all flexible children from then on. -/
def flexChildren (layout : Entries) : Check ChildFields :=
  if asksStretch layout then do
    let dimension ← crossSize layout
    if (shareOf layout).truthy then
      return .fixed [.defaulted "flex_grow" (shareOf layout) integer, fullSize dimension]
    else
      stretch dimension
      return .flexible
  else if (shareOf layout).truthy then
    return .fixed [.defaulted "flex_grow" (shareOf layout) integer]
  else return .flexible

def directionRules (self : Layout) (cross : String) (config : Value) :
    Check (Option LayoutRule × ChildFields) := do
  match (config.get? "layout").bind Value.text? with
  | Option.none => return (Option.none, .fixed [])
  | some s =>
    if lower s != self.name then return (Option.none, .fixed [])
    else return (some (.test (lowerWord [self.name])),
      .fixed [.defaulted "flex_grow" (.int 1) integer, fullSize cross])

/-- The rule for the layout option and the fields that each child gets; no rule if the option asks
    for another layout. -/
def rules (self : Layout) (config : Value) : Check (Option LayoutRule × ChildFields) := do
  match self with
  | .none => return (Option.none, .fixed [])
  | .flex =>
    match config.get? "layout" with
    | some (.dict layout) =>
      if (← loweredText (Entries.get? layout "type")) != "flex" then
        return (Option.none, .fixed [])
      else return (some (.fields flexFields), ← flexChildren layout)
    | _ => return (Option.none, .fixed [])
  | .grid =>
    match config.get? "layout" with
    | some (.dict layout) =>
      if (← loweredText (Entries.get? layout "type")) != "grid" then
        return (Option.none, .fixed [])
      else return (some (.fields gridFields), .fixed (cellFields Option.none))
    | some v =>
      match v.text?.bind Grid.sizeOf? with
      | some _ => return (some (.test text), .fixed (cellFields (some "center")))
      | Option.none => return (Option.none, .fixed [])
    | Option.none => return (Option.none, .fixed [])
  | .horizontal => directionRules self "height" config
  | .vertical => directionRules self "width" config

/-- The flexible layout that a direction stands for. -/
def directionLayout (flow : String) (padAll : Value) : Value :=
  let gaps := if padAll.truthy then [("pad_row", padAll), ("pad_column", padAll)] else []
  .dict ([("flex_align_main", .str "LV_FLEX_ALIGN_SPACE_EVENLY"),
    ("flex_align_track", .str "LV_FLEX_ALIGN_CENTER"),
    ("flex_align_cross", .str "LV_FLEX_ALIGN_CENTER"), ("type", .str "flex"),
    ("flex_flow", .str ("LV_FLEX_FLOW_" ++ flow))] ++ gaps)

/-- A container whose layout is named by a direction. -/
def finishDirection (self : Layout) (flow : String) (config : Value) : Check Value := do
  match ← required config "layout" with
  | v =>
    if (← loweredText (some v)) != self.name then throw .brokenPromise
    return config.put "layout"
      (directionLayout flow ((config.get? "pad_all").getD .null))

/-- A container once its children are accepted. -/
def finish (self : Layout) (config : Value) : Check Value := do
  match self with
  | .none => return config
  | .flex => return config
  | .grid =>
    match config with
    | .dict es =>
      match Grid.arrange es with
      | .ok done => return .dict done
      | .error e => throw e
    | _ => throw .noAttribute
  | .horizontal => finishDirection self "ROW" config
  | .vertical => finishDirection self "COLUMN" config

def tried : List Layout := [.flex, .grid, .horizontal, .vertical]

/-- The first layout that has rules for a container. -/
def choose (config : Value) : List Layout → Check (Option (Layout × LayoutRule × ChildFields))
  | [] => pure Option.none
  | l :: ls => do
    match ← l.rules config with
    | (some rule, children) => return some (l, rule, children)
    | (Option.none, _) => choose config ls

end Layout

/-- The rule of a container: its own fields, and those for a layout and widgets if it has them. -/
def withLayout (widgets : ChildFields → Test) (r : Record) (config : Value) : Check Record := do
  if !(← contains config "widgets") then
    if ← contains config "layout" then
      match config with
      | .dict _ =>
        let shown := ((config.get? "layout").getD .null).show
        throw (.invalidAt [.key "layout"] ("Layout " ++ shown ++ " requires a widgets key"))
      | _ => throw .wrongKind
    return r
  if !(← contains config "layout") then
    return r.extend [.optional "widgets" (widgets (.fixed []))]
  let layout ← match config with
    | .dict _ => pure ((config.get? "layout").getD .null)
    | .cpp (.object _ _) => pure config
    | _ => throw .wrongKind
  match layout with
  | .dict es =>
    if !((Entries.get? es "type").map Value.isText).getD false then
      throw (.invalidAt [.key "layout", .key "type"]
        "Invalid layout type; must be a string ('flex' or 'grid')")
  | other =>
    if !other.isText then
      throw (.invalidAt [.key "layout"] "The 'layout' option must be a string or a dictionary")
  match ← Layout.choose config Layout.tried with
  | some (l, rule, children) =>
    let base : Record :=
      { fields := [.required "layout" rule.run, .required "widgets" (widgets children)]
        extras := [l.finish] }
    return base.extend r.fields
  | none =>
    if layout.isDict then
      throw (.invalidAt [.key "layout", .key "type"]
        "Invalid layout type; must be 'flex' or 'grid'")
    else
      throw (.invalidAt [.key "layout"]
        ("\nInvalid 'layout' value\nlayout choices are 'horizontal', 'vertical', "
          ++ "'<rows>x<cols>',\nor a dictionary with a 'type' key\n"))

end Panel
