import Panel.Kinds.Range

/-! # Widgets with pages — tab views, tile views, menus, windows and pages -/

namespace Panel

open Cpp Code Test Property Automation Constants Widget Design

namespace Kinds

/-! ## Tabs -/

def tabRule (g : Grammar) : Test :=
  g.container .obj [.required "name" text, .generated "id" (declareId lvObj)]

def tabviewRecord (g : Grammar) : Record := .of
  [.required "tabs" (ensureList (tabRule g)),
    .optional "tab_style" (Schema.parts Kind.buttonmatrix.traits.parts).run,
    .optional "content_style" (Schema.parts Kind.obj.traits.parts).run,
    .defaulted "position" (.str "top") directions.oneOf.validate,
    .defaulted "size" (.str "10%") size.validate]

def applyTab (g : Generator) (w : Widget) (tab : Value) : Build Unit := do
  let id ← identAt tab "id"
  let var ← pointerTo { id with type := some lvObj } Expr.nullptr
  let inner := fresh id.text var .obj .null
  inner.note
  let name ← required tab "name"
  let creator ← callOf "lv_tabview_add_tab" [.cpp w.obj, name]
  assign var (.cpp creator)
  inner.applyCommon tab
  inner.addChildren g tab

def applyTabButtons (bar : Expr) (style : Value) : Nat → List Value → Build Unit
  | _, [] => pure ()
  | i, _ :: tabs => do
    let button ← call "lv_obj_get_child" [.cpp bar, .int i]
    (fresh "" button .button .null).applyCommon style
    applyTabButtons bar style (i + 1) tabs

def applyTabStyle (w : Widget) (style : Value) (tabs : List Value) : Build Unit := do
  let bar ← callOf "lv_tabview_get_tab_bar" [.cpp w.obj]
  withLocal "tabview_bar" "lv_obj_t" (some (.cpp bar)) "*" fun var => do
    (fresh "" var .obj .null).applyCommon style
    match setAt? style "items" with
    | some items => applyTabButtons var items 0 tabs
    | none => pure ()

def tabview : Design :=
  { distinct tabviewRecord [] with
    options := fun g w config => do
      let position ← directions.oneOf.emit (← required config "position")
      w.setProperty "tab_bar_position" position {}
      let size ← size.emit (← required config "size")
      w.setProperty "tab_bar_size" size {}
      let tabs ← walked (← required config "tabs")
      forItems (applyTab g w) tabs
      match setAt? config "tab_style" with
      | some style => applyTabStyle w style tabs
      | none => pure ()
      match setAt? config "content_style" with
      | some style => do
        let content ← callOf "lv_tabview_get_content" [.cpp w.obj]
        withLocal "tabview_content" "lv_obj_t" (some (.cpp content)) "*" fun var =>
          (fresh "" var .obj .null).applyCommon style
      | none => pure () }

def selectTab : Behaviour where
  name := "lvgl.tabview.select"
  type := objUpdateAction
  rule := fun _ =>
    ((Record.of
      [.required "id" (useId Kind.tabview.traits.type),
        .defaulted "animated" (.bool false) acceptAnimated,
        .required "index" integer.validate]).check
      (atLeastOneKey ["index", "tab_id"])).run
  build := fun _ config id params => do
    let widgets ← targets config "id"
    let index ← required config "index"
    widgetAction widgets (fun w => do
      let animated ← required config "animated"
      run "lv_tabview_set_act" [.cpp w.obj, index, literal animated]
      run "lv_obj_send_event"
        [.cpp w.obj, .literal "LV_EVENT_VALUE_CHANGED", .cpp Expr.nullptr]) id params []

/-! ## Tiles -/

def tileRule (g : Grammar) : Test :=
  g.container .obj
    [.required "row" natural, .required "column" natural,
      .generated "id" (declareId tileType),
      .defaulted "dir" (.str "ALL") tileDirections.severalOf.validate]

def tileviewRecord (g : Grammar) : Record := .of
  [.required "tiles" (ensureList (tileRule g))]

/-- The place of a tile, in widths or heights of the view. -/
def tilePlace (v : Value) : Build Value := do
  pixelsOrPercent.emit (.float (← v.toFloat))

def applyTile (g : Generator) (w : Widget) (tile : Value) : Build Unit := do
  let id ← identAt tile "id"
  let var ← globalPointer "lv_obj_t" id
  let inner := fresh id.text var .tile tile
  inner.note
  let directions ← tileDirections.oneOf.emit (← required tile "dir")
  let row ← required tile "row"
  let column ← required tile "column"
  let creator ← callOf "lv_tileview_add_tile" [.cpp w.obj, column, row, directions]
  assign var (.cpp creator)
  let x ← tilePlace column
  let y ← tilePlace row
  run "lv_obj_set_pos" [.cpp var, x, y]
  inner.applyCommon tile
  inner.addChildren g tile

/-- Tile views; the first tile is shown first. -/
def tileview : Design :=
  { distinct tileviewRecord [] with
    options := fun g w config => do
      let tiles ← walked (← required config "tiles")
      forItems (applyTile g w) tiles
      match tiles with
      | [] => pure ()
      | first :: _ => do
        let column ← required first "column"
        let row ← required first "row"
        run "lv_obj_set_tile_id" [.cpp w.obj, column, row, .literal "LV_ANIM_OFF"] }

/-- A tile is named by its identifier, or by its row and column. -/
def checkTileChoice : Test := fun config => do
  let row ← contains config "row"
  let column ← contains config "column"
  let tile ← contains config "tile_id"
  if (tile && (row || column)) || (!tile && !(row && column)) then
    refuse "Specify either a tile id, or both a row and a column"
  return config

def selectTile : Behaviour where
  name := "lvgl.tileview.select"
  type := objUpdateAction
  rule := fun _ =>
    ((Record.of
      [.required "id" (useId Kind.tileview.traits.type),
        .defaulted "animated" (.bool false) acceptAnimated,
        .optional "row" integer.validate,
        .optional "column" integer.validate,
        .optional "tile_id" (useId tileType)]).check checkTileChoice).run
  build := fun _ config id params => do
    let widgets ← targets config "id"
    widgetAction widgets (fun w => do
      match setAt? config "tile_id" with
      | some tile => do
        let tile ← resolved tile
        let animated ← required config "animated"
        run "lv_obj_set_tile" [.cpp w.obj, tile, literal animated]
      | none => do
        let row ← integer.emit (← required config "row")
        let column ← integer.emit (← required config "column")
        let animated ← required config "animated"
        run "lv_obj_set_tile_id" [.cpp w.obj, column, row, literal animated]
      run "lv_obj_send_event"
        [.cpp w.obj, .literal "LV_EVENT_VALUE_CHANGED", .cpp Expr.nullptr]) id params []

/-! ## Menus -/

def menuPageType : CppType := widgetType "lv_menu_page_t" []

def menuPageRule (g : Grammar) : Test :=
  g.container .obj
    [.generated "id" (declareId menuPageType), .optional "title" text.validate]

def menuModes : List (String × String) :=
  [("ROOT", "LV_MENU_ROOT_BACK_BTN_DISABLED"), ("HEADER", "LV_MENU_HEADER_TOP_FIXED"),
    ("SIDEBAR", "LV_MENU_HEADER_TOP_UNFIXED")]

def menuRecord (g : Grammar) : Record := .of
  [.optional "pages" (ensureList (menuPageRule g)),
    .defaulted "root_back_button" (.bool false) boolean.validate,
    .defaulted "mode" (.str "HEADER") (choiceOf menuModes),
    .optional "sidebar_page" (useId menuPageType)]

def applyMenuPage (g : Generator) (w : Widget) (page : Value) : Build Unit := do
  let id ← identAt page "id"
  let title ← match page.get? "title" with
    | some title => text.emit title
    | none => pure (.literal "NULL")
  let creator ← callOf "lv_menu_page_create" [.cpp w.obj, title]
  let var ← pointerTo id creator
  let inner := fresh id.text var .obj page
  inner.note
  inner.applyCommon page
  inner.addChildren g page

/-- Menus.  A page at the side cannot be written. -/
def menu : Design :=
  { distinct menuRecord [] with
    options := fun g w config => do
      needComponents ["menu"]
      forItems (applyMenuPage g w) (itemsAt config "pages")
      let mode := if (setAt? config "root_back_button").isSome
        then "LV_MENU_ROOT_BACK_BTN_ENABLED" else "LV_MENU_ROOT_BACK_BTN_DISABLED"
      run "lv_menu_set_mode_root_back_btn" [.cpp w.obj, .literal mode]
      if (setAt? config "sidebar_page").isSome then throw .notExpression }

/-! ## Windows -/

def windowButtonRecord : Record := .of
  [.generated "id" (declareId buttonType), .optional "src" Property.image.validate]

def windowRule (g : Grammar) : Test :=
  g.container .obj
    [.required "title" text.validate,
      .defaulted "header_height" (.int 40) integer.validate,
      .optional "header_buttons" (ensureList windowButtonRecord.run)]

def applyWindowButton (w : Widget) (button : Value) : Build Unit := do
  let icon ← match button.get? "src" with
    | some src => Property.image.emit src
    | none => pure (.literal "NULL")
  let args := [.cpp w.obj, icon, .literal "40"]
  match setAt? button "id" with
  | some (.ident id) => do
    let creator ← callOf "lv_win_add_button" args
    let _ ← pointerTo id creator
  | _ => run "lv_win_add_button" args

/-- Windows, which cannot be used among other widgets. -/
def win : Design where
  fields := fun _ => none
  options := fun _ w config => do
    needComponents ["win"]
    let title ← text.emit (← required config "title")
    let _ ← integer.emit (← required config "header_height")
    run "lv_win_add_title" [.cpp w.obj, title]
    forItems (applyWindowButton w) (itemsAt config "header_buttons")

/-! ## Pages -/

def plainAutomations (g : Grammar) : Test :=
  automations (record g (trigger.template []))

def pageRecord (g : Grammar) : Record := .of
  [.defaulted "skip" (.bool false) boolean.validate,
    .optional "on_load" (plainAutomations g),
    .optional "on_unload" (plainAutomations g)]

def page : Design := distinct pageRecord []

def showRecord : Record :=
  Schema.panelReference.extend
    [.defaulted "animation" (.str "NONE") screenAnimation.oneOf.validate,
      .defaulted "time" (.str "50ms") milliseconds.validate]

def showArguments (config : Value) : Build (List Value) := do
  let animation ← screenAnimation.oneOf.emit (← required config "animation")
  let time ← milliseconds.emit (← required config "time")
  return [animation, time]

/-- An object of the panel component, which becomes its parent. -/
def onPanel (id : Ident) (params : List Param) (config : Value) (work : Build Unit) :
    Build Expr := do
  let c ← closureOf [componentParam] void work
  let var ← newEntry id params [.cpp (.closure c)]
  let parent ← resolve (← identAt config "lvgl_id")
  setParent var parent
  return var

def turnPage (name method : String) : Behaviour where
  name := name
  type := lvglAction
  rule := fun _ => showRecord.run
  build := fun _ config id params => do
    let args ← showArguments config
    onPanel id params config (runMethod componentObject method args)

def showPage : Behaviour where
  name := "lvgl.page.show"
  type := lvglAction
  rule := fun _ =>
    maybeSimple "id" (showRecord.extend [.required "id" (useId pageType)]).run
  build := fun _ config id params => do
    let page ← resolve (← identAt config "id")
    let args ← showArguments config
    onPanel id params config
      (runMethod componentObject "show_page" (.cpp (page.member "index") :: args))

def pageIsShowing : Behaviour where
  name := "lvgl.page.is_showing"
  type := lvglCondition
  rule := fun _ => oneTarget pageType
  build := fun _ config id params => do
    awaitAll
    let page ← resolve (← identAt config "id")
    let c ← closureOf [⟨pageType.ptr, "_page"⟩] bool
      (addItem (.result ((Expr.pointer "_page").method "is_showing" [])) : Check Unit)
    let var ← newTemplate id (pageType :: templateOf params) [.cpp (.closure c)]
    setParent var page
    return var

def pageActions : List Behaviour :=
  [selectTab, selectTile, turnPage "lvgl.page.next" "show_next_page",
    turnPage "lvgl.page.previous" "show_prev_page", showPage]

def pageConditions : List Behaviour := [pageIsShowing]

end Kinds

end Panel
