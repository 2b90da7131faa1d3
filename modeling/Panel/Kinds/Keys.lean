import Panel.Kinds.Range
import Panel.Schema.Widget

/-! # Widgets with keys — keyboards and matrices of buttons -/

namespace Panel

open Cpp Code Property Test Constants Record

namespace Kinds

/-! ## Keyboards -/

def keyboard : Design :=
  { Design.distinct (fun _ => .of
      [.defaulted "mode" (.str "TEXT_UPPER") keyboardModes.oneOf.validate,
        .optional "textarea" (useId textareaType)])
      [.optional "mode" keyboardModes.oneOf.validate,
        .optional "textarea" (useId textareaType)] with
    options := fun _ w config => do
      needComponents ["KEY_LISTENER", "keyboard"]
      noteUses ["btnmatrix"]
      match setAt? config "mode" with
      | some mode => w.setProperty "mode" (← keyboardModes.oneOf.emit mode) {}
      | none => pure ()
      match ← Widget.targets config "textarea" with
      | area :: _ => w.setProperty "textarea" (.cpp area.obj) {}
      | [] => pure () }

/-! ## Matrices of buttons -/

def controls : Test :=
  ensureList (of (matrixControls.choices.map fun c =>
    .optional (Text.lower c) boolean)).run

def matrixButtonRecord (g : Grammar) : Record :=
  (of
    [.optional "text" text, .optional "key_code" acceptKeyCode,
      .generated "id" (declareId matrixButtonType),
      .defaulted "width" (.int 1) natural,
      .optional "control" controls]).extend (Schema.automationFields g Kind.button.traits)

def buttonmatrixRecord (g : Grammar) : Record := .of
  [.defaulted "one_checked" (.bool false) boolean.validate,
    .optional "pad_row" padding.validate,
    .optional "pad_column" padding.validate,
    .generated "button_text_list_id" (declareId charPointer),
    .required "rows" (ensureList
      (of [.required "buttons" (ensureList (matrixButtonRecord g).run)]).run)]

/-- What a matrix is told of its buttons. -/
structure MatrixData where
  texts : List Value
  controls : List Value
  widths : List Value
  keys : List Value

/-- The names of controls that are on, or those that are off. -/
def controlNames (on : Bool) (items : List Value) : List String :=
  items.flatMap fun item =>
    match item with
    | .dict es => (es.filter fun e => e.2.truthy == on).map (·.1)
    | _ => []

def emitControls (names : List String) : Build Value :=
  matrixControls.oneOf.emit (.list (names.map .str))

/-- The widget that stands for a button of a matrix. -/
def matrixButtonWidget (matrix : Widget) (id : Ident) (config : Value) (index : Nat) : Widget :=
  { Widget.fresh id.text (Expr.named id.text) .matrixButton config with
    obj := matrix.obj
    cell := some (matrix.var, index) }

/-- Makes a button of a matrix known, under a name of its own. -/
def noteButton (w : Widget) (id : Ident) (config : Value) (index : Nat) : Check Unit := do
  let _ ← newVariable id (.int index)
  (matrixButtonWidget w id config index).note

/-- Makes the buttons of a row known and adds what the matrix is told of them. -/
def gatherRow (w : Widget) : List Value → MatrixData → Build MatrixData
  | [], data => pure data
  | button :: buttons, data => do
    let id ← identAt button "id"
    let index := data.widths.length
    noteButton w id button index
    let width ← required button "width"
    let control ← emitControls
      ("CLICK_TRIG" :: controlNames true (itemsAt button "control"))
    gatherRow w buttons
      { texts := data.texts ++ [(setAt? button "text").getD (.str "")]
        controls := data.controls ++ [control]
        widths := data.widths ++ [width]
        keys := data.keys ++ [(setAt? button "key_code").getD (.int 0)] }

/-- Gathers all rows; a line break stands between two. -/
def gatherRows (w : Widget) : List Value → MatrixData → Build MatrixData
  | [], data => pure data
  | row :: rows, data => do
    let data ← gatherRow w (itemsAt row "buttons") data
    gatherRows w rows { data with texts := data.texts ++ [.str "\n"] }

def forButtons (function : String) (w : Widget) : Nat → List Value → Build Unit
  | _, [] => pure ()
  | i, v :: vs => do
    run function [.cpp w.obj, .int i, v]
    forButtons function w (i + 1) vs

def applyKeys (w : Widget) : Nat → List Value → Build Unit
  | _, [] => pure ()
  | i, key :: keys => do
    if !Value.same key (.int 0) then runMethod w.var "set_key" [.int i, key]
    applyKeys w (i + 1) keys

def buttonmatrix : Design :=
  { Design.distinct buttonmatrixRecord [] with
    options := fun _ w config => do
      needComponents ["BUTTONMATRIX"]
      match config.get? "rows" with
      | none => pure ()
      | some rows => do
        let data ← gatherRows w (itemsOf rows) ⟨[], [], [], []⟩
        let id ← identAt config "button_text_list_id"
        let texts := data.texts.dropLast ++ [.cpp Expr.nullptr]
        let array ← constantArray id.text (id.type.getD charPointer) (.list texts)
        run "lv_buttonmatrix_set_map" [.cpp w.obj, .cpp array]
        forButtons "lv_buttonmatrix_set_button_ctrl" w 0 data.controls
        forButtons "lv_buttonmatrix_set_button_width" w 0 data.widths
        let one ← required config "one_checked"
        run "lv_buttonmatrix_set_one_checked" [.cpp w.obj, one]
        applyKeys w 0 data.keys }

def changeMatrixButton (config : Value) (w : Widget) (index : Nat) : Build Unit := do
  match config.given? "width" with
  | some width =>
    run "lv_buttonmatrix_set_button_width" [.cpp w.obj, .int index, width]
  | none => pure ()
  if (setAt? config "selected").isSome then
    run "lv_buttonmatrix_set_selected_button" [.cpp w.obj, .int index]
  let items := itemsAt config "control"
  let upper (names : List String) := names.map Text.upper
  match upper (controlNames true items) with
  | [] => pure ()
  | names => do
    let code ← emitControls names
    run "lv_buttonmatrix_set_button_ctrl" [.cpp w.obj, .int index, code]
  match upper (controlNames false items) with
  | [] => pure ()
  | names => do
    let code ← emitControls names
    run "lv_buttonmatrix_clear_button_ctrl" [.cpp w.obj, .int index, code]

def updateMatrixButton : Behaviour where
  name := "lvgl.matrix.button.update"
  type := objUpdateAction
  rule := fun _ => (of
    [.optional "width" natural, .optional "control" controls,
      .required "id" (Schema.targets matrixButtonType),
      .optional "selected" boolean.validate]).run
  build := fun _ config id params => do
    let widgets ← Widget.targets (← required config "id") "id"
    if widgets.any fun w => w.cell.isNone then throw .brokenPromise
    let entries := (config.entries?).getD []
    Automation.widgetAction widgets (fun w =>
      match w.cell with
      | some (_, index) => changeMatrixButton config w index
      | none => throw .brokenPromise) id params entries

end Kinds

end Panel
