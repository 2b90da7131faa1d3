import Panel.Proofs.Emission
import Panel.Proofs.UpdateRules

/-! # Settings — what an update of a kind writes

    One piece of code serves the creation of a widget and its updates.  For an update it comes
    apart into settings: each is asked for by options, sees the values of these options and nothing
    else, and is passed over where one of them is missing. -/

namespace Panel

open Cpp List

variable {st : Setting} {other : String} {x y : Build Unit} {first : Value → Build Unit} {α : Type}

/-! ## Settings -/

/-- What is written for options of an update. -/
structure Setting where
  /-- The options that must be there; the first one asks for the setting. -/
  keys : List String
  /-- Options that count too, and have a value of their own if they are not there. -/
  fallbacks : List String := []
  /-- The functions that are called for the options. -/
  calls : Widget → String → Prop
  /-- Functions that are called without an option that asks for it. -/
  besides : List String := []
  /-- What is written for the values of the options. -/
  write : Widget → List Value → List (Option Value) → Build Unit

namespace Setting

/-- Writes a setting from the values of its own options, if they are all there. -/
def run (st : Setting) (w : Widget) (es : Entries) : Build Unit :=
  match st.keys.mapM (Entries.get? es) with
  | some vs => st.write w vs (st.fallbacks.map (Entries.get? es))
  | none => pure ()

def one (key : String) (calls : Widget → String → Prop) (f : Widget → Value → Build Unit) :
    Setting where
  keys := [key]
  calls := calls
  write w vs _ :=
    match vs with
    | [v] => f w v
    | _ => pure ()

def two (key other : String) (calls : Widget → String → Prop)
    (f : Widget → Value → Value → Build Unit) : Setting where
  keys := [key, other]
  calls := calls
  write w vs _ :=
    match vs with
    | [v, x] => f w v x
    | _ => pure ()

def whenSet (key : String) (calls : Widget → String → Prop) (f : Widget → Value → Build Unit) :
    Setting :=
  one key calls fun w v => if v.truthy then f w v else pure ()

def whenGiven (key : String) (calls : Widget → String → Prop) (f : Widget → Value → Build Unit) :
    Setting :=
  one key calls fun w v =>
    match v with
    | .null => pure ()
    | v => f w v

/-- A setting whose functions are called without an option that asks for it. -/
def unasked (functions : List String) (st : Setting) : Setting :=
  { st with calls := fun _ _ => False, besides := functions }

variable {w : Widget} {es : Entries} {key : String} {calls : Widget → String → Prop}
  {f : Widget → Value → Build Unit} {h : Widget → Value → Value → Build Unit}

theorem run_unasked (functions : List String) (st : Setting) :
    (unasked functions st).run w es = st.run w es := rfl

theorem run_of_keys {vs : List Value} (h : st.keys.mapM (es.get?) = some vs) :
    st.run w es = st.write w vs (st.fallbacks.map (es.get?)) := by
  unfold run
  rw [h]

theorem run_of_missing (h : st.keys.mapM (es.get?) = none) : st.run w es = pure () := by
  unfold run
  rw [h]

theorem run_one : (one key calls f).run w es =
    match es.get? key with
    | some v => f w v
    | none => pure () := by
  unfold run one
  rw [mapM_cons]
  cases es.get? key <;> rfl

theorem run_two : (two key other calls h).run w es =
      match es.get? key, es.get? other with
      | some v, some x => h w v x
      | _, _ => pure () := by
  unfold run two
  rw [mapM_cons, mapM_cons]
  cases es.get? key <;> cases es.get? other <;> rfl

theorem setAt?_eq : Kinds.setAt? (.dict es) key
    = (es.get? key).bind fun v => if v.truthy then some v else none := by
  unfold Kinds.setAt?
  dsimp only [Value.get?]
  cases es.get? key <;> rfl

theorem run_whenSet : (whenSet key calls f).run w es =
    match Kinds.setAt? (.dict es) key with
    | some v => f w v
    | none => pure () := by
  unfold whenSet
  rw [run_one, setAt?_eq]
  cases es.get? key with
  | none => rfl
  | some v =>
    dsimp only [Option.bind_some]
    cases v.truthy <;> rfl

theorem run_whenGiven : (whenGiven key calls f).run w es =
    match Value.given? (.dict es) key with
    | some v => f w v
    | none => pure () := by
  unfold whenGiven
  rw [run_one]
  dsimp only [Value.given?, Entries.given?]
  cases es.get? key with
  | none => rfl
  | some v => cases v <;> rfl

theorem run_two_of {x : Value} (hother : es.get? other = some x) :
    (two key other calls h).run w es = (one key calls fun w v => h w v x).run w es := by
  rw [run_one, run_two, hother]
  cases es.get? key <;> rfl

/-! ### One setting after another -/

variable {next next' : Build Unit}

theorem seq (hx : x = y) (hnext : next = next') : (do x; next) = (do y; next') := by
  rw [hx, hnext]

theorem last (hx : x = y) : x = (do y; pure ()) := by
  rw [hx, bind_pure_unit]

theorem step_set (hfirst : ∀ v, first v = do f w v; next) (hnext : next = next') :
    (match Kinds.setAt? (.dict es) key with
      | some v => first v
      | none => next) = (do (whenSet key calls f).run w es; next') := by
  rw [run_whenSet]
  subst hnext
  cases Kinds.setAt? (.dict es) key with
  | some v => exact hfirst v
  | none => rfl

theorem step_given (hfirst : ∀ v, first v = do f w v; next) (hnext : next = next') :
    (match Value.given? (.dict es) key with
      | none => next
      | some v => first v) = (do (whenGiven key calls f).run w es; next') := by
  rw [run_whenGiven]
  subst hnext
  cases Value.given? (.dict es) key with
  | some v => exact hfirst v
  | none => rfl

theorem last_given (hfirst : ∀ v, first v = f w v) :
    (match Value.given? (.dict es) key with
      | none => pure ()
      | some v => first v) = (do (whenGiven key calls f).run w es; pure ()) :=
  step_given (fun v => (hfirst v).trans bind_pure_unit.symm) rfl

theorem required_bind {v : Value} (h : es.get? key = some v) (rest : Value → Build α) :
    (liftM (required (.dict es) key) >>= rest : Build α) = rest v := by
  rw [required_of_get? h]
  exact Build.lift_bind_eq (fun s => rfl) rest

theorem required_bind_missing (h : es.get? key = none) (rest : Value → Build α) :
    (liftM (required (.dict es) key) >>= rest : Build α) = throw (.missingKey key) := by
  refine Build.lift_bind_eq_throw (fun s => ?_) rest
  rw [required, h]
  rfl

end Setting

/-! ## The settings of the kinds -/

namespace Setting

open Kinds

def only (function : String) : Widget → String → Prop := fun _ f => f = function

/-- Only this member function of the widget's variable is called. -/
def method (name : String) : Widget → String → Prop := fun w f => f = (w.var.member name).render

/-- Only the function is called that sets this property of the kind. -/
def setter (name : String) : Widget → String → Prop := fun w f =>
  f = "lv_" ++ w.kind.traits.libraryName ++ "_set_" ++ renamed name

def option (name : String) (writer : Option Property) : Setting :=
  one name (setter name) fun w v => w.setOption name (.dict [(name, v)]) writer {}

def property (p : Property) (name : String) : Setting :=
  whenGiven name (setter name) fun w v => do w.setProperty name (← p.emit v) {}

def call (function key : String) (p : Property) : Setting :=
  whenGiven key (only function) fun w v => do
    let v ← p.emit v
    Code.run function [.cpp w.obj, v]

def choose (key : String) (p : Property) (animation : Value) (w : Widget) (v : Value) :
    Build Unit := do
  let v ← p.emit v
  Code.runMethod w.var ("set_" ++ key) [v, animation]

def chosen (key : String) (p : Property) (animation : Value) : Setting :=
  whenGiven key (method ("set_" ++ key)) (choose key p animation)

/-- What is chosen, unless it is null, with an animation that is an option too. -/
def chosenAnimated (key : String) (p : Property) : Setting :=
  two key "animated" (method ("set_" ++ key)) fun w v animated =>
    match v with
    | .null => pure ()
    | v => choose key p (Property.literal animated) w v

def common : Widget → String → Prop := fun _ f =>
  Text.hasPrefix "lv_obj_" f = true ∨ f = "lv_group_add_obj"

end Setting

namespace Kind

open Kinds Setting

def settings : Kind → List Setting
  | .animimg =>
    [whenSet "src" (only "lv_animimg_set_src") fun w v => do
        let pictures ← Property.imageList.emit v
        Code.run "lv_animimg_set_src" [.cpp w.obj, pictures],
      unasked ["lv_animimg_set_repeat_count"]
        (whenSet "repeat_count" (only "lv_animimg_set_repeat_count") fun w v =>
          Code.run "lv_animimg_set_repeat_count" [.cpp w.obj, v]),
      whenSet "duration" (only "lv_animimg_set_duration") fun w v =>
        Code.run "lv_animimg_set_duration" [.cpp w.obj, v],
      unasked ["lv_animimg_start"] (whenSet "auto_start" (only "lv_animimg_start") fun w _ =>
        Code.run "lv_animimg_start" [.cpp w.obj])]
  | .arc =>
    arcOptions.map (fun (name, p) => Setting.option name (some p)) ++
      [one "value" (setter "value") fun w v => do
        w.setProperty "value" (← Property.integer.emit v) {}]
  | .arclabel =>
    [{ keys := ["text"]
       fallbacks := ["radius", "start_angle", "end_angle", "rotation"]
       calls := only "lv_arclabel_set_text"
       besides := ["lv_arclabel_set_radius", "lv_arclabel_set_angle_start",
        "lv_arclabel_set_angle_size", "lv_arclabel_set_offset", "lv_obj_set_size"]
       write := fun w vs more =>
        match vs, more with
        | [text], [radius, start, stop, rotation] => do
          let obj := Value.cpp w.obj
          Code.run "lv_arclabel_set_text" [obj, ← Property.text.emit text]
          let radius ← Property.pixels.emit (radius.getD (.int 100))
          Code.run "lv_arclabel_set_radius" [obj, radius]
          let start := start.getD (.int 0)
          Code.run "lv_arclabel_set_angle_start" [obj, start]
          let size ← arcSize start (stop.getD (.int 360))
          Code.run "lv_arclabel_set_angle_size" [obj, size]
          Code.run "lv_arclabel_set_offset" [obj, rotation.getD (.int 0)]
          let side ← (← radius.multiply (.int 2)).plus (.int 40)
          Code.run "lv_obj_set_size" [obj, side, side]
        | _, _ => pure () }]
  | .bar =>
    [whenSet "mode" (only "lv_bar_set_mode") fun w v =>
        Code.run "lv_bar_set_mode" [.cpp w.obj, Property.literal v],
      two "min_value" "max_value" (only "lv_bar_set_range") fun w low high => do
        let low ← Property.integer.emit low
        let high ← Property.integer.emit high
        Code.run "lv_bar_set_range" [.cpp w.obj, low, high],
      two "value" "animated" (only "lv_bar_set_value") fun w v animated => do
        let v ← Property.integer.emit v
        if v.truthy then
          Code.run "lv_bar_set_value" [.cpp w.obj, v, Property.literal animated],
      two "start_value" "animated" (only "lv_bar_set_start_value") fun w v animated => do
        let v ← Property.integer.emit v
        if v.truthy then
          Code.run "lv_bar_set_start_value" [.cpp w.obj, v, Property.literal animated]]
  | .button =>
    [whenSet "text" (only "lv_label_set_text") fun w v => do
      let child ← Code.callOf "lv_obj_get_child" [.cpp w.obj, .int 0]
      let inner := Widget.fresh "" child .label .null
      inner.note
      inner.setProperty "text" (← Property.text.emit v) {}]
  | .checkbox => [call "lv_checkbox_set_text" "text" Property.text]
  | .dropdown =>
    [whenSet "options" (method "set_options") fun w v => Code.runMethod w.var "set_options" [v],
      whenSet "symbol" (only "lv_dropdown_set_symbol") fun w v => do
        let symbol ← Property.text.emit v
        Code.run "lv_dropdown_set_symbol" [.cpp (w.var.member "obj"), symbol],
      chosen "selected_index" Property.integer (.literal "LV_ANIM_OFF"),
      chosen "selected_text" Property.text (.literal "LV_ANIM_OFF"),
      whenSet "dir" (only "lv_dropdown_set_dir") fun w v =>
        Code.run "lv_dropdown_set_dir" [.cpp w.obj, Property.literal v],
      whenSet "dropdown_list" common fun w v => do
        let inner ← Code.callOf "lv_dropdown_get_list" [.cpp w.obj]
        Code.withLocal "dropdown_list" "lv_obj_t" (some (.cpp inner)) "*" fun var =>
          (Widget.fresh "" var .dropdownList v).applyCommon v]
  | .image =>
    (one "src" (setter "src") fun w v => do w.setProperty "src" (← Property.image.emit v) {}) ::
      imageOptions.map fun (name, p) => Setting.option name (some p)
  | .keyboard =>
    [whenSet "mode" (setter "mode") fun w v => do
        w.setProperty "mode" (← Constants.keyboardModes.oneOf.emit v) {},
      one "textarea" (setter "textarea") fun w v => do
        match ← Widget.targets (.dict [("textarea", v)]) "textarea" with
        | area :: _ => w.setProperty "textarea" (.cpp area.obj) {}
        | [] => pure ()]
  | .label =>
    [whenSet "text" (setter "text") fun w v => do
        w.setProperty "text" (← Property.text.emit v) {},
      Setting.option "long_mode" none, Setting.option "recolor" none]
  | .led =>
    [call "lv_led_set_color" "color" Property.color,
      call "lv_led_set_brightness" "brightness" Property.percentage]
  | .line =>
    [one "points" (method "set_points") fun w v => do
      let points ← emitPoints (← Widget.walked v)
      Code.runMethod w.var "set_points" [.list points]]
  | .list =>
    [one "items" (fun _ f => f = "lv_list_add_button" ∨ f = "lv_list_add_text") fun w v =>
      forItems (applyListItem w) (itemsOf v)]
  | .lottie =>
    [two "width" "height" (only "lv_obj_set_size") fun w width height => do
        Code.run "lv_obj_set_size" [.cpp w.obj, width, height]
        includeOnce (·.lottieIncluded) (fun s => { s with lottieIncluded := true })
          "esphome/components/lvgl/lottie_loader.h",
      { keys := ["src", "width", "height"]
        fallbacks := ["loop", "auto_start", "hidden"]
        calls := fun _ _ => False
        besides := ["esphome::lvgl::lottie_init"]
        write := fun w vs more =>
          match vs, more with
          | [src, width, height], [loop, start, hidden] =>
            if src.truthy then
              let on (v : Option Value) (fallback : Bool) : String :=
                truthWord ((v.map Value.truthy).getD fallback)
              Code.addLine ("\n    esphome::lvgl::lottie_init(" ++ w.obj.render
                ++ ", " ++ "nullptr, 0, \"" ++ src.show ++ "\", " ++ (width.show ++ ", "
                ++ height.show ++ ", " ++ on loop true ++ ", " ++ on start true ++ ", "
                ++ on hidden false ++ ");"))
            else pure ()
          | _, _ => pure () }]
  | .menu =>
    [{ keys := []
       calls := fun _ _ => False
       besides := ["lv_menu_set_mode_root_back_btn"]
       write := fun w _ _ =>
        Code.run "lv_menu_set_mode_root_back_btn"
          [.cpp w.obj, .literal "LV_MENU_ROOT_BACK_BTN_DISABLED"] }]
  | .qrcode =>
    [property Property.color "light_color", property Property.color "dark_color",
      property Property.integer "size",
      whenGiven "text" (only "lv_qrcode_update") applyCodeText]
  | .roller =>
    [whenSet "mode" (method "set_mode") fun w v => do
        let mode ← Constants.rollerModes.oneOf.emit v
        Code.runMethod w.var "set_mode" [mode],
      whenSet "options" (method "set_options") fun w v => Code.runMethod w.var "set_options" [v],
      chosenAnimated "selected_index" Property.integer,
      chosenAnimated "selected_text" Property.text,
      property Property.integer "visible_row_count"]
  | .slider =>
    [two "value" "animated" (only "lv_slider_set_value") fun w v animated => do
      match ← Property.integer.emit v with
      | .null => pure ()
      | value => Code.run "lv_slider_set_value" [.cpp w.obj, value, Property.literal animated]]
  | .spinbox =>
    [whenGiven "value" (only "lv_spinbox_set_value") fun w v => do
      let v ← Code.express (← Property.number.emit v)
      let scale ← Code.express (← spinScale w.config)
      Code.run "lv_spinbox_set_value"
        [.cpp w.obj, .cpp (Expr.operate "*" (Expr.named v.render) scale)]]
  | .spinner =>
    [{ keys := ["arc_length"]
       fallbacks := ["spin_time"]
       calls := fun _ _ => False
       besides := ["lv_spinner_set_anim_params"]
       write := fun w vs more =>
        match vs, more with
        | [length], [time] => do
          let time ← Property.milliseconds.emit (time.getD .null)
          let length ← Test.convertInt length
          Code.run "lv_spinner_set_anim_params"
            [.cpp w.obj, time, .int (if length < 180 then length + 180 else length)]
        | _, _ => pure () }]
  | .svg =>
    [two "width" "height" (only "lv_obj_set_size") fun w width height => do
      Code.run "lv_obj_set_size" [.cpp w.obj, width, height]
      includeOnce (·.svgIncluded) (fun s => { s with svgIncluded := true })
        "esphome/components/lvgl/svg_loader.h"]
  | .table =>
    [whenSet "row_count" (only "lv_table_set_row_count") fun w v => do
        let v ← Property.integer.emit v
        Code.run "lv_table_set_row_count" [.cpp w.obj, v],
      whenSet "column_count" (only "lv_table_set_column_count") fun w v => do
        let v ← Property.integer.emit v
        Code.run "lv_table_set_column_count" [.cpp w.obj, v],
      one "columns" (only "lv_table_set_column_width") fun w v =>
        forItems (fun column => do
          let id ← required column "id"
          let width ← required column "width"
          Code.run "lv_table_set_column_width" [.cpp w.obj, id, width]) (itemsOf v),
      one "cells" (only "lv_table_set_cell_value") fun w v =>
        forItems (fun cell => do
          let row ← required cell "row"
          let column ← required cell "column"
          let text ← Property.text.emit (← required cell "text")
          Code.run "lv_table_set_cell_value" [.cpp w.obj, row, column, text]) (itemsOf v)]
  | .textarea =>
    [property Property.text "text", property Property.text "placeholder_text",
      property Property.text "accepted_chars", property Property.integer "max_length",
      property Property.boolean "password_mode", property Property.boolean "one_line"]
  | _ => []

def opening : Kind → Build Unit
  | .animimg => needComponents ["image", "animimg"]
  | .arclabel => needComponents ["arclabel"]
  | .buttonmatrix => needComponents ["BUTTONMATRIX"]
  | .chart => needComponents ["chart"]
  | .dropdown => needComponents ["dropdown"]
  | .imgbtn => needComponents ["imgbtn"]
  | .keyboard => do
    needComponents ["KEY_LISTENER", "keyboard"]
    noteUses ["btnmatrix"]
  | .list => needComponents ["list"]
  | .lottie => noteUses ["LOTTIE", "THORVG_INTERNAL", "VECTOR_GRAPHIC"]
  | .menu => needComponents ["menu"]
  | .roller => needComponents ["roller"]
  | .slider => noteUses ["bar"]
  | .spangroup => needComponents ["spangroup"]
  | .svg => noteUses ["CANVAS", "SVG", "THORVG_INTERNAL", "VECTOR_GRAPHIC"]
  | .table => needComponents ["TABLE"]
  | .tex3d => needComponents ["tex3d"]
  | .win => needComponents ["win"]
  | _ => pure ()

def writes (k : Kind) (w : Widget) (es : Entries) : Build Unit := do
  k.opening
  forItems (fun st => st.run w es) k.settings

theorem writes_of_plain {k : Kind} {w : Widget} {es : Entries} (h : k.opening = pure ())
    (hx : x = forItems (fun st => st.run w es) k.settings) : x = k.writes w es := by
  unfold writes
  rw [h, hx]
  rfl

end Kind

end Panel
