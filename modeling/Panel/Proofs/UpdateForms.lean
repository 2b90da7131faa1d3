import Panel.Proofs.UpdateSettings

/-! # Forms of updates — the code of each kind as settings, or as a failure

    The code of a kind is opened once for updates.  Where the options are there that it looks for,
    it is the kind's settings, run one after the other; where one of them is missing, it fails with
    that option, after what it wrote before. -/

namespace Panel

open Cpp List Property Value

variable {f : Widget → Value → Build Unit} {animated : Value}

/-! ## Kinds that always write their settings -/

namespace Kinds

open Setting

variable {g : Generator} {w : Widget} {es : Entries} {key : String}

/-! ### Options that are passed over when they are missing -/

theorem callFor_eq (function key : String) (p : Property) :
    callFor function w (.dict es) key p = (call function key p).run w es := by
  unfold callFor call
  rw [run_whenGiven]
  cases given? (.dict es) key <;> rfl

theorem propertyFor_eq (p : Property) (key : String) :
    propertyFor w (.dict es) p key = (property p key).run w es := by
  unfold propertyFor property
  rw [run_whenGiven]
  cases given? (.dict es) key <;> rfl

theorem setOption_eq (name : String) (writer : Option Property) :
    w.setOption name (.dict es) writer {} = (Setting.option name writer).run w es := by
  unfold Setting.option
  rw [run_one]
  unfold Widget.setOption
  cases hv : es.get? name with
  | none =>
    have hgiven : given? (.dict es) name = none := by
      rw [given?, Entries.given?, hv]
    rw [hgiven]
  | some v =>
    have hgiven : given? (.dict es) name = given? (.dict [(name, v)]) name := by
      dsimp only [given?, Entries.given?]
      rw [hv, Entries.get?_cons, if_pos (beq_self_eq_true name)]
    rw [hgiven]

theorem setOptions_eq (ps : List (String × Property)) (rest : List Setting) :
    (do setOptions w (.dict es) ps; forItems (fun st => st.run w es) rest) =
      forItems (fun st => st.run w es)
        (ps.map (fun (name, p) => Setting.option name (some p)) ++ rest) := by
  induction ps with
  | nil => rfl
  | cons p ps ih =>
    obtain ⟨name, p⟩ := p
    unfold setOptions
    rw [bind_assoc, setOption_eq, ih]
    rfl

theorem forItems_eq {work : Value → Build Unit} {calls : Widget → String → Prop}
    (hf : ∀ v, forItems work (itemsOf v) = f w v) :
    forItems work (itemsAt (.dict es) key) = (one key calls f).run w es := by
  rw [run_one]
  dsimp only [itemsAt, get?]
  cases es.get? key with
  | none => rfl
  | some v => exact (by cases v <;> rfl : _ = forItems work (itemsOf v)).trans (hf v)

theorem applySelection_eq (animation : Value) : applySelection w (.dict es) animation = (do
      (chosen "selected_index" integer animation).run w es
      (chosen "selected_text" text animation).run w es) := by
  refine step_given (fun v => (bind_assoc _ _ _).symm) ?_
  refine Eq.trans ?_ bind_pure_unit
  exact last_given fun _ => rfl

theorem chosenAnimated_run (h : es.get? "animated" = some animated) (key : String) (p : Property) :
    (chosenAnimated key p).run w es = (chosen key p (literal animated)).run w es := by
  unfold chosenAnimated
  rw [run_two_of h]
  rfl

/-! ### The kinds -/

theorem button_options : button.options g w (.dict es) = Kind.button.writes w es := by
  refine Kind.writes_of_plain rfl (last ?_)
  show buttonOptions w (.dict es) = (whenSet "text" _ _).run w es
  rw [run_whenSet]
  unfold buttonOptions
  cases setAt? (.dict es) "text" <;> rfl

theorem dropdown_options : dropdown.options g w (.dict es) = Kind.dropdown.writes w es := by
  refine seq rfl ?_
  refine step_set (fun _ => rfl) ?_
  refine step_set (fun v => (bind_assoc _ _ _).symm) ?_
  refine (seq (applySelection_eq _) ?_).trans (bind_assoc _ _ _)
  refine step_set (fun _ => rfl) ?_
  beta_reduce
  exact step_set (fun _ => bind_pure_unit.symm) rfl

theorem label_options : label.options g w (.dict es) = Kind.label.writes w es := by
  refine Kind.writes_of_plain rfl ?_
  refine step_set (fun v => (bind_assoc _ _ _).symm) ?_
  exact seq (setOption_eq _ _) (last (setOption_eq _ _))

theorem callIfCount_eq (function key : String) : callIfCount function w (.dict es) key =
      (whenSet key (only function) fun w v => do
        let v ← integer.emit v
        Code.run function [.cpp w.obj, v]).run w es := by
  rw [run_whenSet]
  rfl

theorem table_options : table.options g w (.dict es) = Kind.table.writes w es := by
  refine seq rfl (seq (callIfCount_eq _ _) (seq (callIfCount_eq _ _) ?_))
  exact seq (forItems_eq fun _ => rfl) (last (forItems_eq fun _ => rfl))

theorem callIfSet_eq (function key : String) (calls : Widget → String → Prop) :
    callIfSet function w (.dict es) key =
      (whenSet key calls fun w v => Code.run function [.cpp w.obj, v]).run w es := by
  rw [run_whenSet]
  rfl

theorem animimg_options (hstart : es.has "auto_start" = true) :
    animimg.options g w (.dict es) = Kind.animimg.writes w es := by
  obtain ⟨start, hstart⟩ := Entries.exists_get?_of hstart
  refine seq rfl ?_
  refine step_set (fun v => (bind_assoc _ _ _).symm) ?_
  refine seq (callIfSet_eq _ _ (only "lv_animimg_set_repeat_count"))
    (seq (callIfSet_eq _ _ _) (last ?_))
  refine (required_bind hstart _).trans (Eq.symm ?_)
  show (unasked _ (one "auto_start" _ _)).run w es = _
  rw [run_unasked, run_one, hstart]

theorem startValue_eq (hstart : es.has "start_value" = false) :
    startValue (.dict es) = integer.emit ((es.get? "value").getD .null) := by
  unfold startValue
  rw [get?_eq_none_of hstart]
  rfl

theorem emit_getD (p : Property) (hp : p.emit .null = pure .null) (after : Value → Build Unit)
    (hafter : after .null = pure ()) (key : String) (calls : Widget → String → Prop)
    (hf : ∀ v, f w v = p.emit v >>= after) :
    (p.emit ((es.get? key).getD .null) >>= after) = (one key calls f).run w es := by
  rw [run_one]
  cases es.get? key with
  | none =>
    show (p.emit .null >>= after) = pure ()
    rw [hp, pure_bind, hafter]
  | some v => exact (hf v).symm

theorem arc_options (hadjustable : es.has "adjustable" = false)
    (hstart : es.has "start_value" = false) :
    arc.options g w (.dict es) = Kind.arc.writes w es := by
  refine Kind.writes_of_plain rfl ?_
  refine Eq.trans ?_ (setOptions_eq arcOptions _)
  refine seq rfl (last ?_)
  rw [get?_eq_none_of hadjustable]
  show (startValue (.dict es) >>= fun v => w.setProperty "value" v {}) = _
  rw [startValue_eq hstart]
  exact emit_getD integer rfl _ rfl _ _ fun _ => rfl

theorem image_options : image.options g w (.dict es) = Kind.image.writes w es := by
  refine Kind.writes_of_plain rfl ?_
  refine (bind_assoc _ _ _).symm.trans (seq ?_ ?_)
  · exact emit_getD Property.image rfl (fun v => w.setProperty "src" v {}) rfl _ _ fun _ => rfl
  · exact bind_pure_unit.symm.trans ((setOptions_eq imageOptions []).trans (by rw [append_nil]))

theorem keyboard_options : keyboard.options g w (.dict es) = Kind.keyboard.writes w es := by
  refine Eq.trans ?_ (bind_assoc _ _ _).symm
  refine seq rfl (seq rfl ?_)
  refine step_set (fun v => (bind_assoc _ _ _).symm) (last ?_)
  show (Widget.targets (.dict es) "textarea" >>= _) = (one "textarea" _ _).run w es
  rw [run_one, Style.targets_dict]
  cases es.get? "textarea" with
  | none => rfl
  | some v => rfl

theorem line_options (hpoints : es.has "points" = true) :
    line.options g w (.dict es) = Kind.line.writes w es := by
  obtain ⟨points, hpoints⟩ := Entries.exists_get?_of hpoints
  refine Kind.writes_of_plain rfl (last ?_)
  refine (required_bind hpoints _).trans ?_
  show _ = (one "points" _ _).run w es
  rw [run_one, hpoints]

theorem setAt?_eq_none (h : es.has key = false) : setAt? (.dict es) key = none := by
  rw [setAt?_eq, Entries.get?_eq_none_of h]
  rfl

theorem menu_options (hpages : es.has "pages" = false) (hback : es.has "root_back_button" = false)
    (hside : es.has "sidebar_page" = false) :
    menu.options g w (.dict es) = Kind.menu.writes w es := by
  have hitems : itemsAt (.dict es) "pages" = [] := by
    rw [itemsAt, get?_eq_none_of hpages]
  refine seq rfl ?_
  dsimp only
  rw [hitems, setAt?_eq_none hback, setAt?_eq_none hside]
  rfl

theorem roller_options (hanimated : es.has "animated" = true) :
    roller.options g w (.dict es) = Kind.roller.writes w es := by
  obtain ⟨animated, hanimated⟩ := Entries.exists_get?_of hanimated
  refine seq rfl ?_
  refine step_set (fun v => (bind_assoc _ _ _).symm) ?_
  refine step_set (fun v => rfl) ?_
  have hliteral : literal ((get? (.dict es) "animated").getD (.str "LV_ANIM_OFF"))
      = literal animated := by
    show literal ((es.get? "animated").getD _) = _
    rw [hanimated, Option.getD_some]
  beta_reduce
  rw [hliteral, applySelection_eq, bind_assoc]
  refine seq (chosenAnimated_run hanimated _ _).symm ?_
  exact seq (chosenAnimated_run hanimated _ _).symm (last (propertyFor_eq _ _))

theorem slider_options (hlow : es.has "min_value" = false)
    (hstart : es.has "start_value" = false) (hanimated : es.has "animated" = true) :
    slider.options g w (.dict es) = Kind.slider.writes w es := by
  obtain ⟨animated, hanimated⟩ := Entries.exists_get?_of hanimated
  refine seq rfl (last ?_)
  show _ = (two "value" "animated" _ _).run w es
  rw [get?_eq_none_of hlow, run_two_of hanimated]
  dsimp only
  rw [startValue_eq hstart]
  refine emit_getD integer rfl _ rfl _ _ fun v => ?_
  refine bind_congr fun value => ?_
  cases value with
  | null => rfl
  | _ =>
    dsimp only
    rw [required_bind hanimated]

theorem spinner_options (hlength : es.has "arc_length" = true) :
    spinner.options g w (.dict es) = Kind.spinner.writes w es := by
  obtain ⟨length, hlength⟩ := Entries.exists_get?_of hlength
  refine Kind.writes_of_plain rfl (last ?_)
  have hkeys : ["arc_length"].mapM (es.get?) = some [length] := by simp [hlength]
  refine Eq.trans ?_ (run_of_keys hkeys).symm
  exact bind_congr fun time => required_bind hlength _

/-! ## Kinds that may lack an option -/

theorem arclabel_options (htext : es.has "text" = true) :
    arclabel.options g w (.dict es) = Kind.arclabel.writes w es := by
  obtain ⟨text, htext⟩ := Entries.exists_get?_of htext
  refine seq rfl (last ?_)
  have hkeys : ["text"].mapM (es.get?) = some [text] := by simp [htext]
  refine Eq.trans ?_ (run_of_keys hkeys).symm
  exact required_bind htext _

theorem svg_stem (hmeasure : es.has "svg_width" = false) :
    (if (dict es).has "svg_width" then "svg_" else "") = "" := by
  show (if es.has "svg_width" = true then "svg_" else "") = ""
  rw [hmeasure]
  rfl

theorem svg_options (hmeasure : es.has "svg_width" = false)
    (hsrc : es.has "src" = false) (hfile : es.has "file" = false)
    (hwidth : es.has "width" = true) (hheight : es.has "height" = true) :
    svg.options g w (.dict es) = Kind.svg.writes w es := by
  obtain ⟨width, hwidth⟩ := Entries.exists_get?_of hwidth
  obtain ⟨height, hheight⟩ := Entries.exists_get?_of hheight
  refine seq rfl (last ?_)
  show _ = (two "width" "height" _ _).run w es
  rw [run_two, hwidth, hheight]
  dsimp only
  rw [svg_stem hmeasure, setAt?_eq_none hsrc, setAt?_eq_none hfile]
  refine (required_bind hwidth _).trans ((required_bind hheight _).trans ?_)
  exact bind_congr fun _ => bind_pure_unit

theorem lottie_options (hfile : es.has "file" = false)
    (hwidth : es.has "width" = true) (hheight : es.has "height" = true) :
    lottie.options g w (.dict es) = Kind.lottie.writes w es := by
  have hgiven : ((dict es).has "width" && (dict es).has "height") = true := by
    show (es.has "width" && es.has "height") = true
    rw [hwidth, hheight]
    rfl
  obtain ⟨width, hwidth⟩ := Entries.exists_get?_of hwidth
  obtain ⟨height, hheight⟩ := Entries.exists_get?_of hheight
  refine seq rfl ?_
  dsimp only
  rw [hgiven, setAt?_eq_none hfile]
  refine (required_bind hwidth _).trans ((required_bind hheight _).trans ?_)
  show _ = (do
    (two "width" "height" _ _).run w es
    _)
  rw [run_two, hwidth, hheight]
  refine (bind_assoc _ _ _).symm.trans (seq rfl (last ?_))
  rw [setAt?_eq]
  cases hsrc : es.get? "src" with
  | none => exact (run_of_missing (by simp [hsrc])).symm
  | some src =>
    have hkeys : ["src", "width", "height"].mapM (es.get?) = some [src, width, height] := by
      simp [hsrc, hwidth, hheight]
    refine Eq.trans ?_ (run_of_keys hkeys).symm
    show _ = (if src.truthy = true then _ else pure ())
    dsimp only [Option.bind_some]
    cases src.truthy <;> rfl

theorem step_number (hanimated : es.get? "animated" = some animated) (function key : String)
    {next next' : Build Unit} (hnext : next = next') :
    (do
      let v ← integer.emit (at? (.dict es) key)
      if v.truthy then do
        Code.run function [.cpp w.obj, v, literal animated]
        next
      else next) =
    (do
      (two key "animated" (only function) fun w v animated => do
        let v ← integer.emit v
        if v.truthy then
          Code.run function [.cpp w.obj, v, literal animated]).run w es
      next') := by
  subst hnext
  rw [run_two_of hanimated, run_one]
  show (integer.emit ((es.get? key).getD .null) >>= _) = _
  cases es.get? key with
  | none => rfl
  | some v =>
    refine Eq.trans (bind_congr fun number => ?_) (bind_assoc _ _ _).symm
    cases number.truthy <;> rfl

/-- Writes the limits of a bar; the upper one is looked for if the lower one is there. -/
def barLimits (w : Widget) (es : Entries) : Build Unit :=
  match Entries.get? es "min_value" with
  | some low => do
    let low ← Property.integer.emit low
    let high ← Property.integer.emit (← required (.dict es) "max_value")
    Code.run "lv_bar_set_range" [.cpp w.obj, low, high]
  | none => pure ()

theorem bar_steps (hanimated : es.has "animated" = true) :
    bar.options g w (.dict es) = (do
      forItems (fun st => st.run w es) (Kind.bar.settings.take 1)
      barLimits w es
      forItems (fun st => st.run w es) (Kind.bar.settings.drop 2)) := by
  obtain ⟨animated, hanimated⟩ := Entries.exists_get?_of hanimated
  refine Eq.trans ?_ (seq (last rfl) rfl)
  refine step_set (fun v => rfl) ?_
  refine (required_bind hanimated _).trans ?_
  extract_lets animation start numbers
  have hstart : start () = forItems (fun st => st.run w es) (Kind.bar.settings.drop 3) := by
    have hnext : (pure () : Build Unit) = forItems (fun st : Setting => st.run w es) [] := rfl
    refine Eq.trans ?_ (step_number hanimated "lv_bar_set_start_value" "start_value" hnext)
    refine bind_congr fun v => ?_
    cases v.truthy with
    | true => exact bind_pure_unit.symm
    | false => rfl
  have hnumbers : numbers () = forItems (fun st => st.run w es) (Kind.bar.settings.drop 2) :=
    step_number hanimated "lv_bar_set_value" "value" hstart
  rw [← hnumbers]
  unfold barLimits
  show (match es.get? "min_value" with
    | some low => _
    | none => numbers ()) = _
  cases es.get? "min_value" with
  | none => rfl
  | some low => simp only [bind_assoc]

theorem bar_options (hlimits : es.has "min_value" = true → es.has "max_value" = true)
    (hanimated : es.has "animated" = true) :
    bar.options g w (.dict es) = Kind.bar.writes w es := by
  refine Kind.writes_of_plain rfl ((bar_steps hanimated).trans ?_)
  have hboth : barLimits w es = (two "min_value" "max_value" (only "lv_bar_set_range") fun w low high => do
      let low ← integer.emit low
      let high ← integer.emit high
      Code.run "lv_bar_set_range" [.cpp w.obj, low, high]).run w es := by
    rw [run_two]
    unfold barLimits
    cases hlow : es.get? "min_value" with
    | none => rfl
    | some low =>
      obtain ⟨high, hhigh⟩ := Entries.exists_get?_of (hlimits (Entries.has_of_get? hlow))
      rw [hhigh]
      exact bind_congr fun v => required_bind hhigh _
  rw [hboth]
  exact bind_assoc _ _ _

end Kinds

/-! ## Options that are missing -/

namespace Kind

/-- The options that the code of a kind looks for in an update, although the rule of updates does
    not ask for them. -/
def demands : Kind → Entries → List String
  | .arclabel, _ => ["text"]
  | .bar, es => if Entries.has es "min_value" then ["max_value"] else []
  | .canvas, _ => ["width", "height", "transparent"]
  | .chart, _ => ["type"]
  | .lottie, _ => ["width", "height"]
  | .spangroup, _ => ["mode"]
  | .svg, _ => ["width", "height"]
  | .tabview, _ => ["position"]
  | .tex3d, _ => ["src"]
  | .tileview, _ => ["tiles"]
  | .win, _ => ["title"]
  | _, _ => []

def lacks (k : Kind) (es : Entries) : Option String :=
  (k.demands es).find? fun key => !Entries.has es key

def before : Kind → Widget → Entries → Build Unit
  | .bar, w, es => do
    Kinds.forItems (fun st => st.run w es) (Kind.bar.settings.take 1)
    let _ ← Property.integer.emit (Kinds.at? (.dict es) "min_value")
  | k, _, _ => k.opening

def fails (k : Kind) (w : Widget) (es : Entries) (key : String) : Build Unit := do
  k.before w es
  throw (.missingKey key)

end Kind

namespace Kinds

open Setting

variable {g : Generator} {w : Widget} {es : Entries} {key : String}

theorem required_first {first : String} {later : List String} {rest : Value → Build Unit}
    (h : (first :: later).find? (fun k => !es.has k) = some key)
    (hlater : ∀ v, later.find? (fun k => !es.has k) = some key → rest v = throw (.missingKey key)) :
    (liftM (required (.dict es) first) >>= rest : Build Unit) = throw (.missingKey key) := by
  rw [find?_cons] at h
  cases hfirst : es.has first with
  | true =>
    obtain ⟨v, hv⟩ := Entries.exists_get?_of hfirst
    rw [hfirst] at h
    rw [required_bind hv]
    exact hlater v h
  | false =>
    rw [hfirst] at h
    obtain rfl := Option.some.inj h
    exact required_bind_missing (Entries.get?_eq_none_of hfirst) _

theorem svg_fails (hmeasure : es.has "svg_width" = false) (h : Kind.svg.lacks es = some key) :
    svg.options g w (.dict es) = Kind.svg.fails w es key := by
  refine seq rfl ?_
  dsimp only
  rw [svg_stem hmeasure]
  exact required_first h fun _ h => required_first h nofun

theorem lottie_fails (hmeasure : es.has "lottie_width" = false)
    (h : Kind.lottie.lacks es = some key) :
    lottie.options g w (.dict es) = Kind.lottie.fails w es key := by
  have hstem : ∀ given : Bool,
      (if (!given && (dict es).has "lottie_width") then "lottie_" else "") = "" := by
    intro given
    show (if (!given && es.has "lottie_width") = true then "lottie_" else "") = ""
    rw [hmeasure, Bool.and_false]
    rfl
  refine seq rfl ?_
  dsimp only
  rw [hstem]
  exact required_first h fun _ h => required_first h nofun

theorem bar_lacks : Kind.bar.lacks es = if es.has "min_value" = true ∧ es.has "max_value" = false
    then some "max_value" else none := by
  show (if es.has "min_value" = true then ["max_value"] else []).find? (fun k => !es.has k) = _
  cases es.has "min_value" with
  | false => rfl
  | true =>
    rw [if_pos rfl, find?_singleton]
    cases es.has "max_value" <;> rfl

theorem bar_fails (hanimated : es.has "animated" = true) (h : Kind.bar.lacks es = some key) :
    bar.options g w (.dict es) = Kind.bar.fails w es key := by
  rw [bar_lacks] at h
  split at h
  · next hlimits =>
      obtain rfl := Option.some.inj h
      obtain ⟨low, hlow⟩ := Entries.exists_get?_of hlimits.1
      have hat : at? (.dict es) "min_value" = low := by
        rw [at?, Value.get?, hlow, Option.getD_some]
      unfold Kind.fails Kind.before
      dsimp only
      rw [bar_steps hanimated, barLimits, hlow, hat]
      simp only [bind_assoc]
      refine bind_congr fun _ => bind_congr fun _ => ?_
      exact required_bind_missing (Entries.get?_eq_none_of hlimits.2) _
  · cases h

end Kinds

end Panel
