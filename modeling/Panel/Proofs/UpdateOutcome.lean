import Panel.Proofs.UpdateForms

/-! # Outcomes of updates — an accepted update writes its settings or lacks an option

    What the rule of updates promises is held against what the code of each kind looks for. -/

namespace Panel

open Cpp List Test Property Kinds Kind

variable {key : String}

/-! ## Options that are always there -/

namespace Kind

variable {gr : Grammar} {written es : Entries} {k : Kind}

theorem has_animated (hk : k = .bar ∨ k = .slider ∨ k = .roller)
    (h : (k.updateRecord gr).Accepted written es) : es.has "animated" = true := by
  rcases hk with rfl | rfl | rfl
  all_goals
    exact has_changed h (f := .defaulted "animated" (.bool true) acceptAnimated) rfl (.inl rfl)

theorem has_auto_start (h : (animimg.updateRecord gr).Accepted written es) :
    es.has "auto_start" = true :=
  has_changed h (f := .defaulted "auto_start" (.bool true) boolean) rfl (.inl rfl)

theorem has_arc_length (h : (spinner.updateRecord gr).Accepted written es) :
    es.has "arc_length" = true :=
  has_changed h (f := .defaulted "arc_length" (.int 200)
      (allOf [degrees.validate, intRange (some 0) (some 360)])) rfl (.inl rfl)

theorem has_points (h : (line.updateRecord gr).Accepted written es) : es.has "points" = true :=
  has_changed h (f := .required "points" (ensureList Schema.pointValue)) rfl (.inr rfl)

/-! ## Options that are never there -/

/-- Options that the code of a kind looks for and that only a new widget can have. -/
def creationOnly : Kind → List String
  | .arc => ["adjustable", "start_value"]
  | .buttonmatrix => ["rows"]
  | .canvas => ["transparent"]
  | .chart => ["type"]
  | .imgbtn => Kinds.imgbtnStates.map ("src_" ++ ·)
  | .lottie => ["lottie_width", "file"]
  | .menu => ["pages", "root_back_button", "sidebar_page"]
  | .slider => ["min_value", "start_value"]
  | .spangroup => ["mode"]
  | .spinbox => ["digits"]
  | .svg => ["svg_width", "src", "file"]
  | .tabview => ["position"]
  | .tex3d => ["src"]
  | .tileview => ["tiles"]
  | .win => ["title"]
  | _ => []

theorem changes_keys (k : Kind) (gr : Grammar) :
    (k.design.changes gr).map (·.key) = (k.design.changes Grammar.exhausted).map (·.key) := by
  cases k <;> rfl

theorem creationOnly_not_field (gr : Grammar) (hkey : key ∈ "layout" :: "group" :: k.creationOnly) :
    key ∉ sharedKeys ∧ key ∉ k.traits.parts ∧ key ∉ (k.design.changes gr).map (·.key) := by
  -- the shared keys are many: what is held against them is gathered from all kinds first
  have hshared : ∀ key ∈ ["layout", "group", "adjustable", "start_value", "rows", "transparent",
      "type", "lottie_width", "file", "pages", "root_back_button", "sidebar_page", "min_value",
      "mode", "digits", "svg_width", "src", "position", "tiles", "title"]
      ++ imgbtnStates.map ("src_" ++ ·), key ∉ sharedKeys := by
    decide +kernel
  rw [changes_keys]
  refine ⟨hshared key ?_, ?_⟩
  · cases k <;> revert key <;> decide +kernel
  · cases k <;> revert key <;> decide +kernel

theorem creationOnly_not_has (h : (k.updateRecord gr).Accepted written es)
    (hkey : key ∈ "layout" :: "group" :: k.creationOnly) : es.has key = false := by
  obtain ⟨hshared, hpart, hchange⟩ := creationOnly_not_field gr hkey
  exact not_has h hshared hpart hchange

end Kind

/-! ## Updates -/

namespace Kinds

open Setting

variable {g : Generator} {w : Widget} {es : Entries}

theorem imgbtn_options (hpictures : ∀ state ∈ imgbtnStates, es.has ("src_" ++ state) = false) :
    imgbtn.options g w (.dict es) = Kind.imgbtn.writes w es := by
  refine seq rfl ?_
  show applyButtonPictures w (.dict es) imgbtnStates = pure ()
  generalize imgbtnStates = states at hpictures
  induction states with
  | nil => rfl
  | cons state states ih =>
    unfold applyButtonPictures
    rw [Value.get?_eq_none_of (hpictures state mem_cons_self)]
    exact ih (forall_mem_cons.mp hpictures).2

end Kinds

namespace Kind

open Setting

variable {k : Kind} {gr : Grammar} {written es : Entries}

/-- The kinds whose updates write their settings: those that a configuration can name, but for the
    two that have updates of their own. -/
def updated : List Kind :=
  (Kind.list :: Kind.all).filter fun k => decide (k ≠ .calendar ∧ k ≠ .scale)

theorem has_of_lacks (h : k.lacks es = none) (hkey : key ∈ k.demands es) : es.has key = true := by
  have hnot := find?_eq_none.mp h key hkey
  rwa [Bool.not_eq_true', Bool.not_eq_false] at hnot

theorem lacks_of (hkey : key ∈ k.demands es) (habsent : es.has key = false) :
    k.lacks es ≠ none := by
  intro hlacks
  rw [has_of_lacks hlacks hkey] at habsent
  exact nomatch habsent

/-- What the code of a kind does with an update: it fails with the first option that is missing of
    those it looks for, or it writes the settings. -/
def outcome (k : Kind) (w : Widget) (es : Entries) : Build Unit :=
  match k.lacks es with
  | some key => k.fails w es key
  | none => k.writes w es

theorem update_options (hk : k ∈ updated) (h : (k.updateRecord gr).Accepted written es)
    (g : Generator) (w : Widget) :
    k.design.options g w (.dict es) = k.outcome w es := by
  unfold outcome
  have habsent : ∀ {key : String}, key ∈ k.creationOnly → es.has key = false :=
    fun hkey => creationOnly_not_has h (mem_cons_of_mem _ (mem_cons_of_mem _ hkey))
  cases k with
  | calendar => exact absurd (mem_filter.mp hk).2 (by decide)
  | scale => exact absurd (mem_filter.mp hk).2 (by decide)
  | animimg => exact animimg_options (has_auto_start h)
  | arc => exact arc_options (habsent (by decide)) (habsent (by decide))
  | button => exact button_options
  | buttonmatrix =>
    refine seq rfl ?_
    rw [Value.get?_eq_none_of (habsent (by decide))]
    rfl
  | checkbox => exact writes_of_plain rfl (last (callFor_eq _ _ _))
  | dropdown => exact dropdown_options
  | image => exact image_options
  | imgbtn =>
    exact imgbtn_options fun state hstate => habsent (mem_map.mpr ⟨state, hstate, rfl⟩)
  | keyboard => exact keyboard_options
  | label => exact label_options
  | led => exact writes_of_plain rfl (seq (callFor_eq _ _ _) (last (callFor_eq _ _ _)))
  | line => exact line_options (has_points h)
  | list => exact seq rfl (last (forItems_eq fun _ => rfl))
  | menu =>
    exact menu_options (habsent (by decide)) (habsent (by decide)) (habsent (by decide))
  | qrcode =>
    refine writes_of_plain rfl ?_
    refine seq (propertyFor_eq _ _) (seq (propertyFor_eq _ _) (seq (propertyFor_eq _ _) ?_))
    exact last_given fun _ => rfl
  | roller => exact roller_options (has_animated (by decide) h)
  | slider =>
    exact slider_options (habsent (by decide)) (habsent (by decide)) (has_animated (by decide) h)
  | spinbox =>
    refine writes_of_plain rfl ?_
    dsimp only [Kind.design, Kinds.spinbox]
    rw [Value.get?_eq_none_of (habsent (by decide))]
    exact last_given fun _ => rfl
  | spinner => exact spinner_options (has_arc_length h)
  | table => exact table_options
  | textarea =>
    exact writes_of_plain rfl (seq (propertyFor_eq _ _) (seq (propertyFor_eq _ _)
      (seq (propertyFor_eq _ _) (seq (propertyFor_eq _ _) (seq (propertyFor_eq _ _)
        (last (propertyFor_eq _ _)))))))
  | arclabel =>
    cases hlacks : arclabel.lacks es with
    | some key => exact seq rfl (required_first hlacks nofun)
    | none => exact arclabel_options (has_of_lacks hlacks (.head _))
  | bar =>
    have hanimated := has_animated (.inl rfl) h
    cases hlacks : bar.lacks es with
    | some key => exact bar_fails hanimated hlacks
    | none =>
      refine bar_options (fun hlow => has_of_lacks hlacks ?_) hanimated
      show "max_value" ∈ if es.has "min_value" = true then ["max_value"] else []
      rw [if_pos hlow]
      exact mem_cons_self
  | canvas =>
    cases hlacks : canvas.lacks es with
    | some key =>
      exact required_first hlacks fun _ h => required_first h fun _ h => required_first h nofun
    | none => exact absurd hlacks (lacks_of (.tail _ (.tail _ (.head _))) (habsent (by decide)))
  | lottie =>
    cases hlacks : lottie.lacks es with
    | some key => exact lottie_fails (habsent (by decide)) hlacks
    | none =>
      exact lottie_options (habsent (by decide)) (has_of_lacks hlacks (.head _))
        (has_of_lacks hlacks (.tail _ (.head _)))
  | svg =>
    cases hlacks : svg.lacks es with
    | some key => exact svg_fails (habsent (by decide)) hlacks
    | none =>
      exact svg_options (habsent (by decide)) (habsent (by decide)) (habsent (by decide))
        (has_of_lacks hlacks (.head _)) (has_of_lacks hlacks (.tail _ (.head _)))
  | chart | spangroup | tex3d | win =>
    cases hlacks : lacks _ es with
    | some key => exact seq rfl (required_first hlacks nofun)
    | none => exact absurd hlacks (lacks_of (.head _) (habsent (by decide)))
  | tabview | tileview =>
    cases hlacks : lacks _ es with
    | some key => exact required_first hlacks nofun
    | none => exact absurd hlacks (lacks_of (.head _) (habsent (by decide)))
  | _ => rfl

end Kind

/-! ## Actions -/

/-- Writes the common options of an update, which has neither a layout nor a group. -/
def Widget.applyShared (w : Widget) (config : Value) : Build Unit := do
  let parts ← Style.collectParts config
  w.applyParts parts
  applySwitches "LV_OBJ_FLAG_" w.addFlag w.clearFlag (Switches.of (flagsOf parts))
  w.applyStateOption config
  w.applyScroll config (Schema.objectProperties.map (·.1))

theorem Widget.applyCommon_eq_applyShared {w : Widget} {es : Entries}
    (hlayout : es.has "layout" = false) (hgroup : es.has "group" = false) :
    w.applyCommon (.dict es) = w.applyShared (.dict es) := by
  have hlayout : w.applyLayoutOption (.dict es) = pure () := by
    rw [applyLayoutOption, Value.get?_eq_none_of hlayout]
  have hgroup : w.applyGroup (.dict es) = pure () := by
    rw [applyGroup, Value.get?_eq_none_of hgroup]
  unfold applyCommon applyShared
  rw [hlayout, hgroup]
  simp only [pure_bind]
  rw [if_neg (show ¬ (!(Value.dict es).isDict) = true by rintro ⟨⟩)]
  exact Build.lift_bind_eq (fun _ => rfl) _

namespace Automation

def updateName (k : Kind) : String := "lvgl." ++ k.name ++ ".update"

theorem find?_updateOf {k : Kind} (hk : k ∈ updated) :
    Behaviour.actions.find? (·.name == updateName k) = some (updateOf k k.design) := by
  -- the names of the other actions are long to compute: each is held against all kinds at once
  have hothers : (standardActions ++ widgetActions ++ screenActions ++ Behaviour.kindActions).all
      (fun b => updated.all fun k => !(b.name == updateName k)) = true := by
    decide +kernel
  have hkinds : ∀ k ∈ updated,
      (Kind.list :: Kind.all).find? (fun j => updateName j == updateName k) = some k := by
    decide +kernel
  unfold Behaviour.actions Behaviour.updates
  generalize standardActions ++ widgetActions ++ screenActions ++ Behaviour.kindActions = others
    at hothers
  have hnone : others.find? (·.name == updateName k) = none := by
    rw [find?_eq_none]
    intro b hb hname
    have hnot := all_eq_true.mp (all_eq_true.mp hothers b hb) k hk
    rw [hname] at hnot
    exact nomatch hnot
  rw [find?_append, hnone, Option.none_or, find?_map]
  exact congrArg (Option.map fun j => updateOf j j.design) (hkinds k hk)

theorem forWidgets_congr {work work' : Widget → Build Unit} {widgets : List Widget}
    (h : ∀ w ∈ widgets, work w = work' w) : forWidgets work widgets = forWidgets work' widgets := by
  induction widgets with
  | nil => rfl
  | cons w ws ih =>
    unfold forWidgets
    rw [h w mem_cons_self, ih (forall_mem_cons.mp h).2]

/-- What an accepted update of widgets of its kind does.  The update of every kind but two is the
    one that writes settings.  For each widget it writes the common options; then it fails if one of
    the options is missing that the code of the kind looks for, and otherwise writes the settings
    whose options are there. -/
theorem updateOf_build_accepted {k : Kind} (hk : k ∈ Kind.updated) {gr : Grammar}
    {v config : Value} {s s' : Session}
    (haccept : ((updateOf k k.design).rule gr v).on s = (.ok config, s'))
    {t t' : Session} {widgets : List Widget}
    (htargets : updateTargets config t = .done (.ok widgets) t')
    (hkinds : ∀ w ∈ widgets, w.kind = k) (n : Nat) (id : Ident) (params : List Param) :
    Behaviour.actions.find? (·.name == "lvgl." ++ k.name ++ ".update")
        = some (updateOf k k.design)
    ∧ ∃ es, config = .dict es
      ∧ (updateOf k k.design).build (Generator.ofDepth (n + 1)) config id params t
        = widgetAction widgets (fun w => do
            w.applyShared config
            k.outcome w es
            announceValue w config) id params es t' := by
  refine ⟨find?_updateOf hk, ?_⟩
  obtain ⟨written, es, -, rfl, h⟩ := update_accepted haccept
  refine ⟨es, rfl, ?_⟩
  have hlayout : Entries.has es "layout" = false := creationOnly_not_has h (.head _)
  have hgroup : Entries.has es "group" = false := creationOnly_not_has h (.tail _ (.head _))
  refine (Build.bind_ok _ htargets).trans ?_
  refine congrFun (congrArg (fun work : Build Unit => (do
      awaitLambdas es
      Widget.awaitAll
      let c ← closureOf params void work
      newEntry id params [.cpp (.closure c)] : Build Expr)) (forWidgets_congr ?_)) t'
  intro w hw
  rw [Widget.applyCommon_eq_applyShared hlayout hgroup]
  have hoptions : (Generator.ofDepth (n + 1)).options w (.dict es) = k.outcome w es := by
    rw [← update_options hk h (Generator.ofDepth n) w, ← hkinds w hw]
    rfl
  rw [hoptions]

def colouredChart : Value := .dict [("id", .str "c1"), ("bg_color", .int 255)]

def existingChart : Widget := .fresh "c1" (.raw "c1") .chart .null

/-- The key of the widget that a configuration names, if it names one. -/
def onlyTarget? : Except Failure Value → Option String
  | .ok (.dict es) =>
    match Entries.get? es "id" with
    | some (.list [.dict [("id", .ident id)]]) => some id.text
    | _ => none
  | _ => none

theorem updateTargets_eq {config : Value} {t : Session} {w : Widget}
    (h : onlyTarget? (.ok config) = some key) (hw : Widget.find? t key = some w) :
    updateTargets config t = .done (.ok [w]) t := by
  unfold onlyTarget? at h
  split at h
  case h_1 hconfig =>
    cases hconfig
    split at h
    next id hid =>
      cases h
      have hawait : Widget.await id.text t = .done (.ok w) t := by
        unfold Widget.await Build.waitFor
        beta_reduce
        rw [hw]
      unfold updateTargets
      rw [Setting.required_bind hid]
      show (do return [← Widget.await id.text] : Build (List Widget)) t = _
      exact Build.bind_ok _ hawait
    next => exact nomatch h
  case h_2 => exact nomatch h

/-- A chart can be given no colour: its code looks for the type that only a new chart has. -/
theorem updateOf_build_accepted_chart :
    ∃ es s', ((updateOf .chart Kind.chart.design).rule .exhausted colouredChart).on {}
        = (.ok (.dict es), s')
      ∧ Kind.chart.lacks es = some "type"
      ∧ (updateOf .chart Kind.chart.design).build (Generator.ofDepth 1) (.dict es)
          (Ident.declaration none objUpdateAction) [] { widgets := [existingChart] }
        = widgetAction [existingChart] (fun w => do
            w.applyShared (.dict es)
            Kind.chart.outcome w es
            announceValue w (.dict es))
          (Ident.declaration none objUpdateAction) [] es { widgets := [existingChart] } := by
  have hrun : onlyTarget? (((updateOf .chart chart.design).rule .exhausted
      colouredChart).on {}).1 = some "c1" := by
    decide +kernel
  obtain ⟨config, s', haccept, htarget⟩ :=
    Check.exists_on_ok (P := (onlyTarget? · = some "c1")) hrun fun _ h => nomatch h
  have htargets := updateTargets_eq (t := { widgets := [existingChart] }) htarget rfl
  obtain ⟨-, es, rfl, hbuild⟩ := updateOf_build_accepted (by simp [Kind.updated, Kind.all]) haccept
    htargets (List.forall_mem_singleton.mpr rfl) 0 (Ident.declaration none objUpdateAction) []
  refine ⟨es, s', haccept, ?_, hbuild⟩
  obtain ⟨written, es, -, ⟨⟩, h⟩ := update_accepted haccept
  have htype : Entries.has es "type" = false := creationOnly_not_has h (by decide)
  exact List.find?_cons_of_pos (by rw [htype]; rfl)

end Automation

end Panel
