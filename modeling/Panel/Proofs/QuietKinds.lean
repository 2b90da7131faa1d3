import Mathlib.Tactic.FinCases
import Panel.Proofs.Quiet

/-! # Quiet kinds — the code of every kind of widget is quiet

    Most code only calls functions of the library.  Charts, tab views and tile views also assign
    variables, but only those that they have just made; matrices, menus and meters make further
    widgets known, each by the name of its variable. -/

namespace Panel

open Cpp List Code Property Widget Kinds Style

variable {key name : String} {p : Property} {options : Value}

/-- The kinds whose options build further widgets, or assign variables that they make. -/
def Kind.builds : Kind → Bool
  | .chart | .menu | .scale | .tabview | .tileview => true
  | _ => false

section

variable {q : Quietness} {free : List String} {names : Option String → Prop} {w : Widget}
  {g : Generator} {config v : Value}

/-! ## Code that kinds share -/

@[grind ←]
theorem Code.runMethod_quiet
    (h : name = "set_key" ∨ name = "set_mode" ∨ name = "set_options" ∨ name = "set_points"
      ∨ name = "set_selected_index" ∨ name = "set_selected_text" ∨ name = "set_value") (e : Expr)
    (args : List Value) : (runMethod e name args).Heeds (q.of free) := by
  refine runMethod_keeps ?_ args
  rcases h with rfl | rfl | rfl | rfl | rfl | rfl | rfl
  all_goals exact Quietness.methods rfl rfl rfl (by decide) e

@[grind ←]
theorem Widget.setOwnOption_writes (hname : name ≠ "id") (h : config.OptionsCovered names)
    (manner : Manner) : (w.setOption name config none manner).Writes (q.of free) names :=
  setOption_writes (Quietness.calls _) (fun _ => h.given? hname) (by simp)

@[grind ←]
theorem Widget.setProperty_writes (h : property? name = none) (v : Value) (manner : Manner) :
    (w.setProperty name v manner).Writes (q.of free) names := by
  unfold setProperty
  split
  next es =>
    unfold setOption
    split
    next => exact .of_pure _
    next v hv =>
      split
      next p hp => exact nomatch h.symm.trans hp
      next => exact .of_lift (setValue_quiet name v manner)
  next => exact .of_pure _
  next => exact .of_lift (setValue_quiet _ _ _)

theorem Widget.property?_own : ∀ name ∈ ["text", "value", "step", "src", "mode", "textarea", "size",
    "light_color", "dark_color", "visible_row_count", "placeholder_text", "accepted_chars",
    "max_length", "password_mode", "one_line", "tab_bar_position", "tab_bar_size"],
    property? name = none := by
  decide +kernel

theorem Widget.walked_bind_writes (h : v.Covered names) {f : List Value → Build Unit}
    (hf : ∀ xs, (∀ x ∈ xs, x.Covered names) → (f xs).Writes (q.of free) names) :
    Build.Writes (q.of free) names ((liftM (walked v) : Build (List Value)) >>= f) := by
  refine .lift_bind (walked_keeps v) fun {xs _ _} hrun => hf xs ?_
  unfold walked at hrun
  split at hrun
  next xs =>
    cases hrun
    exact fun x hx => Value.covered_of_mem h hx
  next es =>
    -- The keys of a dictionary are words.
    cases hrun
    rintro x hx
    obtain ⟨e, -, rfl⟩ := mem_map.mp hx
    exact nofun
  next =>
    split at hrun
    next text =>
      cases hrun
      rintro x hx
      obtain ⟨c, -, rfl⟩ := mem_map.mp hx
      exact nofun
    next => cases hrun

@[grind ←]
theorem Widget.addFlag_quiet (flag : Value) : (w.addFlag flag).Heeds (q.of free) :=
  addFlag_keeps (fun f _ => Quietness.calls f) flag

@[grind ←]
theorem Widget.clearFlag_quiet (flag : Value) : (w.clearFlag flag).Heeds (q.of free) :=
  clearFlag_keeps (fun f _ => Quietness.calls f) flag

@[grind ←]
theorem Widget.change_quiet [hq : q.Changes] {f : Widget → Widget} (h : ∀ w, (f w).Alike w)
    (key : String) : (change key f).Heeds (q.of free) :=
  ⟨fun s => hq.change key s h⟩

namespace Style

@[grind ←]
theorem sheetValue_quiet (v : Value) : (sheetValue v).Heeds (q.of free) := by
  unfold sheetValue
  repeat' split
  all_goals grind

theorem applyAll_quiet {styles : List (String × Property)}
    (h : ∀ e ∈ styles, e.2.Heeds (q.of free)) (sheet : Expr) (style : Value) :
    (applyAll sheet style styles).Heeds (q.of free) := by
  induction styles with
  | nil => exact .of_pure _
  | cons e styles ih =>
    obtain ⟨name, p⟩ := e
    have hp : p.Heeds (q.of free) := h _ mem_cons_self
    have hrest := ih (forall_mem_cons.mp h).2
    unfold applyAll
    split <;> grind

@[grind ←]
theorem apply_quiet (sheet : Expr) (style : Value) : (apply sheet style).Heeds (q.of free) := by
  have hall : (applyAll sheet style allStyles).Heeds (q.of free) :=
    applyAll_quiet (fun e he => (allStyles_asks e he).keeps) sheet style
  unfold apply
  split
  · exact .bind (.of_throw _) fun _ => hall
  · exact hall

@[grind ←]
theorem create_quiet (name : String) (style : Value) : (create name style).Heeds (q.of free) := by
  unfold create
  refine .first (newObject_keeps _ _) fun sheet => ?_
  refine .first (run_quiet _ _) fun _ => ?_
  split <;> grind

@[grind ←]
theorem Named.sheet_quiet (n : Named) : n.sheet.Heeds (q.of free) := by
  refine .bind .of_get fun s => ?_
  split
  · exact .of_pure _
  · exact .bind (create_quiet _ _) fun _ => .bind ⟨fun s => (q.of free).aside rfl⟩ fun _ => .of_pure _

end Style

namespace Kinds

variable {k : Kind}

@[grind ←]
theorem callFor_writes (hp : p.Asks) (hkey : key ≠ "id") (h : config.OptionsCovered names)
    (function : String) : (callFor function w config key p).Writes (q.of free) names := by
  unfold callFor
  grind

@[grind ←]
theorem propertyFor_writes (hp : p.Asks) (hkey : key ≠ "id") (hstyle : property? key = none)
    (h : config.OptionsCovered names) : (propertyFor w config p key).Writes (q.of free) names := by
  unfold propertyFor
  grind

theorem setOptions_writes {ps : List (String × Property)} (hps : ∀ e ∈ ps, e.2.Asks ∧ e.1 ≠ "id")
    (h : config.OptionsCovered names) : (setOptions w config ps).Writes (q.of free) names := by
  induction ps with
  | nil => exact .of_pure _
  | cons e ps ih =>
    obtain ⟨hp, hname⟩ := hps e mem_cons_self
    have hfirst : (w.setOption e.1 config (some e.2) {}).Writes (q.of free) names :=
      setOption_writes (Quietness.calls _) (fun _ => h.given? hname) fun _ hsome =>
        Option.some.inj hsome ▸ hp
    exact hfirst.bind fun _ => ih (forall_mem_cons.mp hps).2

/-! ## Texts and choices -/

@[grind ←]
theorem applySelection_writes (h : config.OptionsCovered names) (animation : Value) :
    (applySelection w config animation).Writes (q.of free) names := by
  unfold applySelection
  repeat' split
  all_goals grind

/-! ## Numbers in a range -/

@[grind ←]
theorem startValue_writes (h : config.OptionsCovered names) :
    (startValue config).Writes (q.of free) names := by
  unfold startValue
  split <;> grind

@[grind ←]
theorem endValue_writes (h : config.OptionsCovered names) :
    (endValue config).Writes (q.of free) names := by
  unfold endValue
  grind

/-! ## Pictures -/

theorem applyButtonPictures_writes (h : config.OptionsCovered names) {states : List String}
    (hstates : ∀ state ∈ states, "src_" ++ state ≠ "id") :
    (applyButtonPictures w config states).Writes (q.of free) names := by
  induction states with
  | nil => exact .of_pure _
  | cons state states ih =>
    have hrest := ih (forall_mem_cons.mp hstates).2
    have hkey := hstates state mem_cons_self
    unfold applyButtonPictures
    split <;> grind

@[grind ←]
theorem applyCodeText_writes (h : v.Covered names) :
    (applyCodeText w v).Writes (q.of free) names := by
  have hname : stdString.name ≠ "" := by decide
  unfold applyCodeText
  grind

/-! ## Tables, spans and lists -/

@[grind ←]
theorem mappedWord_quiet (mapping : List (String × String)) (v : Value) :
    (mappedWord mapping v).Heeds (q.of free) := by
  unfold mappedWord
  grind

@[grind ←]
theorem applySpan_writes {span : Value} (h : span.Covered names) :
    (applySpan w span).Writes (q.of free) names := by
  unfold applySpan
  repeat' first
    | with_reducible refine Build.Writes.required_bind fun _ _ => ?_
    | with_reducible refine .bind ?_ fun _ => ?_
    | split
    | dsimp only
  all_goals grind

@[grind ←]
theorem applyListItem_writes {item : Value} (h : item.Covered names) :
    (applyListItem w item).Writes (q.of free) names := by
  unfold applyListItem
  grind

@[grind ←]
theorem applyWindowButton_writes {button : Value} (h : button.Covered names) :
    (applyWindowButton w button).Writes (q.of free) names := by
  unfold applyWindowButton
  repeat' split
  all_goals grind

@[grind ←]
theorem applyHighlighted_quiet (config : Value) (ending : String) :
    (applyHighlighted w config ending).Heeds (q.of free) := by
  have htexts : ∀ dates : List Value, (dates.mapM dateText).Heeds (q.of free) := fun _ =>
    .mapM fun date _ => by
      unfold dateText
      grind
  unfold applyHighlighted
  grind

@[grind ←]
theorem emitControls_writes (controls : List String) : (emitControls controls).Writes (q.of free) names :=
  (oneOf_asks _).writes (Value.covered_words controls)

theorem noteButton_quiet [hq : q.Notes] (id : Ident) (config : Value) (index : Nat) :
    (noteButton w id config index).Heeds (q.of free) := by
  refine ⟨fun s => ?_⟩
  have hmade := (newVariable_keeps id (.int index) (r := q.of free)).on s
  cases hrun : (newVariable id (.int index)).on s with
  | mk result t =>
    rw [hrun] at hmade
    cases result with
    | ok e =>
      have hnote : (matrixButtonWidget w id config index).note.Heeds (q.of (id.text :: free)) :=
        note_keeps (hq.note (.inr ⟨mem_cons_self, rfl⟩))
      rw [noteButton, Check.on_bind_ok _ hrun]
      exact q.made hmade (newVariable_registers hrun) (hnote.on t)
    | error e =>
      rw [noteButton, Check.on_bind_error _ hrun]
      exact hmade

theorem gatherRow_writes [q.Notes] (buttons : List Value) (data : MatrixData) :
    (gatherRow w buttons data).Writes (q.of free) names := by
  induction buttons generalizing data with
  | nil => exact .of_pure _
  | cons button buttons ih =>
    exact .ask (identAt_still _ _) fun _ => .first (noteButton_quiet _ _ _) fun _ =>
      .ask (required_still _ _) fun _ => .bind (emitControls_writes _) fun _ => ih _

theorem gatherRows_writes [q.Notes] (rows : List Value) (data : MatrixData) :
    (gatherRows w rows data).Writes (q.of free) names := by
  induction rows generalizing data with
  | nil => exact .of_pure _
  | cons row rows ih => exact (gatherRow_writes _ data).bind fun _ => ih _

@[grind ←]
theorem forButtons_writes (function : String) (i : Nat) (vs : List Value) :
    (forButtons function w i vs).Writes (q.of free) names := by
  induction vs generalizing i with
  | nil => exact .of_pure _
  | cons v vs ih => exact .first (run_quiet _ _) fun _ => ih _

@[grind ←]
theorem applyKeys_writes (i : Nat) (keys : List Value) :
    (applyKeys w i keys).Writes (q.of free) names := by
  induction keys generalizing i with
  | nil => exact .of_pure _
  | cons key keys ih =>
    unfold applyKeys
    split <;> grind

/-! ## Scales -/

@[grind ←]
theorem stylePart_quiet (hp : p.Heeds (q.of free)) (obj : Expr) (property : String)
    (options : Value) (key : String) (part : Value) :
    (stylePart obj property p options key part).Heeds (q.of free) := by
  unfold stylePart
  grind

@[grind ←]
theorem applyLabelGap_quiet (obj : Expr) (major : Value) :
    (applyLabelGap obj major).Heeds (q.of free) := by
  unfold applyLabelGap
  grind

@[grind ←]
theorem onDrawTask_quiet {work : Build Unit} (hwork : work.Heeds (q.of free)) (obj : Expr) :
    (onDrawTask obj work).Heeds (q.of free) :=
  .bind (closureOf_quiet _ _ hwork) fun _ => .first (run_quiet _ _) fun _ =>
    .of_lift (run_quiet _ _)

@[grind ←]
theorem applyTicks_quiet (ticks : Value) : (applyTicks w ticks).Heeds (q.of free) := by
  unfold applyTicks applyMajorTicks applyLabelTransform
  repeat' first
    | with_reducible refine .bind ?_ fun _ => ?_
    | split
    | dsimp only
  all_goals grind

@[grind ←]
theorem newAddress_quiet : newAddress.Heeds (q.of free) := ⟨fun _ => (q.of free).aside rfl⟩

@[grind ←]
theorem applyLabels_quiet (texts : Value) : (applyLabels w texts).Heeds (q.of free) := by
  unfold applyLabels
  grind

@[grind ←]
theorem applySectionStyle_writes (sect : Expr) (name part : String) {color : Option Value}
    (h : ∀ v, color = some v → v.Covered names) (width : Option Value) :
    (applySectionStyle sect name part color width).Writes (q.of free) names := by
  unfold applySectionStyle
  repeat' split
  all_goals grind

@[grind ←]
theorem applySection_writes (h : options.Covered names) :
    (applySection w config options).Writes (q.of free) names := by
  unfold applySection applySectionPart
  repeat' first
    | with_reducible refine .bind ?_ fun _ => ?_
    | split
    | dsimp only
  all_goals grind

@[grind ←]
theorem applyNeedle_writes (h : options.Covered names) :
    (applyNeedle w options).Writes (q.of free) names := by
  have hnote : ∀ id n, (noteNeedle id n).Heeds (q.of free) := fun _ _ => .of_modify fun _ => rfl
  unfold applyNeedle needleName
  repeat' first
    | with_reducible refine .bind ?_ fun _ => ?_
    | split
    | dsimp only
  all_goals grind

@[grind ←]
theorem applyAngles_writes (h : config.OptionsCovered names) :
    (applyAngles w config).Writes (q.of free) names := by
  unfold applyAngles
  repeat' split
  all_goals grind

@[grind ←]
theorem applyScaleRange_quiet (config low high : Value) :
    (applyScaleRange w config low high).Heeds (q.of free) := by
  unfold applyScaleRange
  grind

@[grind ←]
theorem scale_quiet (config : Value) : (scale.options g w config).Heeds (q.of free) := by
  unfold scale
  repeat' first
    | with_reducible refine .bind ?_ fun _ => ?_
    | split
    | dsimp only
  all_goals grind

/-! ## Charts -/

@[grind ←]
theorem applyAxis_writes (h : config.OptionsCovered names) (axis : String) :
    (applyAxis w config axis).Writes (q.of free) names := by
  have hkey : "axis_" ++ axis ≠ "id" := by
    intro hid
    have hchars := congrArg String.toList hid
    rw [String.toList_append] at hchars
    cases hchars
  unfold applyAxis
  grind

theorem applyPairs_writes (series : Expr) (i : Nat) {pairs : List (Value × Value)}
    (h : ∀ pair ∈ pairs, pair.1.Covered names ∧ pair.2.Covered names) :
    (applyPairs w series i pairs).Writes (q.of free) names := by
  induction pairs generalizing i with
  | nil => exact .of_pure _
  | cons pair pairs ih =>
    obtain ⟨x, y⟩ := pair
    obtain ⟨hx, hy⟩ := h _ mem_cons_self
    have hrest := fun i => ih i (forall_mem_cons.mp h).2
    unfold applyPairs writeCoordinate
    grind

theorem assign_made_quiet (id : Ident) (creator : Expr) :
    (assign (.pointer id.text) (.cpp creator)).Heeds (q.of (id.text :: free)) :=
  assign_quiet (show (Expr.pointer id.text).render ∈ _ from .head _) _

@[grind ←]
theorem applySeries_quiet (series : Value) : (applySeries w series).Heeds (q.of free) := by
  unfold applySeries
  extract_lets rest
  have hrest : ∀ color, (rest color).Heeds (q.of free) := by
    intro color
    refine .required fun axis => ?_
    refine .first (mappedWord_quiet _ _) fun _ => ?_
    refine .ask (identAt_still _ _) fun id => ?_
    refine .quiet_made (globalPointer_keeps _ _) (globalPointer_makes _ _) ?_
    refine .ask (callOf_still _ _) fun _ => ?_
    refine .first (assign_made_quiet _ _) fun _ => ?_
    split
    · refine .bind (.of_writes (applyPairs_writes _ _ fun pair _ => ?_)) fun _ =>
        .of_lift (run_quiet _ _)
      exact ⟨pair.1.covered_any, pair.2.covered_any⟩
    · grind
  split
  · exact .bind (color_asks.keeps.emit _) hrest
  · exact hrest _

@[grind ←]
theorem applyCursor_quiet (cursor : Value) : (applyCursor w cursor).Heeds (q.of free) := by
  refine .required fun color => ?_
  refine .bind (color_asks.keeps.emit _) fun _ => ?_
  refine .required fun direction => ?_
  refine .first (mappedWord_quiet _ _) fun _ => ?_
  refine .ask (identAt_still _ _) fun id => ?_
  refine .quiet_made (globalPointer_keeps _ _) (globalPointer_makes _ _) ?_
  exact .ask (callOf_still _ _) fun _ => .of_lift (assign_made_quiet _ _)

@[grind ←]
theorem chart_quiet (config : Value) : (chart.options g w config).Heeds (q.of free) := by
  unfold chart
  repeat' first
    | with_reducible refine .bind ?_ fun _ => ?_
    | split
    | dsimp only
  all_goals grind

/-! ## Pages -/

section

variable [hq : q.Notes] (hg : g.Quiet q) (config : Value)

include hg

@[grind ←]
theorem applyTab_quiet (tab : Value) : (applyTab g w tab).Heeds (q.of free) := by
  refine .ask (identAt_still _ _) fun id => ?_
  refine .quiet_made (pointerTo_keeps _ _) (pointerTo_makes _ _) ?_
  refine .first (note_fresh_quiet _ _ _) fun _ => ?_
  refine .required fun name => ?_
  refine .ask (callOf_still _ _) fun _ => ?_
  refine .first (assign_made_quiet _ _) fun _ => ?_
  exact .bind (applyCommon_quiet _) fun _ => addChildren_quiet hg _

@[grind ←]
theorem applyTile_quiet (tile : Value) : (applyTile g w tile).Heeds (q.of free) := by
  refine .ask (identAt_still _ _) fun id => ?_
  refine .quiet_made (globalPointer_keeps _ _) (globalPointer_makes _ _) ?_
  refine .first (note_fresh_quiet _ _ _) fun _ => ?_
  refine .required fun name => ?_
  refine .bind ((oneOf_asks _).keeps.emit _) fun _ => ?_
  refine .required fun row => ?_
  refine .required fun column => ?_
  refine .ask (callOf_still _ _) fun _ => ?_
  refine .first (assign_made_quiet _ _) fun _ => ?_
  have hplace : ∀ v, (tilePlace v).Heeds (q.of (id.text :: free)) := fun v =>
    .ask (Value.toFloat_still v) fun _ => pixelsOrPercent_asks.keeps.emit _
  exact .bind (hplace _) fun _ => .bind (hplace _) fun _ => .first (run_quiet _ _) fun _ =>
    .bind (applyCommon_quiet _) fun _ => addChildren_quiet hg _

@[grind ←]
theorem applyMenuPage_quiet (page : Value) : (applyMenuPage g w page).Heeds (q.of free) := by
  refine .ask (identAt_still _ _) fun id => ?_
  extract_lets rest
  have hrest : ∀ title, (rest title).Heeds (q.of free) := by
    intro title
    refine .ask (callOf_still _ _) fun _ => ?_
    refine .quiet_made (pointerTo_keeps _ _) (pointerTo_makes _ _) ?_
    refine .first (note_fresh_quiet _ _ _) fun _ => ?_
    exact .bind (applyCommon_quiet _) fun _ => addChildren_quiet hg _
  split
  · exact .bind (text_asks.keeps.emit _) hrest
  · exact hrest _

theorem menu_quiet : (menu.options g w config).Heeds (q.of free) := by
  have hpages : ∀ pages, (forItems (applyMenuPage g w) pages).Heeds (q.of free) :=
    fun _ => .forItems fun page _ => applyMenuPage_quiet hg page
  unfold menu
  grind

theorem tileview_quiet : (tileview.options g w config).Heeds (q.of free) := by
  have htiles : ∀ tiles, (forItems (applyTile g w) tiles).Heeds (q.of free) :=
    fun _ => .forItems fun tile _ => applyTile_quiet hg tile
  unfold tileview
  repeat' first
    | with_reducible refine .bind ?_ fun _ => ?_
    | split
    | dsimp only
  all_goals grind

omit hq hg in
@[grind ←]
theorem applyTabButtons_quiet (bar : Expr) (style : Value) (i : Nat) (tabs : List Value) :
    (applyTabButtons bar style i tabs).Heeds (q.of free) := by
  induction tabs generalizing i with
  | nil => exact .of_pure _
  | cons tab tabs ih =>
    exact .first (call_quiet _ _) fun _ =>
      .bind (applyCommon_quiet _) fun _ => ih _

omit hq hg in
@[grind ←]
theorem applyTabStyle_quiet (style : Value) (tabs : List Value) :
    (applyTabStyle w style tabs).Heeds (q.of free) := by
  unfold applyTabStyle
  refine .ask (callOf_still _ _) fun _ => ?_
  refine withLocal_keeps (by decide) _ _ _ fun var => ?_
  refine .bind (applyCommon_quiet _) fun _ => ?_
  split <;> grind

theorem tabview_quiet : (tabview.options g w config).Heeds (q.of free) := by
  have htabs : ∀ tabs, (forItems (applyTab g w) tabs).Heeds (q.of free) :=
    fun _ => .forItems fun tab _ => applyTab_quiet hg tab
  unfold tabview
  repeat' first
    | with_reducible refine .bind ?_ fun _ => ?_
    | split
    | dsimp only
  all_goals grind

end

/-! ## Meters -/

theorem moveIndicator_writes (h : config.OptionsCovered names) :
    (moveIndicator w config).Writes (q.of free) names := by
  unfold moveIndicator moveSection moveSweep turnPicture needleAngle
  refine .bind (startValue_writes h) fun start => .bind (endValue_writes h) fun stop => ?_
  repeat' split
  all_goals grind

@[grind ←]
theorem moveIndicator_quiet (config : Value) : (moveIndicator w config).Heeds (q.of free) :=
  .of_writes (moveIndicator_writes config.optionsCovered_any)

theorem quiet_plain {d : Design} (hcreator : d.creator = none)
    (hcreated : d.created = fun _ _ _ => pure ()) (hcreate : d.create? = none)
    (hoptions : ∀ {g : Generator}, g.Quiet q → ∀ w config, (d.options g w config).Heeds (q.of [])) :
    d.Quiet q where
  creator h := nomatch hcreator.symm.trans h
  created _ _ _ := hcreated ▸ .of_pure _
  options := hoptions
  create? h := nomatch hcreate.symm.trans h

section

variable [hq : q.Notes] (hg : g.Quiet q)

include hg

theorem createIndicator_quiet (kind : Kind) (props : Entries) (parent : Expr) :
    (createIndicator g kind props parent).Heeds (q.of free) := by
  have hdesign : Design.Quiet {} q := quiet_plain rfl rfl rfl fun _ _ _ => .of_pure _
  exact (createCommon_quiet hdesign hg kind _ parent).quiet_mono (nil_subset _)

omit hq hg in
@[grind ←]
theorem lineLength_quiet (options : Value) : (lineLength options).Heeds (q.of free) := by
  unfold lineLength
  split
  · exact .of_pure _
  · refine .bind (.of_modify fun _ => rfl) fun _ => ?_
    split <;> grind
  · exact .of_pure _

theorem applyIndicator_quiet (scaleVar : Expr) (scaleConfig indicator : Value) :
    (applyIndicator g scaleVar scaleConfig indicator).Heeds (q.of free) := by
  have hcreate : ∀ kind props parent, (createIndicator g kind props parent).Heeds (q.of free) :=
    createIndicator_quiet hg
  unfold applyIndicator applySweep applyNeedleLine applyPointer halfOf applyTickStyle
  repeat' first
    | with_reducible refine .bind ?_ fun _ => ?_
    | split
    | dsimp only
  all_goals grind

theorem applyMeterScale_quiet (meterVar : Expr) (tickStyle scaleConfig : Value) :
    (applyMeterScale g meterVar tickStyle scaleConfig).Heeds (q.of free) := by
  have hindicators : ∀ scaleVar xs,
      (forItems (applyIndicator g scaleVar scaleConfig) xs).Heeds (q.of free) := fun _ _ =>
    .forItems fun indicator _ => applyIndicator_quiet hg _ _ indicator
  unfold applyMeterScale applyMeterTicks applyMeterMajor applyMeterLook
  repeat' first
    | with_reducible refine .bind ?_ fun _ => ?_
    | split
    | dsimp only
  all_goals grind

end

theorem quiet_bareMeter : Design.Quiet { meter with create? := none } q where
  creator h := nomatch h
  created _ _ _ := .bind (Style.Named.sheet_quiet _) fun _ => .of_lift (run_quiet _ _)
  options _ _ _ := .of_pure _
  create? h := nomatch h

theorem quiet_meter [q.Notes] : meter.Quiet q where
  creator := quiet_bareMeter.creator
  created := quiet_bareMeter.created
  options := quiet_bareMeter.options
  create? {f} h {g} hg config parent := by
    obtain rfl := Option.some.inj h
    refine .first (needComponents_keeps _) fun _ => ?_
    split
    · refine .bind (createCommon_quiet quiet_bareMeter hg _ _ _) fun w => ?_
      refine .bind (.forItems fun scale _ => applyMeterScale_quiet hg _ _ scale) fun _ => ?_
      unfold applyPivot
      grind
    · exact .of_throw _

/-- What the kinds of texts and numbers write for options keeps to what counts as quiet, and is
    written at once if it refers to nothing that is missing. -/
theorem value_writes [q.Changes] (hbutton : k = .button → q.Notes) (h : config.OptionsCovered names) (g : Generator) (w : Widget)
    (hk : k ∈ [.button, .label, .checkbox, .arclabel, .textarea, .led, .dropdown, .roller, .arc,
      .bar, .slider, .spinbox, .spinner]) :
    (k.design.options g w config).Writes (q.of free) names := by
  have hown := property?_own
  simp only [forall_mem_cons] at hown
  have hnote : k = .button → ∀ child, (fresh "" child .label .null).note.Heeds (q.of free) :=
    fun h _ => note_keeps ((hbutton h).note (.inl rfl))
  have hsize : ∀ start stop, (arcSize start stop).Heeds (q.of free) := arcSize_keeps
  have harc : (setOptions w config arcOptions).Writes (q.of free) names :=
    setOptions_writes (by simp [arcOptions]) h
  fin_cases hk
  all_goals
    simp only [Kind.design, button, label, checkbox, arclabel, textarea, led, dropdown, roller,
      buttonOptions, arclabelOptions, arc, bar, slider, spinbox, spinner, spinScale]
    repeat' first
      | with_reducible refine Build.Writes.required_bind fun _ _ => ?_
      | with_reducible refine .bind ?_ fun _ => ?_
      | split
      | dsimp only
    all_goals grind

/-- So does what the other kinds write that build no widget of their own. -/
theorem options_writes [q.Changes] (hk : k.builds = false)
    (hnotes : k = .button ∨ k = .buttonmatrix → q.Notes) (h : config.OptionsCovered names) (g : Generator) (w : Widget) : (k.design.options g w config).Writes (q.of free) names := by
  have hown := property?_own
  simp only [forall_mem_cons] at hown
  have himage : (setOptions w config imageOptions).Writes (q.of free) names :=
    setOptions_writes (by simp [imageOptions]) h
  have hpictures : (applyButtonPictures w config imgbtnStates).Writes (q.of free) names :=
    applyButtonPictures_writes h (by decide)
  have hsvg : ∀ file, (includeOnce (·.svgIncluded) (fun s => { s with svgIncluded := true })
      file).Heeds (q.of free) := includeOnce_keeps fun _ => rfl
  have hlottie : ∀ file, (includeOnce (·.lottieIncluded)
      (fun s => { s with lottieIncluded := true }) file).Heeds (q.of free) :=
    includeOnce_keeps fun _ => rfl
  have htargets : (targets config "textarea").Writes (q.of free) names := targets_writes _ _
  have hrows : k = .buttonmatrix → ∀ rows data, (gatherRows w rows data).Writes (q.of free) names :=
    fun h _ _ =>
      have := hnotes (.inr h)
      gatherRows_writes _ _
  cases k with
  | chart | menu | scale | tabview | tileview => cases hk
  | button | label | checkbox | arclabel | textarea | led | dropdown | roller | arc | bar | slider
  | spinbox | spinner => exact value_writes (hnotes ∘ .inl) h g w (by simp)
  | line =>
    refine .required_bind fun v hv => ?_
    refine walked_bind_writes (h.get? (by decide) hv) fun ps hps => ?_
    exact .bind (emitPoints_asks hps).writes fun _ => .of_lift (runMethod_quiet (by simp) _ _)
  | image | animimg | imgbtn | tex3d | qrcode | svg | lottie | canvas | table | spangroup | list
  | win | calendar | keyboard | buttonmatrix =>
    simp only [Kind.design, image, animimg, imgbtn, tex3d, qrcode, svg, lottie, canvas, callIfSet,
      buildIn, table, spangroup, list, win, calendar, keyboard, buttonmatrix, callIfCount,
      datePartOf, applyHeader, applyDayNames]
    repeat' first
      | with_reducible refine Build.Writes.required_bind fun _ _ => ?_
      | with_reducible refine .bind ?_ fun _ => ?_
      | split
      | dsimp only
    all_goals grind
  | _ => exact .of_pure _

theorem quiet_button [hq : q.Notes] : button.Quiet q where
  creator h := nomatch h
  created _ _ config := by
    show (if config.has "text" then _ else _ : Build Unit).Heeds _
    split <;> grind
  options _ w config := .of_writes (options_writes (k := .button) rfl (fun _ => hq) config.optionsCovered_any _ w)
  create? h := nomatch h

end Kinds

end

theorem Kind.quiet_design (q : Quietness) [hq : q.Notes] (k : Kind) : k.design.Quiet q := by
  cases k with
  | button => exact quiet_button
  | meter => exact quiet_meter
  | footerButton | headerButton =>
    refine ⟨fun h _ _ _ => ?_, fun _ _ _ => .of_pure _, fun _ _ _ => .of_pure _, nofun⟩
    obtain rfl := Option.some.inj h
    exact .required fun _ => .of_lift (callOf_still _ _).keeps
  | chart => exact quiet_plain rfl rfl rfl fun _ _ => chart_quiet
  | menu => exact quiet_plain rfl rfl rfl fun hg _ => menu_quiet hg
  | scale => exact quiet_plain rfl rfl rfl fun _ _ => scale_quiet
  | tabview => exact quiet_plain rfl rfl rfl fun hg _ => tabview_quiet hg
  | tileview => exact quiet_plain rfl rfl rfl fun hg _ => tileview_quiet hg
  | _ =>
    exact quiet_plain rfl rfl rfl fun _ w config =>
      .of_writes (options_writes rfl (fun _ => hq) config.optionsCovered_any _ w)

theorem Generator.quiet_ofDepth (q : Quietness) [q.Notes] (n : Nat) : (Generator.ofDepth n).Quiet q := by
  induction n with
  | zero => exact fun _ _ _ => .of_throw _
  | succ n ih => exact fun kind config parent =>
    Widget.create_quiet (kind.quiet_design q) ih kind config parent

end Panel
