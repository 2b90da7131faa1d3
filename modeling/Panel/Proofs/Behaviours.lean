import Panel.Proofs.Actions

/-! # Behaviours — the code of actions, conditions and triggers under a habit

    Actions and triggers assign variables and call functions that quiet work must not.  They keep to
    every habit that lets all of this be written. -/

namespace Panel

open Cpp List

variable (config : Value) (name : String) (group : Expr) {registry : List Behaviour}

section

variable {q : Quietness} [hq : q.Open] {free : List String} {g : Generator}

/-- Generators whose code keeps to a habit. -/
structure Generator.Steady (g : Generator) (q : Quietness) : Prop where
  widget : g.Quiet q
  options : ∀ w config, (g.options w config).Heeds (q.of [])
  actions : ∀ v params, (g.actions v params).Heeds (q.of [])
  condition : ∀ v params, (g.condition v params).Heeds (q.of [])

def Behaviour.Quiet (b : Behaviour) (q : Quietness) : Prop :=
  ∀ {g : Generator}, g.Steady q → ∀ config id params, (b.build g config id params).Heeds (q.of [])

omit hq in
theorem Behaviour.Acts.quiet {b : Behaviour} {names : Value → Option String → Prop}
    {entries : Value → Entries} (h : b.Acts q names entries) : b.Quiet q :=
  fun _ config id params => (h _ config id params).keeps

/-! ## Standard behaviours -/

namespace Automation

theorem generate_quiet {config : Value}
    (hg : ∀ v params, config.get? "then" = some v → (g.actions v params).Heeds (q.of []))
    (trigger : Expr) (params : List Param) : (generate g trigger params config).Heeds (q.of []) := by
  refine .ask (identAt_still _ _) fun id => ?_
  refine .first (newEntry_quiet _ _ _) fun obj => ?_
  refine .lift_bind (required_still _ _).keeps fun hv => ?_
  exact .bind (hg _ _ (required_on_iff.mp hv).1) fun _ => .first (Code.addToMain_open _) fun _ =>
    .of_pure _

omit hq in
@[grind ←]
theorem templated_quiet (v : Value) (params : List Param) (type : CppType) :
    (templated v params type).Heeds (q.of free) := by
  unfold templated
  split <;> grind

omit hq in
theorem quiet_runCode : runCode.Quiet q := by
  intro g _ config id params
  dsimp only [runCode]
  split <;> grind

theorem quiet_delay : delay.Quiet q := by
  intro g _ config id params
  refine .first (newEntry_quiet _ _ _) fun var => ?_
  refine .first (Code.registerComponent_open _ _) fun _ => ?_
  refine .bind (templated_quiet _ _ _) fun time => ?_
  refine .ask (Code.methodOf_still _ _ _) fun _ => ?_
  exact .first (Code.addToMain_open _) fun _ => .of_pure _

theorem addBranch_quiet (hg : g.Steady q) (var : Expr) (config : Value) (key : String)
    (params : List Param) : (addBranch g var config key params).Heeds (q.of []) := by
  unfold addBranch
  split
  · exact .bind (hg.actions _ _) fun _ => .of_lift (Code.addToMain_open _)
  · exact .of_pure _

theorem quiet_branch : branch.Quiet q := by
  intro g hg config id params
  refine .required fun condition => ?_
  refine .bind (hg.condition _ _) fun _ => ?_
  refine .first (newEntry_quiet _ _ _) fun var => ?_
  exact .bind (addBranch_quiet hg _ _ _ _) fun _ => .bind (addBranch_quiet hg _ _ _ _) fun _ =>
    .of_pure _

omit hq in
@[grind ←]
theorem logStatement_quiet : (logStatement config).Heeds (q.of free) := by
  have hcall : ∀ name args, (Code.callOf name args).Heeds (q.of free) := fun _ _ =>
    (Code.callOf_still _ _).keeps
  have hrequired : ∀ key, (required config key).Heeds (q.of free) := fun _ =>
    (required_still _ _).keeps
  unfold logStatement
  repeat' first
    | with_reducible refine .bind ?_ fun _ => ?_
    | split
    | dsimp only
  all_goals grind

omit hq in
theorem quiet_writeLog : writeLog.Quiet q := by
  intro g _ config id params
  exact .first (logStatement_quiet _) fun _ => .bind (Code.closure_keeps _ _ _ _) fun _ =>
    .of_lift (newEntry_quiet _ _ _)

omit hq in
theorem quiet_codeHolds : codeHolds.Quiet q := by
  intro g _ config id params
  dsimp only [codeHolds]
  split <;> grind

omit hq in
theorem buildConditions_quiet (hg : g.Steady q) (params : List Param) (vs : List Value) :
    (buildConditions g params vs).Heeds (q.of []) := by
  induction vs with
  | nil => exact .of_pure _
  | cons v vs ih => exact .bind (hg.condition _ _) fun _ => .bind ih fun _ => .of_pure _

omit hq in
theorem quiet_connective (type : CppType) : (connective name type).Quiet q := by
  intro g hg config id params
  exact .bind (buildConditions_quiet hg _ _) fun _ => .of_lift (newEntry_quiet _ _ _)

omit hq in
theorem quiet_negation : negation.Quiet q := by
  intro g hg config id params
  exact .bind (hg.condition _ _) fun _ => .of_lift (newEntry_quiet _ _ _)

/-! ## Behaviours of widgets -/

omit hq in
@[grind ←]
theorem announceValue_quiet (w : Widget) (config : Value) :
    (announceValue w config).Heeds (q.of free) := by
  unfold announceValue
  repeat' split
  all_goals grind

omit hq in
@[grind ←]
theorem updateTargets_quiet : (updateTargets config).Heeds (q.of free) :=
  .required fun _ => Widget.targets_keeps _ _

omit hq in
theorem widgetAction_quiet {work : Widget → Build Unit} (h : ∀ w, (work w).Heeds (q.of free))
    (widgets : List Widget) (id : Ident) (params : List Param) (es : Entries) :
    (widgetAction widgets work id params es).Heeds (q.of free) := by
  refine ownBlock_quiet ?_ id params es
  induction widgets with
  | nil => exact .of_pure _
  | cons w ws ih => exact .bind (h w) fun _ => ih

omit hq in
theorem quiet_updateOf (k : Kind) (design : Design) : (updateOf k design).Quiet q := by
  intro g hg config id params
  refine .bind (updateTargets_quiet _) fun widgets => widgetAction_quiet (fun w => ?_) _ _ _ _
  exact .bind (Widget.applyCommon_quiet _) fun _ => .bind (hg.options _ _) fun _ =>
    .of_lift (announceValue_quiet _ _)

omit hq in
theorem refreshWidget_quiet (hg : g.Steady q) (w : Widget) :
    (refreshWidget g w).Heeds (q.of []) := by
  have hoptions := hg.options w
  unfold refreshWidget
  split
  · refine .bind (Widget.applyCommon_quiet _) fun _ => ?_
    dsimp only
    split
    · exact .bind (hoptions _) fun _ => .of_lift (announceValue_quiet _ _)
    · exact .of_pure _
  · exact .of_throw _

omit hq in
theorem quiet_refresh : refresh.Quiet q := by
  intro g hg config id params
  exact .bind (Widget.targets_keeps _ _) fun widgets =>
    widgetAction_quiet (refreshWidget_quiet hg) _ _ _ _

omit hq in
@[grind ←]
theorem focusGroup_quiet (target : Option Widget) (config : Value) :
    (focusGroup target config).Heeds (q.of free) := by
  have hcall : ∀ name args, (Code.callOf name args).Heeds (q.of free) := fun _ _ =>
    (Code.callOf_still _ _).keeps
  have hcast : ∀ type v, (Code.castOf type v).Heeds (q.of free) := fun _ _ =>
    (Code.castOf_still _ _).keeps
  unfold focusGroup
  repeat' split
  all_goals grind

omit hq in
@[grind ←]
theorem freezeFocus_quiet (isFrozen : Bool) :
    (freezeFocus group isFrozen).Heeds (q.of free) := Code.run_quiet _ _

omit hq in
@[grind ←]
theorem focusOn_quiet (w : Widget) (config : Value) :
    (focusOn group w config).Heeds (q.of free) := by
  unfold focusOn
  grind

@[grind ←]
theorem moveFocus_quiet (config : Value) : (moveFocus group config).Heeds (q.of free) := by
  unfold moveFocus
  repeat' first
    | with_reducible refine .bind ?_ fun _ => ?_
    | split
    | dsimp only
  all_goals grind

theorem quiet_focus : focus.Quiet q := by
  intro g _ config id params
  refine .bind (Widget.targets_keeps _ _) fun targets => ?_
  refine .bind (focusGroup_quiet _ _) fun group => ?_
  refine .bind (Code.closureOf_quiet _ _ ?_) fun _ => .of_lift (newEntry_quiet _ _ _)
  split
  on_goal 1 => refine .bind (focusOn_quiet _ _ _) fun _ => ?_
  on_goal 2 => refine .bind (moveFocus_quiet _ _) fun _ => ?_
  all_goals
    refine .required fun _ => ?_
    split <;> grind

theorem quiet_widgetActions : ∀ b ∈ widgetActions, b.Quiet q := by
  intro b hb
  rcases mem_append.mp hb with hb | hb
  · exact (switchActions_acts b hb).quiet
  · fin_cases hb
    · exact updateWidget_acts.quiet
    · exact redraw_acts.quiet
    · exact quiet_refresh
    · exact quiet_focus

/-! ## Behaviours of the panel -/

omit hq in
theorem applyLayer_quiet (hg : g.Steady q) (panel : Expr) (config : Value) (key function : String) :
    (applyLayer g panel config key function).Heeds (q.of []) := by
  unfold applyLayer
  split
  · exact .of_pure _
  · refine .ask (Code.callOf_still _ _) fun layer => ?_
    refine Code.withLocal_keeps (by decide) _ _ _ fun var => ?_
    exact .bind (Widget.applyCommon_quiet _) fun _ => Widget.addChildren_quiet hg.widget _

omit hq in
theorem applyLayers_quiet (hg : g.Steady q) (panel : Expr) (config : Value) :
    (applyLayers g panel config).Heeds (q.of []) :=
  .bind (applyLayer_quiet hg _ _ _ _) fun _ => applyLayer_quiet hg _ _ _ _

omit hq in
theorem applyBackground_quiet (hg : g.Steady q) (panel : Expr) (config : Value) :
    (applyBackground g panel config).Heeds (q.of []) := by
  unfold applyBackground
  split
  · dsimp only
    split
    · exact .of_pure _
    · exact .first (Code.warn_open _) fun _ => applyLayers_quiet hg _ _
  · exact .of_throw _

theorem quiet_updateScreen : updateScreen.Quiet q := by
  intro g hg config id params
  refine .bind (Widget.targets_keeps _ _) fun targets => ?_
  split
  · exact .of_throw _
  · exact .bind (Code.closureOf_quiet _ _ (applyBackground_quiet hg _ _)) fun _ =>
      .first (newEntry_quiet _ _ _) fun _ =>
        .first (Code.setParent_open _ _) fun _ => .of_pure _

theorem quiet_setPaused (more : List Field) {args : Value → Check (List Value)}
    (h : ∀ config, (args config).Heeds (q.of [])) : (setPaused name more args).Quiet q := by
  intro g hg config id params
  refine .ask (identAt_still _ _) fun _ => ?_
  refine .bind (Code.resolve_keeps _) fun panel => ?_
  refine .bind (Code.closureOf_quiet _ _ ?_) fun _ => ?_
  · exact .first (h config) fun _ => .of_lift (Code.runMethod_open _ _ _)
  · exact .first (newEntry_quiet _ _ _) fun _ =>
      .first (Code.setParent_open _ _) fun _ => .of_pure _

omit hq in
theorem quiet_updateStyle : updateStyle.Quiet q := by
  intro g _ config id params
  refine .bind awaitAll_quiet fun _ => ?_
  refine .ask (identAt_still _ _) fun _ => ?_
  refine .bind (Code.resolve_keeps _) fun sheet => ?_
  exact .bind (Code.closureOf_quiet _ _ (Style.apply_quiet _ _)) fun _ =>
    .of_lift (newEntry_quiet _ _ _)

theorem quiet_screenActions : ∀ b ∈ screenActions, b.Quiet q := by
  simp only [screenActions, forall_mem_cons, not_mem_nil, false_implies, implies_true, and_true]
  refine ⟨quiet_updateScreen, ?_, ?_, quiet_updateStyle⟩
  · exact quiet_setPaused _ _ fun config => .required fun _ => .of_pure _
  · exact quiet_setPaused _ _ fun _ => .of_pure _

theorem panelCondition_quiet (id : Ident) (params : List Param) (config : Value)
    {holds : Build Expr} (h : holds.Heeds (q.of [])) :
    (panelCondition id params config holds).Heeds (q.of []) := by
  refine .bind (Code.closureOf_quiet _ _ (.bind h fun _ => .of_lift (Code.addItem_open _))) fun _ => ?_
  refine .first (Code.newTemplate_open _ _ _) fun _ => ?_
  refine .ask (identAt_still _ _) fun _ => ?_
  exact .bind (Code.resolve_keeps _) fun _ => .first (Code.setParent_open _ _) fun _ =>
    .of_pure _

theorem quiet_screenConditions : ∀ b ∈ screenConditions, b.Quiet q := by
  simp only [screenConditions, forall_mem_cons, not_mem_nil, false_implies, implies_true, and_true]
  refine ⟨fun _ config id params => panelCondition_quiet _ _ _ (.of_pure _), ?_⟩
  intro g _ config id params
  refine .required fun _ => ?_
  refine .bind (Property.milliseconds_asks.keeps.emit _) fun timeout => ?_
  refine panelCondition_quiet _ _ _ ?_
  exact .ask (Code.callOf_still _ _) fun _ =>
    .ask (Code.express_still _) fun _ => .of_pure _

end Automation

/-! ## Behaviours of pages -/

namespace Kinds

open Automation

omit hq in
@[grind ←]
theorem showArguments_quiet : (showArguments config).Heeds (q.of free) :=
  .required fun _ =>
    .bind ((Property.oneOf_asks _).keeps.emit _) fun _ =>
      .required fun _ =>
        .bind (Property.milliseconds_asks.keeps.emit _) fun _ => .of_pure _

theorem onPanel_quiet (id : Ident) (params : List Param) (config : Value) {work : Build Unit}
    (h : work.Heeds (q.of [])) : (onPanel id params config work).Heeds (q.of []) :=
  .bind (Code.closureOf_quiet _ _ h) fun _ => .first (newEntry_quiet _ _ _) fun _ =>
    .ask (identAt_still _ _) fun _ => .bind (Code.resolve_keeps _) fun _ =>
      .first (Code.setParent_open _ _) fun _ => .of_pure _

theorem quiet_turnPage (method : String) : (turnPage name method).Quiet q := by
  intro g _ config id params
  exact .bind (showArguments_quiet _) fun _ =>
    onPanel_quiet _ _ _ (.of_lift (Code.runMethod_open _ _ _))

theorem quiet_showPage : showPage.Quiet q := by
  intro g _ config id params
  exact .ask (identAt_still _ _) fun _ => .bind (Code.resolve_keeps _) fun _ =>
    .bind (showArguments_quiet _) fun _ =>
      onPanel_quiet _ _ _ (.of_lift (Code.runMethod_open _ _ _))

theorem quiet_pageActions : ∀ b ∈ pageActions, b.Quiet q := by
  simp only [pageActions, forall_mem_cons, not_mem_nil, false_implies, implies_true, and_true]
  exact ⟨selectTab_acts.quiet, selectTile_acts.quiet, quiet_turnPage _ _, quiet_turnPage _ _, quiet_showPage⟩

theorem quiet_pageIsShowing : pageIsShowing.Quiet q := by
  intro g _ config id params
  refine .bind awaitAll_quiet fun _ => .ask (identAt_still _ _) fun _ => ?_
  refine .bind (Code.resolve_keeps _) fun _ => ?_
  refine .bind (Code.closureOf_quiet _ _ (.of_lift (Code.addItem_open _))) fun _ => ?_
  exact .first (Code.newTemplate_open _ _ _) fun _ =>
    .first (Code.setParent_open _ _) fun _ => .of_pure _

omit hq in
theorem callAction_quiet (function : String) (type : CppType) :
    (callAction name function type).Quiet q :=
  (callAction_acts name function type : Behaviour.Acts _ _ (fun _ _ => False) _).quiet

theorem quiet_canvasActions : ∀ b ∈ canvasActions, b.Quiet q := by
  intro b hb
  rcases mem_append.mp hb with hb | hb
  · exact (plainCanvasActions_acts b hb).quiet
  · fin_cases hb
    · exact drawRectangle_acts.quiet
    · exact drawText_acts.quiet
    · exact drawPicture_acts.quiet
    · exact drawLine_acts.quiet
    · exact drawPolygon_acts.quiet
    · exact drawArc_acts.quiet

end Kinds

/-! ## All behaviours -/

namespace Behaviour

open Automation Kinds

theorem quiet_standardActions : ∀ b ∈ standardActions, b.Quiet q := by
  simp only [standardActions, forall_mem_cons, not_mem_nil, false_implies, implies_true, and_true]
  exact ⟨quiet_runCode, quiet_delay, quiet_branch, quiet_writeLog⟩

theorem quiet_kindActions : ∀ b ∈ kindActions, b.Quiet q := by
  intro b hb
  simp only [kindActions, scaleActions, animimgActions, spinActions, mem_append, mem_cons,
    not_mem_nil, or_false] at hb
  rcases hb with (((((((rfl | rfl | rfl) | (rfl | rfl | rfl)) | hb) | hb) | hb) | (rfl | rfl))
    | (rfl | rfl)) | hb
  · exact updateCalendar_acts.quiet
  · exact updateMatrixButton_acts.quiet
  · exact updateIndicator_acts.quiet
  · exact updateScale_acts.quiet
  · exact updateSection_acts.quiet
  · exact updateNeedle_acts.quiet
  · exact quiet_canvasActions b hb
  · exact (chartActions_acts b hb).quiet
  · exact quiet_pageActions b hb
  · exact callAction_quiet _ _ _
  · exact callAction_quiet _ _ _
  · exact callAction_quiet _ _ _
  · exact callAction_quiet _ _ _
  · exact (lottieActions_acts b hb).quiet

theorem quiet_actions : ∀ b ∈ Behaviour.actions, b.Quiet q := by
  intro b hb
  simp only [Behaviour.actions, mem_append] at hb
  rcases hb with (((hb | hb) | hb) | hb) | hb
  · exact quiet_standardActions b hb
  · exact quiet_widgetActions b hb
  · exact quiet_screenActions b hb
  · exact quiet_kindActions b hb
  · obtain ⟨k, -, rfl⟩ := mem_map.mp hb
    exact quiet_updateOf k k.design

theorem quiet_conditions : ∀ b ∈ Behaviour.conditions, b.Quiet q := by
  intro b hb
  simp only [Behaviour.conditions, standardConditions, pageConditions, mem_append,
    mem_cons, not_mem_nil, or_false] at hb
  rcases hb with ((rfl | rfl | rfl | rfl) | hb) | rfl
  · exact quiet_codeHolds
  · exact quiet_connective _ _
  · exact quiet_connective _ _
  · exact quiet_negation
  · exact quiet_screenConditions b hb
  · exact quiet_pageIsShowing

omit hq in
theorem buildEntry_quiet (h : ∀ b ∈ registry, b.Quiet q)
    (hg : g.Steady q) (v : Value) (params : List Param) :
    (buildEntry g registry v params).Heeds (q.of []) := by
  unfold buildEntry
  split
  · split
    · next b options hfound =>
        obtain ⟨e, -, he⟩ := exists_of_findSome?_eq_some hfound
        obtain ⟨b', hb', heq⟩ := Option.map_eq_some_iff.mp he
        obtain ⟨rfl, rfl⟩ := Prod.mk.inj heq
        exact .ask (identAt_still _ _) fun id =>
          h _ (mem_of_find?_eq_some hb') hg _ _ _
    · exact .of_throw _
  · exact .of_throw _

omit hq in
theorem buildEntries_quiet (h : ∀ b ∈ registry, b.Quiet q)
    (hg : g.Steady q) (params : List Param) (vs : List Value) :
    (buildEntries g registry params vs).Heeds (q.of []) := by
  induction vs with
  | nil => exact .of_pure _
  | cons v vs ih =>
    exact .bind (buildEntry_quiet h hg _ _) fun _ => .bind ih fun _ => .of_pure _

end Behaviour

theorem Generator.steady_ofDepth [q.Notes] (n : Nat) : (Generator.ofDepth n).Steady q := by
  induction n with
  | zero =>
    exact ⟨quiet_ofDepth q 0, fun _ _ => .of_throw _, fun _ _ => .of_throw _,
      fun _ _ => .of_throw _⟩
  | succ n ih =>
    refine ⟨quiet_ofDepth q (n + 1), fun w config => ?_, fun v params => ?_, fun v params => ?_⟩
    · exact (w.kind.quiet_design q).options ih.widget w config
    · exact Behaviour.buildEntries_quiet Behaviour.quiet_actions ih _ _
    · exact Behaviour.buildEntry_quiet Behaviour.quiet_conditions ih _ _

end

end Panel
