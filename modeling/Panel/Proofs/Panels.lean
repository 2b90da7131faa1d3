import Panel.Proofs.Behaviours
import Panel.Component.Build

/-! # Panels — the code of whole panels under a habit -/

namespace Panel

open Cpp Code Widget Automation

/-- Everything counts as quiet that is written, whatever becomes of the themes. -/
class Quietness.Total (q : Quietness) : Prop extends q.Open, q.Notes where
  themes : ∀ s themes, (q.of []).keeps s { s with themes := themes }

section

variable {q : Quietness} {g : Generator} (config : Value)

/-! ## Triggers -/

namespace Automation

section

variable [hq : q.Open]

omit hq in
theorem fromModule_quiet {α : Type} (name : String) {work : Build α} (h : work.Heeds (q.of [])) :
    (fromModule name work).Heeds (q.of []) :=
  .bind .of_get fun _ => .bind ⟨fun _ => (q.of []).aside rfl⟩ fun _ => .bind h fun _ =>
    .bind ⟨fun _ => (q.of []).aside rfl⟩ fun _ => .of_pure _

theorem fireTrigger_quiet (trigger : Expr) (args : List Expr) (selected : Option Expr) :
    (fireTrigger trigger args selected).Heeds (q.of []) :=
  closureOf_quiet _ _ (guardedBy_keeps _ (.of_lift (add_open _)))

theorem onEvents_quiet (obj : Expr) (handler : Closure) (events : List Value) :
    (onEvents obj handler events).Heeds (q.of []) :=
  .bind (arguments_still _).keeps fun _ => add_open _

theorem addTrigger_quiet {config : Value}
    (hg : ∀ v params, config.get? "then" = some v → (g.actions v params).Heeds (q.of []))
    (w : Widget) (events : List Value) (condition : Option Expr) :
    (addTrigger g w events condition config).Heeds (q.of []) := by
  refine .ask (identAt_still _ _) fun id => ?_
  refine .first (newObject_keeps _ _) fun var => ?_
  refine .ask w.values_still fun values => ?_
  refine .bind (generate_quiet hg _ _) fun _ => ?_
  exact .bind (fireTrigger_quiet _ _ _) fun handler => .of_lift (onEvents_quiet _ _ _)

theorem bootTriggers_quiet {vs : List Value} (hg : ∀ config ∈ vs, ∀ v params,
      config.get? "then" = some v → (g.actions v params).Heeds (q.of [])) :
    (bootTriggers g vs).Heeds (q.of []) := by
  induction vs with
  | nil => exact .of_pure _
  | cons v vs ih =>
    have hrest := ih (List.forall_mem_cons.mp hg).2
    exact .ask (identAt_still _ _) fun _ =>
      .first (newObject_keeps _ _) fun _ =>
        .first (registerComponent_open _ _) fun _ =>
          .bind (generate_quiet (hg v List.mem_cons_self) _ _) fun _ => hrest

section

variable (hg : ∀ v params, (g.actions v params).Heeds (q.of [])) (w : Widget)

include hg

omit hq in
omit hg in
theorem firstAutomation_quiet (v : Value) : (firstAutomation v).Heeds (q.of []) := by
  unfold firstAutomation
  split <;> simp

theorem eventTriggers_quiet (es : Entries) : (eventTriggers g w es).Heeds (q.of []) := by
  induction es with
  | nil => exact .of_pure _
  | cons e es ih =>
    obtain ⟨option, v⟩ := e
    unfold eventTriggers
    dsimp only
    split
    · split
      · exact .first (firstAutomation_quiet _) fun _ => .first (addFlag_quiet _) fun _ =>
          .bind (addTrigger_quiet (fun v params _ => hg v params) _ _ _) fun _ => ih
      · exact ih
    · exact ih

theorem swipeTriggers_quiet (es : Entries) : (swipeTriggers g w es).Heeds (q.of []) := by
  induction es with
  | nil => exact .of_pure _
  | cons e es ih =>
    obtain ⟨option, v⟩ := e
    unfold swipeTriggers
    split
    · exact .first (firstAutomation_quiet _) fun _ =>
        .first (clearFlag_quiet _) fun _ =>
          .bind (addTrigger_quiet (fun v params _ => hg v params) _ _ _) fun _ => ih
    · exact ih

theorem valueTriggers_quiet (vs : List Value) : (valueTriggers g w vs).Heeds (q.of []) := by
  induction vs with
  | nil => exact .of_pure _
  | cons v vs ih => exact .bind (addTrigger_quiet (fun v params _ => hg v params) _ _ _) fun _ => ih

omit hq in
omit hg in
theorem applyAlignment_quiet (config : Value) : (applyAlignment w config).Heeds (q.of []) := by
  refine .required fun _ => .bind .of_get fun s => ?_
  split
  · exact .of_throw _
  · exact .required fun _ => .required fun _ => .required fun _ => run_quiet _ _

theorem widgetTriggers_quiet : (widgetTriggers g w).Heeds (q.of []) := by
  unfold widgetTriggers
  split
  · exact .of_pure _
  · refine .bind (eventTriggers_quiet hg _ _) fun _ => .bind (swipeTriggers_quiet hg _ _) fun _ => ?_
    refine .bind (valueTriggers_quiet hg _ _) fun _ => .bind (bootTriggers_quiet fun _ _ v params _ => hg v params) fun _ => ?_
    split
    · exact .of_lift (applyAlignment_quiet _ _)
    · exact .of_pure _
  · exact .of_pure _

theorem triggersFrom_quiet (count n i : Nat) :
    (triggersFrom g count n i).Heeds (q.of []) := by
  induction n generalizing i with
  | zero => exact .of_pure _
  | succ n ih =>
    unfold triggersFrom
    refine .bind .of_get fun s => ?_
    split
    on_goal 2 => refine .bind (widgetTriggers_quiet hg _) fun _ => ?_
    all_goals
      refine .bind .of_get fun s => ?_
      split
      · exact .bind (.of_throw _) fun _ => ih _
      · exact ih _

theorem generateTriggers_quiet : (generateTriggers g).Heeds (q.of []) :=
  .bind .of_get fun _ => fromModule_quiet _ (triggersFrom_quiet hg _ _ _)

end

end

end Automation

variable [hq : q.Total]

theorem Widget.note_made {free : List String} {w : Widget} (hw : w.key ∈ free ∧ w.var.render = w.key) :
    w.note.Heeds (q.of free) := note_keeps (hq.note (.inr hw))

/-! ## Input devices -/

namespace Input

omit hq in
theorem timeAt_quiet (key : String) : (timeAt config key).Heeds (q.of []) := by
  refine .required fun v => ?_
  split <;> simp

omit hq in
theorem objectAt_quiet (key : String) : (objectAt config key).Heeds (q.of []) :=
  .ask (identAt_still _ _) fun _ => resolve_keeps _

variable (panel : Expr)

theorem createTouchListener_quiet (config : Value) :
    (createTouchListener panel config).Heeds (q.of []) :=
  .first (needComponents_keeps _) fun _ => .bind (objectAt_quiet _ _) fun _ =>
    .first (timeAt_quiet _ _) fun _ => .first (timeAt_quiet _ _) fun _ =>
      .ask (identAt_still _ _) fun _ =>
        .first (newObject_keeps _ _) fun _ => .of_lift (addToMain_open _)

theorem createKeyListener_quiet (type : String) (config : Value) :
    (createKeyListener panel type config).Heeds (q.of []) :=
  .first (needComponents_keeps _) fun _ =>
    .first (timeAt_quiet _ _) fun _ => .first (timeAt_quiet _ _) fun _ =>
      .ask (identAt_still _ _) fun _ =>
        .first (newObject_keeps _ _) fun _ =>
          .first (setParent_open _ _) fun _ => .of_pure _

variable (var : Expr)

theorem addButton_quiet (config : Value) (key code : String) :
    (addButton var config key code).Heeds (q.of []) :=
  .bind (objectAt_quiet _ _) fun _ => .of_lift (addToMain_open _)

variable (group : Expr)

theorem joinGroup_quiet (var group : Expr) (config : Value) :
    (joinGroup var group config).Heeds (q.of []) := by
  unfold joinGroup
  split
  · exact .first (globalPointer_keeps _ _) fun _ =>
      .ask (callOf_still _ _) fun _ =>
        .first (assign_open _ _) fun _ => .of_lift (run_quiet _ _)
  · exact .bind (.of_throw _) fun _ => .of_lift (run_quiet _ _)
  · exact .of_lift (run_quiet _ _)

theorem addTurns_quiet (config : Value) : (addTurns var config).Heeds (q.of []) := by
  unfold addTurns
  split
  · exact .of_pure _
  · exact .bind (addButton_quiet _ _ _ _) fun _ => addButton_quiet _ _ _ _
  · exact .bind (objectAt_quiet _ _) fun _ => .of_lift (runMethod_open _ _ _)

theorem createEncoder_quiet (panel group : Expr) (config : Value) :
    (createEncoder panel group config).Heeds (q.of []) :=
  .bind (createKeyListener_quiet _ _ _) fun _ => .bind (addTurns_quiet _ _) fun _ =>
    .bind (addButton_quiet _ _ _ _) fun _ => joinGroup_quiet _ _ _

theorem addKeys_quiet (config : Value) (keys : List String) :
    (addKeys var config keys).Heeds (q.of []) := by
  induction keys with
  | nil => exact .of_pure _
  | cons key keys ih =>
    unfold addKeys
    split
    · exact .bind (addButton_quiet _ _ _ _) fun _ => ih
    · exact ih

theorem createKeypad_quiet (panel group : Expr) (config : Value) :
    (createKeypad panel group config).Heeds (q.of []) :=
  .bind (createKeyListener_quiet _ _ _) fun _ => .bind (addKeys_quiet _ _ _) fun _ =>
    joinGroup_quiet _ _ _

omit hq in
theorem focusFirst_quiet : (focusFirst config).Heeds (q.of []) := by
  unfold focusFirst
  split
  · exact .of_pure _
  · refine .bind (targets_keeps _ _) fun targets => ?_
    split
    · exact .of_lift (run_quiet _ _)
    · exact .of_throw _

omit hq in
theorem forList_quiet {work : Value → Build Unit} (h : ∀ v, (work v).Heeds (q.of []))
    (config : Value) (key : String) :
    (do Kinds.forItems work (← listAt config key) : Build Unit).Heeds (q.of []) := by
  have hlist : (listAt config key).Heeds (q.of []) := by
    refine .required fun v => ?_
    split <;> simp
  exact .first hlist fun xs => .forItems fun x _ => h x

end Input

/-! ## Styles -/

namespace Style

omit hq in
theorem stateSheets_quiet (stem : String) (states : List (String × Entries)) :
    (stateSheets stem states).Heeds (q.of []) := by
  induction states with
  | nil => exact .of_pure _
  | cons e states ih =>
    exact .bind (create_quiet _ _) fun _ => .bind ih fun _ => .of_pure _

omit hq in
theorem partSheets_quiet (stem : String) (parts : List (String × List (String × Entries))) :
    (partSheets stem parts).Heeds (q.of []) := by
  induction parts with
  | nil => exact .of_pure _
  | cons e parts ih =>
    exact .bind (stateSheets_quiet _ _) fun _ => .bind ih fun _ => .of_pure _

theorem themeSheets_quiet (theme : Entries) : (themeSheets theme).Heeds (q.of []) := by
  induction theme with
  | nil => exact .of_pure _
  | cons e theme ih =>
    refine .ask (collectParts_still _) fun parts => ?_
    refine .bind (partSheets_quiet _ _) fun sheets => ?_
    exact .bind ⟨fun s => hq.themes s _⟩ fun _ => ih

theorem applyTheme_quiet : (applyTheme config).Heeds (q.of []) := by
  unfold applyTheme
  split
  · exact .of_pure _
  · exact .first (noteUses_keeps _) fun _ => themeSheets_quiet _
  · exact .of_throw _

omit hq in
theorem createAll_quiet (styles : List Value) : (createAll styles).Heeds (q.of []) := by
  induction styles with
  | nil => exact .of_pure _
  | cons style styles ih =>
    exact .required fun _ => .bind (create_quiet _ _) fun _ => ih

omit hq in
theorem stopArray_quiet (name : String) (type : CppType) {p : Property} (hp : p.Heeds (q.of []))
    (stops : List Value) (key : String) : (stopArray name type p stops key).Heeds (q.of []) := by
  have hvalues : (stopArray.stopValues p key stops).Heeds (q.of []) := by
    induction stops with
    | nil => exact .of_pure _
    | cons stop stops ih =>
      exact .required fun _ => .bind (hp.emit _) fun _ =>
        .bind ih fun _ => .of_pure _
  exact .bind hvalues fun _ => .of_lift (constantArray_keeps _ _ _)

omit hq in
theorem createGradient_provides (gradient : Value) :
    (createGradient gradient).Provides (q.of []) (· = (Kinds.itemsAt gradient "stops").length) := by
  have hstops : ∀ name type (p : Property), p.Asks → ∀ key,
      (stopArray name type p (Kinds.itemsAt gradient "stops") key).Heeds (q.of []) :=
    fun _ _ _ hp _ => stopArray_quiet _ _ hp.keeps _ _
  refine .after (.of_lift (required_still _ _).keeps) fun v => ?_
  split
  all_goals
    refine .after (by simp) fun _ => ?_
    refine .after (.of_lift (newObject_keeps _ _)) fun _ => ?_
    refine .after (.of_lift (required_still _ _).keeps) fun _ => ?_
    refine .after (.of_lift (run_quiet _ _)) fun _ => ?_
    refine .after (hstops _ _ _ (by grind) _) fun _ => ?_
    refine .after (hstops _ _ _ (by grind) _) fun _ => ?_
    refine .after (hstops _ _ _ (by grind) _) fun _ => ?_
    exact .after (.of_lift (run_quiet _ _)) fun _ => .of_pure rfl

omit hq in
theorem createGradients_provides (most : Nat) (all : List Value) :
    (createGradients most all).Provides (q.of [])
      (· = (all.map fun gradient => (Kinds.itemsAt gradient "stops").length).foldl max most) := by
  induction all generalizing most with
  | nil => exact .of_pure rfl
  | cons gradient all ih =>
    refine .bind (createGradient_provides gradient) fun n hn => ?_
    rw [List.map_cons, List.foldl_cons, ← hn]
    exact ih (max most n)

end Style

/-! ## Message boxes -/

namespace Kinds

omit hq in
theorem applyClosing_quiet (outer box : Widget) (hasButton : Bool) :
    (applyClosing outer box hasButton).Heeds (q.of []) := by
  have hclick : ∀ obj handler, (onClick obj handler).Heeds (q.of []) := fun _ _ =>
    run_quiet _ _
  refine .bind (closureOf_quiet _ _ ?_) fun handler => ?_
  · refine .first (addFlag_quiet _) fun _ => ?_
    exact .bind (Property.Heeds.emit (by grind) _) fun _ => .of_lift (setStyle_quiet _ _ _)
  split
  · refine .ask (callOf_still _ _) fun _ => ?_
    exact withLocal_keeps (by decide) _ _ _ fun _ =>
      .first (run_quiet _ _) fun _ => .of_lift (hclick _ _)
  · exact .of_lift (hclick _ _)

theorem createMessageBox_quiet (hg : g.Steady q) (layer : Expr) (config : Value) :
    (createMessageBox g layer config).Heeds (q.of []) := by
  have hcall : ∀ name args, (callOf name args).Heeds (q.of []) := fun _ _ =>
    (callOf_still _ _).keeps
  have hemit : ∀ p : Property, p.Asks → ∀ v, (p.emit v).Heeds (q.of []) := fun _ hp v =>
    hp.keeps.emit v
  have htext : ∀ key, (boxText config key).Heeds (q.of []) := fun key =>
    .required fun _ => hemit _ (by grind) _
  have hfooter : ∀ box button, (createFooterButton g box button).Heeds (q.of []) := fun _ _ =>
    .bind (hg.widget _ _ _) fun _ => .of_pure _
  have hheader : ∀ box button, (createHeaderButton g box button).Heeds (q.of []) := fun _ _ =>
    .required fun _ => .bind (hemit _ (by grind) _) fun _ =>
      .bind (hg.widget _ _ _) fun _ => .of_pure _
  refine .first (noteUses_keeps _) fun _ => ?_
  refine .perhaps (.of_lift (warn_open _)) ?_
  refine .ask (identAt_still _ _) fun _ => ?_
  refine .first (hcall _ _) fun _ => ?_
  refine .quiet_made (pointerTo_keeps _ _) (pointerTo_makes _ _) ?_
  refine .first (note_made ⟨List.mem_cons_self, rfl⟩) fun _ => ?_
  refine .ask (callOf_still _ _) fun _ => ?_
  refine .quiet_made (pointerTo_keeps _ _) (pointerTo_makes _ _) ?_
  refine .first (note_made ⟨List.mem_cons_self, rfl⟩) fun _ => ?_
  refine Build.Heeds.quiet_mono ?_ (List.nil_subset _)
  refine .bind (htext _) fun _ => .bind (htext _) fun _ => ?_
  refine .required fun _ => ?_
  refine .bind (hemit _ (by grind) _) fun _ => ?_
  refine .first (run_quiet _ _) fun _ => ?_
  refine .bind (Style.Named.sheet_quiet _) fun _ => ?_
  refine .first (addStyle_quiet _ _) fun _ => ?_
  refine .first (addFlag_quiet _) fun _ => ?_
  refine .first (run_quiet _ _) fun _ => ?_
  refine .first (run_quiet _ _) fun _ => ?_
  refine .first (run_quiet _ _) fun _ => ?_
  refine .bind (applyCommon_quiet _) fun _ => ?_
  refine .bind (addChildren_quiet hg.widget _) fun _ => ?_
  refine .bind (.forItems fun _ _ => hfooter _ _) fun _ => ?_
  exact .bind (.forItems fun _ _ => hheader _ _) fun _ => applyClosing_quiet _ _ _

theorem createMessageBoxes_quiet (hg : g.Steady q) (panel : Expr) (config : Value) :
    (createMessageBoxes g panel config).Heeds (q.of []) :=
  .first (call_quiet _ _) fun _ => .forItems fun _ _ => createMessageBox_quiet hg _ _

end Kinds

/-! ## Whole panels -/

namespace Component

omit hq in
theorem resolveAll_quiet (vs : List Value) : (resolveAll vs).Heeds (q.of []) := by
  induction vs with
  | nil => exact .of_pure _
  | cons v vs ih =>
    have hident : (identOf v).Heeds (q.of []) := by
      unfold identOf
      split <;> simp
    exact .first hident fun _ => .bind (resolve_keeps _) fun _ =>
      .bind ih fun _ => .of_pure _

theorem createComponent_quiet : (createComponent config).Heeds (q.of []) := by
  have hpart : ∀ share, (bufferPart share).Heeds (q.of []) := by
    intro share
    refine .bind (Test.number_still _).keeps fun v => ?_
    repeat' split
    all_goals simp
  refine .required fun _ => ?_
  refine .first (hpart _) fun _ => .bind (resolveAll_quiet _) fun _ => ?_
  refine .bind (.mapM fun _ _ => .of_lift (required_still _ _).keeps) fun _ => ?_
  refine .ask (identAt_still _ _) fun _ => ?_
  refine .quiet_made (newObject_keeps _ _) (newObject_makes _ _) ?_
  refine .first (registerComponent_open _ _) fun _ => ?_
  exact .first (note_made ⟨List.mem_cons_self, rfl⟩) fun _ => .of_pure _

theorem createPage_quiet (hg : g.Steady q) (panel : Expr) (config page : Value) :
    (createPage g panel config page).Heeds (q.of []) := by
  refine .ask (identAt_still _ _) fun _ => .required fun _ => ?_
  refine .quiet_made (newObject_keeps _ _) (newObject_makes _ _) ?_
  exact .first (note_made ⟨List.mem_cons_self, rfl⟩) fun _ => .first (add_open _) fun _ =>
    .bind (applyCommon_quiet _) fun _ => .bind (applyCommon_quiet _) fun _ =>
      addChildren_quiet hg.widget _

theorem createPages_quiet (hg : g.Steady q) (panel : Expr) (config : Value) :
    (createPages g panel config).Heeds (q.of []) :=
  .required fun _ =>
    .first (runMethod_open _ _ _) fun _ =>
      .forItems fun page _ => createPage_quiet hg panel config page

theorem pageTriggers_quiet (hg : g.Steady q) (page : Widget) (option : String)
    (configs : List Value) : (pageTriggers g page option configs).Heeds (q.of []) := by
  induction configs with
  | nil => exact .of_pure _
  | cons config configs ih =>
    exact .ask (identAt_still _ _) fun _ =>
      .first (newObject_keeps _ _) fun _ =>
        .bind (generate_quiet (fun v params _ => hg.actions v params) _ _) fun _ =>
          .bind (fireTrigger_quiet _ _ _) fun _ =>
            .first (onEvents_quiet _ _ _) fun _ => ih

theorem allPageTriggers_quiet (hg : g.Steady q) (configs : List Value) :
    (allPageTriggers g configs).Heeds (q.of []) := by
  induction configs with
  | nil => exact .of_pure _
  | cons config configs ih =>
    refine .bind (targets_keeps _ _) fun pages => ?_
    split
    · exact .bind (.of_throw _) fun _ => ih
    · exact .bind (pageTriggers_quiet hg _ _ _) fun _ =>
        .bind (pageTriggers_quiet hg _ _ _) fun _ => ih

theorem panelTriggers_quiet (hg : g.Steady q) (config : Value) :
    (panelTriggers g config).Heeds (q.of []) := by
  have hidle : ∀ panel v, (createIdleTrigger g panel v).Heeds (q.of []) := fun _ _ =>
    .required fun _ =>
      .bind (templated_quiet _ _ _) fun _ =>
        .ask (identAt_still _ _) fun _ =>
          .first (newObject_keeps _ _) fun _ =>
            .bind (generate_quiet (fun v params _ => hg.actions v params) _ _) fun _ => .of_pure _
  have hplain : ∀ panel option, (createPlainTrigger g panel config option).Heeds (q.of []) := by
    intro panel option
    unfold createPlainTrigger
    split
    · exact .of_pure _
    · exact .ask (identAt_still _ _) fun _ =>
        .first (newObject_keeps _ _) fun _ =>
          .bind (generate_quiet (fun v params _ => hg.actions v params) _ _) fun _ => .of_lift (addToMain_open _)
  refine .ask (identAt_still _ _) fun _ => ?_
  refine .bind (resolve_keeps _) fun panel => ?_
  refine .bind (fromModule_quiet _ (allPageTriggers_quiet hg _)) fun _ => ?_
  refine .bind (Input.forList_quiet Input.focusFirst_quiet _ _) fun _ => ?_
  refine .bind (.forItems fun _ _ => hidle _ _) fun _ => ?_
  refine .bind (.forItems fun _ _ => hplain _ _) fun _ => ?_
  exact fromModule_quiet _ (bootTriggers_quiet fun _ _ v params _ => hg.actions v params)

end Component

end

end Panel
