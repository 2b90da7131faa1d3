import Panel.Proofs.QuietKinds
import Panel.Automation.Trigger

/-! # Actions on widgets — code in a block of its own

    An action on widgets looks at its options first, which writes nothing.  Then it waits for the
    lambdas among its options and for all widgets, and writes into a block of its own. -/

namespace Panel

open Cpp List Code Property Widget

variable (e : Expr) (id : Ident) (ps : List Value)

variable {work : Widget → Build Unit} {name : String} {fields : List Field} {key : String}
  {widgets : List Widget} {v : Value} {extras : List Test}

/-- Everything counts as quiet that is written. -/
class Quietness.Open (q : Quietness) : Prop where
  allows : ∀ free i, (q.of free).allows i

section

variable {q : Quietness} {free : List String} {names : Option String → Prop} {es : Entries}
  {config : Value} {p : Property} {α : Type}

/-! ## Writers -/

section

variable [hq : q.Open]

namespace Code

@[grind ←]
theorem addItem_open (i : Item) : (addItem i).Heeds (q.of free) := addItem_keeps (hq.allows free i)

@[grind ←]
theorem add_open : (add e).Heeds (q.of free) := addItem_open _

@[grind ←]
theorem addToMain_open : (addToMain e).Heeds (q.of free) := addToMain_keeps (hq.allows free _)

@[grind ←]
theorem runMethod_open (name : String) (args : List Value) :
    (runMethod e name args).Heeds (q.of free) := runMethod_keeps (fun _ => hq.allows free _) args

@[grind ←]
theorem assign_open (target : Expr) (v : Value) : (assign target v).Heeds (q.of free) :=
  .bind (express_still v).keeps fun _ => add_open _

@[grind ←]
theorem setParent_open (var parent : Expr) : (setParent var parent).Heeds (q.of free) :=
  addToMain_open _

@[grind ←]
theorem registerComponent_open (var : Expr) (config : Value) :
    (registerComponent var config).Heeds (q.of free) := by
  have hlast : (do
      addToMain (var.method "set_component_source" [.quoted (← get).source])
      addToMain ((Expr.named "App").method "register_component" [var]) : Check Unit).Heeds
      (q.of free) :=
    .bind .of_get fun _ => .bind (addToMain_open _) fun _ => addToMain_open _
  have hset : ∀ name v, (do addToMain (← methodOf var name [v]) : Check Unit).Heeds (q.of free) :=
    fun _ _ => .bind (methodOf_still _ _ _).keeps fun _ => addToMain_open _
  unfold registerComponent
  refine .bind .of_get fun s => ?_
  dsimp only
  split
  · refine .bind (.of_throw _) fun _ => .bind (.of_modify fun _ => rfl) fun _ => ?_
    repeat' split
    all_goals grind
  · refine .bind (.of_modify fun _ => rfl) fun _ => ?_
    repeat' split
    all_goals grind

end Code

end

namespace Code

@[grind ←]
theorem warn_open (text : String) : (warn text).Heeds (q.of free) := .of_modify fun _ => rfl

@[grind ←]
theorem newTemplate_open (template : List CppType) (args : List Value) :
    (newTemplate id template args).Heeds (q.of free) := by
  unfold newTemplate
  exact .bind (newOf_keeps _ _) fun _ => pointerTo_keeps _ _

end Code

/-- Work that keeps to a habit and gives something that is as asked. -/
def Build.Provides {α : Type} (r : Habit) (p : α → Prop) (b : Build α) : Prop :=
  ∀ s, (b s).Ends r.amid fun result t => r.keeps s t ∧ ∀ a, result = .ok a → p a

namespace Build.Provides

variable {α β : Type} {r : Habit} {p : α → Prop} {p' : β → Prop} {b : Build α} {f : α → Build β}

theorem of_pure {a : α} (h : p a) : Provides r p (pure a) := fun s =>
  ⟨r.refl s, fun _ ha => Except.ok.inj ha ▸ h⟩

theorem of_lift {c : Check α} (hc : c.Heeds r) (h : ∀ {s a t}, c.on s = (.ok a, t) → p a) :
    (liftM c : Build α).Provides r p := by
  intro s
  rcases hrun : c.on s with ⟨result, t⟩
  have hkeeps := hc.on s
  rw [hrun] at hkeeps
  have hlift : (liftM c : Build α) s = .done result t := ofCheck_eq hrun
  rw [hlift]
  exact ⟨hkeeps, fun a ha => h (ha ▸ hrun)⟩

theorem waitFor (answer : Session → Option (Except Failure α)) :
    (waitFor answer).Provides r fun _ => True := fun s =>
  ((Build.Heeds.waitFor answer).ends s).mono fun _ _ ht => ⟨ht, fun _ _ => trivial⟩

theorem after {b : Build β} {f : β → Build α} (hb : b.Heeds r) (hf : ∀ a, (f a).Provides r p) :
    (b >>= f).Provides r p := fun s =>
  (hb.ends s).bind (fun a t ht => (hf a t).mono fun _ _ hu => ⟨r.trans ht hu.1, hu.2⟩)
    fun _ _ ht => ⟨ht, nofun⟩

theorem bind (hb : b.Provides r p)
    (hf : ∀ a, p a → (f a).Provides r p') : (b >>= f).Provides r p' := fun s =>
  (hb s).bind (fun a t ht => (hf a (ht.2 a rfl) t).mono fun _ _ hu => ⟨r.trans ht.1 hu.1, hu.2⟩)
    fun _ _ ht => ⟨ht.1, nofun⟩

theorem used (hb : b.Provides r p) (hf : ∀ a, p a → (f a).Heeds r) : (b >>= f).Heeds r :=
  ⟨fun s => (hb s).bind (fun a t ht => ((hf a (ht.2 a rfl)).ends t).mono fun _ _ => r.trans ht.1)
    fun _ _ ht => ht.1⟩

end Build.Provides

/-! ## Work before a block -/

/-- Nothing was done but to note which properties go by old names. -/
def Session.Noted (s t : Session) : Prop := ∃ olds, t = { s with remapped := olds }

theorem Session.Noted.refl (s : Session) : s.Noted s := ⟨s.remapped, rfl⟩

/-- Work that writes nothing, also while it waits, and whose answer is as stated. -/
inductive Build.Readies : {α : Type} → (α → Prop) → Build α → Prop
  | of_check {α : Type} {p : α → Prop} {c : Check α} : (∀ s : Session, s.Noted (c.on s).2) →
      (∀ {s a t}, c.on s = (.ok a, t) → p a) → Readies p (Build.ofCheck c)
  | waitFor {α : Type} (answer : Session → Option (Except Failure α)) :
      Readies (fun _ => True) (Build.waitFor answer)
  | bind {α β : Type} {p : α → Prop} {p' : β → Prop} {x : Build α} {f : α → Build β} :
      Readies p x → (∀ a, p a → Readies p' (f a)) → Readies p' (x >>= f)

namespace Build.Readies

variable {α β : Type} {p : α → Prop} {p' : β → Prop} {c : Check α}

theorem of_reads (h : c.Reads) : Readies (fun _ => True) (liftM c : Build α) :=
  .of_check (fun s => (h.leaves s).symm ▸ .refl s) fun _ => trivial

theorem of_pure {a : α} (h : p a) : Readies p (pure a : Build α) :=
  .of_check (c := pure a) .refl fun hrun => by
    cases hrun
    exact h

theorem of_throw (e : Failure) : Readies p (throw e : Build α) :=
  .of_check (c := throw e) .refl nofun

theorem after {x : Build α} {f : α → Build β} (hx : Readies (fun _ => True) x)
    (hf : ∀ a, Readies p' (f a)) : Readies p' (x >>= f) := .bind hx fun a _ => hf a

theorem lift_bind {f : α → Check β} (hc : Readies p (liftM c : Build α))
    (hf : ∀ a, p a → Readies p' (liftM (f a) : Build β)) :
    Readies p' (liftM (c >>= f) : Build β) := by
  have hlift : (liftM (c >>= f) : Build β) = liftM c >>= fun a => liftM (f a) := ofCheck_bind c f
  rw [hlift]
  exact .bind hc hf

theorem of_required (v : Value) (key : String) :
    Readies (fun x => v.get? key = some x) (liftM (required v key) : Build Value) :=
  .of_check (fun s => ((required_still v key).reads.leaves s).symm ▸ .refl s) fun hrun =>
    (required_on_iff.mp hrun).1

theorem provides {r : Habit} {b : Build α} (h : Readies p b) : b.Provides r p := by
  induction h with
  | of_check hnoted hp =>
    refine .of_lift ⟨fun s => ?_⟩ hp
    obtain ⟨olds, hs⟩ := hnoted s
    rw [hs]
    exact r.aside rfl
  | waitFor answer => exact .waitFor answer
  | bind _ _ hx hf => exact hx.bind hf

end Build.Readies

theorem Build.Asks.readies {b : Build α} (h : b.Asks names) : b.Readies fun _ => True := by
  induction h with
  | of_check hc => exact .of_reads hc
  | of_await _ => exact .waitFor _
  | bind _ _ hx hf => exact .after hx hf

theorem Property.Asks.readies (h : p.Asks) (v : Value) :
    (p.emit v).Readies fun _ => True := (h.emit v.covered_any).readies

theorem Build.Readies.of_emit {β : Type} {p' : β → Prop} (hp : p.Asks) {f : Value → Build β}
    (hf : ∀ v, Readies p' (f v)) : Readies p' (do
      let v ← p.emit (← required config key)
      f v) :=
  .bind (.of_required config key) fun v _ => .after (hp.readies v) hf

theorem Code.resolve_readies : (resolve id).Readies fun _ => True :=
  (resolve_asks trivial : (resolve id).Asks Value.AnyName).readies

theorem Widget.targets_readies (config : Value) (key : String) :
    (targets config key).Readies fun _ => True := by
  have hvalue : ∀ v, (awaitValue v).Readies fun _ => True := by
    intro v
    cases v <;> exact .waitFor _
  have hentries : ∀ cs : List Value, (awaitEntries key cs).Readies fun _ => True := by
    intro cs
    induction cs with
    | nil => exact .of_pure trivial
    | cons c cs ih =>
      refine .after (.of_reads (Test.contains_still c key).reads) fun there => ?_
      split
      · exact .after (.of_reads (Style.valueAt_still c key).reads) fun v =>
          .after (hvalue v) fun _ => .after ih fun _ => .of_pure trivial
      · exact ih
  unfold targets
  split
  · exact .of_pure trivial
  · exact hentries _

/-! ## Blocks -/

namespace Automation

@[grind ←]
theorem newEntry_quiet (params : List Param) (args : List Value) :
    (newEntry id params args).Heeds (q.of free) := newTemplate_open _ _ _

@[grind ←]
theorem awaitNames_quiet (names : List String) : (awaitNames names).Heeds (q.of free) := by
  induction names with
  | nil => exact .of_pure _
  | cons n ns ih => exact .bind (.waitFor _) fun _ => ih

@[grind ←]
theorem awaitLambdas_quiet (es : Entries) : (awaitLambdas es).Heeds (q.of free) := by
  fun_induction awaitLambdas es with
  | case1 => exact .of_pure _
  | case2 _ _ _ ih => exact .bind (awaitNames_quiet _) fun _ => ih
  | case3 _ _ _ ih => exact ih

@[grind ←]
theorem awaitAll_quiet : awaitAll.Heeds (q.of free) := .waitFor _

theorem ownBlock_quiet {work : Build Unit} (hwork : work.Heeds (q.of free)) (id : Ident)
    (params : List Param) (es : Entries) :
    Build.Heeds (q.of free) (do
      awaitLambdas es
      awaitAll
      let c ← closureOf params void work
      newEntry id params [.cpp (.closure c)]) :=
  .bind (awaitLambdas_quiet es) fun _ => .bind awaitAll_quiet fun _ =>
    .bind (closureOf_quiet params void hwork) fun _ => .of_lift (newEntry_quiet _ _ _)

theorem forWidgets_writes (h : ∀ w ∈ widgets, (work w).Writes (q.of free) names) :
    (forWidgets work widgets).Writes (q.of free) names := by
  induction widgets with
  | nil => exact .of_pure _
  | cons w ws ih =>
    obtain ⟨hw, hws⟩ := forall_mem_cons.mp h
    exact .bind hw fun _ => ih hws

/-- Work that looks at its options first, then waits for the lambdas among some entries and for all
    widgets, and then writes code into a block of its own, which waits only for objects of given
    names. -/
inductive Acts (q : Quietness) (names : Option String → Prop) (es : Entries) : Build Expr → Prop
  | inBlock {work : Build Unit} (id : Ident) (params : List Param) : work.Writes (q.of []) names →
      Acts q names es (do
        awaitLambdas es
        Widget.awaitAll
        let c ← closureOf params void work
        newEntry id params [.cpp (.closure c)])
  | bind {α : Type} {p : α → Prop} {x : Build α} {f : α → Build Expr} : x.Readies p →
      (∀ a, p a → Acts q names es (f a)) → Acts q names es (x >>= f)

namespace Acts

theorem after {x : Build α} {f : α → Build Expr} (hx : x.Readies fun _ => True)
    (hf : ∀ a, Acts q names es (f a)) : Acts q names es (x >>= f) := .bind hx fun a _ => hf a

theorem widgetAction (h : ∀ w ∈ widgets, (work w).Writes (q.of []) names) (id : Ident)
    (params : List Param) : Acts q names es (widgetAction widgets work id params es) :=
  .inBlock id params (forWidgets_writes h)

theorem targets (h : ∀ w, (work w).Writes (q.of []) names) (key : String) (id : Ident)
    (params : List Param) :
    Acts q names es (do
      let widgets ← targets config key
      Automation.widgetAction widgets work id params es) :=
  .after (targets_readies _ _) fun _ => .widgetAction (fun w _ => h w) _ _

theorem keeps {b : Build Expr} (h : Acts q names es b) : b.Heeds (q.of []) := by
  induction h with
  | inBlock id params hwork => exact ownBlock_quiet hwork.keeps id params es
  | bind hx _ hf => exact hx.provides.used hf

end Acts

end Automation

/-- A behaviour of which the code stands in a block of its own.  It waits for the lambdas among some
    entries before, and for objects of given names inside. -/
def Behaviour.Acts (b : Behaviour) (q : Quietness) (names : Value → Option String → Prop)
    (entries : Value → Entries) : Prop :=
  ∀ g config id params,
    Automation.Acts q (names config) (entries config) (b.build g config id params)

/-! ## Actions on widgets of any kind -/

namespace Automation

theorem updateTargets_readies (config : Value) : (updateTargets config).Readies fun _ => True :=
  .bind (.of_required _ _) fun _ _ => targets_readies _ _

theorem onTargets_acts {choose : Widget → Widget}
    (h : ∀ w, (work w).Writes (q.of []) fun _ => False) :
    (onTargets name choose work).Acts q (fun _ _ => False) fun _ => [] := fun _ _ _ _ =>
  .after (targets_readies _ _) fun _ => .widgetAction (fun w _ => h w) _ _

theorem switchActions_acts : ∀ b ∈ switchActions, b.Acts q (fun _ _ => False) fun _ => [] := by
  have hset : ∀ (w : Widget) state, (w.addState state).Heeds (q.of []) := fun w =>
    addState_keeps fun f _ => Quietness.calls f
  have hunset : ∀ (w : Widget) state, (w.clearState state).Heeds (q.of []) := fun w =>
    clearState_keeps fun f _ => Quietness.calls f
  simp only [switchActions, forall_mem_cons, not_mem_nil, false_implies, implies_true, and_true]
  refine ⟨?_, ?_, ?_, ?_⟩
  · exact onTargets_acts fun w => .first (hset w _) fun _ => .of_pure _
  · exact onTargets_acts fun w => .first (hunset w _) fun _ => .of_pure _
  · exact onTargets_acts fun w => .first (addFlag_quiet _) fun _ => .of_pure _
  · refine onTargets_acts fun w => .first (clearFlag_quiet _) fun _ => ?_
    split
    · exact .of_lift (run_quiet _ _)
    · exact .of_pure _

theorem redraw_acts : redraw.Acts q (fun _ _ => False) fun _ => [] := by
  intro g config id params
  have hrun : ∀ widgets, Acts q (fun _ => False) [] (widgetAction widgets (fun w =>
      run "lv_obj_invalidate" [.cpp w.obj]) id params []) := fun widgets =>
    .widgetAction (fun w _ => .of_lift (run_quiet _ _)) _ _
  show Acts _ _ _ (if config.has "lvgl_id" then _ else _)
  split
  · exact .after (.of_reads (identAt_still _ _).reads) fun _ =>
      .after (resolve_readies _) fun panel => hrun _
  · exact .after (targets_readies _ _) hrun

def allEntries (config : Value) : Entries := config.entries?.getD []

theorem updateWidget_acts : updateWidget.Acts q Value.Refers allEntries :=
  fun _ config id params => .after (updateTargets_readies config) fun _ =>
    .widgetAction (fun _ _ => applyCommon_quietly config.optionsCovered_refers) id params

end Automation

/-! ## Actions of the kinds -/

namespace Kinds

open Automation

variable {work : Value → Build (Widget → Build Unit)}

theorem callAction_acts {names : Value → Option String → Prop} (name function : String)
    (type : CppType) : (callAction name function type).Acts q names fun _ => [] := fun _ _ _ _ =>
  .targets (fun _ => .of_lift (run_quiet _ _)) _ _ _

theorem lottieActions_acts : ∀ b ∈ lottieActions, b.Acts q (fun _ _ => False) fun _ => [] := by
  have hlottie : ∀ {name : String} {work : Widget → Build Unit},
      (∀ w, (work w).Writes (q.of []) fun _ => False) →
      (lottieAction name work).Acts q (fun _ _ => False) fun _ => [] := fun hwork _ _ _ _ =>
    .targets hwork _ _ _
  have hstop : ∀ w, (stopLottie w).Writes (q.of []) fun _ => False := fun w =>
    .of_lift (run_quiet _ _)
  simp only [lottieActions, forall_mem_cons, not_mem_nil, false_implies, implies_true, and_true]
  refine ⟨hlottie fun w => ?_, hlottie hstop, hlottie hstop⟩
  exact .first (call_quiet _ _) fun _ => .of_lift (run_quiet _ _)

theorem selectTab_acts : selectTab.Acts q (fun _ _ => False) fun _ => [] := by
  intro _ config id params
  refine .after (targets_readies _ _) fun _ => .bind (.of_required _ _) fun index _ => ?_
  exact .widgetAction (fun w _ => .required_bind fun _ _ =>
    .first (run_quiet _ _) fun _ => .of_lift (run_quiet _ _)) _ _

theorem selectTile_acts : selectTile.Acts q Value.Refers fun _ => [] := by
  intro _ config id params
  have hcovered := config.optionsCovered_refers
  have hshow : ∀ (w : Widget) function args, Build.Writes (q.of []) config.Refers (do
      run function args
      run "lv_obj_send_event"
        [.cpp w.obj, .literal "LV_EVENT_VALUE_CHANGED", .cpp Expr.nullptr] : Build Unit) :=
    fun _ _ _ => .first (run_quiet _ _) fun _ => .of_lift (run_quiet _ _)
  -- The tile is looked for inside the block, by its name or by its place.
  refine .targets (fun w => ?_) _ _ _
  split
  · next tile htile =>
      refine .bind (resolved_writes (hcovered.setAt? (by decide) htile)) fun _ => ?_
      exact .required_bind fun _ _ => hshow _ _ _
  · refine .required_bind fun row hrow => ?_
    refine .bind (integer_asks.writes (hcovered.get? (by decide) hrow)) fun _ => ?_
    refine .required_bind fun column hcolumn => ?_
    refine .bind (integer_asks.writes (hcovered.get? (by decide) hcolumn)) fun _ => ?_
    exact .required_bind fun _ _ => hshow _ _ _

/-! ### Calendars and charts -/

@[grind ←]
theorem emitWhole_writes (h : v.Covered names) : (emitWhole v).Writes (q.of free) names := by
  unfold emitWhole
  split
  · exact .bind (closure_asks h _ _ _).writes fun _ => .of_pure _
  · exact .of_pure _

@[grind ←]
theorem flexiblePart_writes {date : Value} (h : date.Covered names) (hkey : key ≠ "id")
    (fallback : Int) : (flexiblePart date key fallback).Writes (q.of free) names := by
  unfold flexiblePart
  repeat' split
  all_goals grind

@[grind ←]
theorem callWithYear_writes (function name : String) (w : Widget) (hasLambda : Bool) (year : Value)
    (rest : List Value) :
    (callWithYear function name w hasLambda year rest).Writes (q.of free) names := by
  unfold callWithYear
  split
  · exact withLocal_writes (by decide) _ _ _ fun var =>
      guardedBy_writes _ (.of_lift (run_quiet _ _))
  · exact .of_lift (run_quiet _ _)

theorem updateCalendar_acts : updateCalendar.Acts q Value.Refers fun _ => [] := by
  intro _ config id params
  have hcovered := config.optionsCovered_refers
  refine .targets (fun w => ?_) _ _ _
  repeat' first
    | with_reducible refine .bind ?_ fun _ => ?_
    | split
    | dsimp only
  all_goals grind

theorem chartAction_acts (h : ∀ config, (work config).Readies fun change =>
      ∀ w, (change w).Writes (q.of []) config.Refers) :
    (chartAction name fields work).Acts q Value.Refers fun _ => [] := by
  intro _ config id params
  refine .after (targets_readies _ _) fun _ => .bind (h config) fun change hchange => ?_
  exact .widgetAction (fun w _ => .bind (hchange w) fun _ => .of_lift (run_quiet _ _)) _ _

theorem seriesOf_readies (config : Value) : (seriesOf config).Readies fun _ => True :=
  .after (.of_reads (identAt_still _ _).reads) fun _ => resolve_readies _

theorem chartActions_acts : ∀ b ∈ chartActions, b.Acts q Value.Refers fun _ => [] := by
  have hwhole : ∀ {config v : Value} {key : String}, key ≠ "id" → config.get? key = some v →
      (emitWhole v).Writes (q.of []) config.Refers := fun hkey hv =>
    emitWhole_writes ((Value.optionsCovered_refers _).get? hkey hv)
  simp only [chartActions, forall_mem_cons, not_mem_nil, false_implies, implies_true,
    and_true]
  refine ⟨?_, callAction_acts _ _ _, ?_, ?_, ?_, ?_⟩
  · refine chartAction_acts fun config => .after (seriesOf_readies _) fun series => ?_
    refine .bind (.of_required _ _) fun value hvalue => .of_pure fun w => ?_
    exact .bind (hwhole (by decide) hvalue) fun _ => .of_lift (run_quiet _ _)
  · refine chartAction_acts fun config => .after (seriesOf_readies _) fun series => ?_
    refine .bind (.of_required _ _) fun index hindex => ?_
    refine .bind (.of_required _ _) fun value hvalue => .of_pure fun w => ?_
    exact .bind (hwhole (by decide) hindex) fun _ => .bind (hwhole (by decide) hvalue) fun _ =>
      .of_lift (run_quiet _ _)
  · refine chartAction_acts fun config => .after (seriesOf_readies _) fun series => ?_
    refine .bind (.of_required _ _) fun index hindex => .bind (.of_required _ _) fun x hx => ?_
    refine .bind (.of_required _ _) fun y hy => .of_pure fun w => ?_
    exact .bind (hwhole (by decide) hindex) fun _ => .bind (hwhole (by decide) hx) fun _ =>
      .bind (hwhole (by decide) hy) fun _ => .first (addLine_quiet _) fun _ =>
        .of_lift (addLine_quiet _)
  · refine chartAction_acts fun config => .after (seriesOf_readies _) fun series => ?_
    exact .of_emit color_asks fun color => .of_pure fun w =>
      .of_lift (run_quiet _ _)
  · refine chartAction_acts fun config => .after (.of_reads (identAt_still _ _).reads) fun _ => ?_
    refine .after (resolve_readies _) fun cursor => .after (seriesOf_readies _) fun _ => ?_
    refine .bind (.of_required _ _) fun index hindex => .of_pure fun w => ?_
    exact .bind (hwhole (by decide) hindex) fun _ => .of_lift (run_quiet _ _)

/-! ### Buttons, indicators and scales -/

theorem changeMatrixButton_writes (config : Value) (w : Widget) (index : Nat) :
    (changeMatrixButton config w index).Writes (q.of []) fun _ => False := by
  unfold changeMatrixButton
  repeat' first
    | with_reducible refine .bind ?_ fun _ => ?_
    | split
    | dsimp only
  all_goals grind

theorem updateMatrixButton_acts : updateMatrixButton.Acts q (fun _ _ => False) allEntries := by
  intro _ config id params
  refine .bind (.of_required _ _) fun _ _ => .after (targets_readies _ _) fun widgets => ?_
  split
  · refine .after (.of_throw _) fun _ => .widgetAction (fun w _ => ?_) _ _
    split
    · exact changeMatrixButton_writes _ _ _
    · exact .of_throw _
  · refine .widgetAction (fun w _ => ?_) _ _
    split
    · exact changeMatrixButton_writes _ _ _
    · exact .of_throw _

theorem updateIndicator_acts : updateIndicator.Acts q Value.Refers allEntries :=
  fun _ config _ _ => .targets (fun _ => moveIndicator_writes config.optionsCovered_refers) _ _ _

theorem updateScale_acts : updateScale.Acts q Value.Refers allEntries := by
  have hends : ∀ (k : Kind) config, (k.smallest config).Heeds (q.of [])
      ∧ (k.largest config).Heeds (q.of []) := by
    intro k config
    unfold Kind.smallest Kind.largest
    constructor
    · repeat' split
      all_goals grind
    · repeat' split
      all_goals grind
  intro _ config id params
  refine .targets (fun w => ?_) _ _ _
  have hrest : ∀ low high, Build.Writes (q.of []) config.Refers (do
      applyScaleRange w config low high
      applyAngles w config : Build Unit) := fun low high =>
    .first (applyScaleRange_quiet _ _ _) fun _ =>
      applyAngles_writes config.optionsCovered_refers
  dsimp only
  split
  · exact .first (hends _ _).1 fun _ => .first (hends _ _).2 fun _ => hrest _ _
  · exact hrest _ _

theorem changeSections_writes (h : config.OptionsCovered names) (n : Nat) (widgets : List Widget) :
    (changeSections config n widgets).Writes (q.of free) names := by
  induction widgets generalizing n with
  | nil => exact .of_pure _
  | cons w ws ih =>
    unfold changeSections
    repeat' first
      | with_reducible refine .bind ?_ fun _ => ?_
      | split
      | dsimp only
    all_goals grind

theorem updateSection_acts : updateSection.Acts q Value.Refers allEntries := fun _ config _ _ =>
  .after (targets_readies _ _) fun widgets =>
    .inBlock _ _ (changeSections_writes config.optionsCovered_refers 0 widgets)

theorem updateNeedle_acts : updateNeedle.Acts q (fun _ _ => False) allEntries := by
  have hmove : ∀ config w, (moveNeedle config w).Writes (q.of []) fun _ => False := by
    intro config w
    unfold moveNeedle
    refine .bind .of_get fun s => ?_
    split <;> grind
  exact fun _ _ _ _ => .targets (hmove _) _ _ _

/-! ### Canvases -/

theorem canvasAction_acts (h : ∀ config, (work config).Readies fun run =>
      ∀ w, (run w).Writes (q.of []) fun _ => False) :
    (canvasAction name fields extras work).Acts q (fun _ _ => False) allEntries :=
  fun _ config _ _ => .after (targets_readies _ _) fun _ =>
    .bind (h config) fun _ hrun => .widgetAction (fun w _ => hrun w) _ _

@[grind ←]
theorem layerOf_quiet (w : Widget) : (layerOf w).Heeds (q.of free) := by
  refine ⟨fun s => (q.of free).aside ?_⟩
  unfold layerOf
  rw [Check.on_bind_ok _ (Check.on_get s)]
  split <;> rfl

@[grind ←]
theorem pictureData_quiet (src : Value) : (pictureData src).Heeds (q.of free) := by
  unfold pictureData
  repeat' split
  all_goals grind

theorem emitPixels_readies : (emitPixels ps).Readies fun _ => True := by
  induction ps with
  | nil => exact .of_pure trivial
  | cons p ps ih =>
    exact .of_emit pixels_asks fun _ => .of_emit pixels_asks fun _ =>
      .after ih fun _ => .of_pure trivial

theorem plainCanvasActions_acts :
    ∀ b ∈ plainCanvasActions, b.Acts q (fun _ _ => False) allEntries := by
  simp only [plainCanvasActions, forall_mem_cons, not_mem_nil, false_implies,
    implies_true, and_true]
  refine ⟨?_, ?_, ?_, ?_, ?_, ?_, ?_, ?_⟩
  · refine canvasAction_acts fun _ => .of_pure fun w => ?_
    exact .first (layerOf_quiet w) fun _ =>
      .first (addLine_quiet _) fun _ => .of_lift (run_quiet _ _)
  · refine canvasAction_acts fun _ => .of_pure fun w => .bind .of_get fun s => ?_
    split
    · exact .of_lift (run_quiet _ _)
    · exact .of_pure _
  · exact canvasAction_acts fun config => .of_emit color_asks fun _ =>
      .of_emit opacity_asks fun _ => .of_pure fun w => .of_lift (run_quiet _ _)
  · exact canvasAction_acts fun _ => .of_pure fun w => .of_lift (run_quiet _ _)
  · refine canvasAction_acts fun config => .of_emit image_asks fun _ =>
      .of_emit pixels_asks fun _ => .of_emit pixels_asks fun _ =>
        .of_pure fun w => ?_
    exact .first (pictureData_quiet _) fun _ => .of_lift (addLine_quiet _)
  · refine canvasAction_acts fun config => .of_emit color_asks fun color => ?_
    split
    on_goal 1 => refine .after (.of_throw _) fun _ => ?_
    on_goal 2 => refine .after (opacity_asks.readies _) fun _ => ?_
    on_goal 3 => refine .after (.of_pure trivial) fun _ => ?_
    all_goals exact .after (emitPixels_readies _) fun points => .of_pure fun w =>
      .forItems fun _ _ => .of_lift (run_quiet _ _)
  · exact canvasAction_acts fun config => .bind (.of_required _ _) fun _ _ =>
      .of_emit color_asks fun _ => .of_pure fun w => .of_lift (run_quiet _ _)
  · exact canvasAction_acts fun _ => .of_pure fun w => .of_lift (addLine_quiet _)

/-- Properties that wait for nothing but what their values refer to, and are not the key of the
    widgets that a configuration is for. -/
def Drawable (ps : List (String × Property)) : Prop := ∀ e ∈ ps, e.2.Asks ∧ e.1 ≠ "id"

theorem styleProperty_asks
    (h : (Schema.styleProperties.find? (·.1 == name)).map (·.2) = some p) : p.Asks := by
  obtain ⟨e, he, rfl⟩ := Option.map_eq_some_iff.mp h
  exact Style.allStyles_asks e (mem_append_left _ (mem_of_find?_eq_some he))

theorem styleSubset_drawable {names : List (String × String)} (hnames : ∀ e ∈ names, e.1 ≠ "id") :
    Drawable (styleSubset names) := by
  intro e he
  obtain ⟨⟨name, style⟩, hmem, hname⟩ := mem_filterMap.mp he
  obtain ⟨p, hp, rfl⟩ := Option.map_eq_some_iff.mp hname
  exact ⟨styleProperty_asks (congrArg (Option.map (·.2)) hp), hnames _ hmem⟩

theorem pictureProperty_readies (name : String) :
    (liftM (pictureProperty name) : Build _).Readies fun p => ∀ x, p = some x → x.Asks := by
  refine .of_check (fun s => ?_) fun hrun x hx => ?_
  · -- An old name is noted, which is all that is done before the block.
    unfold pictureProperty currentProperty
    cases renamedProperties.find? (·.1 == name) with
    | none => exact .refl s
    | some e => exact ⟨_, rfl⟩
  · obtain ⟨current, t, -, hfound⟩ := Check.on_bind_eq_ok hrun
    cases hfound
    rcases Option.or_eq_some_iff.mp (Option.or_eq_orElse.trans hx) with hx | ⟨-, hx⟩
    · exact styleProperty_asks hx
    · exact styleProperty_asks hx

theorem pictureProperties_readies {ns : List String} (hns : ∀ n ∈ ns, n ≠ "id") :
    (liftM (pictureProperties ns) : Build _).Readies Drawable := by
  induction ns with
  | nil => exact .of_pure nofun
  | cons n ns ih =>
    obtain ⟨hn, hns⟩ := forall_mem_cons.mp hns
    refine .lift_bind (pictureProperty_readies n) fun p hp => ?_
    refine .lift_bind (ih hns) fun rest hrest => ?_
    split
    · next x => exact .of_pure (forall_mem_cons.mpr ⟨⟨hp x rfl, hn⟩, hrest⟩)
    · exact .of_pure hrest

theorem emitPoints_readies : (emitPoints ps).Readies fun _ => True :=
  (emitPoints_asks fun p _ => p.covered_any).readies

end Kinds

/-! ### Shapes -/

section

variable [hq : q.Open]

namespace Kinds

open Automation

theorem assign_then {target : Expr} {rest : Build Unit} (h : rest.Writes (q.of free) names) :
    Build.Writes (q.of free) names (do
      assign target v
      rest) :=
  .first (assign_open _ _) fun _ => h

theorem fillDescriptor_writes {ps : List (String × Property)} (hps : Drawable ps)
    (h : config.OptionsCovered names) (dsc : Expr) :
    (fillDescriptor dsc config ps).Writes (q.of free) names := by
  induction ps with
  | nil => exact .of_pure _
  | cons e ps ih =>
    obtain ⟨name, p⟩ := e
    obtain ⟨⟨hp, hname⟩, hps⟩ := forall_mem_cons.mp hps
    have hrest := ih hps
    unfold fillDescriptor
    split
    · exact hrest
    · next v hv =>
        exact .bind (hp.writes (h.get? hname hv)) fun _ =>
          .first (currentProperty_keeps name) fun _ => assign_then hrest

/-- Shapes that can be drawn with their properties, and wait for nothing else. -/
structure Shape.Writes (q : Quietness) (shape : Shape) : Prop where
  properties : Drawable shape.properties
  draw : ∀ names layer x y dsc, (shape.draw layer x y dsc).Writes (q.of []) names

theorem drawShape_writes {shape : Shape} (hshape : shape.Writes q) (h : config.OptionsCovered names)
    (x y : Value) (w : Widget) : (drawShape shape config x y w).Writes (q.of []) names := by
  have htype : "lv_draw_" ++ shape.descriptor ++ "_dsc_t" ≠ "" :=
    append_ne_empty (append_ne_empty (by decide))
  have hfill : ∀ dsc layer, Build.Writes (q.of []) names (do
      fillDescriptor dsc config shape.properties
      shape.draw layer x y dsc : Build Unit) := fun dsc layer =>
    .bind (fillDescriptor_writes hshape.properties h _) fun _ => hshape.draw _ _ _ _ _
  refine withLocal_writes (by decide) _ _ _ fun layer => ?_
  refine .first (run_quiet _ _) fun _ => ?_
  refine .bind (withLocal_writes htype _ _ _ fun dsc => ?_) fun _ =>
    .of_lift (run_quiet _ _)
  refine .first (run_quiet _ _) fun _ => ?_
  split
  · exact hfill _ _
  · next v hv =>
      exact .bind (opacity_asks.writes (h.get? (by decide) hv)) fun _ =>
        assign_then (hfill _ _)

theorem drawAction_acts {shapeOf : Value → Build Shape}
    (h : ∀ config, (shapeOf config).Readies (Shape.Writes q)) :
    (drawAction name fields extras shapeOf).Acts q Value.Refers allEntries := by
  intro _ config id params
  refine .bind (h config) fun shape hshape => .after (targets_readies _ _) fun _ => ?_
  refine .after (pixels_asks.readies _) fun x => ?_
  refine .after (pixels_asks.readies _) fun y => ?_
  exact .widgetAction (fun w _ => drawShape_writes hshape config.optionsCovered_refers x y w) _ _

theorem inArea_writes (x y x2 y2 : Value) {draw : Expr → Build Unit}
    (h : ∀ area, (draw area).Writes (q.of free) names) :
    (inArea x y x2 y2 draw).Writes (q.of free) names := by
  refine withLocal_writes (by decide) _ _ _ fun area => ?_
  exact assign_then (assign_then (assign_then (assign_then (h area))))

theorem drawRectangle_acts : drawRectangle.Acts q Value.Refers allEntries := by
  refine drawAction_acts fun config => .of_emit pixels_asks fun width =>
    .of_emit pixels_asks fun height => .of_pure ⟨?_, fun _ _ x y dsc => ?_⟩
  · exact styleSubset_drawable (by decide)
  · exact inArea_writes _ _ _ _ fun area => .of_lift (run_quiet _ _)

theorem drawText_acts : drawText.Acts q Value.Refers allEntries := by
  refine drawAction_acts fun config => .of_emit text_asks fun text =>
    .of_emit pixels_asks fun width => .of_pure ⟨?_, fun _ _ x y dsc => ?_⟩
  · exact styleSubset_drawable (by decide)
  · exact inArea_writes _ _ _ _ fun area => assign_then (.of_lift (run_quiet _ _))

theorem drawPicture_acts : drawPicture.Acts q Value.Refers allEntries := by
  refine drawAction_acts fun config => .of_emit image_asks fun src =>
    .of_emit pixels_asks fun pivotX => .of_emit pixels_asks fun pivotY => ?_
  refine .bind (pictureProperties_readies (by decide)) fun ps hps =>
    .of_pure ⟨hps, fun names layer x y dsc => ?_⟩
  have hdraw : Build.Writes (q.of []) names (inArea x y x y fun area =>
      run "lv_draw_image" [layer, addressOf dsc, addressOf area]) :=
    inArea_writes _ _ _ _ fun area => .of_lift (run_quiet _ _)
  refine .first (pictureData_quiet _) fun _ => assign_then ?_
  split
  · exact assign_then (assign_then hdraw)
  · exact hdraw

theorem drawSegments_writes (layer : Value) (dsc : Expr) (points : List Value) :
    (drawSegments layer dsc points).Writes (q.of free) names := by
  refine withLocal_writes (by decide) _ _ _ fun ps => ?_
  refine withLocal_writes (by decide) _ _ _ fun i => ?_
  refine .first (addLine_quiet _) fun _ => assign_then (assign_then ?_)
  exact .first (run_quiet _ _) fun _ => .of_lift (addLine_quiet _)

theorem drawLine_acts : drawLine.Acts q Value.Refers allEntries := by
  refine drawAction_acts fun config => .after (emitPoints_readies _) fun points => .of_pure ?_
  refine ⟨fun e he => ?_, fun _ layer x y dsc => drawSegments_writes _ _ _⟩
  rcases mem_append.mp he with he | he
  · exact styleSubset_drawable (by decide) e he
  · fin_cases he
    · exact ⟨boolean_asks, by decide⟩
    · exact ⟨boolean_asks, by decide⟩

theorem drawPolygon_acts : drawPolygon.Acts q Value.Refers allEntries := by
  refine drawAction_acts fun config => .after (emitPoints_readies _) fun points => ?_
  split
  · exact .of_throw _
  · refine .of_pure ⟨styleSubset_drawable (by decide), fun _ layer x y dsc => ?_⟩
    refine withLocal_writes (by decide) _ _ _ fun edge => ?_
    refine .first (run_quiet _ _) fun _ => ?_
    exact assign_then (assign_then (assign_then (drawSegments_writes _ _ _)))

theorem drawArc_acts : drawArc.Acts q Value.Refers allEntries := by
  refine drawAction_acts fun config => .of_emit size_asks fun radius =>
    .of_emit degrees_asks fun start => .of_emit degrees_asks fun stop =>
      .of_pure ⟨styleSubset_drawable (by decide), fun _ layer x y dsc => ?_⟩
  refine assign_then (assign_then (assign_then (assign_then (assign_then ?_))))
  exact .of_lift (run_quiet _ _)

end Kinds

end

end

end Panel
