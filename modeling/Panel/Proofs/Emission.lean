import Panel.Proofs.Entries
import Panel.Proofs.Writers
import Panel.Registry

/-! # Emission — writing values and common options under a habit -/

namespace Panel

open Cpp List Code

variable {r : Habit} {es : Entries} {v : Value} {name : String}
  {parts : List (String × List (String × Entries))} {manner : Manner} {p : Property}
  {keys : List String} {α : Type} {writer : Option Property} {names : Option String → Prop}

/-! ## Properties -/

/-- A property whose values are written without anything that counts. -/
def Property.Heeds (r : Habit) (p : Property) : Prop :=
  ∀ params v, (p.emitWith params v).Heeds r

namespace Property

@[grind ←]
theorem Heeds.emit (h : p.Heeds r) (v : Value) : (p.emit v).Heeds r := h [] v

@[simp, grind ←]
theorem Asks.keeps (h : p.Asks) : p.Heeds r :=
  fun params v => (h (fun _ => True) params v fun _ _ => trivial).keeps

end Property

/-! ## What is collected from options -/

def Entries.Covered (names : Option String → Prop) (es : Entries) : Prop :=
  ∀ e ∈ es, e.2.Covered names

theorem Value.Covered.entries (h : (Value.dict es).Covered names) : Entries.Covered names es := by
  intro e he n hn
  refine h n ?_
  rw [Value.asked]
  exact Value.asked_of_mem_entries he hn

namespace Style

variable {names : Option String → Prop} {config : Value} {s t : Session} {found : List (String × α)}

theorem valueAt_covered {key : String} (h : config.OptionsCovered names) (hkey : key ≠ "id")
    (hv : (valueAt config key).on s = (.ok v, t)) : v.Covered names := by
  unfold valueAt at hv
  split at hv
  next es =>
    split at hv
    next x hx =>
      cases hv
      exact h key v hkey hx
    next => cases hv
  next =>
    cases hv
    exact nofun
  next => cases hv

theorem among_covered (h : config.OptionsCovered names) (hkeys : "id" ∉ keys)
    (hes : (among config keys).on s = (.ok es, t)) : Entries.Covered names es := by
  induction keys generalizing es s t with
  | nil =>
    cases hes
    exact nofun
  | cons key keys ih =>
    rw [mem_cons, not_or] at hkeys
    obtain ⟨there, u, -, hes⟩ := Check.on_bind_eq_ok hes
    split at hes
    · obtain ⟨v, u', hv, hes⟩ := Check.on_bind_eq_ok hes
      obtain ⟨rest, u'', hrest, hes⟩ := Check.on_bind_eq_ok hes
      cases hes
      intro e he
      rcases mem_cons.mp he with rfl | he
      · exact valueAt_covered h (Ne.symm hkeys.1) hv
      · exact ih hkeys.2 hrest e he
    · exact ih hkeys.2 hes

theorem collectUnder_covered {p : α → Prop} {collect : Value → Check α}
    (hcollect : ∀ {v a s t}, v.Covered names → (collect v).on s = (.ok a, t) → p a)
    {all : List (String × α)} (h : config.OptionsCovered names) (hkeys : "id" ∉ keys)
    (hfound : ∀ e ∈ found, p e.2)
    (hall : (collectUnder collect config keys found).on s = (.ok all, t)) : ∀ e ∈ all, p e.2 := by
  -- The induction is on the names; what was found before them is part of the invariant.
  induction keys generalizing found s t with
  | nil =>
    cases hall
    exact hfound
  | cons key keys ih =>
    rw [mem_cons, not_or] at hkeys
    obtain ⟨there, u, -, hall⟩ := Check.on_bind_eq_ok hall
    split at hall
    · obtain ⟨v, u', hv, hall⟩ := Check.on_bind_eq_ok hall
      obtain ⟨a, u'', ha, hall⟩ := Check.on_bind_eq_ok hall
      refine ih hkeys.2 (fun e he => ?_) hall
      rcases mem_putBy _ (putNamed_eq found key a ▸ he) with rfl | he
      · exact hcollect (valueAt_covered h (Ne.symm hkeys.1) hv) ha
      · exact hfound e he
    · exact ih hkeys.2 hfound hall

theorem collectParts_covered (h : config.OptionsCovered names)
    (hparts : (collectParts config).on s = (.ok parts, t)) :
    ∀ part ∈ parts, ∀ state ∈ part.2, Entries.Covered names state.2 := by
  have hprops : ∀ {v es s t}, v.OptionsCovered names → (collectProps v).on s = (.ok es, t) →
      Entries.Covered names es := fun hv hes => among_covered hv (by decide +kernel) hes
  have hstates : ∀ {v} {states : List (String × Entries)} {s t}, v.OptionsCovered names →
      (collectStates v).on s = (.ok states, t) →
      ∀ state ∈ states, Entries.Covered names state.2 := by
    intro v states s t hv hstates
    obtain ⟨es, u, hes, hstates⟩ := Check.on_bind_eq_ok hstates
    refine collectUnder_covered (fun hv => hprops hv.options) hv (by decide) (fun e he => ?_)
      hstates
    rw [mem_singleton.mp he]
    exact hprops hv hes
  obtain ⟨states, u, hmain, hparts⟩ := Check.on_bind_eq_ok hparts
  refine collectUnder_covered (p := fun states => ∀ state ∈ states, Entries.Covered names state.2)
    (fun hv => hstates hv.options) h (by decide) (fun e he => ?_) hparts
  rw [mem_singleton.mp he]
  exact hstates h hmain

end Style

/-! ## Names of functions -/

def renamed (name : String) : String :=
  ((renamedProperties.find? (·.1 == name)).map (·.2)).getD name

theorem currentProperty_bind_keeps {β : Type} {f : String → Check β}
    (h : (f (renamed name)).Heeds r) : (currentProperty name >>= f).Heeds r := by
  unfold currentProperty
  unfold renamed at h
  cases hfind : renamedProperties.find? (·.1 == name) with
  | none =>
    rw [hfind] at h
    exact h
  | some e =>
    rw [hfind] at h
    dsimp only
    rw [bind_assoc]
    exact .bind (.of_modify fun _ => rfl) fun _ => h

@[simp, grind ←]
theorem currentProperty_keeps (name : String) : (currentProperty name).Heeds r := by
  rw [← bind_pure (currentProperty name)]
  exact currentProperty_bind_keeps (.of_pure _)

/-! ## Widgets -/

namespace Widget

variable {w : Widget}

def CommonCall (w : Widget) (f : String) : Prop :=
  Text.hasPrefix "lv_obj_" f = true ∨ f = "lv_group_add_obj"
    ∨ w.cell ≠ none
      ∧ (f = "lv_buttonmatrix_set_button_ctrl" ∨ f = "lv_buttonmatrix_clear_button_ctrl")

theorem addStyle_keeps (h : r.Calls "lv_obj_add_style") (style state : Value) :
    (w.addStyle style state).Heeds r :=
  .bind (joined_still _ _).keeps fun _ => run_keeps h _

theorem setStyle_keeps (h : r.Calls ("lv_obj_set_style_" ++ name)) (v state : Value) :
    (w.setStyle name v state).Heeds r := by
  unfold setStyle
  split
  · simp
  · exact .bind ⟨fun s => r.style name s⟩ fun _ => run_keeps h _

@[simp, grind ←]
theorem walked_keeps (v : Value) : (walked v).Heeds r := by
  unfold walked
  repeat' split
  all_goals grind

/-- What the names of the functions begin with that set properties of a widget. -/
def setterStem (w : Widget) (manner : Manner) : String :=
  "lv_" ++ (match manner.base with
    | some b => if b == "" then w.kind.traits.libraryName else b
    | none => w.kind.traits.libraryName) ++ "_set_"

section

variable (h : r.Calls (w.setterStem manner ++ renamed name))

include h

theorem setValue_keeps (v : Value) :
    (w.setValue name v manner).Heeds r :=
  currentProperty_bind_keeps (run_keeps h _)

theorem setOption_writes {config : Value} (hv : ∀ v, config.given? name = some v → v.Covered names)
    (hwriter : ∀ p, writer = some p → p.Asks) :
    (w.setOption name config writer manner).Writes r names := by
  unfold setOption
  split
  · exact .of_pure _
  · next v hgiven =>
      split
      · next p hp =>
          have hasks : p.Asks := by
            cases writer with
            | some q => exact hwriter p hp
            | none => exact Style.property?_asks hp
          exact .bind (hasks.writes (hv v hgiven)) fun _ => .of_lift (setValue_keeps h _)
      · exact .of_lift (setValue_keeps h _)

theorem setOption_keeps (config : Value)
    (hwriter : ∀ p, writer = some p → p.Asks) : (w.setOption name config writer manner).Heeds r :=
  .of_writes (setOption_writes h (fun v _ => v.covered_any) hwriter)

theorem setProperty_keeps (v : Value) :
    (w.setProperty name v manner).Heeds r := by
  unfold setProperty
  split
  · exact setOption_keeps h _ nofun
  · simp
  · exact .of_lift (setValue_keeps h _)

end

/-! ### Common options -/

section

variable (hcalls : ∀ f, w.CommonCall f → r.Calls f)

include hcalls

theorem setStyle_common (name : String) (v state : Value) : (w.setStyle name v state).Heeds r := by
  refine setStyle_keeps (hcalls _ (.inl ?_)) v state
  unfold Text.hasPrefix
  rw [String.toList_append]
  rfl

theorem applyTracks_keeps (id layout : Value) (option direction : String) :
    (w.applyTracks id layout option direction).Heeds r := by
  have htracks : ∀ v, (tracksText v).Heeds r := by
    intro v
    unfold tracksText
    split <;> simp
  exact .required fun v => .bind (htracks v) fun _ =>
    .bind (constantArray_keeps _ _ _) fun _ => setStyle_common hcalls _ _ _

theorem applyFlex_keeps (layout : Value) : (w.applyFlex layout).Heeds r :=
  .required fun _ => .bind (run_keeps (hcalls _ (.inl (by decide))) _) fun _ =>
    .required fun _ => .required fun _ => .required fun _ =>
      run_keeps (hcalls _ (.inl (by decide))) _

theorem applyGrid_keeps (config layout : Value) : (w.applyGrid config layout).Heeds r :=
  .required fun _ => .bind (applyTracks_keeps hcalls _ _ _ _) fun _ =>
    .bind (applyTracks_keeps hcalls _ _ _ _) fun _ => .bind (setStyle_common hcalls _ _ _) fun _ =>
      setStyle_common hcalls _ _ _

theorem applyLayout_keeps (config layout : Value) : (w.applyLayout config layout).Heeds r := by
  refine .required fun type => ?_
  split
  · simp
  · refine .bind (noteUses_keeps _) fun _ =>
      .bind (run_keeps (hcalls _ (.inl (by decide))) _) fun _ =>
        .bind (setStyle_common hcalls _ _ _) fun _ => .bind (setStyle_common hcalls _ _ _) fun _ => ?_
    have hgrid := applyGrid_keeps hcalls config layout
    have hflex := applyFlex_keeps hcalls layout
    repeat' split
    all_goals grind

variable {names : Option String → Prop} {config : Value}

theorem applyStyleProperties_writes (select : Value) (h : Entries.Covered names es) :
    (w.applyStyleProperties select es).Writes r names := by
  induction es with
  | nil => exact .of_pure _
  | cons e es ih =>
    obtain ⟨name, v⟩ := e
    have hrest := ih (forall_mem_cons.mp h).2
    have hv : v.Covered names := h _ mem_cons_self
    unfold applyStyleProperties
    split
    · exact hrest
    · next p hp =>
        exact .bind ((Style.property?_asks hp).writes hv) fun v =>
          .first (currentProperty_keeps name) fun name =>
            .first (setStyle_common hcalls name v select) fun _ => hrest

theorem applyState_writes (part state : String) {props : Entries}
    (h : Entries.Covered names props) : (w.applyState part state props).Writes r names := by
  have hstyle : ∀ style, (w.addStyle style (selector part state)).Heeds r := fun style =>
    addStyle_keeps (hcalls _ (.inl (by decide))) style _
  have hproperties := applyStyleProperties_writes hcalls (selector part state) h
  unfold applyState
  dsimp only
  split
  · exact hproperties
  · exact .first (walked_keeps _) fun styles =>
      .bind (.forM fun style _ => .of_lift (hstyle style)) fun _ => hproperties

theorem applyParts_writes (h : ∀ part ∈ parts, ∀ state ∈ part.2, Entries.Covered names state.2) :
    (w.applyParts parts).Writes r names := by
  have hstates : ∀ part (states : List (String × Entries)),
      (∀ state ∈ states, Entries.Covered names state.2) →
      (w.applyStates part states).Writes r names := by
    intro part states hstates
    induction states with
    | nil => exact .of_pure _
    | cons e states ih =>
      exact .bind (applyState_writes hcalls part e.1 (hstates e mem_cons_self)) fun _ =>
        ih (forall_mem_cons.mp hstates).2
  induction parts with
  | nil => exact .of_pure _
  | cons e parts ih =>
    exact .bind (hstates e.1 e.2 (h e mem_cons_self)) fun _ => ih (forall_mem_cons.mp h).2

theorem addFlag_keeps (flag : Value) : (w.addFlag flag).Heeds r :=
  .bind (joined_still _ _).keeps fun _ => call_keeps (hcalls _ (.inl (by decide))) _

theorem clearFlag_keeps (flag : Value) : (w.clearFlag flag).Heeds r :=
  .bind (joined_still _ _).keeps fun _ => call_keeps (hcalls _ (.inl (by decide))) _

theorem addState_keeps (state : Value) : (w.addState state).Heeds r := by
  unfold addState
  split
  · next hcell =>
      refine .bind (controlOf_still state).keeps fun _ => call_keeps (hcalls _ ?_) _
      exact .inr (.inr ⟨fun h => (by rw [h] at hcell; cases hcell), .inl rfl⟩)
  · exact .bind (joined_still _ _).keeps fun _ => call_keeps (hcalls _ (.inl (by decide))) _

theorem clearState_keeps (state : Value) : (w.clearState state).Heeds r := by
  unfold clearState
  split
  · next hcell =>
      refine .bind (controlOf_still state).keeps fun _ => call_keeps (hcalls _ ?_) _
      exact .inr (.inr ⟨fun h => (by rw [h] at hcell; cases hcell), .inr rfl⟩)
  · exact .bind (joined_still _ _).keeps fun _ => call_keeps (hcalls _ (.inl (by decide))) _

omit hcalls in
theorem mem_decided {e : String × String} (he : e ∈ (Switches.of es).decided) :
    (e.1, .lambda e.2) ∈ es := by
  obtain ⟨⟨key, v⟩, hmem, hv⟩ := mem_filterMap.mp he
  cases v with
  | lambda body => exact Option.some.inj hv ▸ hmem
  | _ => exact nomatch hv

omit hcalls in
theorem mem_flagsOf {e : String × Value} (he : e ∈ flagsOf parts) :
    ∃ part ∈ parts, ∃ state ∈ part.2, e ∈ state.2 := by
  have hmain : e ∈ mainDefault parts := (mem_filter.mp he).1
  unfold mainDefault at hmain
  cases hpart : parts.find? (·.1 == "main") with
  | none =>
    rw [hpart] at hmain
    exact nomatch hmain
  | some part =>
    obtain ⟨name, states⟩ := part
    rw [hpart, Option.bind_some] at hmain
    dsimp only at hmain
    cases hstate : states.find? (·.1 == "default") with
    | none =>
      rw [hstate] at hmain
      exact nomatch hmain
    | some state =>
      rw [hstate] at hmain
      exact ⟨_, mem_of_find?_eq_some hpart, state, mem_of_find?_eq_some hstate, hmain⟩

omit hcalls in
theorem applySwitches_writes {set clear : Value → Check Expr} (hset : ∀ v, (set v).Heeds r)
    (hclear : ∀ v, (clear v).Heeds r) (stem : String) (h : Entries.Covered names es) :
    (applySwitches stem set clear (Switches.of es)).Writes r names := by
  have hdecided : ∀ decided : List (String × String),
      (∀ e ∈ decided, (Value.lambda e.2).Covered names) →
      (applyDecided stem set clear decided).Writes r names := by
    intro decided hcovered
    induction decided with
    | nil => exact .of_pure _
    | cons e decided ih =>
      obtain ⟨name, body⟩ := e
      have hclosure := closure_asks (hcovered _ mem_cons_self) [] "=" (some Cpp.bool)
      refine .bind hclosure.writes fun c => .bind (guardedBy_writes _ ?_) fun _ =>
        ih (forall_mem_cons.mp hcovered).2
      exact .first (hset _) fun _ => .first otherwise_keeps fun _ =>
        .first (hclear _) fun _ => .of_pure _
  have hrest := hdecided (Switches.of es).decided fun e he => h _ (mem_decided he)
  unfold applySwitches
  repeat' split
  all_goals grind

omit hcalls in
theorem resolved_writes (h : v.Covered names) : (resolved v).Writes r names := by
  cases v with
  | ident id =>
    have hid : names id.name := h _ mem_cons_self
    exact .bind (resolve_asks hid).writes fun _ => .of_pure _
  | _ => exact .of_pure _

section

variable (h : config.OptionsCovered names)

include h

theorem applyGroup_writes :
    (w.applyGroup config).Writes r names := by
  have hrun : ∀ group, (run "lv_group_add_obj" [group, .cpp w.obj]).Heeds r :=
    fun group => run_keeps (hcalls _ (.inr (.inl rfl))) _
  unfold applyGroup
  split
  · next group hgroup =>
      split
      · exact .bind (resolved_writes (h.get? (by decide) hgroup)) fun _ => .of_lift (hrun _)
      · exact .of_pure _
  · exact .of_pure _

theorem applyScroll_writes {options : List String}
    (hoptions : "id" ∉ options) : (w.applyScroll config options).Writes r names := by
  induction options with
  | nil => exact .of_pure _
  | cons name options ih =>
    rw [mem_cons, not_or] at hoptions
    refine .bind (setOption_writes (hcalls _ (.inl ?_)) (fun v => h.given? (Ne.symm hoptions.1))
      nofun) fun _ => ih hoptions.2
    show Text.hasPrefix "lv_obj_" (("lv_" ++ "obj" ++ "_set_") ++ renamed name) = true
    unfold Text.hasPrefix
    rw [String.toList_append]
    rfl

theorem applyStateOption_writes :
    (w.applyStateOption config).Writes r names := by
  unfold applyStateOption
  split
  · next states hstates =>
      exact applySwitches_writes (addState_keeps hcalls) (clearState_keeps hcalls) _
        (h.get? (by decide) hstates).entries
  · split
    · exact .of_throw _
    · exact .of_pure _
  · exact .of_pure _

/-- The common options keep to a habit that allows the functions they call, and are written at once
    if they refer to nothing that is missing. -/
theorem applyCommon_writes :
    (w.applyCommon config).Writes r names := by
  have hlayout : (w.applyLayoutOption config).Heeds r := by
    have hlayout := applyLayout_keeps hcalls config
    unfold applyLayoutOption
    repeat' split
    all_goals grind
  unfold applyCommon
  split
  · exact .of_throw _
  · refine .first hlayout fun _ =>
      .lift_bind (Style.collectParts_still config).keeps fun {parts _ _} hparts => ?_
    -- What has been collected is covered, whatever the session was.
    have hcovered : ∀ part ∈ parts, ∀ state ∈ part.2, Entries.Covered names state.2 :=
      Style.collectParts_covered h hparts
    have hflags : Entries.Covered names (flagsOf parts) := by
      intro e he
      obtain ⟨part, hpart, state, hstate, he⟩ := mem_flagsOf he
      exact hcovered part hpart state hstate e he
    exact .bind (applyParts_writes hcalls hcovered) fun _ =>
      .bind (applyGroup_writes hcalls h) fun _ =>
        .bind (applySwitches_writes (addFlag_keeps hcalls) (clearFlag_keeps hcalls) _ hflags) fun _ =>
          .bind (applyStateOption_writes hcalls h) fun _ =>
            applyScroll_writes hcalls h (by decide +kernel)

end

theorem applyCommon_keeps (config : Value) : (w.applyCommon config).Heeds r :=
  .of_writes (applyCommon_writes hcalls config.optionsCovered_any)

end

end Widget

/-! ## References -/

namespace Widget

theorem note_keeps {w : Widget}
    (h : ∀ s : Session, r.keeps s { s with widgets := putAmong s.widgets w }) : w.note.Heeds r :=
  ⟨h⟩

@[grind ←]
theorem targets_writes (config : Value) (key : String) : (targets config key).Writes r names := by
  have hawait : ∀ name, (await name).Writes r names := fun name => by
    refine .waitFor fun s hs _ => ?_
    split
    · rfl
    · rw [if_pos hs]
      rfl
  have hvalue : ∀ v, (awaitValue v).Writes r names := by
    intro v
    cases v with
    | ident id => exact hawait _
    | _ =>
      refine .waitFor fun s hs _ => ?_
      rw [if_pos hs]
      rfl
  have hentries : ∀ cs : List Value, (awaitEntries key cs).Writes r names := by
    intro cs
    induction cs with
    | nil => exact .of_pure _
    | cons c cs ih =>
      refine .ask (Test.contains_still c key) fun there => ?_
      split
      · exact .ask (Style.valueAt_still c key) fun v =>
          .bind (hvalue v) fun _ => .bind ih fun _ => .of_pure _
      · exact ih
  unfold targets
  split
  · exact .of_pure _
  · exact hentries _

@[simp, grind ←]
theorem targets_keeps (config : Value) (key : String) : (targets config key).Heeds r :=
  .of_writes (targets_writes config key)

end Widget

namespace Kinds

variable {names : Option String → Prop}

@[grind ←]
theorem emitCoordinate_asks (h : v.Covered names) : (emitCoordinate v).Asks names := by
  unfold emitCoordinate
  split
  · exact .bind (closure_asks h _ _ _) fun _ => .of_pure _
  · exact .bind (.of_lift (express_still _).reads) fun _ => .of_pure _

theorem emitPoints_asks {ps : List Value} (h : ∀ p ∈ ps, p.Covered names) :
    (emitPoints ps).Asks names := by
  induction ps with
  | nil => exact .of_pure _
  | cons p ps ih =>
    have hp := h p mem_cons_self
    have hrest := ih (forall_mem_cons.mp h).2
    refine .bind ?_ fun _ => .bind hrest fun _ => .of_pure _
    refine .required_bind fun x hx => .bind (emitCoordinate_asks (hp.get? hx)) fun _ => ?_
    exact .required_bind fun y hy => .bind (emitCoordinate_asks (hp.get? hy)) fun _ => .of_pure _

@[simp, grind ←]
theorem emitPoints_keeps (ps : List Value) : (emitPoints ps).Heeds r :=
  .of_writes (emitPoints_asks fun p _ => p.covered_any).writes

@[simp, grind ←]
theorem unsupported_asks (message : String) : (unsupported message).Asks :=
  fun _ _ _ _ => .of_lift (Check.Still.of_refuse message).reads

theorem includeOnce_keeps {included : Session → Bool} {mark : Session → Session}
    (hmark : ∀ s, (mark s).traced = s.traced) (header : String) :
    (includeOnce included mark header).Heeds r := by
  refine .bind .of_get fun s => ?_
  split
  · exact .of_modify hmark
  · exact .of_pure _

theorem arcSize_keeps (start stop : Value) : (arcSize start stop).Heeds r := by
  refine .bind (Value.minus_still stop start).keeps fun size =>
    .bind (Value.atMost_still size _).keeps fun low => ?_
  split
  · exact (Value.plus_still size _).keeps
  · exact .of_pure _

end Kinds

end Panel
