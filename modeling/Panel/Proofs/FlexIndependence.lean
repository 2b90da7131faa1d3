import Panel.Assembly
import Panel.Proofs.KindFairness

/-! # Independence — what one container sees of those before it

    The rules of widgets refer to each other, so that they are fair is proved for all depths at
    once: a layout gives its children fair fields, a container of fair rules is fair, and the knot
    of all rules is fair one level deeper. -/

namespace Panel

open Check List Test Option Value Layout

variable (self : Layout) {config : Value}

variable {p : Prop} {fields : List Field} {r : Record} {children : ChildFields}

/-! ## Layouts -/

namespace Layout

variable {layout : Entries}

@[simp] theorem neutral_freeSpace (v : Value) : Check.Fair p (freeSpace v) := by
  unfold freeSpace
  extract_lets
  split
  · exact fair_bind (fair_natural _) fun _ => fair_pure _
  · simp

@[simp] theorem neutral_track (v : Value) : Check.Fair p (track v) := fair_anyOf (by simp)

theorem neutral_gridFields : (Record.of gridFields).Meets Test.Neutral :=
  Record.meets_of (by simp [gridFields, Schema.gridAlignment, neutral_listOf])

theorem fair_fullSize (d : String) : (fullSize d).FairIf p :=
  Field.Meets.fairIf (by simp [fullSize, Test.Fair])

theorem gives_loweredText (v : Option Value) :
    Gives p (fun s => (v.bind text?).map Text.lower = some s) (loweredText v) := by
  unfold loweredText
  split
  · rename_i s hs
    exact gives_pure (by rw [hs]; rfl)
  · exact gives_throw _

theorem stretches_eq (htype : ((layout.get? "type").bind text?).map Text.lower = some "flex") :
    stretches layout = (asksStretch layout && !(shareOf layout).truthy) := by
  unfold stretches
  rw [htype]
  rfl

theorem fair_crossSize (layout : Entries) : Check.Fair p (crossSize layout) := by
  unfold crossSize
  repeat' split
  all_goals simp

theorem mem_addTo {xs : List String} {x y : String} : y ∈ addTo xs x ↔ y ∈ xs ∨ y = x := by
  unfold addTo
  split
  · rename_i hx
    have hx : x ∈ xs := by simpa using hx
    exact ⟨Or.inl, fun h => h.elim id fun he => he ▸ hx⟩
  · simp

theorem fair_stretch (hp : ¬p) (dimension : String) : Check.Fair p (stretch dimension) := by
  intro s t h
  refine ⟨rfl, ?_, rfl, fun d hd => mem_addTo.mpr (Or.inl hd), fun hholds => absurd hholds hp⟩
  have hsizes : addTo s.stretched dimension = addTo t.stretched dimension :=
    h.same (f := fun u => addTo u.stretched dimension) fun _ => rfl
  have hbare : s.bare = t.bare := congrArg (fun u : Session => { u with stretched := [] }) h
  exact Alike.of_bare hbare hsizes

theorem gives_flexChildren
    (htype : ((layout.get? "type").bind text?).map Text.lower = some "flex") :
    Gives (stretches layout = false) (ChildFields.FairIf ((shareOf layout).calm = true))
      (flexChildren layout) := by
  have hshare : (Field.defaulted "flex_grow" (shareOf layout) integer).FairIf
      ((shareOf layout).calm = true) := by
    refine ⟨fun v => (integer_still v).fair, ?_⟩
    rintro h _ ⟨⟩
    exact h
  rw [flexChildren, stretches_eq htype]
  by_cases hasks : asksStretch layout = true
  · rw [if_pos hasks]
    refine (fair_crossSize layout).gives.bind fun d _ => ?_
    by_cases htruthy : (shareOf layout).truthy = true
    · rw [if_pos htruthy]
      exact gives_pure (by simp [ChildFields.FairIf, hshare, fair_fullSize])
    · rw [if_neg htruthy]
      exact (fair_stretch (by simp [hasks, htruthy]) d).gives.bind fun _ _ => gives_pure trivial
  · rw [if_neg hasks]
    split
    · exact gives_pure (by simp [ChildFields.FairIf, hshare])
    · exact gives_pure trivial

/-- A rule for the layout option that only takes notes, with fields for the children that are fair
    where a condition holds. -/
structure Sound (p : Prop) (r : Option LayoutRule × ChildFields) : Prop where
  rule : ∀ rule, r.1 = some rule → Test.Neutral rule.run
  fair : r.2.FairIf p

theorem sound_none : Sound p (Option.none, .fixed []) where
  rule _ h := nomatch h
  fair _ h := absurd h not_mem_nil

theorem sound_fixed {rule : LayoutRule} (hrule : Test.Neutral rule.run)
    (h : ∀ f ∈ fields, f.FairIf p) : Sound p (some rule, .fixed fields) where
  rule _ h := some.inj h ▸ hrule
  fair f hf := h f hf

theorem gives_directionRules (cross : String) (config : Value) :
    Gives p (Sound p) (directionRules self cross config) := by
  unfold directionRules
  split
  · exact gives_pure sound_none
  · split
    · exact gives_pure sound_none
    · refine gives_pure (sound_fixed (fun _ v => (lowerWord_still _ v).fair) ?_)
      have hgrow : (Field.defaulted "flex_grow" (.int 1) integer).FairIf p :=
        Field.Meets.fairIf (by simp [Test.Fair])
      simp [hgrow, fair_fullSize]

theorem fair_cellFields (align : Option String) : ∀ f ∈ cellFields align, f.FairIf p := by
  have halignment : ∀ key, (Field.mk key .optional (align.map .str)
      Schema.gridAlignment.validate).Meets Test.Fair := by
    intro key
    refine ⟨fun v => Constant.fair_oneOf _ v, ?_⟩
    cases align with
    | none => rintro _ ⟨⟩
    | some s =>
      rintro _ ⟨⟩
      simp
  have hall : ∀ f ∈ cellFields align, f.Meets Test.Fair := by
    simp [cellFields, halignment, Test.Fair]
  exact fun f hf => (hall f hf).fairIf

theorem calm_layout (h : config.calm = true)
    (hlayout : config.get? "layout" = some (.dict layout)) :
    stretches layout = false ∧ (shareOf layout).calm = true := by
  cases config with
  | dict es =>
    have hin : stretchesIn es = stretches layout := by
      unfold stretchesIn
      rw [show Entries.get? es "layout" = _ from hlayout]
    have hdict : (dict layout).calm = true := calm_of_mem_dict h (Entries.mem_of_get? hlayout)
    refine ⟨hin ▸ not_stretchesIn h, ?_⟩
    unfold shareOf
    cases hshare : layout.get? "flex_grow" with
    | none => simp
    | some v => exact calm_of_mem_dict hdict (Entries.mem_of_get? hshare)
  | _ => exact nomatch hlayout

theorem gives_rules (config : Value) :
    Gives (config.calm = true) (Sound (config.calm = true)) (self.rules config) := by
  cases self with
  | none => exact gives_pure sound_none
  | flex =>
    unfold rules
    dsimp only
    split
    · rename_i layout hlayout
      refine (gives_loweredText _).bind fun word hword => ?_
      by_cases hflex : word = "flex"
      · have hchildren := gives_flexChildren (hflex ▸ hword)
        have hcalm : config.calm = true → _ := fun h => calm_layout h hlayout
        simp only [hflex, bne_self_eq_false, Bool.false_eq_true, if_false]
        refine (hchildren.mono fun h => (hcalm h).1).bind fun children hgot => gives_pure ?_
        refine ⟨?_, ChildFields.FairIf.mono hgot fun h => (hcalm h).2⟩
        rintro _ ⟨⟩
        exact Record.neutral_run (Record.meets_of (by simp [flexFields]))
      · rw [if_pos (by simpa using hflex)]
        exact gives_pure sound_none
    · exact gives_pure sound_none
  | grid =>
    unfold rules
    dsimp only
    split
    · refine (gives_loweredText _).bind fun word _ => ?_
      split
      · exact gives_pure sound_none
      · exact gives_pure (sound_fixed (Record.neutral_run neutral_gridFields) (fair_cellFields _))
    · split
      · exact gives_pure (sound_fixed (fun _ v => (text_still v).fair) (fair_cellFields _))
      · exact gives_pure sound_none
    · exact gives_pure sound_none
  | horizontal => exact gives_directionRules _ _ _
  | vertical => exact gives_directionRules _ _ _

theorem gives_choose (config : Value) (ls : List Layout) :
    Gives (config.calm = true) (fun found => ∀ l rule children, found = some (l, rule, children) →
      Sound (config.calm = true) (some rule, children)) (choose config ls) := by
  induction ls with
  | nil => exact gives_pure nofun
  | cons l ls ih =>
    refine (gives_rules l config).bind fun r hr => ?_
    split
    · refine gives_pure ?_
      rintro _ _ _ ⟨⟩
      exact hr
    · exact ih

theorem neutral_finishDirection (flow : String) (config : Value) :
    Check.Fair p (finishDirection self flow config) := by
  refine fair_bind (required_still _ _).fair fun v => 
    fair_bind (gives_loweredText _).fair fun word => ?_
  dsimp only
  split <;> simp

theorem neutral_finish : Test.Neutral self.finish := by
  intro p config
  cases self with
  | none => exact fair_pure _
  | flex => exact fair_pure _
  | grid =>
    unfold finish
    dsimp only
    repeat' split
    all_goals simp
  | horizontal => exact neutral_finishDirection _ _ _
  | vertical => exact neutral_finishDirection _ _ _

end Layout

/-! ## Containers -/

theorem gives_withLayout {widgets : ChildFields → Test}
    (hp : p → config.calm = true) (hr : r.FairIf p)
    (hwidgets : ∀ children : ChildFields, children.FairIf p →
      ∀ v, Check.Fair (p ∧ v.calm = true) (widgets children v)) :
    Gives p (Record.FairIf p) (withLayout widgets r config) := by
  have hoptional : Field.FairIf p (.optional "widgets" (widgets (.fixed []))) :=
    ⟨hwidgets _ (forall_mem_nil _), nofun⟩
  unfold withLayout
  refine (contains_still _ _).fair.gives.bind fun hasWidgets _ => ?_
  split
  · refine (contains_still _ _).fair.gives.bind fun hasLayout _ => ?_
    repeat' split
    · exact gives_throw _
    · exact gives_throw _
    · exact gives_pure hr
  · extract_lets chosen
    have hchosen : ∀ layout, Gives p (Record.FairIf p) (chosen layout) := by
      intro layout
      unfold chosen
      extract_lets found
      have hfound : Gives p (Record.FairIf p) (found ()) := by
        refine ((gives_choose config _).mono hp).bind fun choice hchoice => ?_
        split
        · rename_i l rule children
          obtain ⟨hrule, hchildren⟩ := hchoice l rule children rfl
          have hlayout : Field.FairIf p (.required "layout" rule.run) :=
            ⟨fun v => hrule rule rfl _ v, nofun⟩
          have hinner : Field.FairIf p (.required "widgets" (widgets children)) :=
            ⟨hwidgets children (hchildren.mono hp), nofun⟩
          refine gives_pure (Record.FairIf.extend ⟨?_, ?_⟩ hr.1)
          · simp [hlayout, hinner]
          · exact forall_mem_singleton.mpr (neutral_finish l)
        · split <;> exact gives_throw _
      clear_value found
      repeat' split
      all_goals first
        | exact gives_throw _
        | exact hfound
    clear_value chosen
    refine (contains_still _ _).fair.gives.bind fun hasLayout _ => ?_
    split
    · exact gives_pure (hr.extend (by simpa using hoptional))
    · repeat' split
      · exact hchosen _
      · exact hchosen _
      · exact gives_throw _

namespace Schema

variable {g : Grammar}

theorem fair_widgetRecord (hg : g.Fair) {k : Kind} (hfields : ∀ f ∈ fields, f.FairIf p)
    (h : widgetRecord? g k fields = some r) : r.FairIf p := by
  unfold widgetRecord? at h
  dsimp only at h
  obtain ⟨own, hown, rfl⟩ := map_eq_some_iff.mp h
  have hbase : ((objectRecord g k.traits).extend
      [.generated "id" (declareId k.traits.type)]).FairIf p :=
    ((fair_objectRecord hg k.traits).extend (by simp [Test.Fair])).fairIf
  exact (hbase.extend hfields).extend fun f hf => (Kind.fair_fields hg k hown f hf).fairIf

theorem fair_container (hg : g.Fair) (k : Kind) (hfields : ∀ f ∈ fields, f.FairIf p) (v : Value) :
    Check.Fair (p ∧ v.calm = true) (container g k fields v) := by
  unfold container
  split
  · exact fair_throw _
  · rename_i r hr
    have hrecord := fair_widgetRecord hg hfields hr
    have hlayout : Gives (p ∧ v.calm = true) (Record.FairIf (p ∧ v.calm = true))
        (withLayout g.widgets r v) :=
      gives_withLayout And.right (hrecord.mono And.left) (hg.widgets _)
    exact hlayout.fair_bind fun done hdone => (hdone.run v).mono fun h => ⟨h, h.2⟩

theorem fair_childFields (h : children.FairIf p) (s : Session) :
    ∀ f ∈ childFields s children, f.FairIf p := by
  cases children with
  | fixed fields => exact h
  | flexible =>
    intro f hf
    rcases mem_cons.mp hf with rfl | hf
    · exact Field.Meets.fairIf (by simp [Test.Fair])
    · obtain ⟨d, -, rfl⟩ := mem_map.mp hf
      exact fair_fullSize d

theorem fair_oneWidget (hg : g.Fair) (hchildren : children.FairIf p) (index : Nat)
    (path : String → List Step) {entry : Value}
    (hcalm : ∀ name options, entry = .dict [(name, options)] → p → options.calm = true) :
    Check.Fair p (oneWidget g children index path entry) := by
  unfold oneWidget
  split
  · rename_i name options
    split
    · exact fair_throw _
    · rename_i k hk
      refine fair_get_bind (fun s => ?_) fun s => ?_
      · cases children <;> rfl
      · extract_lets fields given done
        have hgiven : p → given.calm = true := by
          intro hp
          unfold given
          split
          · exact hcalm name options rfl hp
          · simp
        have hdone : Check.Fair p (done ()) := by
          refine fair_bind (fair_tryCatch ?_ fun e => fair_throw _) fun w => fair_pure _
          refine (Kind.gives_prepare k given).fair_bind ?_
          rintro _ rfl
          exact (fair_container hg k (fair_childFields hchildren s) given).mono
            fun hp => ⟨hp, hgiven hp⟩
        clear_value done
        split
        · exact fair_throw _
        · exact hdone
  · exact fair_throw _

theorem fair_widgetsFrom (hg : g.Fair) (hchildren : children.FairIf p)
    (path : Nat → String → List Step) (i : Nat) {vs : List Value}
    (hcalm : ∀ v ∈ vs, ∀ name options, v = .dict [(name, options)] → p → options.calm = true) :
    Check.Fair p (widgetsFrom g children path i vs) := by
  induction vs generalizing i with
  | nil => exact fair_pure _
  | cons v vs ih =>
    refine fair_bind (fair_oneWidget hg hchildren i (path i) (hcalm v mem_cons_self))
      fun w => fair_bind (ih (i + 1) fun x hx => hcalm x (mem_cons_of_mem v hx))
        fun ws => fair_pure _

theorem fair_anyWidgets (hg : g.Fair) (hchildren : children.FairIf p) (v : Value) :
    Check.Fair (p ∧ v.calm = true) (anyWidgets g children v) := by
  have hmono : children.FairIf (p ∧ v.calm = true) := hchildren.mono And.left
  unfold anyWidgets
  split
  · rename_i es
    refine fair_bind (fair_widgetsFrom hg hmono _ 0 ?_) fun ws => fair_pure _
    intro w hw name options hentry hp
    obtain ⟨e, he, rfl⟩ := mem_map.mp hw
    cases hentry
    exact calm_of_mem_dict hp.2 he
  · rename_i vs
    refine fair_bind (fair_widgetsFrom hg hmono _ 0 ?_) fun ws => fair_pure _
    rintro w hw name options rfl hp
    exact calm_of_mem_dict (calm_of_mem_list hp.2 hw) mem_cons_self
  · exact fair_refuse _

end Schema

/-! ## The knot -/

theorem Behaviour.mem_of_ruleOf? {known : List Behaviour} {g : Grammar} {name : String}
    {rule : Automation.Rule} (h : Behaviour.ruleOf? known g name = some rule) :
    ∃ b ∈ known, rule.test = b.rule g := by
  obtain ⟨b, hb, rfl⟩ := map_eq_some_iff.mp h
  exact ⟨b, mem_of_find?_eq_some hb, rfl⟩

theorem Grammar.fair_ofDepth (n : Nat) : (Grammar.ofDepth n).Fair := by
  induction n with
  | zero => exact
      { widgets := fun _ _ _ _ => fair_throw _
        container := fun _ _ _ _ _ => fair_throw _
        actions := fun _ => fair_throw _
        condition := fun _ => fair_throw _
        conditions := fun _ => fair_throw _ }
  | succ n ih =>
    have hactions : ∀ name rule, Behaviour.ruleOf? Behaviour.actions (ofDepth n) name = some rule →
        Test.Fair rule.test := by
      intro name rule h
      obtain ⟨b, hb, heq⟩ := Behaviour.mem_of_ruleOf? h
      rw [heq]
      exact Behaviour.fair_actions ih b hb
    have hconditions : ∀ name rule,
        Behaviour.ruleOf? Behaviour.conditions (ofDepth n) name = some rule →
        Test.Fair rule.test := by
      intro name rule h
      obtain ⟨b, hb, heq⟩ := Behaviour.mem_of_ruleOf? h
      rw [heq]
      exact Behaviour.fair_conditions ih b hb
    exact
      { widgets := fun p children h v => Schema.fair_anyWidgets ih h v
        container := fun p k fields h v => Schema.fair_container ih k h v
        actions := Test.Fair.ensureList (Automation.fair_entry hactions)
        condition := Automation.fair_oneCondition hconditions
        conditions := Test.Fair.ensureList (Automation.fair_entry hconditions) }

/-! ## Sizes that stay behind -/

namespace Layout

variable {layout : Entries} {flow : String}

theorem asksStretch_of_stretches (h : stretches layout = true) :
    asksStretch layout = true ∧ (shareOf layout).truthy = false ∧
      ((layout.get? "type").bind text?).map Text.lower = some "flex" := by
  unfold stretches at h
  simp only [Bool.and_eq_true, beq_iff_eq, Bool.not_eq_true'] at h
  exact ⟨h.1.2, h.2, h.1.1⟩

theorem flexChildren_stretches (h : stretches layout = true)
    (hflow : layout.get? "flex_flow" = some (.str flow)) :
    flexChildren layout = (do stretch (across flow); return .flexible) := by
  obtain ⟨hasks, hshare, -⟩ := asksStretch_of_stretches h
  have hcross : crossSize layout = pure (across flow) := by
    unfold crossSize
    rw [hflow]
    rfl
  rw [flexChildren, if_pos hasks, hcross, pure_bind, hshare]
  rfl

end Layout

namespace Check

variable {α β : Type} {c : Check α} {s : Session} {d : String}

theorem grown_bind {f : α → Check β} (hf : ∀ a, Fair False (f a))
    (h : d ∈ (c.on s).2.stretched) : d ∈ ((c >>= f).on s).2.stretched := by
  rcases hc : c.on s with ⟨r, t⟩
  rw [hc] at h
  cases r with
  | ok a =>
    rw [on_bind_ok f hc]
    exact ((hf a).leads t).grown h
  | error e =>
    rw [on_bind_error f hc]
    exact h

theorem grown_tryCatch {f : Failure → Check α} (hf : ∀ e, Fair False (f e))
    (h : d ∈ (c.on s).2.stretched) : d ∈ ((tryCatch c f).on s).2.stretched := by
  rcases hc : c.on s with ⟨r, t⟩
  rw [hc] at h
  cases r with
  | ok a =>
    rw [on_tryCatch_ok f hc]
    exact h
  | error e =>
    rw [on_tryCatch_error f hc]
    exact ((hf e).leads t).grown h

end Check

namespace Schema

variable {g : Grammar} {es layout : Entries} {flow : String} (hwidgets : es.has "widgets" = true)
  (hlayout : es.get? "layout" = some (.dict layout)) (h : stretches layout = true)
  (hflow : layout.get? "flex_flow" = some (.str flow))

include hwidgets hlayout h hflow

theorem withLayout_stretches {w : ChildFields → Test} :
    ∃ r', withLayout w r (.dict es) = do
      stretch (across flow)
      return r' := by
  obtain ⟨-, -, htype⟩ := asksStretch_of_stretches h
  obtain ⟨word, hword, hlower⟩ := map_eq_some_iff.mp htype
  obtain ⟨type, hget, htext⟩ := bind_eq_some_iff.mp hword
  have hhas : es.has "layout" = true := Entries.has_of_get? hlayout
  have hcontains : ∀ key, contains (.dict es) key = pure (es.has key) := fun _ => rfl
  have hrules : rules .flex (.dict es) = do
      stretch (across flow)
      return (some (.fields flexFields), .flexible) := by
    unfold rules loweredText
    simp only [get?, hlayout, hget, bind_some, htext, hlower, pure_bind,
      flexChildren_stretches h hflow]
    rfl
  unfold withLayout
  simp only [hcontains, hwidgets, hhas, pure_bind, get?, hlayout, getD_some,
    Bool.not_true, Bool.false_eq_true, if_false, hget, map_some, isText, htext,
    isSome_some, tried, Layout.choose, hrules]
  exact ⟨_, rfl⟩

theorem container_leaves_size (hg : g.Fair) {k : Kind} (hr : widgetRecord? g k [] = some r)
    (s : Session) :
    across flow ∈ ((container g k [] (.dict es)).on s).2.stretched := by
  have hgives : Gives False (Record.FairIf False) (withLayout g.widgets r (.dict es)) :=
    gives_withLayout False.elim (fair_widgetRecord hg (by simp) hr) (hg.widgets False)
  obtain ⟨r', hr'⟩ := withLayout_stretches (r := r) (w := g.widgets) hwidgets hlayout h hflow
  have hon : (withLayout g.widgets r (.dict es)).on s
      = (.ok r', { s with stretched := addTo s.stretched (across flow) }) := by
    rw [hr']
    rfl
  unfold container
  rw [hr]
  dsimp only
  rw [on_bind_ok _ hon]
  exact (((hgives.sort _ _ _ hon).run (.dict es)).leads _).grown (mem_addTo.mpr (Or.inr rfl))

theorem anyWidgets_leaves_size (hg : g.Fair) (s : Session) :
    across flow ∈ ((anyWidgets g (.fixed []) (.list [.dict [("obj", .dict es)]])).on
      s).2.stretched := by
  have htruthy : (dict es).truthy = true := by
    cases es with
    | nil => cases hlayout
    | cons e es => rfl
  have hkind : Kind.ofName? "obj" = some .obj := by decide
  have hone : ∀ path, across flow ∈ ((oneWidget g (.fixed []) 0 path
      (.dict [("obj", .dict es)])).on s).2.stretched := by
    intro path
    obtain ⟨r, hr⟩ : ∃ r, widgetRecord? g .obj [] = some r := ⟨_, rfl⟩
    have hdone := container_leaves_size hwidgets hlayout h hflow hg hr s
    have hrun : oneWidget g (.fixed []) 0 path (.dict [("obj", .dict es)]) = do
        let _ ← get
        let done ← tryCatch (container g .obj [] (.dict es)) fun e => throw (e.within (path "obj"))
        return .dict [("obj", done)] := by
      unfold oneWidget
      simp only [hkind, childFields, hr, isNone_some, htruthy, if_true]
      rfl
    rw [hrun, on_bind_ok _ (on_get s)]
    exact grown_bind (fun _ => fair_pure _) (grown_tryCatch (fun _ => fair_throw _) hdone)
  refine grown_bind (fun _ => fair_pure _) (grown_bind (fun w => ?_) (hone _))
  exact fair_pure _

end Schema

namespace Assembly

theorem validateSubject_independent (A B : Value) (s : Session) :
    let t := ((validateSubject (.widgets A)).on s).2
    (t.stretched = s.stretched →
      ((validateSubject (.widgets B)).on t).1 = ((validateSubject (.widgets B)).on s).1) ∧
    (A.calm = true → t.stretched = s.stretched) ∧
    ∀ es layout flow, A = .list [.dict [("obj", .dict es)]] → Entries.has es "widgets" = true →
      Entries.get? es "layout" = some (.dict layout) → Layout.stretches layout = true →
      Entries.get? layout "flex_flow" = some (.str flow) →
      Layout.fullSize (Layout.across flow) ∈ Layout.childFields t .flexible := by
  have hnone : ChildFields.FairIf True (.fixed []) := fun _ h => absurd h not_mem_nil
  have hfair : ∀ v, Check.Fair (True ∧ v.calm = true) (validateSubject (.widgets v)) :=
    fun v => Schema.fair_anyWidgets (Grammar.fair_ofDepth _) hnone v
  intro t
  have hleads := (hfair A).leads s
  refine ⟨fun hsizes => ?_, fun hcalm => hleads.kept ⟨trivial, hcalm⟩, ?_⟩
  · exact (hfair B t s (Alike.of_bare hleads.bare hsizes)).1
  · rintro es layout flow rfl hwidgets hlayout hstretches hflow
    refine mem_cons_of_mem _ (mem_map_of_mem ?_)
    exact Schema.anyWidgets_leaves_size hwidgets hlayout hstretches hflow (Grammar.fair_ofDepth _) s

def row (cross : String) : Value :=
  .list [.dict [("obj", .dict [("layout", .dict [("type", .str "flex"),
    ("flex_flow", .str "LV_FLEX_FLOW_ROW"), ("flex_align_cross", .str cross)]),
    ("widgets", .list [.dict [("label", .null)]])])]]

/-- After a row that stretches its children every flexible child gets a height; a row that does
    not stretch them can stand before any other. -/
theorem validateSubject_independent_rows :
    Layout.fullSize "height" ∈ Layout.childFields
        ((validateSubject (.widgets (row "LV_FLEX_ALIGN_STRETCH"))).on {}).2 .flexible ∧
      ((validateSubject (.widgets (row "start"))).on
        ((validateSubject (.widgets (row "center"))).on {}).2).1
        = ((validateSubject (.widgets (row "start"))).on {}).1 := by
  obtain ⟨-, -, hleft⟩ := validateSubject_independent (row "LV_FLEX_ALIGN_STRETCH") .null {}
  obtain ⟨hsame, hkept, -⟩ := validateSubject_independent (row "center") (row "start") {}
  have hcalm : (row "center").calm = true := by decide
  exact ⟨hleft _ _ "LV_FLEX_FLOW_ROW" rfl (by decide) rfl (by decide) rfl, hsame (hkept hcalm)⟩

end Assembly

end Panel
