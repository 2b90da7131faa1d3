import Mathlib.Tactic.FinCases
import Panel.Proofs.Acceptance
import Panel.Proofs.StyleLevels
import Panel.Schema.Widget

/-! # Coverage of styles — what an accepted configuration gets -/

namespace Panel.Style

open Cpp List Record Schema

variable {v w : Value} {names : List String} {t : Traits} {g : Grammar} {k n : String}
  {es : Entries} {f : Field} {x : Expr}

/-! ## Accepted configurations -/

theorem lambda_gives (h : Test.lambda.Gives w) : ∃ body, w = .lambda body := by
  obtain ⟨v, s, s', h⟩ := h
  unfold Test.lambda at h
  dsimp only at h
  split at h
  · obtain ⟨body, u, -, h⟩ := Check.on_bind_eq_ok h
    split at h
    · cases h
      exact ⟨body, rfl⟩
    · cases h
  · obtain ⟨x, u, -, h⟩ := Check.on_bind_eq_ok h
    obtain ⟨body, u, -, h⟩ := Check.on_bind_eq_ok h
    split at h
    · cases h
      exact ⟨body, rfl⟩
    · cases h

theorem returningLambda_gives (h : Test.returningLambda.Gives w) : ∃ body, w = .lambda body := by
  obtain ⟨v, s, s', h⟩ := h
  unfold Test.returningLambda at h
  obtain ⟨x, u, hx, h⟩ := Check.on_bind_eq_ok h
  obtain ⟨body, rfl⟩ := lambda_gives ⟨v, s, u, hx⟩
  dsimp only at h
  split at h
  · cases h
    exact ⟨body, rfl⟩
  · cases h

theorem word_gives {p q : Bool} {message : String} {s s' : Session}
    (h : (if p then pure (.bool true) else if q then pure (.bool false) else refuse message :
      Check Value).on s = (.ok w, s')) : ∃ b, w = .bool b := by
  cases p with
  | true =>
    cases h
    exact ⟨true, rfl⟩
  | false =>
    cases q with
    | true =>
      cases h
      exact ⟨false, rfl⟩
    | false => cases h

theorem truth_gives (h : Test.boolean.Gives w) : ∃ b, w = .bool b := by
  obtain ⟨v, s, s', h⟩ := h
  unfold Test.boolean at h
  obtain ⟨-, u, -, h⟩ := Check.on_bind_eq_ok h
  cases v with
  | bool b =>
    cases h
    exact ⟨b, rfl⟩
  | _ => exact word_gives h

theorem boolean_gives (h : Property.boolean.validate.Gives w) :
    (∃ b, w = .bool b) ∨ ∃ body, w = .lambda body := by
  obtain ⟨v, s, s', h⟩ := h
  have hrun : ((if v.isLambda then Test.returningLambda v else Test.boolean v) : Check Value).on s
      = (.ok w, s') := h
  split at hrun
  · exact Or.inr (returningLambda_gives ⟨v, s, s', hrun⟩)
  · exact Or.inl (truth_gives ⟨v, s, s', hrun⟩)

theorem test_of_mem_map {t : Test} (h : f ∈ names.map fun n => .optional n t) :
    f.test = t ∧ f.key ∈ names := by
  obtain ⟨n, hn, rfl⟩ := mem_map.mp h
  exact ⟨rfl, hn⟩

theorem styleFields_keys (h : f ∈ styleFields) :
    f.key ∉ Constants.states ∧ f.key ∉ Constants.parts := by
  have hkeys : ∀ k ∈ styleFields.map (·.key), k ∉ Constants.states ∧ k ∉ Constants.parts := by
    decide
  exact hkeys f.key (mem_map.mpr ⟨f, h, rfl⟩)

theorem style_gives (h : style.run.Gives w) : ∃ ds, w = .dict ds := by
  obtain ⟨ds, hds, -⟩ := gives_dict rfl h
  exact ⟨ds, hds⟩

theorem states_gives (h : states.run.Gives w) : ∃ ds, w = .dict ds ∧ StatesAreDicts ds := by
  obtain ⟨ds, rfl, hfits⟩ := gives_dict rfl h
  refine ⟨ds, rfl, fun st hst v hv => ?_⟩
  obtain ⟨f, hf, hgives⟩ := hfits _ (Entries.mem_of_get? hv)
  rcases field?_extend hf with ⟨hmem, hkey⟩ | ⟨-, hf⟩
  · exact absurd (hkey ▸ hst) (styleFields_keys hmem).1
  · rw [(test_of_mem_map (field?_of hf).1).1] at hgives
    exact style_gives hgives

/-- The names of the fields that are not about how a widget looks. -/
def otherNames : List String :=
  ["align_to", "state", "group"] ++ Constants.eventOptions ++ Constants.swipeOptions
    ++ ["on_value", "on_boot"]

theorem automationFields_keys (h : k ∈ (automationFields g t).map (·.key)) : k ∈ otherNames := by
  obtain ⟨f, hf, rfl⟩ := mem_map.mp h
  unfold automationFields at hf
  unfold otherNames
  rcases mem_append.mp hf with hf | hf
  · obtain ⟨n, hn, rfl⟩ := mem_map.mp hf
    rcases mem_append.mp hn with hn | hn
    · rw [append_assoc ["align_to", "state", "group"]]
      exact mem_append_left _ (mem_append_right _ hn)
    · split at hn
      · rw [mem_singleton.mp hn]
        exact mem_append_right _ mem_cons_self
      · exact nomatch hn
  · rw [mem_singleton.mp hf]
    exact mem_append_right _ (mem_cons_of_mem _ mem_cons_self)

theorem objectRecord_field? (hk : k ∉ otherNames) :
    (objectRecord g t).field? k = (parts t.parts).field? k := by
  have hfew : k ∉ ["align_to", "state", "group"] := by
    intro hmem
    refine hk ?_
    unfold otherNames
    rw [append_assoc, append_assoc]
    exact mem_append_left _ hmem
  unfold objectRecord
  rw [field?_extend_of_not_mem, field?_extend_of_not_mem, field?_extend_of_not_mem]
  · intro hmem
    exact hfew (mem_cons.mpr (Or.inl (mem_singleton.mp hmem)))
  · exact fun hmem => hk (automationFields_keys hmem)
  · exact fun hmem => hfew (mem_cons_of_mem _ hmem)

theorem not_otherName (hk : k ∈ Constants.states ++ Constants.parts) : k ∉ otherNames := by
  have hnames : ∀ m ∈ otherNames, m ∉ Constants.states ++ Constants.parts := by decide
  exact fun hmem => hnames k hmem hk

theorem accepted_state {st : String} (hst : st ∈ Constants.states)
    (h : (objectRecord g t).Fits (st, v)) :
    (∃ ds, v = .dict ds) ∨ (∃ b, v = .bool b) ∨ ∃ body, v = .lambda body := by
  obtain ⟨f, hf, hgives⟩ := h
  rw [objectRecord_field? (not_otherName (mem_append_left _ hst))] at hf
  rcases field?_extend hf with ⟨hmem, -⟩ | ⟨-, hf⟩
  · rw [(test_of_mem_map hmem).1] at hgives
    obtain ⟨ds, hds, -⟩ := states_gives hgives
    exact Or.inl ⟨ds, hds⟩
  rcases field?_extend hf with ⟨hmem, -⟩ | ⟨-, hf⟩
  · rw [(test_of_mem_map hmem).1] at hgives
    exact Or.inr (boolean_gives hgives)
  rcases field?_extend hf with ⟨hmem, rfl⟩ | ⟨-, hf⟩
  · exact absurd hst (styleFields_keys hmem).1
  · rw [(test_of_mem_map (field?_of hf).1).1] at hgives
    exact Or.inl (style_gives hgives)

theorem accepted_part {p : String} (hp : p ∈ Constants.parts) (h : (objectRecord g t).Fits (p, v)) :
    p ∈ t.parts ∧ ∃ ds, v = .dict ds ∧ StatesAreDicts ds := by
  have hnames : ∀ q ∈ Constants.parts, q ∉ Constants.flags ∧ q ∉ Constants.states := by decide
  have hother := hnames p hp
  obtain ⟨f, hf, hgives⟩ := h
  rw [objectRecord_field? (not_otherName (mem_append_right _ hp))] at hf
  rcases field?_extend hf with ⟨hmem, rfl⟩ | ⟨-, hf⟩
  · obtain ⟨htest, hname⟩ := test_of_mem_map hmem
    rw [htest] at hgives
    exact ⟨hname, states_gives hgives⟩
  rcases field?_extend hf with ⟨hmem, rfl⟩ | ⟨-, hf⟩
  · exact absurd (test_of_mem_map hmem).2 hother.1
  rcases field?_extend hf with ⟨hmem, rfl⟩ | ⟨-, hf⟩
  · exact absurd hp (styleFields_keys hmem).2
  · obtain ⟨hmem, rfl⟩ := field?_of hf
    exact absurd (test_of_mem_map hmem).2 hother.2

/-- A configuration accepted for a widget without the options of its kind. -/
def Accepted (g : Grammar) (t : Traits) (es : Entries) : Prop :=
  (Schema.objectRecord g t).run.Gives (.dict es)

theorem Accepted.fits (h : Accepted g t es) : ∀ e ∈ es, (objectRecord g t).Fits e := by
  obtain ⟨ds, heq, hfits⟩ := gives_dict rfl h
  cases heq
  exact hfits

def FlagForState (es : Entries) : Prop :=
  ∃ st ∈ Constants.states, ∃ v, Entries.get? es st = some v ∧ v.isDict = false

theorem Accepted.shaped (h : Accepted g t es) (hflag : ¬ FlagForState es) : Shaped t.parts es where
  states st hst v hv := by
    rcases accepted_state hst (h.fits _ (Entries.mem_of_get? hv)) with hdict | ⟨b, rfl⟩ | ⟨b, rfl⟩
    · exact hdict
    · exact absurd ⟨st, hst, _, hv, rfl⟩ hflag
    · exact absurd ⟨st, hst, _, hv, rfl⟩ hflag
  parts p hp v hv := accepted_part hp (h.fits _ (Entries.mem_of_get? hv))

theorem select_eq (l : Level) : ∃ y, l.select = .cpp y := by
  unfold Level.select Widget.selector
  dsimp only
  split
  · exact ⟨_, rfl⟩
  · split
    · exact ⟨_, rfl⟩
    · exact ⟨_, rfl⟩

theorem run_three {name : String} {o y : Expr} (hv : Code.express? v = .ok x) :
    Code.run name [.cpp o, v, .cpp y]
      = Code.add (.object (.call (.raw name) [] [o, x, y]) .bare) := by
  refine Code.run_eq ?_
  show [Value.cpp o, v, .cpp y].mapM Code.express? = _
  rw [mapM_cons, mapM_cons, mapM_cons, mapM_nil, hv, Code.express?, Code.express?]
  rfl

theorem setStyle_eq (w : Widget) (l : Level) (name : String)
    (hv : Code.express? (Property.literal v) = .ok x) (hnull : v ≠ .null) :
    ∃ y, l.select = .cpp y ∧ w.setStyle name v l.select = (do
          modify fun s => { s with stylesUsed := addTo s.stylesUsed name }
          Code.add (.object (.call (.raw ("lv_obj_set_style_" ++ name)) [] [w.obj, x, y]) .bare)) := by
  obtain ⟨y, hy⟩ := select_eq l
  refine ⟨y, hy, ?_⟩
  rw [hy, ← run_three hv]
  cases v with
  | null => exact absurd rfl hnull
  | _ => rfl

theorem allOptional_style : Record.AllOptional style.fields := by
  intro f hf
  rcases mem_append.mp hf with hf | hf
  · exact allOptional_map _ _ _ f hf
  · fin_cases hf <;> exact ⟨rfl, rfl⟩

theorem allOptional_states : Record.AllOptional states.fields :=
  allOptional_extend (allOptional_map id (fun _ => style.run) _) allOptional_style

/-- A colour and a flag at the top, and a main part with a border. -/
def besideMain : Entries :=
  [("bg_color", .int 255), ("hidden", .bool true), ("main", .dict [("border_width", .int 2)])]

def plainTraits : Traits := Traits.plain lvObj "obj" ["main"]

def lenient : Grammar := ⟨fun _ v => pure v, fun _ _ v => pure v, pure, pure, pure⟩

set_option maxRecDepth 100000 in
theorem accepted_besideMain : Accepted lenient plainTraits besideMain :=
  ⟨.dict besideMain, {}, _, rfl⟩

theorem applyCommon_shaped (w : Widget) (hes : Shaped names es) : w.applyCommon (.dict es) = (do
      w.applyLayoutOption (.dict es)
      forM (writings es) (carryOut w)
      w.applyGroup (.dict es)
      Widget.applySwitches "LV_OBJ_FLAG_" w.addFlag w.clearFlag
        (Widget.Switches.of (Widget.flagsOf (partsFound es)))
      w.applyStateOption (.dict es)
      w.applyScroll (.dict es) (objectProperties.map (·.1))) := by
  refine bind_congr fun _ => ?_
  refine (Build.lift_bind_eq (collectParts_dict hes.states fun p hp v hv => ?_) _).trans ?_
  · exact (hes.parts p hp v hv).2
  · rw [applyParts_eq]

/-- The options of an accepted configuration.  A flag where a state could stand makes them fail.
    Otherwise every property and every list of styles is written once, unless its level is lost, and
    the flags are those of the level that stands for the default state of the main part, which is
    the top unless the top is lost; each of these is switched once.  A property with a value is
    written by one call. -/
theorem applyCommon_accepted (g : Grammar) (t : Traits) (w : Widget) (es : Entries)
    (h : Accepted g t es) :
    (FlagForState es → w.applyCommon (.dict es) = do
        w.applyLayoutOption (.dict es)
        throw .wrongKind)
    ∧ (¬ FlagForState es → ∃ flags,
        (w.applyCommon (.dict es) = do
          w.applyLayoutOption (.dict es)
          forM (writings es) (carryOut w)
          w.applyGroup (.dict es)
          Widget.applySwitches "LV_OBJ_FLAG_" w.addFlag w.clearFlag (Widget.Switches.of flags)
          w.applyStateOption (.dict es)
          w.applyScroll (.dict es) (Schema.objectProperties.map (·.1)))
        ∧ (writings es).Nodup
        ∧ (∀ x, x ∈ writings es
            ↔ x.Known ∧ Says t.parts es x.level x.key x.value ∧ ¬ Lost es x.level)
        ∧ (∃ l, (l = ⟨none, none⟩ ↔ ¬ Lost es ⟨none, none⟩)
            ∧ ∀ n v, (n, v) ∈ flags ↔ n ∈ Constants.flags ∧ Says t.parts es l n v)
        ∧ (flags.map (·.1)).Nodup
        ∧ (switched (Widget.Switches.of flags)).Perm (flags.map (·.1)))
    ∧ ∀ (l : Level) (name : String) (v : Value) (x : Expr),
        Code.express? (Property.literal v) = .ok x → v ≠ .null → ∃ y, l.select = .cpp y
          ∧ w.setStyle name v l.select = (do
            modify fun s => { s with stylesUsed := addTo s.stylesUsed name }
            Code.add
              (.object (.call (.raw ("lv_obj_set_style_" ++ name)) [] [w.obj, x, y]) .bare)) := by
  refine ⟨?_, ?_, fun l name v x hv hnull => setStyle_eq w l name hv hnull⟩
  · intro hflag
    have hstates : ∀ st ∈ Constants.states, ∀ v, es.get? st = some v →
        (∃ ds, v = .dict ds) ∨ (∃ b, v = .bool b) ∨ ∃ body, v = .lambda body :=
      fun st hst v hv => accepted_state hst (h.fits _ (Entries.mem_of_get? hv))
    refine bind_congr fun _ => ?_
    exact Build.lift_bind_eq_throw (collectParts_flag hstates hflag) _
  · intro hflag
    have hes := h.shaped hflag
    exact ⟨Widget.flagsOf (partsFound es), applyCommon_shaped w hes, writings_nodup es,
      mem_writings hes, ⟨frontLevel es, frontLevel_eq_top_iff es, fun n v => mem_flagsOf hes⟩,
      flagsOf_nodup es, switched_perm _⟩

/-- The colour and the flag beside the main part are accepted, and neither is written. -/
theorem applyCommon_accepted_besideMain :
    Accepted lenient plainTraits besideMain ∧ ¬ FlagForState besideMain
      ∧ Says plainTraits.parts besideMain ⟨none, none⟩ "bg_color" (.int 255)
      ∧ Says plainTraits.parts besideMain ⟨none, none⟩ "hidden" (.bool true)
      ∧ .property ⟨none, none⟩ "bg_color" (.int 255) ∉ writings besideMain
      ∧ .property ⟨some "main", none⟩ "border_width" (.int 2) ∈ writings besideMain := by
  have haccepted := accepted_besideMain
  have hflag : ¬ FlagForState besideMain := by
    rintro ⟨st, hst, v, hv, -⟩
    have hnone : ∀ st ∈ Constants.states, besideMain.has st = false := by decide
    have hhas := hnone st hst
    rw [Entries.has_eq_isSome, hv] at hhas
    cases hhas
  have hlost : Lost besideMain ⟨none, none⟩ := Or.inl ⟨rfl, by decide⟩
  have hkept : ¬ Lost besideMain ⟨some "main", none⟩ := by
    rintro (⟨h, -⟩ | ⟨-, ds, hds, hhas⟩ | ⟨p, hp, hnot⟩)
    · cases h
    · cases hds
      cases hhas
    · cases hp
      exact hnot (by decide)
  obtain ⟨-, hwritten, -⟩ := applyCommon_accepted lenient plainTraits
    (Widget.fresh "o" (.raw "o") .obj .null) besideMain haccepted
  obtain ⟨flags, -, -, hmem, -⟩ := hwritten hflag
  refine ⟨haccepted, hflag, ?_, ?_, fun h => ((hmem _).mp h).2.2 hlost, (hmem _).mpr ?_⟩
  · exact ⟨fun p hp => (nomatch hp), fun st hst => (nomatch hst), _, rfl, rfl⟩
  · exact ⟨fun p hp => (nomatch hp), fun st hst => (nomatch hst), _, rfl, rfl⟩
  · refine ⟨show "border_width" ∈ styleNames by decide, ⟨fun p hp => ?_, fun st hst => (nomatch hst), _, rfl, rfl⟩, hkept⟩
    cases hp
    exact mem_cons_self

/-! ## Configurations without levels -/

/-- The options that open a level or are about the widget as a whole. -/
def plainNames : List String :=
  ["layout", "group", "state"] ++ Constants.parts ++ Constants.states

/-- Entries whose properties and flags all stand at the top. -/
def Plain (es : Entries) : Prop := ∀ k ∈ plainNames, Entries.get? es k = none

namespace Plain

variable (h : Plain es)

include h

theorem has_eq_false (hk : k ∈ plainNames) : es.has k = false := by
  rw [Entries.has_eq_isSome, h k hk]
  rfl

theorem layers_eq {own : String} (hown : own ∈ names) (hnames : names ⊆ plainNames) :
    layers own names es = [none] := by
  have hnone : (names.filter fun n => n != own && es.has n) = [] := by
    refine filter_eq_nil_iff.mpr fun n hn => ?_
    rw [h.has_eq_false (hnames hn), Bool.and_false]
    exact Bool.false_ne_true
  rw [layers, h.has_eq_false (hnames hown), hnone]
  rfl

theorem writings_eq : writings es = writingsAt ⟨none, none⟩ es := by
  have hsurvivors : survivors es = [(⟨none, none⟩, es)] := by
    rw [survivors, h.layers_eq (by decide) (by decide), flatMap_singleton]
    dsimp only [under, Option.getD_some]
    rw [h.layers_eq (by decide) (by decide)]
    rfl
  rw [writings, hsurvivors, flatMap_singleton]

theorem shaped (names : List String) : Shaped names es where
  states st hst v hv := by
    rw [h st (mem_append_right _ hst)] at hv
    cases hv
  parts p hp v hv := by
    rw [h p (mem_append_left _ (mem_append_right _ hp))] at hv
    cases hv

theorem mem_flagsOf_iff :
    (n, v) ∈ Widget.flagsOf (partsFound es) ↔ n ∈ Constants.flags ∧ es.get? n = some v := by
  have hfront : frontLevel es = ⟨none, none⟩ := by
    refine (frontLevel_eq_top_iff es).mpr ?_
    rintro (⟨-, hmain⟩ | ⟨-, ds, hds, hdefault⟩ | ⟨p, hp, -⟩)
    · rw [h.has_eq_false (by decide)] at hmain
      cases hmain
    · cases hds
      rw [h.has_eq_false (by decide)] at hdefault
      cases hdefault
    · cases hp
  rw [mem_flagsOf (h.shaped []), hfront]
  constructor
  · rintro ⟨hn, -, -, ds, hds, hv⟩
    cases hds
    exact ⟨hn, hv⟩
  · rintro ⟨hn, hv⟩
    exact ⟨hn, nofun, nofun, es, rfl, hv⟩

theorem applyCommon_eq (w : Widget) : w.applyCommon (.dict es) = (do
      forM (writings es) (carryOut w)
      Widget.applySwitches "LV_OBJ_FLAG_" w.addFlag w.clearFlag
        (Widget.Switches.of (Widget.flagsOf (partsFound es)))
      w.applyScroll (.dict es) (objectProperties.map (·.1))) := by
  have hlayout : w.applyLayoutOption (.dict es) = pure () := by
    rw [Widget.applyLayoutOption, Value.get?, h _ (by decide)]
  have hgroup : w.applyGroup (.dict es) = pure () := by
    rw [Widget.applyGroup, Value.get?, h _ (by decide)]
  have hstate : w.applyStateOption (.dict es) = pure () := by
    rw [Widget.applyStateOption, Value.get?, h _ (by decide)]
  rw [applyCommon_shaped w (h.shaped []), hlayout, hgroup, hstate]
  refine (Build.lift_bind_eq (fun s => rfl) _).trans ?_
  simp only [pure_bind]

end Plain

end Panel.Style
