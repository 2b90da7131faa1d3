import Panel.Component.Final
import Panel.Proofs.Background
import Panel.Proofs.StyleAgreement
import Panel.Registry

/-! # Refreshing a widget — which of its lambdas are evaluated again

    A refresh sets anew what may have changed since a widget was made.  It is allowed if an option
    of the widget is a lambda or a dictionary, but of the options that all widgets share only those
    are set anew that are lambdas themselves: what stands in a dictionary, for a part, for a state
    or for the states to set, is left as it is. -/

namespace Panel

open Cpp List Record Schema Style

variable {v : Value} {es : Entries}

namespace Style

/-- Options whose shared ones are as the rule for widgets takes them, each given once. -/
structure Shared (gr : Grammar) (t : Traits) (es : Entries) : Prop where
  keys : (es.map (·.1)).Nodup
  layout : ∀ v, Entries.get? es "layout" = some v → v.isDict = true
  fits : ∀ e ∈ es, e.1 ∈ levelNames → e.1 ≠ "layout" → (Schema.objectRecord gr t).Fits e
  states : ¬ FlagForState es

theorem useId_gives {type : CppType} (h : (Test.useId type).Gives v) : ∃ id, v = .ident id := by
  obtain ⟨given, s, t, h⟩ := h
  unfold Test.useId at h
  obtain ⟨-, u, -, h⟩ := Check.on_bind_eq_ok h
  have hnamed : ∀ {u t : Session}, (do
      return .ident (Ident.reference (some (← Test.idName given).show) type) : Check Value).on u
        = (.ok v, t) → ∃ id, v = .ident id := by
    intro u t h
    obtain ⟨name, u', -, h⟩ := Check.on_bind_eq_ok h
    cases h
    exact ⟨_, rfl⟩
  cases given with
  | null =>
    cases h
    exact ⟨_, rfl⟩
  | ident id =>
    dsimp only at h
    split at h
    · cases h
      exact ⟨id, rfl⟩
    · exact hnamed h
  | _ => exact hnamed h

section Shared

variable {gr : Grammar} {t : Traits} {es : Entries}

theorem fits_group (h : (objectRecord gr t).Fits ("group", v)) : v.isLambda = false := by
  obtain ⟨f, hf, hgives⟩ := h
  unfold objectRecord at hf
  rw [field?_extend_eq] at hf
  cases hf
  obtain ⟨id, rfl⟩ := useId_gives hgives
  rfl

theorem fits_state (h : (objectRecord gr t).Fits ("state", v)) : v.isLambda = false := by
  obtain ⟨f, hf, hgives⟩ := h
  unfold objectRecord at hf
  rw [field?_extend_eq] at hf
  cases hf
  have hstates : setStates.run.Gives v := hgives
  obtain ⟨ds, rfl, -⟩ := gives_dict rfl hstates
  rfl

theorem fits_styles (h : (objectRecord gr t).Fits ("styles", v)) : v.isLambda = false := by
  have hnames : "styles" ∉ otherNames ∧ "styles" ∉ Constants.flags := by decide
  obtain ⟨f, hf, hgives⟩ := h
  rw [objectRecord_field? hnames.1] at hf
  rcases field?_extend hf with ⟨hmem, -⟩ | ⟨-, hf⟩
  · rw [(test_of_mem_map hmem).1] at hgives
    obtain ⟨ds, rfl, -⟩ := states_gives hgives
    rfl
  rcases field?_extend hf with ⟨hmem, hkey⟩ | ⟨-, hf⟩
  · exact absurd (hkey ▸ (test_of_mem_map hmem).2) hnames.2
  · unfold states at hf
    rw [field?_extend_eq] at hf
    cases hf
    obtain ⟨given, s, t, hgives⟩ := hgives
    obtain ⟨xs, rfl⟩ := ensureList_gives hgives
    rfl

def lambdas (es : Entries) : Entries := es.filter (·.2.isLambda)

theorem flat_lambdas (h : Shared gr t es) : Flat (lambdas es) := by
  intro e he hname
  obtain ⟨hmem, hlambda⟩ := mem_filter.mp he
  obtain ⟨name, v⟩ := e
  have hget : es.get? name = some v := (Entries.get?_eq_some_iff h.keys).mpr hmem
  have hplain : v.isLambda = false := by
    by_cases hlayout : name = "layout"
    · subst hlayout
      have hdict := h.layout v hget
      cases v <;> first | rfl | cases hdict
    have hfits := h.fits _ hmem hname hlayout
    rcases mem_append.mp hname with hname | hstate
    · rcases mem_append.mp hname with hname | hpart
      · fin_cases hname
        · exact absurd rfl hlayout
        · exact fits_group hfits
        · exact fits_state hfits
        · exact fits_styles hfits
      · obtain ⟨-, ds, rfl, -⟩ := accepted_part hpart hfits
        rfl
    · rcases accepted_state hstate hfits with ⟨ds, rfl⟩ | ⟨b, rfl⟩ | ⟨body, rfl⟩
      · rfl
      · rfl
      · exact absurd ⟨name, hstate, _, hget, rfl⟩ h.states
  rw [hplain] at hlambda
  cases hlambda

theorem get?_lambdas (h : Shared gr t es) {key : String} : Entries.get? (lambdas es) key = some v
      ↔ ∃ body, v = .lambda body ∧ es.get? key = some (.lambda body) := by
  have hkeys : ((lambdas es).map (·.1)).Nodup := h.keys.sublist (filter_sublist.map _)
  rw [Entries.get?_eq_some_iff hkeys, lambdas, mem_filter]
  constructor
  · rintro ⟨hmem, hlambda⟩
    cases v with
    | lambda body => exact ⟨body, rfl, (Entries.get?_eq_some_iff h.keys).mpr hmem⟩
    | _ => cases hlambda
  · rintro ⟨body, rfl, hget⟩
    exact ⟨Entries.mem_of_get? hget, rfl⟩

theorem mem_writings_lambdas (h : Shared gr t es) {x : Writing} :
    x ∈ writings (lambdas es) ↔ ∃ name body, name ∈ styleNames ∧ es.get? name = some (.lambda body)
      ∧ x = .property ⟨none, none⟩ name (.lambda body) := by
  rw [(flat_lambdas h).writings_eq, mem_filterMap]
  constructor
  · rintro ⟨name, hname, hx⟩
    obtain ⟨v, hv, rfl⟩ := Option.map_eq_some_iff.mp hx
    obtain ⟨body, rfl, hget⟩ := (get?_lambdas h).mp hv
    exact ⟨name, body, hname, hget, rfl⟩
  · rintro ⟨name, body, hname, hget, rfl⟩
    exact ⟨name, hname, Option.map_eq_some_iff.mpr ⟨_, (get?_lambdas h).mpr ⟨body, rfl, hget⟩, rfl⟩⟩

end Shared

theorem applySwitches_lambdas {stem : String} {set clear : Value → Check Expr}
    (h : ∀ e ∈ es, e.2.isLambda = true) :
    Widget.applySwitches stem set clear (Widget.Switches.of es)
      = Widget.applyDecided stem set clear (Widget.Switches.of es).decided := by
  have hon : (Widget.Switches.of es).on = [] := by
    refine filterMap_eq_nil_iff.mpr fun (name, v) he => ?_
    have hv : v.isLambda = true := h _ he
    simp [hv]
  have hoff : (Widget.Switches.of es).off = [] := by
    refine filterMap_eq_nil_iff.mpr fun (name, v) he => ?_
    have hv : v.isLambda = true := h _ he
    simp [hv]
  rw [Widget.applySwitches, hon, hoff]
  rfl

theorem mem_decided {name body : String} :
    (name, body) ∈ (Widget.Switches.of es).decided ↔ (name, .lambda body) ∈ es := by
  unfold Widget.Switches.of
  rw [mem_filterMap]
  constructor
  · rintro ⟨⟨n, v⟩, he, hv⟩
    cases v <;> cases hv
    exact he
  · exact fun h => ⟨_, h, rfl⟩

end Style

namespace Automation

def ownOptions (es : Entries) : Entries := es.filter fun e => !Style.styleNames.contains e.1

theorem isDynamic_iff : isDynamic v = true ↔ (∃ body, v = .lambda body) ∨ ∃ ds, v = .dict ds := by
  cases v <;> simp [isDynamic]

theorem checkRefreshed_iff {declared : List Found} {id : Ident} {s : Session} {path : List Step}
    (h : (Component.optionsOf declared id).on s = (.ok (.dict es, path), s)) :
    (Component.checkRefreshed declared id).on s = (.ok (), s)
      ↔ ∃ e ∈ es, (∃ body, e.2 = .lambda body) ∨ ∃ ds, e.2 = .dict ds := by
  simp only [← isDynamic_iff]
  unfold Component.checkRefreshed
  rw [Check.on_bind_ok _ h, ← any_eq_true]
  show ((if !es.any fun e => isDynamic e.2 then refuse _ else pure () : Check Unit).on s = _) ↔ _
  cases es.any fun e => isDynamic e.2 with
  | true => exact ⟨fun _ => rfl, fun _ => rfl⟩
  | false =>
    constructor
    · intro hrun
      cases hrun
    · intro hany
      cases hany

/-- A refresh of a widget evaluates the lambdas again that stand at the top of its options, as a
    property or as a flag, and no others; the options of its kind are all set anew if one of the
    options besides properties is a lambda or a dictionary.  It is allowed for options of which one
    is a lambda or a dictionary. -/
theorem refreshWidget_rewrites (gr : Grammar) (g : Generator) (w : Widget) (es : Entries)
    (hw : w.config = .dict es) (hes : Style.Shared gr w.kind.traits es) :
    (∃ (again : List Style.Writing) (switches : List (String × String)),
      refreshWidget g w = (do
        forM again (Style.carryOut w)
        Widget.applyDecided "LV_OBJ_FLAG_" w.addFlag w.clearFlag switches
        w.applyScroll (.dict (Style.lambdas es)) (Schema.objectProperties.map (·.1))
        if (ownOptions es).any fun e => isDynamic e.2 then
          g.options w (.dict (ownOptions es))
          announceValue w (.dict (ownOptions es)))
      ∧ (∀ x, x ∈ again ↔ ∃ name body, name ∈ Style.styleNames
          ∧ Entries.get? es name = some (.lambda body)
          ∧ x = .property ⟨none, none⟩ name (.lambda body))
      ∧ (∀ l name body, Style.Says w.kind.traits.parts es l name (.lambda body) →
          name ∈ Style.styleNames → (.property l name (.lambda body) ∈ again ↔ l = ⟨none, none⟩))
      ∧ ∀ name body, (name, body) ∈ switches
          ↔ name ∈ Constants.flags ∧ Entries.get? es name = some (.lambda body))
    ∧ ∀ declared id s path, (Component.optionsOf declared id).on s = (.ok (.dict es, path), s) →
        ((Component.checkRefreshed declared id).on s = (.ok (), s)
          ↔ ∃ e ∈ es, (∃ body, e.2 = .lambda body) ∨ ∃ ds, e.2 = .dict ds) := by
  refine ⟨⟨writings (lambdas es), (Widget.Switches.of
    (Widget.flagsOf (partsFound (lambdas es)))).decided, ?_,
    fun x => mem_writings_lambdas hes, ?_, ?_⟩,
    fun declared id s path h => checkRefreshed_iff h⟩
  · have hflags : ∀ e ∈ Widget.flagsOf (partsFound (lambdas es)),
        e.2.isLambda = true := by
      intro e he
      obtain ⟨-, hv⟩ := (flat_lambdas hes).plain.mem_flagsOf_iff.mp he
      exact (mem_filter.mp (Entries.mem_of_get? hv)).2
    unfold refreshWidget
    rw [hw]
    show (do
      w.applyCommon (.dict (lambdas es))
      if (ownOptions es).any fun e => isDynamic e.2 then
        g.options w (.dict (ownOptions es))
        announceValue w (.dict (ownOptions es)) : Build Unit) = _
    rw [(flat_lambdas hes).plain.applyCommon_eq, applySwitches_lambdas hflags]
    simp only [bind_assoc]
  · rintro l name body ⟨-, -, ds, hds, hget⟩ hname
    rw [mem_writings_lambdas hes]
    constructor
    · rintro ⟨name', body', -, -, heq⟩
      cases heq
      rfl
    · rintro rfl
      cases hds
      exact ⟨name, body, hname, hget, rfl⟩
  · intro name body
    rw [mem_decided, (flat_lambdas hes).plain.mem_flagsOf_iff, get?_lambdas hes]
    refine and_congr_right fun _ => ⟨?_, fun h => ⟨body, rfl, h⟩⟩
    rintro ⟨body', heq, h⟩
    cases heq
    exact h

def pressedLook : Entries :=
  [("pressed", .dict [("bg_opa", .lambda "return 0.5;")])]

set_option maxRecDepth 100000 in
theorem fits_pressedLook (gr : Grammar) :
    ∀ e ∈ pressedLook, (objectRecord gr Kind.obj.traits).Fits e := by
  have hopacity : style.run.Gives (.dict [("bg_opa", .lambda "return 0.5;")]) :=
    ⟨.dict [("bg_opa", .lambda "return 0.5;")], {}, _, rfl⟩
  have hfield : (objectRecord gr Kind.obj.traits).field? "pressed"
      = some (.optional "pressed" style.run) := by
    rw [objectRecord_field? (by decide)]
    rfl
  intro e he
  rw [mem_singleton.mp he]
  exact ⟨_, hfield, hopacity⟩

theorem shared_pressedLook : Style.Shared lenient Kind.obj.traits pressedLook where
  keys := by decide
  layout v hv := by cases hv
  fits e he _ _ := fits_pressedLook _ e he
  states := by
    rintro ⟨st, -, v, hv, hdict⟩
    cases mem_singleton.mp (Entries.mem_of_get? hv)
    cases hdict

/-- A widget with just that look may be refreshed, and nothing is set anew. -/
theorem refreshWidget_rewrites_pressed :
    Style.Says Kind.obj.traits.parts pressedLook ⟨none, some "pressed"⟩ "bg_opa"
        (.lambda "return 0.5;")
    ∧ (Component.checkRefreshed [⟨Ident.reference (some "o") lvObj, [.key "o", .key "id"]⟩]
        (Ident.reference (some "o") lvObj)).on { config := [("o", .dict pressedLook)] }
      = (.ok (), { config := [("o", .dict pressedLook)] })
    ∧ refreshWidget (Generator.ofDepth 1) (Widget.fresh "o" (.raw "o") .obj (.dict pressedLook))
      = pure () := by
  obtain ⟨⟨again, switches, hrefresh, hagain, -, hswitches⟩, hallowed⟩ :=
    refreshWidget_rewrites lenient (Generator.ofDepth 1)
      (Widget.fresh "o" (.raw "o") .obj (.dict pressedLook)) pressedLook rfl shared_pressedLook
  have hnone : ∀ name body, pressedLook.get? name ≠ some (.lambda body) := by
    intro name body h
    cases mem_singleton.mp (Entries.mem_of_get? h)
  refine ⟨⟨fun p hp => (nomatch hp), fun st hst => ?_, _, rfl, rfl⟩, ?_, ?_⟩
  · cases hst
    decide
  · exact (hallowed _ _ _ _ rfl).mpr ⟨_, mem_singleton.mpr rfl, .inr ⟨_, rfl⟩⟩
  · obtain rfl : again = [] := by
      refine eq_nil_iff_forall_not_mem.mpr fun x hx => ?_
      obtain ⟨name, body, -, hget, -⟩ := (hagain x).mp hx
      exact hnone name body hget
    obtain rfl : switches = [] := by
      refine eq_nil_iff_forall_not_mem.mpr fun (name, body) hx => ?_
      exact hnone name body ((hswitches name body).mp hx).2
    rw [hrefresh]
    rfl

end Automation

end Panel
