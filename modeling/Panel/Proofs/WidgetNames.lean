import Panel.Proofs.TriggerWiring
import Panel.Proofs.WidgetActions

/-! # Names of widgets — which widgets are known after an update

    The triggers of all widgets are generated while the list of widgets is gone through, and this
    must not change its length meanwhile.  Updates create no widgets, but the label inside of a
    button is noted without a name each time that its text is set, by an update for whichever
    kind. -/

namespace Panel

open Cpp List Code

variable {p : Prop} {s t u : Session} {w : Widget}

/-! ## Names -/

/-- The widgets are known by the same names; where it may, one without a name has joined them. -/
def Session.SameKeys (p : Prop) (s t : Session) : Prop :=
  t.keys = s.keys ∨ p ∧ "" ∉ s.keys ∧ t.keys = s.keys ++ [""]

theorem Session.SameKeys.of_widgets (h : t.widgets = s.widgets) : s.SameKeys p t :=
  .inl (congrArg (map fun w : Widget => w.key) h)

theorem Session.SameKeys.trans (hst : s.SameKeys p t) (htu : t.SameKeys p u) : s.SameKeys p u := by
  rcases hst with hst | ⟨hp, hnew, hst⟩
  · unfold SameKeys
    rwa [← hst]
  · refine .inr ⟨hp, hnew, (htu.resolve_right fun h => ?_).trans hst⟩
    exact h.2.1 (hst ▸ mem_append_right _ mem_cons_self)

/-- Work that may note a widget without a name, if it may note any. -/
@[reducible]
def Habit.naming (p : Prop) : Habit :=
  .beside (Session.SameKeys p) (Session.SameKeys p) (fun h => h) .trans (fun _ h _ => .of_widgets h)
    fun _ _ => .of_widgets rfl

def Quietness.naming (p : Prop) : Quietness := .all (Habit.naming p) fun _ => trivial

instance : (Quietness.naming p).Open := ⟨fun _ _ => trivial⟩

instance : (Quietness.naming p).Changes where
  change name s h := by
    refine .inl ?_
    unfold Session.keys
    rw [map_map]
    refine map_congr_left fun w _ => ?_
    grind

theorem Session.SameKeys.of_note (hp : p) (hw : w.key = "") (s : Session) :
    s.SameKeys p { s with widgets := Widget.putAmong s.widgets w } := by
  unfold SameKeys keys
  rw [Widget.putAmong_eq, keys_putBy, hw]
  grind

/-! ## Actions -/

namespace Automation

open Kinds

variable {k : Kind} {gr : Grammar} {written es : Entries}

theorem options_naming (n : Nat) (h : (k.updateRecord gr).Accepted written es)
    (hlabel : w.kind = .button → (setAt? (.dict es) "text").isSome → p) :
    ((Generator.ofDepth n).options w (.dict es)).Writes ((Quietness.naming p).of [])
      Value.AnyName := by
  by_cases hkind : w.kind = .button ∨ w.kind = .buttonmatrix
  · cases n with
    | zero => exact .of_throw _
    | succ n =>
      show (w.kind.design.options _ w (.dict es)).Writes _ _
      rcases hkind with hbutton | hmatrix
      · rw [hbutton]
        show (buttonOptions w (.dict es)).Writes _ _
        unfold buttonOptions
        split
        · exact .of_pure _
        · next text htext =>
            have hp : p := hlabel hbutton (by rw [htext]; rfl)
            refine .ask (callOf_still _ _) fun child => ?_
            refine .first (Widget.note_keeps (.of_note hp rfl)) fun _ => ?_
            refine .bind (Property.text_asks.writes text.covered_any) fun _ => ?_
            exact Widget.setProperty_writes (Widget.property?_own _ (by decide)) _ _
      · rw [hmatrix]
        refine .first (needComponents_keeps _) fun _ => ?_
        rw [Kind.building_absent h (.head _)]
        exact .of_pure _
  · refine options_plain n (fun h => absurd h hkind) (Value.optionsCovered_any _) fun key hkey => ?_
    exact Kind.building_absent h (mem_cons_of_mem _ hkey)

end Automation

namespace Pending

open Automation Behaviour

theorem updateOf_naming {k : Kind} {gr : Grammar} {v config : Value} {s₀ s₁ : Session}
    (haccept : ((updateOf k k.design).rule gr v).on s₀ = (.ok config, s₁)) (n : Nat) (id : Ident)
    (params : List Param) (hs : s.completed = true)
    (hlabel : ∀ widgets t, updateTargets config s = .done (.ok widgets) t → ∀ w ∈ widgets,
      w.kind = .button → (Kinds.setAt? config "text").isSome → p) :
    ((updateOf k k.design).build (Generator.ofDepth n) config id params s).Ends
      (Session.SameKeys p) fun _ t => s.SameKeys p t := by
  obtain ⟨written, es, -, rfl, h⟩ := Kind.update_accepted haccept
  -- All widgets are there, so those that the update is for are found at once.
  have htargets : (updateTargets (.dict es)).Writes (Quietness.within.of []) fun _ => False :=
    .required_bind fun _ _ => Widget.targets_writes _ _
  obtain ⟨r, t, hdone, -⟩ := htargets.prompt.ends s hs nofun
  have hst : s.SameKeys p t :=
    have hheeds : (updateTargets (.dict es)).Heeds ((Quietness.naming p).of []) :=
      updateTargets_quiet _
    (hheeds.ends s).of_done hdone
  cases r with
  | error e =>
    have hbuild : (updateOf k k.design).build (Generator.ofDepth n) (.dict es) id params s
        = .done (.error e) t := Build.bind_error _ hdone
    rw [hbuild]
    exact hst
  | ok widgets =>
    have hwork : ∀ w ∈ widgets, (do
        w.applyCommon (.dict es)
        (Generator.ofDepth n).options w (.dict es)
        announceValue w (.dict es) : Build Unit).Writes ((Quietness.naming p).of [])
          Value.AnyName := fun w hw =>
      .bind (Widget.applyCommon_quietly (Value.optionsCovered_any _)) fun _ =>
        .bind (options_naming n h (hlabel _ t hdone w hw)) fun _ =>
          .of_lift (announceValue_quiet _ _)
    have hbuild : (updateOf k k.design).build (Generator.ofDepth n) (.dict es) id params s
        = widgetAction widgets _ id params es t := Build.bind_ok _ hdone
    rw [hbuild]
    exact ((Acts.widgetAction hwork id params).keeps.ends t).mono fun _ _ => hst.trans

/-- An update that sets a text, one of whose widgets is a button. -/
def Labels (q : Pending) (s : Session) : Prop :=
  q.behaviour ∈ updates ∧ (Kinds.setAt? q.config "text").isSome
    ∧ ∃ widgets t, updateTargets q.config s = .done (.ok widgets) t ∧ ∃ w ∈ widgets, w.kind = .button

theorem work_naming (q : Pending) (n : Nat) (hb : q.behaviour ∈ plain ++ prepared ++ unprepared)
    (hs : s.completed = true) :
    (q.work n s).Ends (Session.SameKeys (q.Labels s)) fun _ t => s.SameKeys (q.Labels s) t := by
  have hother : ∀ {names entries}, q.behaviour.Acts (.naming (q.Labels s)) names entries →
      (q.work n s).Ends (Session.SameKeys (q.Labels s)) fun _ t => s.SameKeys (q.Labels s) t :=
    fun hacts => (hacts _ _ _ _).keeps.ends s
  rcases mem_append.mp hb with hb | hb
  · rcases mem_append.mp hb with hb | hb
    · obtain ⟨_, hacts⟩ := plain_acts (.naming (q.Labels s)) hb
      exact hother hacts
    · rcases prepared_cases (.naming (q.Labels s)) hb with hb | hacts
      · obtain ⟨k, -, hk⟩ := mem_map.mp hb
        obtain ⟨gr, v, s₀, s₁, haccept⟩ := q.accepted
        unfold work
        rw [← hk] at haccept ⊢
        refine updateOf_naming haccept n q.id q.params hs fun widgets t hdone w hw hbutton htext => ?_
        exact ⟨hb, htext, widgets, t, hdone, w, hw, hbutton⟩
      · exact hother hacts
  · exact hother (unprepared_acts (.naming (q.Labels s)) hb)

end Pending

/-! ## The work for all widgets -/

theorem Frame.keys_eq_iff {free : List String} (h : Frame free s t) :
    t.keys = s.keys ↔ t.widgets.length = s.widgets.length := by
  have hlength : ∀ u : Session, u.keys.length = u.widgets.length := fun u => length_map _
  rw [← hlength, ← hlength]
  exact ⟨congrArg length, fun heq => (h.keys.eq_of_length heq.symm).symm⟩

namespace Automation

variable {g : Generator} {ws : List Widget}

variable (hg : ∀ v params, (g.actions v params).Heeds (Quietness.framed.of []))

include hg

theorem generateTriggers_runs_iff_keys (hs : s.Rooted) :
    (generateTriggers g s).Runs (.ok ()) t ↔ ∃ ws u, ws.map (·.key) = s.keys
      ∧ Tour g 0 ws (withSource "lvgl.trigger" s) u ∧ t = withSource s.source u
      ∧ t.keys = s.keys := by
  rw [generateTriggers_runs_iff hg hs]
  have hstart := withSource_frame "lvgl.trigger" hs
  constructor
  · rintro ⟨ws, u, hws, htour, rfl, hlength⟩
    have hframe := hstart.trans (htour.frame hg hstart.rooted)
    have hkeys := htour.keys hg hstart.rooted (by rw [Nat.zero_add, hws]; exact (length_map _).ge)
    refine ⟨ws, u, hkeys.trans ?_, htour, rfl, hframe.keys_eq_iff.mpr hlength⟩
    rw [drop_zero, hws]
    exact take_of_length_le (length_map _).le
  · rintro ⟨ws, u, hws, htour, rfl, hkeys⟩
    have hframe := hstart.trans (htour.frame hg hstart.rooted)
    refine ⟨ws, u, ?_, htour, rfl, hframe.keys_eq_iff.mp hkeys⟩
    rw [← length_map (fun w : Widget => w.key), hws]
    exact length_map _

/-- The work for all widgets stops right after the turn in which one has joined. -/
theorem generateTriggers_changed (hs : s.Rooted)
    (htour : Tour g 0 ws (withSource "lvgl.trigger" s) u) (hu : u.keys = s.keys)
    (hturn : Tour g ws.length [w] u t) (ht : t.keys ≠ s.keys) : (generateTriggers g s).Runs
      (.error (.rejected "dictionary changed size during iteration")) t := by
  have hstart := withSource_frame "lvgl.trigger" hs
  have hframe := hstart.trans (htour.frame hg hstart.rooted)
  have hcount := hframe.keys_eq_iff.mp hu
  cases hturn with
  | @cons _ _ _ _ v _ hw hfilled hrun hnone =>
    cases hnone
    have hjoined : t.widgets.length ≠ s.widgets.length := fun heq =>
      ht ((hframe.trans ((wireAll_framed hg w).frame hframe.rooted hrun)).keys_eq_iff.mpr heq)
    have hlt : ws.length < s.widgets.length := hcount ▸ (List.getElem?_eq_some_iff.mp hw).1
    have hlast : (triggersFrom g s.widgets.length (s.widgets.length - ws.length) (0 + ws.length)
        u).Runs (.error (.rejected "dictionary changed size during iteration")) t := by
      obtain ⟨m, hm⟩ := Nat.exists_eq_add_of_lt hlt
      rw [hm, show ws.length + m + 1 - ws.length = m + 1 by omega, ← hm, Nat.zero_add,
        triggersFrom_succ hw]
      refine .bind_ok ((widgetTriggers_runs_iff g _).mpr ⟨hfilled, hrun⟩) ?_
      rw [if_pos (bne_iff_ne.mpr hjoined)]
      exact .done _ _
    have hall := htour.triggersFrom hg hstart.rooted hcount hlast
    rw [Nat.add_sub_cancel' hlt.le] at hall
    exact hall.bind_error

end Automation

namespace Pending

open Automation Behaviour

/-- Which widgets are known after an accepted action, once all widgets are there: the same as before,
    in the same order; only where an update sets a text, a button is among its widgets and no widget
    without a name was known, one joins them.  Generating the triggers of all widgets ends well just
    if each has its turn, once and in order, and the same are known by then; it fails as soon as
    another one has joined in the turn of one. -/
theorem work_keys (n : Nat) :
    (∀ (q : Pending) (s : Session), q.behaviour ∈ plain ++ prepared ++ unprepared →
      s.completed = true → (q.work n s).Ends (Session.SameKeys (q.Labels s)) fun _ t =>
        s.SameKeys (q.Labels s) t)
    ∧ ∀ s : Session, s.Rooted →
      (∀ t, (generateTriggers (Generator.ofDepth n) s).Runs (.ok ()) t ↔ ∃ ws u,
        ws.map (·.key) = s.keys ∧ Tour (Generator.ofDepth n) 0 ws (withSource "lvgl.trigger" s) u
          ∧ t = withSource s.source u ∧ t.keys = s.keys)
      ∧ ∀ ws w u t, Tour (Generator.ofDepth n) 0 ws (withSource "lvgl.trigger" s) u →
        u.keys = s.keys → Tour (Generator.ofDepth n) ws.length [w] u t → t.keys ≠ s.keys →
        (generateTriggers (Generator.ofDepth n) s).Runs
          (.error (.rejected "dictionary changed size during iteration")) t := by
  have hg : (Generator.ofDepth n).Steady Quietness.framed := Generator.steady_ofDepth n
  refine ⟨fun q s hb hs => q.work_naming n hb hs, fun s hs => ⟨fun t => ?_, ?_⟩⟩
  · exact generateTriggers_runs_iff_keys hg.actions hs
  · intro ws w u t htour hu hturn ht
    exact generateTriggers_changed hg.actions hs htour hu hturn ht

def relabel : Value := .dict [("id", .str "b1"), ("text", .str "x")]

/-- A button that was created with an empty text, and that is updated when it is clicked. -/
def unlabelled (k : Kind) (config : Value) : Session :=
  { widgets := [.fresh "b1" (.raw "b1") .button (.dict [("text", .str ""), ("on_click", .list [
      .dict [("trigger_id", .ident (.declaration (some "t") (.plain "Trigger<>"))),
        ("automation_id", .ident (.declaration (some "a") (.plain "Automation<>"))),
        ("then", .list [.dict [("lvgl." ++ k.name ++ ".update", config),
          ("type_id", .ident (.declaration (some "u") objUpdateAction))]])]])])]
    objects := [⟨.declaration (some "b1") lvObj, .raw "b1"⟩]
    completed := true }

def keysAfter? {α : Type} : Job α → Option (List String)
  | .done _ t => some t.keys
  | .waiting _ _ _ => none

def fails {α : Type} (text : String) : Job α → Bool
  | .done (.error (.rejected why)) _ => why == text
  | _ => false

/-- An accepted update that sets the text of a button, and after which a widget without a name is
    known; triggers cannot be generated with it. -/
def labels (k : Kind) : Except Failure Value → Bool
  | .error _ => false
  | .ok config =>
    (Kinds.setAt? config "text").isSome
      && (match updateTargets config (unlabelled k config) with
        | .done (.ok widgets) _ => widgets.any fun w => decide (w.kind = .button)
        | _ => false)
      && keysAfter? ((updateOf k k.design).build (Generator.ofDepth 1) config
          (Ident.declaration none objUpdateAction) [] (unlabelled k config)) == some ["b1", ""]
      && fails "dictionary changed size during iteration"
          (generateTriggers (Generator.ofDepth 2) (unlabelled k config))

/-- A button that was created with an empty text has no label that is known: one joins the widgets
    when the button is given a text, also by an update for codes, and if that happens in an
    automation, generating the triggers fails.  Automations that only write to the log keep the
    widgets as they are. -/
theorem work_keys_unlabelled :
    (∀ k ∈ [Kind.button, .qrcode], ∃ (q : Pending) (s t : Session) (r : Except Failure Expr),
      q.behaviour = updateOf k k.design ∧ q.Labels s ∧ q.work 1 s = .done r t ∧ s.keys = ["b1"]
        ∧ t.keys = ["b1", ""] ∧ s.SameKeys (q.Labels s) t
        ∧ fails "dictionary changed size during iteration"
            (generateTriggers (Generator.ofDepth 2) s) = true)
    ∧ ∃ ws t, ws.map (·.key) = ["button"]
        ∧ Tour (Generator.ofDepth 2) 0 ws (withSource "lvgl.trigger" clickable) t
        ∧ t.keys = ["button"] := by
  constructor
  · intro k hk
    have hruns : labels k (((updateOf k k.design).rule .exhausted relabel).on {}).1 = true := by
      fin_cases hk <;> decide +kernel
    obtain ⟨config, s', haccept, hlabels⟩ := Check.exists_on_ok (s := {}) (P := (labels k · = true))
      (c := (updateOf k k.design).rule .exhausted relabel) hruns nofun
    let q : Pending := ⟨updateOf k k.design, config, ⟨_, _, _, _, haccept⟩,
      Ident.declaration none objUpdateAction, []⟩
    obtain ⟨hothers, hfails⟩ := Bool.and_eq_true_iff.mp hlabels
    obtain ⟨hfirst, hbuild⟩ := Bool.and_eq_true_iff.mp hothers
    obtain ⟨htext, htargets⟩ := Bool.and_eq_true_iff.mp hfirst
    have hupdates : q.behaviour ∈ updates := mem_map.mpr ⟨k, by fin_cases hk <;> simp [Kind.all], rfl⟩
    have hends := (work_keys 1).1 q (unlabelled k config)
      (mem_append_left _ (mem_append_right _ (mem_append_right _ hupdates))) rfl
    have htarget : ∃ widgets t, updateTargets config (unlabelled k config) = .done (.ok widgets) t
        ∧ ∃ w ∈ widgets, w.kind = .button := by
      split at htargets
      · next widgets t hdone =>
          obtain ⟨w, hw, hbutton⟩ := any_eq_true.mp htargets
          exact ⟨widgets, t, hdone, w, hw, of_decide_eq_true hbutton⟩
      · cases htargets
    have hafter : keysAfter? (q.work 1 (unlabelled k config)) = some ["b1", ""] := beq_iff_eq.mp hbuild
    cases hjob : q.work 1 (unlabelled k config) with
    | done r t =>
      rw [hjob] at hafter
      exact ⟨q, unlabelled k config, t, r, rfl, ⟨hupdates, htext, htarget⟩, hjob, rfl,
        Option.some.inj hafter, hends.of_done hjob, hfails⟩
    | waiting t ready resume =>
      rw [hjob] at hafter
      cases hafter
  · have hends : (Build.now (generateTriggers (Generator.ofDepth 2)) clickable).1.toBool = true := by
      decide +kernel
    obtain ⟨ws, u, hws, htour, hu, hkeys⟩ :=
      (((work_keys 2).2 clickable clickable_rooted).1 _).mp (runs_of_now hends)
    rw [hu] at hkeys
    exact ⟨ws, u, hws, htour, hkeys⟩

end Pending

end Panel
