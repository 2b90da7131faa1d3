import Panel.Proofs.SideBySide
import Panel.Proofs.StyleValues
import Panel.Style.Create

/-! # Agreement of styles — a style sheet and the style of an object say the same

    A style can be written into a sheet, which widgets share, or be given to an object itself.  Two
    loops do this: one goes over the properties that styles have, the other over what was collected
    from the configuration of the object.  They set the same properties to the same values, in the
    same order. -/

namespace Panel.Style

open Cpp List Code Property Widget Build Schema

variable {v : Value} {s s' t : Session} {p : Property} {k name : String} {o obj : Expr} {x : Value}
  {t' : Session} {names : List String}

/-! ## Lines that set -/

def sheetSetting (sheet : Expr) : Item → Option (String × String)
  | .expr (.object (.call (.raw function) [] [o, x]) .bare) =>
    if o.render == sheet.render && Text.hasPrefix "lv_style_set_" function then
      some (Text.removePrefix "lv_style_set_" function, x.render)
    else none
  | _ => none

/-- The property and the value that a line sets for the main part of an object. -/
def ownSetting (obj : Expr) : Item → Option (String × String)
  | .expr (.object (.call (.raw function) [] [o, x, part]) .bare) =>
    if o.render == obj.render && part.render == "LV_PART_MAIN"
        && Text.hasPrefix "lv_obj_set_style_" function then
      some (Text.removePrefix "lv_obj_set_style_" function, x.render)
    else none
  | _ => none

theorem sheetSetting_call (sheet : Expr) (name : String) (x : Expr) :
    sheetSetting sheet (.expr (.object (.call (.raw ("lv_style_set_" ++ name)) [] [sheet, x]) .bare))
      = some (name, x.render) := by
  unfold sheetSetting
  dsimp only
  rw [Text.hasPrefix_append, Text.removePrefix_append, beq_self_eq_true]
  rfl

theorem ownSetting_call (obj : Expr) (name : String) (x : Expr) : ownSetting obj (.expr (.object
        (.call (.raw ("lv_obj_set_style_" ++ name)) [] [obj, x, Expr.named "LV_PART_MAIN"]) .bare))
      = some (name, x.render) := by
  unfold ownSetting
  dsimp only
  rw [Text.hasPrefix_append, Text.removePrefix_append, beq_self_eq_true]
  rfl

/-! ## One property -/

/-- The setting of a property to a value, if the value can be written. -/
def settingOf (name : String) (x : Value) : List (String × String) :=
  match Code.express? (Property.literal x) with
  | .ok e => [(renamed name, e.render)]
  | .error _ => []

def outcomeOf (x : Value) : Except Failure Unit :=
  (Code.express? (Property.literal x)).map fun _ => ()

theorem arguments?_two (h : v ≠ .null) :
    arguments? [.cpp o, v] = (express? v).map fun e => [o, e] := by
  have hnulls : withoutTrailingNulls [.cpp o, v] = [.cpp o, v] := by
    cases v with
    | null => exact absurd rfl h
    | _ => rfl
  unfold arguments?
  rw [hnulls, mapM_cons, mapM_cons, mapM_nil, express?]
  cases express? v <;> rfl

theorem arguments?_three {y : Expr} :
    arguments? [.cpp o, v, .cpp y] = (express? v).map fun e => [o, e, y] := by
  show [Value.cpp o, v, .cpp y].mapM express? = _
  rw [mapM_cons, mapM_cons, mapM_cons, mapM_nil, express?, express?]
  cases express? v <;> rfl

variable {sheet : Expr} {w : Widget}

def sheetStep (sheet : Expr) (name : String) (x : Value) : Check Unit := do
  let y ← sheetValue x
  let current ← currentProperty name
  Code.run ("lv_style_set_" ++ current) [.cpp sheet, y]

def ownStep (w : Widget) (name : String) (x : Value) : Check Unit := do
  let current ← currentProperty name
  w.setStyle current x (Level.select ⟨none, none⟩)

theorem run_sets {function : String} {args : List Value} {form : Expr → List Expr}
    {read : Item → Option (String × String)}
    (hargs : arguments? args = (express? (literal x)).map form)
    (hread : ∀ e, read (.expr (.object (.call (.raw function) [] (form e)) .bare))
      = some (renamed name, e.render)) :
    (run function args).Sets read (outcomeOf x) (settingOf name x) := by
  unfold outcomeOf settingOf
  cases he : express? (literal x) with
  | ok e =>
    rw [he] at hargs
    exact .of_run hargs (hread e)
  | error e =>
    rw [he] at hargs
    exact .of_run_error hargs

theorem sheetStep_sets (sheet : Expr) (hx : x.Single) (name : String) :
    (sheetStep sheet name x).Sets (sheetSetting sheet) (outcomeOf x) (settingOf name x) := by
  have hvalue : sheetValue x = pure (literal x) := by
    cases x with
    | list xs => exact absurd rfl (hx.2 xs)
    | _ => rfl
  unfold sheetStep
  rw [hvalue, pure_bind]
  exact .after (.of_currentProperty name)
    (run_sets (arguments?_two (literal_single hx).1) (sheetSetting_call sheet _))

theorem ownStep_sets (w : Widget) (hx : x.Single) (name : String) :
    (ownStep w name x).Sets (ownSetting w.obj) (outcomeOf x) (settingOf name x) := by
  have hselect : Level.select ⟨none, none⟩ = .cpp (Expr.named "LV_PART_MAIN") := rfl
  have hstyle : w.setStyle (renamed name) x (Level.select ⟨none, none⟩) = (do
      modify fun s => { s with stylesUsed := addTo s.stylesUsed (renamed name) }
      run ("lv_obj_set_style_" ++ renamed name)
        [.cpp w.obj, literal x, Level.select ⟨none, none⟩]) := by
    cases x with
    | null => exact absurd rfl hx.1
    | _ => rfl
  unfold ownStep
  refine .after (.of_currentProperty name) ?_
  rw [hstyle, hselect]
  exact .after (.of_same fun s => ⟨_, rfl, rfl, rfl⟩)
    (run_sets arguments?_three (ownSetting_call w.obj _))

/-! ## The loops side by side -/

/-- Where two loops stand that have set the same: `names` are the properties that they have set, if
    they have come through. -/
structure Agreed (sheet obj : Expr) (s s' : Session) (names : List String)
    (r : Except Failure Unit) (t : Session) (r' : Except Failure Unit) (t' : Session) : Prop where
  result : r' = r
  seen : t.seen = t'.seen
  same : ∃ ps, t.settings (sheetSetting sheet) = (s.settings (sheetSetting sheet)).map (· ++ ps)
    ∧ t'.settings (ownSetting obj) = (s'.settings (ownSetting obj)).map (· ++ ps)
    ∧ (r = .ok () → ps.map (·.1) = names)

/-- What others may do while the loops wait: the same in both, and nothing to the settings. -/
abbrev Beside (sheet obj : Expr) : Session → Session → Session → Session → Prop :=
  Session.Meanwhile (Session.settings (sheetSetting sheet)) (Session.settings (ownSetting obj))

theorem Agreed.refl (h : Beside sheet obj s s' t t') (names) (r : Except Failure Unit)
    (hr : r = .ok () → names = []) : Agreed sheet obj s s' names r t r t' := by
  refine ⟨rfl, h.seen, [], ?_, ?_, fun hok => (hr hok).symm⟩
  · rw [h.left]
    cases s.settings (sheetSetting sheet) <;> simp
  · rw [h.right]
    cases s'.settings (ownSetting obj) <;> simp

theorem Agreed.append {u u' : Session} {ns ms : List String} {r r' : Except Failure Unit}
    (ht : Agreed sheet obj s s' ns (.ok ()) t (.ok ()) t')
    (hu : Agreed sheet obj t t' ms r u r' u') :
    Agreed sheet obj s s' (ns ++ ms) r u r' u' := by
  obtain ⟨ps, hps, hps', hns⟩ := ht.same
  obtain ⟨qs, hqs, hqs', hms⟩ := hu.same
  refine ⟨hu.result, hu.seen, ps ++ qs, Session.settings_append hps hqs,
    Session.settings_append hps' hqs', fun hok => ?_⟩
  rw [map_append, hns rfl, hms hok]

theorem step_agrees (hasks : p.Asks) (hsingles : (p.emit v).Singles) (name : String)
    (hseen : s.seen = s'.seen) :
    ((p.emit v >>= fun x => liftM (sheetStep sheet name x) : Build Unit) s).Twin
      (Beside sheet w.obj) (Agreed sheet w.obj s s' [renamed name])
      ((p.emit v >>= fun x => liftM (ownStep w name x) : Build Unit) s') := by
  have hemit : (p.emit v).Asks fun _ => True := hasks.emit fun _ _ => trivial
  refine ((hemit.twin _ _ hseen).and_ends (hsingles s)).bind ?_ ?_
  · rintro x t r' t' ⟨⟨rfl, hbeside⟩, hsingle⟩
    have hx := hsingle x rfl
    obtain ⟨u, hu, huseen, huset⟩ := sheetStep_sets sheet hx name t
    obtain ⟨u', hu', huseen', huset'⟩ := ownStep_sets w hx name t'
    refine ⟨x, rfl, ?_⟩
    have hleft : (liftM (sheetStep sheet name x) : Build Unit) t = .done _ u := ofCheck_eq hu
    have hright : (liftM (ownStep w name x) : Build Unit) t' = .done _ u' := ofCheck_eq hu'
    rw [hleft, hright]
    refine ⟨rfl, huseen.trans (hbeside.seen.trans huseen'.symm), settingOf name x, ?_, ?_, ?_⟩
    · rw [huset, hbeside.left]
    · rw [huset', hbeside.right]
    · unfold outcomeOf settingOf
      cases express? (literal x) with
      | ok e => exact fun _ => rfl
      | error e => exact nofun
  · rintro e t r' t' ⟨⟨rfl, hbeside⟩, -⟩
    exact ⟨e, rfl, .refl hbeside _ _ nofun⟩

theorem applyAll_cons (es : Entries) (name : String) (p : Property) (rest : List (String × Property)) :
    applyAll sheet (.dict es) ((name, p) :: rest) = (match es.given? name with
      | none => pure ()
      | some v => p.emit v >>= fun x => liftM (sheetStep sheet name x)) >>= fun _ =>
        applyAll sheet (.dict es) rest := by
  have hlift : ∀ x, (liftM (sheetStep sheet name x) : Build Unit) = (do
      let y ← sheetValue x
      let current ← currentProperty name
      run ("lv_style_set_" ++ current) [.cpp sheet, y]) := by
    intro x
    refine (ofCheck_bind _ _).trans (bind_congr fun y => ?_)
    exact ofCheck_bind _ _
  rw [applyAll]
  show (match es.given? name with
    | none => _
    | some v => _) = _
  cases es.given? name with
  | none => rfl
  | some v =>
    simp only [hlift, bind_assoc]

theorem carryOut_property (hp : property? name = some p) (v : Value) :
    carryOut w (.property ⟨none, none⟩ name v)
      = p.emit v >>= fun x => liftM (ownStep w name x) := by
  rw [carryOut, hp]
  refine bind_congr fun x => ?_
  exact (ofCheck_bind _ _).symm

/-- The names of the properties that a style gives a value for, as they are called now. -/
def namesSet (es : Entries) (ps : List (String × Property)) : List String :=
  (ps.filter fun e => (Entries.given? es e.1).isSome).map fun e => renamed e.1

theorem ownStep_null (w : Widget) (name : String) :
    (ownStep w name .null).Sets (ownSetting w.obj) (.ok ()) [] :=
  .after (.of_currentProperty name) (.of_pure ())

variable {es : Entries}

theorem namesSet_cons (p : Property) (ps : List (String × Property)) :
    namesSet es ((name, p) :: ps) = (match es.given? name with
      | none => namesSet es ps
      | some _ => [renamed name] ++ namesSet es ps) := by
  unfold namesSet
  cases h : es.given? name with
  | none => rw [filter_cons_of_neg (by rw [h]; decide)]
  | some v =>
    rw [filter_cons_of_pos (by rw [h]; rfl)]
    rfl

theorem applyAll_agrees (sheet : Expr) (w : Widget) (es : Entries) (ps : List (String × Property))
    (hps : ∀ e ∈ ps, property? e.1 = some e.2 ∧ e.2.emit .null = pure .null)
    (hsingles : ∀ e ∈ ps, ∀ v, es.get? e.1 = some v → v ≠ .null → (e.2.emit v).Singles)
    (hseen : s.seen = s'.seen) :
    (applyAll sheet (.dict es) ps s).Twin (Beside sheet w.obj)
      (Agreed sheet w.obj s s' (namesSet es ps))
      ((forM (ps.filterMap fun e => (es.get? e.1).map (Writing.property ⟨none, none⟩ e.1))
        (carryOut w) : Build Unit) s') := by
  induction ps generalizing s s' with
  | nil => exact .refl ⟨hseen, rfl, rfl⟩ _ _ fun _ => rfl
  | cons e ps ih =>
    obtain ⟨name, p⟩ := e
    obtain ⟨hp, hnull⟩ := hps _ mem_cons_self
    have hnext : ∀ {t t' : Session}, t.seen = t'.seen → _ := fun h =>
      ih (forall_mem_cons.mp hps).2 (forall_mem_cons.mp hsingles).2 h
    rw [applyAll_cons, namesSet_cons]
    cases hget : es.get? name with
    | none =>
      have hgiven : es.given? name = none := by rw [Entries.given?, hget]
      rw [hgiven, filterMap_cons_none (by rw [hget]; rfl)]
      exact hnext hseen
    | some v =>
      rw [filterMap_cons_some (by rw [hget]; rfl), forM_cons, carryOut_property hp]
      by_cases hv : v = .null
      · -- the loop over the sheet passes null over, the other one writes nothing for it
        subst hv
        have hgiven : es.given? name = none := by rw [Entries.given?, hget]
        obtain ⟨t', ht', hseen', hset'⟩ := ownStep_null w name s'
        have hstep : (liftM (ownStep w name .null) : Build Unit) s' = .done (.ok ()) t' :=
          ofCheck_eq ht'
        rw [hgiven, pure_bind, hnull, pure_bind, bind_ok _ hstep]
        refine (hnext (hseen.trans hseen'.symm)).mono fun r u r' u' hu => ?_
        obtain ⟨qs, hleft, hright, hqs⟩ := hu.same
        exact ⟨hu.result, hu.seen, qs, hleft, Session.settings_append hset' hright, hqs⟩
      · have hgiven : es.given? name = some v := by
          rw [Entries.given?, hget]
          cases v with
          | null => exact absurd rfl hv
          | _ => rfl
        rw [hgiven]
        have hsingle := hsingles _ mem_cons_self v hget hv
        refine (step_agrees (property?_asks hp) hsingle name hseen).bind ?_ ?_
        · intro a t r' t' ht
          obtain rfl := ht.result
          exact ⟨a, rfl, (hnext ht.seen).mono fun _ _ _ _ hu => ht.append hu⟩
        · intro e t r' t' ht
          obtain rfl := ht.result
          refine ⟨e, rfl, rfl, ht.seen, ?_⟩
          obtain ⟨qs, hleft, hright, -⟩ := ht.same
          exact ⟨qs, hleft, hright, fun h => by cases h⟩

/-! ## Configurations that are just a style -/

def beyondStyle : List String := plainNames ++ Constants.flags

def Bare (es : Entries) : Prop := ∀ k ∈ beyondStyle, Entries.get? es k = none

theorem Bare.plain (h : Bare es) : Plain es := fun k hk => h k (mem_append_left _ hk)

theorem Bare.flagsOf (h : Bare es) : flagsOf (partsFound es) = [] := by
  refine eq_nil_iff_forall_not_mem.mpr fun e he => ?_
  obtain ⟨hflag, hv⟩ := h.plain.mem_flagsOf_iff.mp he
  rw [h _ (mem_append_right _ hflag)] at hv
  cases hv

theorem applyCommon_bare (h : Bare es) (w : Widget) :
    w.applyCommon (.dict es) = (do
      forM (writingsAt ⟨none, none⟩ es) (carryOut w)
      w.applyScroll (.dict es) (objectProperties.map (·.1))) := by
  rw [h.plain.applyCommon_eq, h.plain.writings_eq, h.flagsOf]
  exact bind_congr fun _ => pure_bind _ _

theorem run_two_sets (obj : Expr) (name : String) (v : Value) :
    ∃ r, (run name [.cpp obj, v]).Sets (ownSetting obj) r [] := by
  by_cases hv : v = .null
  · subst hv
    have hargs : arguments? [.cpp obj, .null] = .ok [obj] := by
      show [Value.cpp obj].mapM express? = _
      rw [mapM_cons, mapM_nil, express?]
      rfl
    exact ⟨_, .of_run_other hargs rfl⟩
  · have hargs : arguments? [.cpp obj, v] = _ := arguments?_two hv
    cases he : express? v with
    | ok e =>
      rw [he] at hargs
      exact ⟨_, .of_run_other hargs rfl⟩
    | error e =>
      rw [he] at hargs
      exact ⟨_, .of_run_error hargs⟩

theorem setOption_sets (w : Widget) (config : Value) (h : property? name = none) :
    ∃ r, (w.setOption name config none { base := some "obj" }).Sets (ownSetting w.obj) r [] := by
  unfold setOption
  cases config.given? name with
  | none => exact ⟨_, .of_pure ()⟩
  | some v =>
    have hwriter : (none : Option Property).orElse (fun _ => property? name) = none := h
    obtain ⟨r, hr⟩ := run_two_sets w.obj ("lv_" ++ "obj" ++ "_set_" ++ renamed name) (argument v)
    have hvalue : (w.setValue name v { base := some "obj" }).Sets (ownSetting w.obj) r [] :=
      .after (.of_currentProperty name) hr
    dsimp only
    rw [hwriter]
    exact ⟨r, .of_lift hvalue⟩

theorem applyScroll_sets (w : Widget) (config : Value) (h : ∀ n ∈ names, property? n = none) :
    ∃ r, (w.applyScroll config names).Sets (ownSetting w.obj) r [] := by
  induction names with
  | nil => exact ⟨_, .of_pure ()⟩
  | cons name names ih =>
    obtain ⟨r, hr⟩ := setOption_sets w config (h name mem_cons_self)
    obtain ⟨r', hr'⟩ := ih (forall_mem_cons.mp h).2
    cases r with
    | ok a => exact ⟨r', hr.bind hr'⟩
    | error e => exact ⟨.error e, hr.bind_error⟩

/-! ## Accepted styles -/

theorem allOptional_fullStyle : Record.AllOptional fullStyle.fields := by
  refine Record.allOptional_extend allOptional_style fun f hf => ?_
  fin_cases hf <;> exact ⟨rfl, rfl⟩

theorem property?_of_mem (h : (name, p) ∈ allStyles) : property? name = some p := by
  rw [property?, find?_key styleNames_nodup h]
  rfl

/-- The names of styles and of options that are set on the object itself. -/
def besideProperties : List String :=
  ["styles", "scrollbar_mode", "scroll_dir", "scroll_snap_x", "scroll_snap_y"]

theorem beyondStyle_not_style :
    ∀ k ∈ beyondStyle, k ∉ styleNames ∧ k ∉ besideProperties := by decide +kernel

theorem fullStyle_field {f : Field} (hf : fullStyle.field? name = some f) :
    (∃ p, (name, p) ∈ allStyles ∧ f.test = p.validate) ∨ name ∈ besideProperties := by
  rcases Record.field?_extend hf with ⟨hmem, hkey⟩ | ⟨-, hf⟩
  · obtain ⟨e, he, rfl⟩ : ∃ e ∈ [("grid_cell_x_align", gridAlignment),
        ("grid_cell_y_align", gridAlignment), ("pad_row", padding),
        ("pad_column", padding)], Field.optional e.1 e.2.validate = f :=
      mem_map.mp hmem
    obtain rfl : e.1 = name := hkey
    refine Or.inl ⟨e.2, mem_append_right _ ?_, rfl⟩
    simp only [mem_cons, not_mem_nil, or_false] at he ⊢
    rcases he with rfl | rfl | rfl | rfl <;> simp
  · obtain ⟨hmem, hkey⟩ := Record.field?_of hf
    rcases mem_append.mp hmem with hmem | hmem
    · obtain ⟨e, he, rfl⟩ := mem_map.mp hmem
      obtain rfl : e.1 = name := hkey
      exact Or.inl ⟨e.2, mem_append_left _ he, rfl⟩
    · rw [← hkey]
      exact Or.inr (mem_map_of_mem (f := Field.key) hmem)

theorem ensureList_gives {test : Test} {w : Value}
    (h : (Test.ensureList test v).on s = (.ok w, t)) :
    ∃ xs, w = .list xs := by
  obtain ⟨-, u, -, h⟩ := Check.on_bind_eq_ok h
  split at h
  · cases h
    exact ⟨_, rfl⟩
  · cases h
    exact ⟨_, rfl⟩
  · obtain ⟨ys, u, -, h⟩ := Check.on_bind_eq_ok h
    cases h
    exact ⟨ys, rfl⟩
  · obtain ⟨y, u, -, h⟩ := Check.on_bind_eq_ok h
    cases h
    exact ⟨[y], rfl⟩

section Accepted

variable {given es : Entries} {s₀ s₁ : Session}
  (haccepted : (Schema.fullStyle.run (.dict given)).on s₀ = (.ok (.dict es), s₁))

include haccepted

theorem accepted_answers : ∀ e ∈ es, fullStyle.Answers given e := by
  obtain ⟨_, _, hgiven, hes, hanswers⟩ := Record.run_answers rfl haccepted
  cases hgiven
  cases hes
  rw [Record.completed_eq allOptional_fullStyle] at hanswers
  exact hanswers

theorem accepted_bare : Bare es := by
  intro k hk
  cases hget : es.get? k with
  | none => rfl
  | some v =>
    obtain ⟨-, -, f, -, -, hf, -⟩ := accepted_answers haccepted _ (Entries.mem_of_get? hget)
    obtain ⟨hstyle, hbeside⟩ := beyondStyle_not_style k hk
    rcases fullStyle_field hf with ⟨p, hp, -⟩ | hname
    · exact absurd (mem_map_of_mem (f := (·.1)) hp) hstyle
    · exact absurd hname hbeside

theorem accepted_singles (hgiven : ∀ e ∈ given, asksChoices e.2 = false)
    {e : String × Property} (he : e ∈ allStyles) (hv : es.get? e.1 = some v)
    (hnull : v ≠ .null) : (e.2.emit v).Singles := by
  obtain ⟨x, hx, f, s, t, hf, hanswer⟩ := accepted_answers haccepted _ (Entries.mem_of_get? hv)
  have hnot : ∀ k ∈ besideProperties, k ∉ styleNames := by decide +kernel
  rcases fullStyle_field hf with ⟨p, hp, htest⟩ | hname
  · obtain rfl := Option.some.inj ((property?_of_mem hp).symm.trans (property?_of_mem he))
    rw [htest] at hanswer
    exact allStyles_singles e he x v s t (hgiven _ hx) hanswer hnull
  · exact absurd (mem_map_of_mem (f := (·.1)) he) (hnot _ hname)

theorem accepted_styles (hv : es.get? "styles" = some v) : ∃ xs, v = .list xs := by
  obtain ⟨x, -, f, s, t, hf, hanswer⟩ := accepted_answers haccepted _ (Entries.mem_of_get? hv)
  have hfield : fullStyle.field? "styles"
      = some (.optional "styles" (Test.ensureList (Test.useId lvStyle))) := by
    unfold fullStyle
    rw [Record.field?_extend_of_not_mem (by decide)]
    rfl
  obtain rfl := Option.some.inj (hfield.symm.trans hf)
  exact ensureList_gives hanswer

end Accepted

/-! ## Agreement -/

theorem addStyle_sets (w : Widget) (style : Value) :
    (w.addStyle style (Level.select ⟨none, none⟩)).Sets (ownSetting w.obj) (.ok ()) [] := by
  have hjoined : Widget.joined "lv_state_t" (Level.select ⟨none, none⟩)
      = pure (.literal "(lv_state_t)(LV_PART_MAIN)") := rfl
  have hargs : arguments? [.cpp w.obj, .literal style.show,
      .literal "(lv_state_t)(LV_PART_MAIN)"] = _ := arguments?_three
  unfold Widget.addStyle
  rw [hjoined, pure_bind]
  refine .of_run_other hargs ?_
  unfold ownSetting
  dsimp only
  rw [show Text.hasPrefix "lv_obj_set_style_" "lv_obj_add_style" = false by decide, Bool.and_false]
  rfl

theorem carryOut_styles_sets (w : Widget) (xs : List Value) :
    (carryOut w (.styles ⟨none, none⟩ (.list xs))).Sets (ownSetting w.obj) (.ok ()) [] := by
  have hall : (xs.forM fun style => w.addStyle style (Level.select ⟨none, none⟩) :
      Build Unit).Sets (ownSetting w.obj) (.ok ()) [] := by
    induction xs with
    | nil => exact .of_pure ()
    | cons x xs ih => exact Build.Sets.bind (.of_lift (addStyle_sets w x)) ih
  exact Build.Sets.bind (.of_lift (.of_pure xs)) hall

/-- A style that a configuration may give, written into a sheet and given to an object, sets the
    same properties to the same values in the same order, whatever block is current and however often
    both have to wait for objects that lambdas or identifiers refer to.  If the sheet is finished,
    the properties are those that have a value, by the names they go by now.  If it fails, so does
    the object, and both have set the same before.  (A value that asks a rule for its choices is none
    that a configuration can give.) -/
theorem apply_agrees {given es : Entries} {s₀ s₁ : Session}
    (haccepted : (Schema.fullStyle.run (.dict given)).on s₀ = (.ok (.dict es), s₁))
    (hgiven : ∀ e ∈ given, Property.asksChoices e.2 = false) (sheet : Expr) (w : Widget)
    {s s' : Session} (hseen : s.seen = s'.seen) :
    (apply sheet (.dict es) s).Twin
      (Session.Meanwhile (Session.settings (sheetSetting sheet))
        (Session.settings (ownSetting w.obj)))
      (fun r t r' t' => (∃ ps,
          t.settings (sheetSetting sheet) = (s.settings (sheetSetting sheet)).map (· ++ ps)
          ∧ t'.settings (ownSetting w.obj) = (s'.settings (ownSetting w.obj)).map (· ++ ps)
          ∧ (r = .ok () → ps.map (·.1) = namesSet es allStyles))
        ∧ ∀ e, r = .error e → r' = .error e)
      (w.applyCommon (.dict es) s') := by
  have happly : apply sheet (.dict es) = applyAll sheet (.dict es) allStyles := rfl
  have hnames : (styleNames.filterMap fun n =>
      (es.get? n).map (Writing.property ⟨none, none⟩ n)) = allStyles.filterMap fun e =>
        (es.get? e.1).map (Writing.property ⟨none, none⟩ e.1) := filterMap_map
  -- the sheets that the object is given come first and set nothing
  have hstyles : (forM ((es.get? "styles").map (Writing.styles ⟨none, none⟩)).toList
      (carryOut w) : Build Unit).Sets (ownSetting w.obj) (.ok ()) [] := by
    cases hget : es.get? "styles" with
    | none => exact .of_pure ()
    | some v =>
      obtain ⟨xs, rfl⟩ := accepted_styles haccepted hget
      exact Build.Sets.bind (carryOut_styles_sets w xs) (.of_pure ())
  -- the options that are set on the object itself come last and set nothing either
  obtain ⟨last, hlast⟩ : ∃ r, (w.applyScroll (.dict es)
      (objectProperties.map (·.1))).Sets (ownSetting w.obj) r [] :=
    applyScroll_sets w (.dict es) (by decide +kernel)
  obtain ⟨t₀, ht₀, hseen₀, hset₀⟩ := hstyles s'
  have hloops := applyAll_agrees sheet w es allStyles
    (fun e he => ⟨property?_of_mem he, allStyles_null e he⟩)
    (fun e he v hv hnull => accepted_singles haccepted hgiven he hv hnull)
    (hseen.trans hseen₀.symm)
  rw [happly, applyCommon_bare (accepted_bare haccepted), writingsAt, forM_append, bind_assoc,
    bind_ok _ ht₀, hnames]
  refine hloops.bind_right (fun r t a t' hagreed => ?_) fun r t e t' hagreed => ?_
  · obtain rfl := hagreed.result
    obtain ⟨ps, hleft, hright, hps⟩ := hagreed.same
    obtain ⟨u, hu, -, hset⟩ := hlast t'
    rw [hu]
    refine ⟨⟨ps, hleft, ?_, hps⟩, fun e he => nomatch he⟩
    have hall := Session.settings_append (Session.settings_append hset₀ hright) hset
    rw [nil_append, append_nil] at hall
    exact hall
  · obtain rfl := hagreed.result
    obtain ⟨ps, hleft, hright, hps⟩ := hagreed.same
    exact ⟨⟨ps, hleft, Session.settings_append hset₀ hright, hps⟩, fun e he => he⟩

/-- A style with a length, a colour, and a lambda for a property by its old name. -/
def mixedStyle : Entries :=
  [("transform_angle", .lambda "return 450;"), ("pad_all", .str "5px"), ("bg_color", .int 255)]

def mixedSettings : List (String × String) :=
  [("bg_color", "lv_color_make(0, 0, 255)"), ("pad_all", "5"),
    ("transform_rotation", "static_cast<uint32_t>(450)")]

def mixedSetup : Session := { contexts := [Code.Context.setup], current := some 0 }

def mixedWidget : Widget := .fresh "page" (.pointer "page") .obj .null

def mixedAccepted : Entries :=
  [("transform_angle", .lambda "return 450;"), ("pad_all", .int 5), ("bg_color", .int 255)]

theorem mixedStyle_written :
    ∃ es s₁ t t', (fullStyle.run (.dict mixedStyle)).on {} = (.ok (.dict es), s₁)
      ∧ apply (.pointer "sheet") (.dict es) mixedSetup = .done (.ok ()) t
      ∧ mixedWidget.applyCommon (.dict es) mixedSetup = .done (.ok ()) t'
      ∧ t.settings (sheetSetting (.pointer "sheet")) = some mixedSettings :=
  ⟨mixedAccepted, _, _, _, rfl, eq_done_of_now (by decide +kernel),
    eq_done_of_now (by decide +kernel), by decide +kernel⟩

theorem apply_agrees_mixedStyle :
    ∃ es s₁ t t', (Schema.fullStyle.run (.dict mixedStyle)).on {} = (.ok (.dict es), s₁)
      ∧ apply (.pointer "sheet") (.dict es) mixedSetup = .done (.ok ()) t
      ∧ mixedWidget.applyCommon (.dict es) mixedSetup = .done (.ok ()) t'
      ∧ t.settings (sheetSetting (.pointer "sheet")) = some mixedSettings
      ∧ t'.settings (ownSetting (.pointer "page")) = some mixedSettings := by
  have hempty : ∀ read, mixedSetup.settings read = some [] := fun _ => rfl
  obtain ⟨es, s₁, t, t', haccepted, hsheet, hown, hset⟩ := mixedStyle_written
  have htwin := apply_agrees haccepted (by decide) (.pointer "sheet") mixedWidget
    (rfl : mixedSetup.seen = mixedSetup.seen)
  rw [hsheet, hown] at htwin
  obtain ⟨⟨ps, hleft, hright, -⟩, -⟩ := htwin
  rw [hset, hempty, Option.map_some, nil_append, Option.some.injEq] at hleft
  rw [hempty, Option.map_some, nil_append, ← hleft] at hright
  exact ⟨es, s₁, t, t', haccepted, hsheet, hown, hset, hright⟩

end Panel.Style
