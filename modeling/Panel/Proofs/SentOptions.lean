import Panel.Proofs.UpdateForms

/-! # Sent options — a setter is written for what counts as set, not for what is there

    Texts, lists of options and counts are looked at before they are sent: the empty text, the empty
    list and zero are passed over as if the option had not been given. -/

namespace Panel

open Cpp List Property Kinds Setting

variable {w : Widget} {g : Generator} {es es' : Entries} {key : String}
  {f : Widget → Value → Build Unit}

/-! ## What settings see -/

/-- Options that differ at most in the value of a key. -/
def Entries.AgreeBut (key : String) (es es' : Entries) : Prop :=
  ∀ other, other ≠ key → es'.get? other = es.get? other

theorem Setting.run_agree (h : es.AgreeBut key es') {st : Setting}
    (hst : key ∉ st.keys ++ st.fallbacks) : st.run w es' = st.run w es := by
  have hsame : ∀ other ∈ st.keys ++ st.fallbacks, es'.get? other = es.get? other :=
    fun other hother => h other fun heq => hst (heq ▸ hother)
  have hkeys : st.keys.mapM (es'.get?) = st.keys.mapM (es.get?) := by
    have hkeys : ∀ other ∈ st.keys, es'.get? other = es.get? other := fun other hother =>
      hsame other (mem_append_left _ hother)
    generalize st.keys = keys at hkeys
    induction keys with
    | nil => rfl
    | cons other keys ih =>
      obtain ⟨hother, hkeys⟩ := forall_mem_cons.mp hkeys
      rw [mapM_cons, mapM_cons, hother, ih hkeys]
  have hfallbacks : st.fallbacks.map (es'.get?) = st.fallbacks.map (es.get?) :=
    map_congr_left fun other hother => hsame other (mem_append_right _ hother)
  rw [run, run, hkeys, hfallbacks]

theorem Setting.runs_agree (h : es.AgreeBut key es') {sts : List Setting}
    (hsts : ∀ st ∈ sts, key ∉ st.keys ++ st.fallbacks) :
    forItems (fun st => st.run w es') sts = forItems (fun st => st.run w es) sts := by
  induction sts with
  | nil => rfl
  | cons st sts ih =>
    obtain ⟨hst, hsts⟩ := forall_mem_cons.mp hsts
    exact seq (run_agree h hst) (ih hsts)

/-! ## Code around a setter -/

/-- Runs a setter for an option that counts as set. -/
def ifSet (setter : Value → Build Unit) : Option Value → Build Unit
  | some v => if v.truthy then setter v else pure ()
  | none => pure ()

/-- Code that runs a setter where the option counts as set, between code that does not look at the
    option. -/
def SendsWhenSet (options : Entries → Build Unit) (key : String) (setter : Value → Build Unit) :
    Prop := ∀ es : Entries, ∃ before after : Build Unit, ∀ es', es.AgreeBut key es' →
    options es' = do
      before
      ifSet setter (es'.get? key)
      after

theorem SendsWhenSet.of_runs {options : Entries → Build Unit} (calls : Widget → String → Prop)
    (before after : Entries → Build Unit)
    (hoptions : ∀ es, options es = do
      before es
      (whenSet key calls f).run w es
      after es)
    (hbefore : ∀ es es', es.AgreeBut key es' → before es' = before es)
    (hafter : ∀ es es', es.AgreeBut key es' → after es' = after es) :
    SendsWhenSet options key (f w) := by
  refine fun es => ⟨before es, after es, fun es' h => ?_⟩
  rw [hoptions, hbefore es es' h, hafter es es' h, whenSet, run_one]
  rfl

theorem forItems_append {α : Type} (work : α → Build Unit) (xs ys : List α) :
    forItems work (xs ++ ys) = (do forItems work xs; forItems work ys) := by
  induction xs with
  | nil => rfl
  | cons x xs ih =>
    rw [cons_append, forItems, forItems, ih, bind_assoc]

/-- The code of a kind is its settings in turn, so it is enough that no other one sees the option. -/
theorem SendsWhenSet.of_writes {k : Kind} {calls : Widget → String → Prop}
    (first rest : List Setting) (hsettings : k.settings = first ++ whenSet key calls f :: rest)
    (hoptions : ∀ es, k.design.options g w (.dict es) = k.writes w es)
    (hothers : ∀ st ∈ first ++ rest, key ∉ st.keys ++ st.fallbacks) :
    SendsWhenSet (fun es => k.design.options g w (.dict es)) key (f w) := by
  obtain ⟨hfirst, hrest⟩ := forall_mem_append.mp hothers
  refine .of_runs calls (fun es => do k.opening; forItems (fun st => st.run w es) first)
    (fun es => forItems (fun st => st.run w es) rest) (fun es => ?_)
    (fun es es' h => seq rfl (runs_agree h hfirst)) (fun es es' h => runs_agree h hrest)
  rw [hoptions, Kind.writes, hsettings, forItems_append, bind_assoc]
  rfl

/-! ## The options that are sent -/

/-- The texts, lists of options and counts of the kinds, with what is written for them. -/
def sentOptions : List (Kind × String × (Widget → Value → Build Unit)) :=
  [(.label, "text", fun w v => do w.setProperty "text" (← Property.text.emit v) {}),
    (.button, "text", fun w v => do
      let child ← Code.callOf "lv_obj_get_child" [.cpp w.obj, .int 0]
      let inner := Widget.fresh "" child .label .null
      inner.note
      inner.setProperty "text" (← Property.text.emit v) {}),
    (.dropdown, "options", fun w v => Code.runMethod w.var "set_options" [v]),
    (.roller, "options", fun w v => Code.runMethod w.var "set_options" [v]),
    (.table, "row_count", fun w v => do
      let v ← Property.integer.emit v
      Code.run "lv_table_set_row_count" [.cpp w.obj, v]),
    (.table, "column_count", fun w v => do
      let v ← Property.integer.emit v
      Code.run "lv_table_set_column_count" [.cpp w.obj, v]),
    (.animimg, "repeat_count", fun w v =>
      Code.run "lv_animimg_set_repeat_count" [.cpp w.obj, v])]

theorem roller_sends : SendsWhenSet (fun es => roller.options g w (.dict es)) "options"
    fun v => Code.runMethod w.var "set_options" [v] := by
  refine .of_runs (w := w) (f := fun w v => Code.runMethod w.var "set_options" [v])
    (method "set_options")
    (fun es => do
      needComponents ["roller"]
      (whenSet "mode" (method "set_mode") fun w v => do
        let mode ← Constants.rollerModes.oneOf.emit v
        Code.runMethod w.var "set_mode" [mode]).run w es)
    (fun es => do
      applySelection w (.dict es)
        (literal ((Value.get? (.dict es) "animated").getD (.str "LV_ANIM_OFF")))
      propertyFor w (.dict es) Property.integer "visible_row_count")
    (fun es => ?_) (fun es es' h => seq rfl (run_agree h (by simp [whenSet, one])))
    (fun es es' h => ?_)
  · refine Eq.trans ?_ (bind_assoc _ _ _).symm
    refine seq rfl (step_set (fun v => (bind_assoc _ _ _).symm) ?_)
    exact step_set (fun v => rfl) rfl
  · have hanimated : Value.get? (.dict es') "animated" = Value.get? (.dict es) "animated" :=
      h "animated" (by simp)
    rw [hanimated]
    refine seq ?_ ?_
    · rw [applySelection_eq, applySelection_eq]
      exact seq (run_agree h (by simp [chosen, whenGiven, one]))
        (run_agree h (by simp [chosen, whenGiven, one]))
    · rw [propertyFor_eq, propertyFor_eq]
      exact run_agree h (by simp [property, whenGiven, one])

theorem animimg_sends : SendsWhenSet (fun es => animimg.options g w (.dict es)) "repeat_count"
    fun v => Code.run "lv_animimg_set_repeat_count" [.cpp w.obj, v] := by
  refine .of_runs (w := w) (f := fun w v => Code.run "lv_animimg_set_repeat_count" [.cpp w.obj, v])
    (only "lv_animimg_set_repeat_count")
    (fun es => do
      needComponents ["image", "animimg"]
      (whenSet "src" (only "lv_animimg_set_src") fun w v => do
        let pictures ← Property.imageList.emit v
        Code.run "lv_animimg_set_src" [.cpp w.obj, pictures]).run w es)
    (fun es => do
      (whenSet "duration" (only "lv_animimg_set_duration") fun w v =>
        Code.run "lv_animimg_set_duration" [.cpp w.obj, v]).run w es
      if (← required (.dict es) "auto_start").truthy then
        Code.run "lv_animimg_start" [.cpp w.obj])
    (fun es => ?_) (fun es es' h => seq rfl (run_agree h (by simp [whenSet, one])))
    (fun es es' h => ?_)
  · refine Eq.trans ?_ (bind_assoc _ _ _).symm
    refine seq rfl (step_set (fun v => (bind_assoc _ _ _).symm) ?_)
    exact seq (callIfSet_eq _ _ _) (seq (callIfSet_eq _ _ _) rfl)
  · have hstart : required (.dict es') "auto_start" = required (.dict es) "auto_start" := by
      simp only [required, h "auto_start" (by simp)]
    rw [hstart]
    exact seq (run_agree h (by simp [whenSet, one])) rfl

/-- Each of these setters is written exactly if its option counts as set, whatever the other options
    are: an option that is there with the empty text, the empty list or zero leaves the code as it
    would be without that option. -/
theorem sentOptions_whenSet {k : Kind} (h : (k, key, f) ∈ sentOptions) (g : Generator) (w : Widget) :
    SendsWhenSet (fun es => k.design.options g w (.dict es)) key (f w) := by
  simp only [sentOptions, mem_cons, not_mem_nil, or_false, Prod.mk.injEq] at h
  rcases h with ⟨rfl, rfl, rfl⟩ | ⟨rfl, rfl, rfl⟩ | ⟨rfl, rfl, rfl⟩ | ⟨rfl, rfl, rfl⟩ |
    ⟨rfl, rfl, rfl⟩ | ⟨rfl, rfl, rfl⟩ | ⟨rfl, rfl, rfl⟩
  · exact .of_writes (k := .label) [] _ rfl (fun es => label_options)
      (by simp [Setting.option, one])
  · exact .of_writes (k := .button) [] _ rfl (fun es => button_options) (by simp)
  · exact .of_writes (k := .dropdown) [] _ rfl (fun es => dropdown_options)
      (by simp [whenSet, chosen, whenGiven, one])
  · exact roller_sends
  · exact .of_writes (k := .table) [] _ rfl (fun es => table_options) (by simp [whenSet, one])
  · exact .of_writes (k := .table) [_] _ rfl (fun es => table_options) (by simp [whenSet, one])
  · exact animimg_sends

/-- A table that is told to have no rows is told nothing. -/
theorem sentOptions_zero_rows :
    table.options (.ofDepth 0) (.fresh "" (.raw "t") .table .null) (.dict [("row_count", .int 0)])
      = table.options (.ofDepth 0) (.fresh "" (.raw "t") .table .null) (.dict []) := by
  obtain ⟨before, after, h⟩ := sentOptions_whenSet (mem_of_getElem? (i := 4) rfl) (.ofDepth 0)
    (.fresh "" (.raw "t") .table .null) []
  refine (h _ fun other hother => ?_).trans (h _ fun _ _ => rfl).symm
  rw [Entries.get?_cons, if_neg]
  exact fun heq => hother (beq_iff_eq.mp heq).symm

end Panel
