import Panel.Proofs.Behaviours

/-! # Prompt work — code that is written without a pause

    The current block is one for all pieces of work, so code that is written for a block of its own
    must be written without a pause: what is done meanwhile by others would find the block current.
    Writing pauses only for widgets that are not there yet, and for objects that a value refers to.

    A few options of the kinds build further widgets, or blocks whose text is looked through for
    references again; these are options of new widgets only. -/

namespace Panel

open Cpp List

/-! ## Inside a block -/

/-- What work does to a session that stays inside the current block: it forgets no name and comes
    back to the block, and it changes no other block but those that it enters itself. -/
structure Session.Within (s t : Session) : Prop where
  current : t.current = s.current
  completed : t.completed = s.completed
  names : s.names ⊆ t.names
  blocks : s.blocks <+: t.blocks
  others : ∀ i < s.contexts.length, s.current ≠ some i → t.contexts[i]? = s.contexts[i]?

/-- The current block is as it was, and so are all blocks that were there. -/
structure Session.Apart (s t : Session) : Prop where
  current : t.current = s.current
  contexts : s.contexts <+: t.contexts

namespace Session

variable {s t u : Session}

theorem Within.length_contexts (h : s.Within t) : s.contexts.length ≤ t.contexts.length := by
  rw [← length_blocks, ← length_blocks]
  exact h.blocks.length_le

theorem Within.trans (hst : s.Within t) (htu : t.Within u) : s.Within u where
  current := htu.current.trans hst.current
  completed := htu.completed.trans hst.completed
  names := fun _ hn => htu.names (hst.names hn)
  blocks := hst.blocks.trans htu.blocks
  others i hi hcurrent :=
    (htu.others i (Nat.lt_of_lt_of_le hi hst.length_contexts) (hst.current ▸ hcurrent)).trans
      (hst.others i hi hcurrent)

theorem Within.of_contexts (hcontexts : t.contexts = s.contexts) (hcurrent : t.current = s.current)
    (hcompleted : t.completed = s.completed) (hnames : s.names ⊆ t.names) : s.Within t where
  current := hcurrent
  completed := hcompleted
  names := hnames
  blocks := by
    have hblocks : t.blocks = s.blocks := by rw [Session.blocks, Session.blocks, hcontexts]
    exact hblocks ▸ prefix_refl _
  others i _ _ := by rw [hcontexts]

theorem Within.of_modifyContext {f : Context → Context} (s : Session)
    (hf : ∀ c, ((f c).form, (f c).previous) = (c.form, c.previous)) :
    s.Within (Code.modifyContext f s) := by
  have hquiet : Session.Quiet [] s (Code.modifyContext f s) := .of_modifyContext s hf
  refine ⟨hquiet.current, ?_, hquiet.names, hquiet.blocks, fun i _ hcurrent => ?_⟩
  · unfold Code.modifyContext
    split <;> rfl
  · unfold Code.modifyContext
    split
    next j hj =>
      have hij : j ≠ i := fun h => hcurrent (h ▸ hj)
      exact (getElem?_modify f j s.contexts i).trans (by simp [hij])
    next => rfl

theorem Within.apart {c : Context} (h : ((Code.enter c).on s).2.Within t) :
    s.Apart ((Code.leave s.contexts.length).on t).2 where
  current := current_leave h.blocks
  contexts := by
    refine prefix_iff_getElem?.mpr fun i hi => ?_
    -- every block that was there has another number than the one that was entered
    have hother : ((Code.enter c).on s).2.current ≠ some i := fun hcurrent =>
      absurd (Option.some.inj hcurrent) (Nat.ne_of_gt hi)
    have hlength : i < ((Code.enter c).on s).2.contexts.length :=
      Nat.lt_of_lt_of_le hi (length_append ▸ Nat.le_add_right _ _)
    refine (h.others i hlength hother).trans ?_
    show (s.contexts ++ _)[i]? = _
    rw [getElem?_append_left hi, getElem?_eq_getElem hi]

theorem Apart.trans (hst : s.Apart t) (htu : t.Apart u) : s.Apart u :=
  ⟨htu.current.trans hst.current, hst.contexts.trans htu.contexts⟩

end Session

/-- Work inside the current block, while no other does anything. -/
def Habit.within : Habit where
  amid s t := t = s
  keeps := Session.Within
  allows _ := True
  amid_keeps h := h ▸ .of_contexts rfl rfl rfl (List.Subset.refl _)
  trans := Session.Within.trans
  aside {s t} h := by
    obtain ⟨-, hcontexts, hcurrent, hobjects, -, -, -, hcompleted, -⟩ :=
      Session.traced_eq_iff.mp h
    refine .of_contexts hcontexts hcurrent hcompleted ?_
    rw [Session.names, Session.names, hobjects]
    exact List.Subset.refl _
  plain _ := trivial
  item {i} s _ := Code.addItem_cases (P := fun x => s.Within x.2) i s
    (.of_contexts rfl rfl rfl (List.Subset.refl _))
    (fun _ _ => .of_contexts rfl rfl rfl (List.Subset.refl _)) (.of_modifyContext s fun _ => rfl)
  main _ _ := .of_contexts rfl rfl rfl (List.Subset.refl _)
  shift levels s := .of_modifyContext s fun _ => rfl
  object {s id} e _ := by
    refine .of_contexts rfl rfl rfl fun n hn => ?_
    obtain ⟨v, hv, rfl⟩ := List.mem_map.mp hn
    exact List.mem_map.mpr ⟨v, List.mem_append_left _ hv, rfl⟩
  style _ _ := .of_contexts rfl rfl rfl (List.Subset.refl _)
  block {s t c} _ h := by
    have hapart := h.apart
    refine ⟨hapart.current, h.completed, h.names, ?_, fun i hi _ => ?_⟩
    · exact hapart.contexts.map _
    · obtain ⟨rest, hrest⟩ := hapart.contexts
      rw [← hrest, List.getElem?_append_left hi]

def Quietness.within : Quietness := .all Habit.within fun _ => trivial

instance : Quietness.within.Open := ⟨fun _ _ => trivial⟩

instance : Quietness.within.Notes where
  note _ _ := .of_contexts rfl rfl rfl (List.Subset.refl _)
  change _ _ _ := .of_contexts rfl rfl rfl (List.Subset.refl _)

/-! ## Prompt work -/

theorem Build.waitFor_eq {α : Type} {answer : Session → Option (Except Failure α)} {s : Session}
    {r : Except Failure α} (h : answer s = some r) : waitFor answer s = .done r s := by
  unfold waitFor
  rw [h]

/-- Work that ends at once where all widgets are there and the objects of the given names, and that
    stays inside the current block. -/
structure Build.Prompt {α : Type} (names : Option String → Prop) (b : Build α) : Prop where
  ends : ∀ s, s.completed = true → (∀ n, names n → n ∈ s.names) →
    ∃ r t, b s = .done r t ∧ s.Within t

namespace Build

variable {α β : Type} {names : Option String → Prop}

theorem Prompt.bind {x : Build α} {f : α → Build β} (hx : x.Prompt names)
    (hf : ∀ {a s t}, x s = .done (.ok a) t → (f a).Prompt names) : (x >>= f).Prompt names := by
  refine ⟨fun s hcompleted hnames => ?_⟩
  obtain ⟨r, t, hdone, hst⟩ := hx.ends s hcompleted hnames
  cases r with
  | ok a =>
    obtain ⟨r', u, hdone', htu⟩ := (hf hdone).ends t (hst.completed.trans hcompleted)
      fun n hn => hst.names (hnames n hn)
    exact ⟨r', u, (bind_ok f hdone).trans hdone', hst.trans htu⟩
  | error e => exact ⟨.error e, t, bind_error f hdone, hst⟩

theorem Prompt.tryCatch {x : Build α} {f : Failure → Build α} (hx : x.Prompt names)
    (hf : ∀ e, (f e).Prompt names) : (tryCatch x f).Prompt names := by
  refine ⟨fun s hcompleted hnames => ?_⟩
  obtain ⟨r, t, hdone, hst⟩ := hx.ends s hcompleted hnames
  have hrun : (MonadExcept.tryCatch x f : Build α) s = (x s).recover f := rfl
  rw [hrun, hdone]
  cases r with
  | ok a => exact ⟨.ok a, t, rfl, hst⟩
  | error e =>
    obtain ⟨r', u, hdone', htu⟩ := (hf e).ends t (hst.completed.trans hcompleted)
      fun n hn => hst.names (hnames n hn)
    exact ⟨r', u, hdone', hst.trans htu⟩

theorem Writes.prompt {b : Build α} (h : b.Writes (Quietness.within.of []) names) :
    b.Prompt names := by
  have hlift : ∀ {γ : Type} {c : Check γ}, c.Heeds (Quietness.within.of []) →
      (liftM c : Build γ).Prompt names := fun {_ c} hc =>
    ⟨fun s _ _ => ⟨(c.on s).1, (c.on s).2, ofCheck_eq rfl, hc.on s⟩⟩
  induction h with
  | of_check hc => exact hlift hc
  | waitFor hthere =>
    refine ⟨fun s hcompleted hnames => ?_⟩
    obtain ⟨r, hr⟩ := Option.isSome_iff_exists.mp (hthere s hcompleted hnames)
    exact ⟨r, s, waitFor_eq hr, Habit.within.refl s⟩
  | lift_bind hc _ hf =>
    refine (hlift hc).bind fun {a s t} hdone => hf (a := a) (s := s) (t := t) ?_
    have hrun := (ofCheck_eq rfl).symm.trans hdone
    injection hrun with hok hst
    exact Prod.ext hok hst
  | bind _ _ hx hf => exact hx.bind fun _ => hf _
  | tryCatch _ _ hx hf => exact hx.tryCatch hf

end Build

/-! ## Options that build nothing -/

section

variable {q : Quietness} {names : Option String → Prop} {w : Widget} {g : Generator}
  {config : Value}

namespace Kinds

theorem scale_plain (h : config.OptionsCovered names) (hticks : config.get? "ticks" = none)
    (hlabels : config.get? "custom_label_cb" = none) :
    (scale.options g w config).Writes (q.of []) names := by
  have hticks : setAt? config "ticks" = none := by rw [setAt?, hticks]
  have hlabels : setAt? config "custom_label_cb" = none := by rw [setAt?, hlabels]
  unfold scale
  dsimp only
  rw [hticks, hlabels]
  repeat' first
    | with_reducible refine .bind ?_ fun _ => ?_
    | split
    | dsimp only
  all_goals grind

theorem menu_plain (hpages : config.get? "pages" = none) :
    (menu.options g w config).Writes (q.of []) names := by
  have hnone : itemsAt config "pages" = [] := by rw [itemsAt, hpages]
  unfold menu
  dsimp only
  rw [hnone]
  refine .first (needComponents_keeps _) fun _ => .bind (.of_pure _) fun _ => ?_
  grind

theorem tabview_plain (h : config.OptionsCovered names) (htabs : config.get? "tabs" = none) :
    (tabview.options g w config).Writes (q.of []) names := by
  have htabbarposition : Style.property? "tab_bar_position" = none :=
    Widget.property?_own _ (by decide)
  have htabbarsize : Style.property? "tab_bar_size" = none := Widget.property?_own _ (by decide)
  refine .required_bind fun position hposition => ?_
  refine .bind ((Property.oneOf_asks _).writes (h.get? (by decide) hposition)) fun _ => ?_
  refine .bind (Widget.setProperty_writes htabbarposition _ _) fun _ => ?_
  refine .required_bind fun size hsize => ?_
  refine .bind (Property.size_asks.writes (h.get? (by decide) hsize)) fun _ => ?_
  refine .bind (Widget.setProperty_writes htabbarsize _ _) fun _ => ?_
  exact .missing_bind htabs _

variable [q.Open]

@[grind ←]
theorem applySeries_plain {series : Value} (h : series.Covered names) :
    (applySeries w series).Writes (q.of []) names := by
  have hpairs : ∀ var xs ys, itemsAt series "x_points" = xs → itemsAt series "y_points" = ys →
      (applyPairs w var 0 (xs.zip ys)).Writes (q.of []) names := by
    rintro var xs ys rfl rfl
    refine applyPairs_writes var 0 fun pair hpair => ?_
    obtain ⟨hx, hy⟩ := of_mem_zip hpair
    exact ⟨h.options.itemsAt (by decide) hx, h.options.itemsAt (by decide) hy⟩
  unfold applySeries
  repeat' first
    | with_reducible refine .bind ?_ fun _ => ?_
    | split
    | dsimp only
  all_goals grind

@[grind ←]
theorem applyCursor_plain {cursor : Value} (h : cursor.Covered names) :
    (applyCursor w cursor).Writes (q.of []) names := by
  unfold applyCursor
  repeat' first
    | with_reducible refine Build.Writes.required_bind fun _ _ => ?_
    | with_reducible refine .bind ?_ fun _ => ?_
  all_goals grind

theorem chart_plain (h : config.OptionsCovered names) :
    (chart.options g w config).Writes (q.of []) names := by
  unfold chart
  repeat' first
    | with_reducible refine .bind ?_ fun _ => ?_
    | split
    | dsimp only
  all_goals grind

end Kinds

/-- The options whose code builds further widgets, or blocks of its own. -/
def Kind.buildingKeys : List String := ["ticks", "custom_label_cb", "tabs", "tiles", "pages"]

theorem Kind.options_plain [q.Open] [q.Changes] (k : Kind) (hnotes : k = .button ∨ k = .buttonmatrix → q.Notes)
    (h : config.OptionsCovered names) (hnone : ∀ key ∈ buildingKeys, config.get? key = none) :
    (k.design.options g w config).Writes (q.of []) names := by
  cases k with
  | chart => exact Kinds.chart_plain h
  | menu => exact Kinds.menu_plain (hnone _ (by decide))
  | scale => exact Kinds.scale_plain h (hnone _ (by decide)) (hnone _ (by decide))
  | tabview => exact Kinds.tabview_plain h (hnone _ (by decide))
  | tileview => exact .missing_bind (hnone "tiles" (by decide)) _
  | _ => exact Kinds.options_writes rfl hnotes h g w

end

end Panel
