import Panel.Proofs.UpdateOutcome

/-! # Calls of updates — which functions an update calls, and who asked for them

    An update is written into a block of its own, which nobody else writes to while it waits. -/

namespace Panel

open Cpp List Code

variable {function name f : String} {st : Setting} {α : Type} {w : Widget} {b : Build α}

/-! ## Calls -/

/-- The function that an item calls; a ready line that ends in a bracket and a semicolon calls what
    stands before its first bracket. -/
def Cpp.Item.callee? : Item → Option String
  | .expr (.object (.call f _ _) _) => some f.render
  | .raw line =>
    if Text.hasSuffix ");" line then
      some (Text.trim (String.ofList (line.toList.takeWhile (· != '('))))
    else none
  | _ => none

theorem Cpp.Item.Plain.callee? {i : Item} (h : i.Plain) : i.callee? = none := by
  unfold Item.Plain at h
  split at h
  · rfl
  · rfl
  · rfl
  · next line =>
      show (if Text.hasSuffix ");" line = true then _ else none) = none
      rw [h]
      rfl
  · exact h.elim

/-- A block has grown by statements of which the calls are such. -/
def Context.Called (p : String → Prop) (c c' : Context) : Prop :=
  ∃ more : List Stmt, c'.code = c.code ++ more ∧ ∀ x ∈ more, ∀ f, x.inner.callee? = some f → p f

/-- The blocks of a session have grown by statements of which the calls are such. -/
def Session.Called (p : String → Prop) (s t : Session) : Prop :=
  ∀ (i : Nat) (c : Context), s.contexts[i]? = some c →
    ∃ c', t.contexts[i]? = some c' ∧ c.Called p c'

namespace Context.Called

variable {p : String → Prop} {c c' c'' : Context}

theorem of_eq (h : c'.code = c.code) : Called p c c' :=
  ⟨[], by rw [h, append_nil], nofun⟩

theorem trans (h : Called p c c') (h' : Called p c' c'') : Called p c c'' := by
  obtain ⟨more, hcode, hmore⟩ := h
  obtain ⟨more', hcode', hmore'⟩ := h'
  refine ⟨more ++ more', by rw [hcode', hcode, append_assoc], fun x hx => ?_⟩
  rcases mem_append.mp hx with hx | hx
  · exact hmore x hx
  · exact hmore' x hx

end Context.Called

namespace Session.Called

variable {p : String → Prop} {s t u : Session} {f : Context → Context}

theorem of_eq (h : t.contexts = s.contexts) : Called p s t := fun _ c hc =>
  ⟨c, h ▸ hc, .of_eq rfl⟩

theorem trans (hst : Called p s t) (htu : Called p t u) : Called p s u := by
  intro i c hc
  obtain ⟨c', hc', hcalled⟩ := hst i c hc
  obtain ⟨c'', hc'', hcalled'⟩ := htu i c' hc'
  exact ⟨c'', hc'', hcalled.trans hcalled'⟩

theorem of_modify (j : Nat) (hf : ∀ c : Context, c.Called p (f c))
    (h : t.contexts = s.contexts.modify j f) : Called p s t := by
  intro i c hc
  rw [h, getElem?_modify, hc]
  by_cases hij : j = i
  · exact ⟨f c, by simp [hij], hf c⟩
  · exact ⟨c, by simp [hij], .of_eq rfl⟩

theorem of_modifyContext (s : Session) (hf : ∀ c : Context, c.Called p (f c)) :
    Called p s (modifyContext f s) := by
  unfold modifyContext
  split
  · next j _ => exact of_modify j hf rfl
  · exact of_eq rfl

end Session.Called

/-! ## Calling -/

/-- Work that only calls such functions in the blocks that are there; others leave these blocks
    alone. -/
@[reducible]
def Habit.calling (p : String → Prop) : Habit where
  amid s t := ∀ (i : Nat) (c : Context), s.contexts[i]? = some c →
    ∃ c', t.contexts[i]? = some c' ∧ c'.code = c.code
  keeps := Session.Called p
  allows i := ∀ f, i.callee? = some f → p f
  amid_keeps h i c hc := by
    obtain ⟨c', hc', hcode⟩ := h i c hc
    exact ⟨c', hc', .of_eq hcode⟩
  trans := Session.Called.trans
  aside h := .of_eq (congrArg (·.2.1) h)
  plain h f hf := by
    rw [h.callee?] at hf
    cases hf
  item {i} s h := by
    refine Code.addItem_cases (P := fun x => s.Called p x.2) i s (.of_eq rfl) (fun _ _ => .of_eq rfl)
      (.of_modifyContext s fun c => ⟨_, rfl, fun x hx f hf => ?_⟩)
    rw [List.mem_singleton.mp hx] at hf
    exact h f hf
  main s _ := .of_eq rfl
  shift levels s := Session.Called.of_modifyContext s fun c => .of_eq rfl
  object _ _ := .of_eq rfl
  style _ _ := .of_eq rfl
  block {s t c} _ h i b hb := by
    refine h i b ?_
    show (s.contexts ++ [_])[i]? = some b
    rw [List.getElem?_append_left (List.getElem?_eq_some_iff.mp hb).1, hb]

theorem Habit.calls_calling {p : String → Prop} (h : p f) : (Habit.calling p).Calls f := by
  intro args g hg
  cases hg
  exact h

theorem Build.Heeds.calling_mono {p q : String → Prop} (h : b.Heeds (.calling p))
    (hpq : ∀ f, p f → q f) : b.Heeds (.calling q) := by
  refine ⟨fun s => (h.ends s).mono fun _ t ht i c hc => ?_⟩
  obtain ⟨c', hc', more, hcode, hmore⟩ := ht i c hc
  exact ⟨c', hc', more, hcode, fun x hx f hf => hpq f (hmore x hx f hf)⟩

theorem Cpp.Item.callee?_raw {line front : String} (hline : front.toList ++ ['('] <+: line.toList)
    (hfront : '(' ∉ front.toList) (h : (Item.raw line).callee? = some f) : f = Text.trim front := by
  have htake : line.toList.takeWhile (· != '(') = front.toList := by
    obtain ⟨rest, hrest⟩ := hline
    rw [← hrest, append_assoc, takeWhile_append_of_pos]
    · exact append_nil _
    · intro c hc
      rw [bne_iff_ne]
      exact fun hbracket => hfront (hbracket ▸ hc)
  unfold Item.callee? at h
  dsimp only at h
  split at h
  · rw [htake, String.ofList_toList] at h
    exact (Option.some.inj h).symm
  · cases h

/-! ## Settings -/

namespace Setting

variable {p : Property} {args : List Value}

def Honest (st : Setting) : Prop :=
  ∀ w vs more, (st.write w vs more).Heeds (.calling fun f => st.calls w f ∨ f ∈ st.besides)

variable {key : String} {calls : Widget → String → Prop} {f : Widget → Value → Build Unit}

section

variable (h : ∀ w v, (f w v).Heeds (.calling (calls w)))

include h

theorem honest_one : (one key calls f).Honest := by
  intro w vs more
  dsimp only [one]
  split
  · exact (h w _).calling_mono fun _ => .inl
  · exact .of_pure _

omit h in
theorem honest_two {other : String} {f : Widget → Value → Value → Build Unit}
    (h : ∀ w v x, (f w v x).Heeds (.calling (calls w))) : (two key other calls f).Honest := by
  intro w vs more
  dsimp only [two]
  split
  · exact (h w _ _).calling_mono fun _ => .inl
  · exact .of_pure _

theorem honest_whenSet :
    (whenSet key calls f).Honest := by
  refine honest_one fun w v => ?_
  split
  · exact h w v
  · exact .of_pure _

theorem honest_whenGiven :
    (whenGiven key calls f).Honest := by
  refine honest_one fun w v => ?_
  split
  · exact .of_pure _
  · exact h w _

end

theorem honest_unasked (h : st.Honest) (hcalls : st.calls = only function)
    (hbesides : st.besides = []) : (unasked [function] st).Honest := by
  intro w vs more
  refine (h w vs more).calling_mono fun f hf => .inr ?_
  rw [hcalls, hbesides] at hf
  exact mem_singleton.mpr (hf.resolve_right not_mem_nil)

theorem run_calling {p : String → Prop} (h : p function) :
    (Code.run function args : Build Unit).Heeds (.calling p) :=
  .of_lift (run_keeps (Habit.calls_calling h) _)

theorem run_args :
    (Code.run function args : Build Unit).Heeds (.calling (only function w)) := run_calling rfl

theorem methods_method (name : String) (w : Widget) :
    (Habit.calling (method name w)).Methods w.var name := by
  intro args g hg
  cases hg
  rfl

theorem calls_setter (name : String) (w : Widget) :
    (Habit.calling (setter name w)).Calls (w.setterStem {} ++ renamed name) :=
  Habit.calls_calling rfl

theorem honest_option {writer : Option Property} (hwriter : ∀ p, writer = some p → p.Asks) :
    (Setting.option name writer).Honest :=
  honest_one fun w _ => Widget.setOption_keeps (calls_setter name w) _ hwriter

theorem honest_property (hp : p.Asks) (name : String) : (property p name).Honest :=
  honest_whenGiven fun w v => .bind (hp.keeps.emit v) fun _ =>
    Widget.setProperty_keeps (calls_setter name w) _

theorem honest_call (hp : p.Asks) (function key : String) : (call function key p).Honest :=
  honest_whenGiven fun _ v => .bind (hp.keeps.emit v) fun _ => run_args

theorem choose_keeps (hp : p.Asks) (key : String) (animation : Value) (w : Widget) (v : Value) :
    (choose key p animation w v).Heeds (.calling (method ("set_" ++ key) w)) :=
  .bind (hp.keeps.emit v) fun _ => .of_lift (runMethod_keeps (methods_method _ w) _)

theorem honest_chosen (hp : p.Asks) (key : String) (animation : Value) :
    (chosen key p animation).Honest :=
  honest_whenGiven (choose_keeps hp key animation)

theorem honest_chosenAnimated (hp : p.Asks) (key : String) : (chosenAnimated key p).Honest := by
  refine honest_two fun w v animated => ?_
  split
  · exact .of_pure _
  · exact choose_keeps hp key _ w _

end Setting

/-! ## The settings of the kinds -/

namespace Kind

open Setting Property

variable {key : String}

theorem honest_cons {sts : List Setting} (h : st.Honest) (hsts : ∀ st ∈ sts, st.Honest) :
    ∀ st' ∈ st :: sts, st'.Honest :=
  forall_mem_cons.mpr ⟨h, hsts⟩

theorem honest_nil : ∀ st ∈ ([] : List Setting), st.Honest := nofun

theorem run_only {args : α → List Value} (hb : ∀ r, b.Heeds r) :
    (do run function (args (← b)) : Build Unit).Heeds (.calling (only function w)) :=
  .bind (hb _) fun _ => run_args

theorem set_emitted {p : Property} (hp : p.Asks) (v : Value) :
    (do w.setProperty name (← p.emit v) {} : Build Unit).Heeds (.calling (setter name w)) :=
  .bind (hp.keeps.emit v) fun _ => Widget.setProperty_keeps (calls_setter name w) _

theorem honest_options {options : List (String × Property)} (h : ∀ e ∈ options, e.2.Asks) :
    ∀ st ∈ options.map (fun (name, p) => Setting.option name (some p)), st.Honest := by
  intro st hst
  obtain ⟨e, he, rfl⟩ := mem_map.mp hst
  exact honest_option fun p hp => Option.some.inj hp ▸ h e he

theorem settings_honest (k : Kind) : ∀ st ∈ k.settings, st.Honest := by
  cases k with
  | animimg =>
    refine honest_cons ?_ (honest_cons ?_ (honest_cons ?_ (honest_cons ?_ honest_nil)))
    · exact honest_whenSet fun w v => run_only fun r => imageList_asks.keeps.emit v
    · exact honest_unasked (honest_whenSet fun w v => run_args) rfl rfl
    · exact honest_whenSet fun w v => run_args
    · exact honest_unasked (honest_whenSet fun w v => run_args) rfl rfl
  | arc =>
    intro st hst
    rcases mem_append.mp hst with hst | hst
    · exact honest_options (by simp [Kinds.arcOptions]) st hst
    · rw [mem_singleton.mp hst]
      exact honest_one fun w v => set_emitted integer_asks v
  | arclabel =>
    refine honest_cons (fun w vs more => ?_) honest_nil
    dsimp only
    split
    · refine .bind (text_asks.keeps.emit _) fun _ => .first ?_ fun _ =>
        .bind (pixels_asks.keeps.emit _) fun _ => .first ?_ fun _ =>
          .first ?_ fun _ => .first (Kinds.arcSize_keeps _ _) fun _ =>
            .first ?_ fun _ => .first ?_ fun _ =>
              .ask (Value.multiply_still _ _) fun _ =>
                .ask (Value.plus_still _ _) fun _ => .of_lift ?_
      · exact run_keeps (Habit.calls_calling (.inl rfl)) _
      all_goals exact run_keeps (Habit.calls_calling (.inr (by decide))) _
    · exact .of_pure _
  | bar =>
    refine honest_cons ?_ (honest_cons ?_ (honest_cons ?_ (honest_cons ?_ honest_nil)))
    · exact honest_whenSet fun w v => run_args
    · exact honest_two fun w low high => .bind (integer_asks.keeps.emit low) fun _ =>
        run_only fun r => integer_asks.keeps.emit high
    all_goals
      refine honest_two fun w v animated => .bind (integer_asks.keeps.emit v) fun v => ?_
      split
      · exact run_args
      · exact .of_pure _
  | button =>
    refine honest_cons (honest_whenSet fun w v => ?_) honest_nil
    refine .ask (callOf_still _ _) fun child =>
      .first (Widget.note_keeps fun s => .of_eq rfl) fun _ =>
        .bind (text_asks.keeps.emit v) fun _ => Widget.setProperty_keeps (Habit.calls_calling ?_) _
    show "lv_" ++ Kind.label.traits.libraryName ++ "_set_" ++ renamed "text" = "lv_label_set_text"
    decide
  | dropdown =>
    refine honest_cons ?_ (honest_cons ?_ (honest_cons ?_ (honest_cons ?_ (honest_cons ?_
      (honest_cons ?_ honest_nil)))))
    · exact honest_whenSet fun w v => .of_lift (runMethod_keeps (methods_method _ w) _)
    · exact honest_whenSet fun w v => run_only fun r => text_asks.keeps.emit v
    · exact honest_chosen integer_asks _ _
    · exact honest_chosen text_asks _ _
    · exact honest_whenSet fun w v => run_args
    · refine honest_whenSet fun w v => .ask (callOf_still _ _) fun inner => ?_
      refine withLocal_keeps (by decide) _ _ _ fun var => Widget.applyCommon_keeps ?_ v
      rintro f (hf | hf | ⟨hcell, -⟩)
      · exact Habit.calls_calling (.inl hf)
      · exact Habit.calls_calling (.inr hf)
      · exact absurd rfl hcell
  | image =>
    refine honest_cons (honest_one fun w v => set_emitted image_asks v) ?_
    exact honest_options (by simp [Kinds.imageOptions])
  | keyboard =>
    refine honest_cons ?_ (honest_cons ?_ honest_nil)
    · exact honest_whenSet fun w v => set_emitted (oneOf_asks _) v
    · refine honest_one fun w v => .bind (Widget.targets_keeps _ _) fun areas => ?_
      split
      · exact Widget.setProperty_keeps (calls_setter _ w) _
      · exact .of_pure _
  | label =>
    refine honest_cons ?_ (honest_cons ?_ (honest_cons ?_ honest_nil))
    · exact honest_whenSet fun w v => set_emitted text_asks v
    · exact honest_option nofun
    · exact honest_option nofun
  | line =>
    exact honest_cons (honest_one fun w v => .first (Widget.walked_keeps v) fun ps =>
      .bind (Kinds.emitPoints_keeps ps) fun _ =>
        .of_lift (runMethod_keeps (methods_method _ w) _)) honest_nil
  | list =>
    refine honest_cons (honest_one fun w v => .forItems fun item _ => ?_) honest_nil
    refine .required fun type =>
      .required fun text => .bind (text_asks.keeps.emit text) fun text => ?_
    repeat' split
    · exact .bind (image_asks.keeps.emit _) fun _ => run_calling (.inl rfl)
    · exact run_calling (.inl rfl)
    · exact run_calling (.inr rfl)
  | lottie =>
    refine honest_cons ?_ (honest_cons (fun w vs more => ?_) honest_nil)
    · refine honest_two fun w width height =>
        .bind run_args fun _ => .of_lift (Kinds.includeOnce_keeps ?_ _)
      exact fun s => rfl
    · dsimp only
      split
      · split
        · refine .of_lift (addItem_keeps fun f hf => .inr ?_)
          have hname : f = Text.trim "\n    esphome::lvgl::lottie_init" := by
            refine Item.callee?_raw ?_ (by decide) hf
            simp only [String.toList_append, append_assoc]
            exact prefix_append "\n    esphome::lvgl::lottie_init(".toList _
          rw [hname]
          decide
        · exact .of_pure _
      · exact .of_pure _
  | menu =>
    exact honest_cons (fun w vs more => run_calling (.inr (by decide))) honest_nil
  | qrcode =>
    refine honest_cons (honest_property color_asks _) (honest_cons (honest_property color_asks _)
        (honest_cons (honest_property integer_asks _)
          (honest_cons (honest_whenGiven fun w v => ?_) honest_nil)))
    unfold Kinds.applyCodeText
    split
    · exact run_args
    · exact .bind (text_asks.keeps.emit v) fun _ =>
        withLocal_keeps (by decide) _ _ _ fun var => run_args
  | roller =>
    refine honest_cons ?_ (honest_cons ?_ (honest_cons ?_ (honest_cons ?_ (honest_cons ?_
      honest_nil))))
    · exact honest_whenSet fun w v => .bind ((oneOf_asks _).keeps.emit v) fun _ =>
        .of_lift (runMethod_keeps (methods_method _ w) _)
    · exact honest_whenSet fun w v => .of_lift (runMethod_keeps (methods_method _ w) _)
    · exact honest_chosenAnimated integer_asks _
    · exact honest_chosenAnimated text_asks _
    · exact honest_property integer_asks _
  | slider =>
    refine honest_cons (honest_two fun w v animated =>
      .bind (integer_asks.keeps.emit v) fun v => ?_) honest_nil
    split
    · exact .of_pure _
    · exact run_args
  | spinbox =>
    have hscale : ∀ config r, (Kinds.spinScale config).Heeds r := fun config r =>
      .bind (required_still config _).keeps fun v => (Value.tenTo_still v).keeps
    exact honest_cons (honest_whenGiven fun w v => .bind (number_asks.keeps.emit v) fun v =>
      .ask (express_still v) fun _ => .first (hscale _ _) fun scale =>
        .ask (express_still scale) fun _ => run_args) honest_nil
  | spinner =>
    refine honest_cons (fun w vs more => ?_) honest_nil
    dsimp only
    split
    · exact .bind (milliseconds_asks.keeps.emit _) fun _ =>
        .ask (Test.convertInt_still _) fun _ => run_calling (.inr (by decide))
    · exact .of_pure _
  | svg =>
    refine honest_cons (honest_two fun w width height =>
      .bind run_args fun _ => .of_lift (Kinds.includeOnce_keeps ?_ _)) honest_nil
    exact fun s => rfl
  | table =>
    refine honest_cons ?_ (honest_cons ?_ (honest_cons ?_ (honest_cons ?_ honest_nil)))
    · exact honest_whenSet fun w v => run_only fun r => integer_asks.keeps.emit v
    · exact honest_whenSet fun w v => run_only fun r => integer_asks.keeps.emit v
    · exact honest_one fun w v => .forItems fun column _ => .required fun _ => .required fun _ =>
        run_args
    · exact honest_one fun w v => .forItems fun cell _ => .required fun _ => .required fun _ =>
        .required fun text => run_only fun r => text_asks.keeps.emit text
  | checkbox | led | textarea =>
    simp only [settings, forall_mem_cons, not_mem_nil, false_implies, implies_true, and_true,
      honest_call, honest_property, text_asks, color_asks, percentage_asks, integer_asks,
      boolean_asks]
  | _ => exact honest_nil

/-! ## Updates -/

/-- The functions that updates of a kind call without an option that asks for them. -/
def unasked (k : Kind) : List String := k.settings.flatMap (·.besides)

/-- The options of updates of a kind that have a value of their own if they are not written. -/
def defaulted (k : Kind) : List String :=
  ((k.design.changes .exhausted).filter (·.default?.isSome)).map (·.key)

theorem default?_eq_none {k : Kind} {gr : Grammar} (hkey : key ∉ k.defaulted) :
    ∀ f ∈ k.design.changes gr, f.key = key → f.default? = none := by
  intro f hf hfkey
  have hchanges : (k.design.changes gr).map (fun f => (f.key, f.default?.isSome))
      = (k.design.changes .exhausted).map fun f => (f.key, f.default?.isSome) := by
    cases k <;> rfl
  have hmem : (f.key, f.default?.isSome)
      ∈ (k.design.changes .exhausted).map fun f => (f.key, f.default?.isSome) := by
    rw [← hchanges]
    exact mem_map.mpr ⟨f, hf, rfl⟩
  obtain ⟨f', hf', heq⟩ := mem_map.mp hmem
  rw [Prod.mk.injEq] at heq
  rw [← Option.not_isSome_iff_eq_none]
  intro hsome
  exact hkey (mem_map.mpr ⟨f', mem_filter.mpr ⟨hf', heq.2.trans hsome⟩, heq.1.trans hfkey⟩)

theorem settings_asked (k : Kind) : ∀ st ∈ k.settings,
    (∀ w f, ¬ st.calls w f) ∨ ∃ key, st.keys.head? = some key ∧ key ∉ k.defaulted := by
  have hplain : ∀ {k : Kind},
      (k.settings.all fun st => st.keys.head?.any fun key => !k.defaulted.contains key) = true →
        ∀ st ∈ k.settings, ∃ key, st.keys.head? = some key ∧ key ∉ k.defaulted := by
    intro k hall st hst
    obtain ⟨key, hkey, h⟩ := (Option.any_eq_true _ _).mp (all_eq_true.mp hall st hst)
    exact ⟨key, hkey, by simpa using h⟩
  cases k with
  | animimg =>
    exact forall_mem_cons.mpr ⟨.inr ⟨"src", rfl, by decide +kernel⟩,
      forall_mem_cons.mpr ⟨.inl fun _ _ h => h,
        forall_mem_cons.mpr ⟨.inr ⟨"duration", rfl, by decide +kernel⟩,
          forall_mem_singleton.mpr (.inl fun _ _ h => h)⟩⟩⟩
  | menu => exact forall_mem_singleton.mpr (.inl fun _ _ h => h)
  | spinner => exact forall_mem_singleton.mpr (.inl fun _ _ h => h)
  | _ => exact fun st hst => .inr (hplain (by decide +kernel) st hst)

variable {k : Kind} {gr : Grammar} {written es : Entries} {w : Widget}

theorem has_of_mapM {keys : List String} {vs : List Value}
    (hvalues : keys.mapM (es.get?) = some vs) (hkey : keys.head? = some key) :
    es.has key = true := by
  cases keys with
  | nil => cases hkey
  | cons first rest =>
    obtain rfl : first = key := Option.some.inj hkey
    rw [mapM_cons] at hvalues
    cases hget : es.get? first with
    | none =>
      rw [hget] at hvalues
      cases hvalues
    | some v => exact Entries.has_of_get? hget

/-- Is a function called for an option that was written, or unasked? -/
def Answers (k : Kind) (written : Entries) (w : Widget) (f : String) : Prop :=
  (∃ st ∈ k.settings, (∃ key, st.keys.head? = some key ∧ Entries.has written key = true)
    ∧ st.calls w f) ∨ f ∈ k.unasked

theorem opening_keeps {r : Habit} (k : Kind) : k.opening.Heeds r := by
  unfold opening
  split
  all_goals grind

theorem run_answers (h : (k.updateRecord gr).Accepted written es) (hst : st ∈ k.settings) :
    (st.run w es).Heeds (.calling (k.Answers written w)) := by
  cases hvalues : st.keys.mapM (es.get?) with
  | none =>
    rw [run_of_missing hvalues]
    exact .of_pure _
  | some vs =>
    rw [run_of_keys hvalues]
    refine (settings_honest k st hst w vs _).calling_mono fun f hf => ?_
    rcases hf with hcalls | hbesides
    · obtain ⟨key, hkey, hplain⟩ := (settings_asked k st hst).resolve_left fun h => h w f hcalls
      have hhas : es.has key = true := has_of_mapM hvalues hkey
      exact .inl ⟨st, hst, ⟨key, hkey, has_written h (default?_eq_none hplain) hhas⟩, hcalls⟩
    · exact .inr (mem_flatMap.mpr ⟨st, hst, hbesides⟩)

theorem fails_answers (h : (k.updateRecord gr).Accepted written es) (key : String) :
    (k.fails w es key).Heeds (.calling (k.Answers written w)) := by
  refine .bind ?_ fun _ => .of_throw _
  unfold before
  split
  · exact .bind (.forItems fun st hst => run_answers h (mem_of_mem_take hst)) fun _ =>
      .bind (integer_asks.keeps.emit _) fun _ => .of_pure _
  · exact opening_keeps k

/-- The calls of an accepted update.  The code of a kind calls the functions of the settings whose
    first option was written in the update.  Five kinds call more: when the animation of a picture
    or a spinner or the back button of a menu is set without being asked for, and when a text or a
    source is changed together with options that were left out. -/
theorem update_calls (hk : k ∈ updated) {v config : Value} {s s' : Session}
    (haccept : ((Automation.updateOf k k.design).rule gr v).on s = (.ok config, s')) (n : Nat)
    (hw : w.kind = k) :
    (∃ written, v = .dict written
      ∧ ((Generator.ofDepth (n + 1)).options w config).Heeds (.calling (k.Answers written w)))
    ∧ (k ∉ [animimg, arclabel, lottie, menu, spinner] → k.unasked = []) := by
  constructor
  · obtain ⟨written, es, hv, rfl, h⟩ := update_accepted haccept
    have hheeds : (w.kind.design.options (Generator.ofDepth n) w (.dict es)).Heeds
        (.calling (k.Answers written w)) := by
      rw [hw, update_options hk h, outcome]
      split
      · exact fails_answers h _
      · exact .bind (opening_keeps k) fun _ => .forItems fun _ hst => run_answers h hst
    exact ⟨written, hv, hheeds⟩
  · intro hothers
    cases k <;> first
      | rfl
      | exact absurd (by simp) hothers

def colouredSpinner : Entries := [("id", .str "s1"), ("bg_color", .int 255)]

def existingSpinner : Widget := .fresh "s1" (.raw "s1") .spinner .null

/-- The functions that the code of a kind calls in a new block, for what a rule gave. -/
def calledFor (w : Widget) : Except Failure Value → List String
  | .error _ => []
  | .ok config =>
    match (Generator.ofDepth 1).options w config
        { contexts := [Code.Context.lambda []], current := some 0 } with
    | .done _ t => (t.contexts.flatMap (·.code)).filterMap (·.inner.callee?)
    | .waiting _ _ _ => []

/-- A spinner that is given a colour is given a spin, too. -/
theorem update_calls_spinner : ∃ config s',
    ((Automation.updateOf .spinner Kind.spinner.design).rule .exhausted (.dict colouredSpinner)).on {}
      = (.ok config, s')
    ∧ ((Generator.ofDepth 1).options existingSpinner config).Heeds
        (.calling (spinner.Answers colouredSpinner existingSpinner))
    ∧ calledFor existingSpinner (.ok config) = ["lv_spinner_set_anim_params"]
    ∧ Entries.has colouredSpinner "arc_length" = false
    ∧ Entries.has colouredSpinner "spin_time" = false := by
  obtain ⟨config, s', haccept, hcalled⟩ := Check.exists_on_ok (s := {})
    (P := (calledFor existingSpinner · = ["lv_spinner_set_anim_params"]))
    (c := (Automation.updateOf .spinner Kind.spinner.design).rule .exhausted (.dict colouredSpinner))
    (by decide +kernel) nofun
  obtain ⟨⟨written, hwritten, hkeeps⟩, -⟩ :=
    update_calls (w := existingSpinner) (by simp [updated, all]) haccept 0 rfl
  obtain rfl : colouredSpinner = written := Value.dict.inj hwritten
  exact ⟨config, s', haccept, hkeeps, hcalled, by decide, by decide⟩

end Kind

end Panel
