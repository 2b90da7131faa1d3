import Panel.Proofs.Questions
import Panel.Registry

/-! # Fairness — rules that see the configuration and not what was noted before

    Rules keep notes for later stages: features that are used, fonts, updates.  They also read the
    session: the loaded integrations, the files, the sizes that flexible children get. -/

namespace Panel

variable {f : Field} {v : Value} {ts : List Test} {xs : List Value} {es : Entries}
  {more : List Field} {α : Type} {e : String × Value} {q : Prop}

/-! ## Sessions that differ in notes -/

namespace Session

def unnoted (s : Session) : Session :=
  { s with
    uses := []
    fontsUsed := []
    clientFonts := []
    components := []
    focused := []
    refreshed := []
    updated := []
    remapped := [] }

/-- A session without notes and without the sizes of flexible children. -/
def bare (s : Session) : Session := { s.unnoted with stretched := [] }

end Session

def Alike (s t : Session) : Prop := s.unnoted = t.unnoted

namespace Alike

variable {s t u : Session}

theorem refl (s : Session) : Alike s s := rfl

theorem symm (h : Alike s t) : Alike t s := Eq.symm h

theorem trans (h : Alike s t) (h' : Alike t u) : Alike s u := Eq.trans h h'

theorem same {f : Session → α} (hf : ∀ s, f s.unnoted = f s) (h : Alike s t) : f s = f t := by
  rw [← hf s, ← hf t]
  exact congrArg f h

theorem of_bare (h : s.bare = t.bare) (hsizes : s.stretched = t.stretched) : Alike s t := by
  cases s
  cases t
  simp only [Session.bare, Session.unnoted, Session.mk.injEq] at h
  simp only [Alike, Session.unnoted, Session.mk.injEq]
  simp_all

end Alike

/-- What fair work may change: notes, and the sizes of flexible children, which only become more
    and stay the same where a condition holds. -/
structure Leads (p : Prop) (s t : Session) : Prop where
  bare : t.bare = s.bare
  grown : s.stretched ⊆ t.stretched
  kept : p → t.stretched = s.stretched

namespace Leads

variable {p q : Prop} {s t u : Session}

theorem refl (s : Session) : Leads p s s := ⟨rfl, fun _ h => h, fun _ => rfl⟩

theorem trans (h : Leads p s t) (h' : Leads p t u) : Leads p s u :=
  ⟨h'.bare.trans h.bare, fun _ hd => h'.grown (h.grown hd),
    fun hp => (h'.kept hp).trans (h.kept hp)⟩

theorem mono (h : Leads p s t) (hqp : q → p) : Leads q s t :=
  ⟨h.bare, h.grown, fun hq => h.kept (hqp hq)⟩

theorem of_alike (h : Alike t s) : Leads p s t := by
  have hsizes : t.stretched = s.stretched := h.same (f := Session.stretched) fun _ => rfl
  exact ⟨congrArg (fun u : Session => { u with stretched := [] }) h,
    fun _ hd => hsizes ▸ hd, fun _ => hsizes⟩

end Leads

/-! ## Fair work -/

namespace Check

variable {α β : Type} {p q : Prop}

/-- Work with one outcome on alike sessions, which stay alike.  It changes nothing but notes and
    the sizes of flexible children; where the condition holds it only takes notes. -/
def Fair (p : Prop) (c : Check α) : Prop :=
  ∀ s t, Alike s t →
    (c.on s).1 = (c.on t).1 ∧ Alike (c.on s).2 (c.on t).2 ∧ Leads p s (c.on s).2

@[simp] theorem fair_pure (a : α) : Fair p (pure a : Check α) := fun s _ h => ⟨rfl, h, Leads.refl s⟩

@[simp] theorem fair_throw (e : Failure) : Fair p (throw e : Check α) :=
  fun s _ h => ⟨rfl, h, Leads.refl s⟩

@[simp] theorem fair_refuse (message : String) : Fair p (refuse message : Check α) := fair_throw _

variable {c : Check α} {f : α → Check β}

@[simp]
theorem Still.fair (h : c.Still) : Fair p c := by
  obtain ⟨r, hr⟩ := h
  intro s t hst
  rw [hr, hr]
  exact ⟨rfl, hst, Leads.refl s⟩

theorem fair_then {d : Check β} {g : Failure → Check β}
    (hok : ∀ s t a, c.on s = (.ok a, t) → d.on s = (f a).on t)
    (herror : ∀ s t e, c.on s = (.error e, t) → d.on s = (g e).on t)
    (hc : Fair p c) (hf : ∀ s t a, c.on s = (.ok a, t) → Fair p (f a)) (hg : ∀ e, Fair p (g e)) :
    Fair p d := by
  intro s t h
  obtain ⟨heq, halike, hleads⟩ := hc s t h
  rcases hs : c.on s with ⟨r, s'⟩
  rcases ht : c.on t with ⟨r', t'⟩
  rw [hs, ht] at heq halike
  rw [hs] at hleads
  dsimp only at heq halike hleads
  subst heq
  -- either outcome leads to one fair run from alike sessions
  cases r with
  | ok a =>
    rw [hok s s' a hs, hok t t' a ht]
    obtain ⟨heq', halike', hleads'⟩ := hf s s' a hs s' t' halike
    exact ⟨heq', halike', hleads.trans hleads'⟩
  | error e =>
    rw [herror s s' e hs, herror t t' e ht]
    obtain ⟨heq', halike', hleads'⟩ := hg e s' t' halike
    exact ⟨heq', halike', hleads.trans hleads'⟩

theorem fair_bind_of (hc : Fair p c)
    (hf : ∀ s t a, c.on s = (.ok a, t) → Fair p (f a)) : Fair p (c >>= f) :=
  fair_then (g := throw) (fun _ _ _ h => on_bind_ok f h) (fun _ _ _ h => on_bind_error f h) hc hf
    fair_throw

theorem fair_bind (hc : Fair p c) (hf : ∀ a, Fair p (f a)) :
    Fair p (c >>= f) :=
  fair_bind_of hc fun _ _ a _ => hf a

theorem fair_tryCatch {f : Failure → Check α} (hc : Fair p c)
    (hf : ∀ e, Fair p (f e)) : Fair p (tryCatch c f) :=
  fair_then (f := pure) (fun _ _ _ h => on_tryCatch_ok f h) (fun _ _ _ h => on_tryCatch_error f h)
    hc (fun _ _ a _ => fair_pure a) hf

@[simp] theorem fair_map (f : α → β) (hc : Fair p c) : Fair p (f <$> c) := by
  rw [← bind_pure_comp]
  exact fair_bind hc fun a => fair_pure _

theorem fair_note {f : Session → Session} (h : ∀ s, Alike (f s) s) :
    Fair p (modify f : Check Unit) :=
  fun s t hst => ⟨rfl, (h s).trans (hst.trans (h t).symm), Leads.of_alike (h s)⟩

theorem fair_get_bind {f : Session → Check α} (hsame : ∀ s, f s.unnoted = f s)
    (hf : ∀ s, Fair p (f s)) : Fair p (get >>= f : Check α) := by
  intro s t h
  have ht : f s = f t := h.same hsame
  have hrun : (get >>= f : Check α).on t = (f s).on t := by rw [ht]; rfl
  rw [hrun]
  exact hf s s t h

theorem fair_forM {xs : List α} {f : α → Check Unit} (h : ∀ x ∈ xs, Fair p (f x)) :
    Fair p (xs.forM f) := by
  induction xs with
  | nil => exact fair_pure _
  | cons x xs ih =>
    exact fair_bind (h x List.mem_cons_self) fun _ => ih (List.forall_mem_cons.mp h).2

theorem Fair.mono (h : Fair p c) (hqp : q → p) : Fair q c :=
  fun s t hst => ⟨(h s t hst).1, (h s t hst).2.1, (h s t hst).2.2.mono hqp⟩

theorem Fair.leads (h : Fair p c) (s : Session) : Leads p s (c.on s).2 :=
  (h s s (Alike.refl s)).2.2

variable {Q : α → Prop} {R : β → Prop}

/-- Fair work that gives only what is of a sort. -/
structure Gives (p : Prop) (Q : α → Prop) (c : Check α) : Prop where
  fair : Fair p c
  sort : ∀ s t a, c.on s = (.ok a, t) → Q a

theorem gives_pure {a : α} (h : Q a) : Gives p Q (pure a) := by
  refine ⟨fair_pure a, ?_⟩
  rintro s t _ ⟨⟩
  exact h

theorem gives_throw (e : Failure) : Gives p Q (throw e) := by
  refine ⟨fair_throw e, ?_⟩
  rintro s t a ⟨⟩

theorem Fair.gives (h : Fair p c) : Gives p (fun _ => True) c :=
  ⟨h, fun _ _ _ _ => trivial⟩

theorem Gives.bind (hc : Gives p Q c) (hf : ∀ a, Q a → Gives p R (f a)) : Gives p R (c >>= f) := by
  refine ⟨fair_bind_of hc.fair fun s t a h => (hf a (hc.sort s t a h)).fair, fun s t b h => ?_⟩
  obtain ⟨a, u, ha, hb⟩ := on_bind_eq_ok h
  exact (hf a (hc.sort s u a ha)).sort u t b hb

theorem Gives.fair_bind (hc : Gives p Q c) (hf : ∀ a, Q a → Fair p (f a)) : Fair p (c >>= f) :=
  fair_bind_of hc.fair fun s t a h => hf a (hc.sort s t a h)

theorem Gives.mono (h : Gives p Q c) (hqp : q → p) : Gives q Q c :=
  ⟨h.fair.mono hqp, h.sort⟩

end Check

open Check List Value

/-! ## Elementary tests -/

namespace Test

variable {p : Prop} {t : Test}

theorem fair_guarded (h : Fair p (t v)) : Fair p (guarded t v) := by
  refine fair_tryCatch h fun _ => ?_
  split <;> simp

theorem fair_allOf (h : ∀ t ∈ ts, ∀ v, Fair p (t v)) (v : Value) : Fair p (allOf ts v) := by
  induction ts generalizing v with
  | nil => exact fair_pure v
  | cons t ts ih =>
    exact fair_bind (fair_guarded (h t mem_cons_self v)) (ih (forall_mem_cons.mp h).2)

@[simp] theorem fair_intRange (low high : Option Int) (v : Value) : Fair p (intRange low high v) :=
  fair_allOf (by simp) v

@[simp] theorem fair_natural (v : Value) : Fair p (natural v) := fair_intRange _ _ v

@[simp] theorem fair_floatRange (low high v : Value) : Fair p (floatRange low high v) :=
  fair_allOf (by simp) v

@[simp] theorem fair_signedShare (v : Value) : Fair p (signedShare v) := by
  unfold signedShare
  simp only [refuse_bind, pure_bind]
  repeat' split
  all_goals simp

@[simp] theorem fair_percentage (v : Value) : Fair p (percentage v) :=
  fair_bind (fair_signedShare v) fun w => fair_floatRange _ _ w

@[simp] theorem fair_unknownWord (word : String) (options : List String) :
    Fair p (unknownWord word options : Check α) := by
  unfold unknownWord
  split <;> simp

@[simp] theorem fair_choiceOf (mapping : List (String × String)) (v : Value) :
    Fair p (choiceOf mapping v) := by
  refine fair_bind (wordOf_still _ _ v).fair fun key => ?_
  split <;> simp

@[simp] theorem fair_idName (v : Value) : Fair p (idName v) := by
  refine fair_bind (text_still v).fair fun t => ?_
  simp only [refuse_bind]
  repeat' split
  all_goals try simp
  refine fair_get_bind (fun s => rfl) fun s => ?_
  split <;> simp

@[simp] theorem fair_useId (type : Cpp.CppType) (v : Value) : Fair p (useId type v) := by
  refine fair_bind (noLambda_still v).fair fun _ => ?_
  repeat' split
  all_goals simp

@[simp] theorem fair_declareId (type : Cpp.CppType) (v : Value) : Fair p (declareId type v) := by
  refine fair_bind (noLambda_still v).fair fun _ => ?_
  split
  · simp
  · exact fair_bind (fair_idName v) fun _ => fair_pure _

@[simp] theorem fair_requires (name : String) (v : Value) : Fair p (requires name v) := by
  refine fair_get_bind (fun s => rfl) fun s => ?_
  split <;> simp

@[simp] theorem fair_needsComponent (name : String) (v : Value) : Fair p (needsComponent name v) :=
  fair_bind (fair_note fun _ => rfl) fun _ => fair_requires name v

theorem fair_templatable (h : Fair p (t v)) : Fair p (templatable t v) := by
  unfold templatable
  split
  · simp
  · exact fair_guarded h

@[simp] theorem fair_lengthWithin (low high : Nat) (v : Value) :
    Fair p (lengthWithin low high v) := by
  unfold lengthWithin
  repeat' split
  all_goals simp

@[simp] theorem fair_atMostOneKey (keys : List String) (v : Value) :
    Fair p (atMostOneKey keys v) := by
  unfold atMostOneKey
  repeat' split
  all_goals simp

@[simp] theorem fair_atLeastOneKey (keys : List String) (v : Value) :
    Fair p (atLeastOneKey keys v) := by
  unfold atLeastOneKey
  repeat' split
  all_goals simp

@[simp] theorem fair_never (message : String) (v : Value) : Fair p (never message v) :=
  fair_refuse message

@[simp] theorem fair_isBool (v : Value) : Fair p (isBool v) := by
  unfold isBool
  split <;> simp

@[simp] theorem fair_angle (v : Value) : Fair p (angle v) := by
  unfold angle
  refine fair_bind (fair_tryCatch (fair_map _ (number_still v).fair) fun e => ?_) fun plain => ?_
  · split <;> simp
  · split
    · simp
    · refine fair_bind (textOf_still v).fair fun s => ?_
      repeat' split
      all_goals simp

end Test

/-! ## Calm configurations -/

namespace Layout

/-- Does a layout stretch the children of a flexible container across the flow, without a share of
    the free space for each? -/
def stretches (layout : Entries) : Bool :=
  ((Entries.get? layout "type").bind Value.text?).map Text.lower == some "flex"
    && asksStretch layout && !(shareOf layout).truthy

/-- Is the layout among the options of a container a stretching one? -/
def stretchesIn (options : Entries) : Bool :=
  match Entries.get? options "layout" with
  | some (.dict layout) => stretches layout
  | _ => false

end Layout

mutual

/-- A configuration in which no flexible layout stretches its children. -/
def Value.calm : Value → Bool
  | .list xs => calmItems xs
  | .dict es => !Layout.stretchesIn es && calmEntries es
  | _ => true

def Value.calmItems : List Value → Bool
  | [] => true
  | v :: vs => v.calm && calmItems vs

def Value.calmEntries : Entries → Bool
  | [] => true
  | (_, v) :: es => v.calm && calmEntries es

end

namespace Value

@[simp] theorem calm_null : null.calm = true := rfl
@[simp] theorem calm_bool (b : Bool) : (bool b).calm = true := rfl
@[simp] theorem calm_int (n : Int) : (int n).calm = true := rfl
@[simp] theorem calm_float (x : Float) : (float x).calm = true := rfl
@[simp] theorem calm_str (s : String) : (str s).calm = true := rfl
@[simp] theorem calm_list_nil : (list []).calm = true := rfl
@[simp] theorem calm_dict_nil : (dict []).calm = true := rfl

theorem calmEntries_cons (k : String) (v : Value) (es : Entries) :
    calmEntries ((k, v) :: es) = (v.calm && calmEntries es) := rfl

theorem calm_dict (es : Entries) :
    (dict es).calm = (!Layout.stretchesIn es && calmEntries es) := rfl

theorem calm_of_mem_items (h : calmItems xs = true) (hv : v ∈ xs) : v.calm = true := by
  induction xs with
  | nil => exact absurd hv not_mem_nil
  | cons x xs ih =>
    rw [calmItems, Bool.and_eq_true] at h
    rcases mem_cons.mp hv with rfl | hv
    · exact h.1
    · exact ih h.2 hv

theorem calmEntries_iff : calmEntries es = true ↔ ∀ e ∈ es, e.2.calm = true := by
  induction es with
  | nil => exact iff_of_true rfl (forall_mem_nil _)
  | cons e es ih =>
    obtain ⟨k, v⟩ := e
    rw [calmEntries_cons, Bool.and_eq_true, ih]
    simp

theorem calm_of_mem_list (h : (list xs).calm = true) (hv : v ∈ xs) : v.calm = true :=
  calm_of_mem_items h hv

theorem calm_of_mem_dict (h : (dict es).calm = true) (he : e ∈ es) : e.2.calm = true := by
  rw [calm_dict, Bool.and_eq_true] at h
  exact calmEntries_iff.mp h.2 e he

theorem not_stretchesIn (h : (dict es).calm = true) : Layout.stretchesIn es = false := by
  rw [calm_dict, Bool.and_eq_true] at h
  exact Bool.not_eq_true' _ ▸ h.1

theorem calm_single {k : String} (hk : k ≠ "layout") : (dict [(k, v)]).calm = v.calm := by
  have hnone : Entries.get? [(k, v)] "layout" = none := by
    simp [Entries.get?, hk]
  rw [calm_dict, Layout.stretchesIn, hnone, calmEntries_cons]
  exact Bool.and_true _

end Value

/-! ## Joined tests -/

namespace Test

variable {p : Prop} {t : Test} {key : String}

def Fair (t : Test) : Prop := ∀ v, Check.Fair (v.calm = true) (t v)

def Neutral (t : Test) : Prop := ∀ (p : Prop) (v : Value), Check.Fair p (t v)

attribute [simp] Neutral

theorem Neutral.fair (h : Neutral t) : Test.Fair t := fun v => h _ v

theorem fair_anyOfFrom (h : ∀ t ∈ ts, Check.Fair p (t v)) :
    ∀ best, Check.Fair p (anyOfFrom best ts v) := by
  induction ts with
  | nil =>
    intro best
    unfold anyOfFrom
    split <;> simp
  | cons t ts ih =>
    intro best
    refine fair_tryCatch (fair_guarded (h t mem_cons_self)) fun e => ?_
    split
    · exact ih (forall_mem_cons.mp h).2 _
    · simp

@[simp] theorem fair_anyOf (h : ∀ t ∈ ts, Check.Fair p (t v)) : Check.Fair p (anyOf ts v) :=
  fair_anyOfFrom h none

theorem fair_itemsFrom (h : ∀ x ∈ xs, Check.Fair p (t x)) :
    ∀ i done issues, Check.Fair p (itemsFrom t i xs done issues) := by
  induction xs with
  | nil =>
    intro i done issues
    unfold itemsFrom
    split <;> simp_all
  | cons x xs ih =>
    intro i done issues
    have hrest := ih (forall_mem_cons.mp h).2
    refine fair_bind (fair_tryCatch (fair_map _ (fair_guarded (h x mem_cons_self)))
      fun e => fair_pure _) fun outcome => ?_
    split
    · exact hrest _ _ _
    · dsimp only
      repeat' split
      all_goals first
        | exact hrest _ _ _
        | simp
    · simp

theorem fair_listOf (h : ∀ xs, v = .list xs → ∀ x ∈ xs, Check.Fair p (t x)) :
    Check.Fair p (listOf t v) := by
  unfold listOf
  split
  · exact fair_bind (fair_itemsFrom (h _ rfl) _ _ _) fun _ => fair_pure _
  · simp

theorem fair_ensureList (hself : Check.Fair p (t v))
    (hitems : ∀ xs, v = .list xs → ∀ x ∈ xs, Check.Fair p (t x)) :
    Check.Fair p (ensureList t v) := by
  refine fair_bind (noLambda_still v).fair fun _ => ?_
  split
  · simp
  · simp
  · exact fair_bind (fair_itemsFrom (hitems _ rfl) _ _ _) fun _ => fair_pure _
  · exact fair_bind (fair_guarded hself) fun _ => fair_pure _

@[simp] theorem neutral_listOf (h : ∀ w, Check.Fair p (t w)) : Check.Fair p (listOf t v) :=
  fair_listOf fun _ _ x _ => h x

@[simp] theorem neutral_ensureList (h : ∀ w, Check.Fair p (t w)) : Check.Fair p (ensureList t v) :=
  fair_ensureList (h v) fun _ _ x _ => h x

theorem Fair.item (h : Test.Fair t) :
    ∀ xs, v = .list xs → ∀ x ∈ xs, Check.Fair (v.calm = true) (t x) := by
  rintro xs rfl x hx
  exact (h x).mono fun hv => calm_of_mem_list hv hx

theorem Fair.ensureList (h : Test.Fair t) : Test.Fair (ensureList t) :=
  fun v => fair_ensureList (h v) h.item

theorem fair_maybeSimple (hself : Check.Fair p (t v))
    (hkey : Check.Fair p (t (.dict [(key, v)]))) : Check.Fair p (maybeSimple key t v) := by
  unfold maybeSimple
  split
  · exact fair_guarded hself
  · exact fair_guarded hkey

@[simp] theorem neutral_maybeSimple (h : ∀ w, Check.Fair p (t w)) :
    Check.Fair p (maybeSimple key t v) :=
  fair_maybeSimple (h _) (h _)

end Test

/-! ## Records -/

namespace Record

variable {p : Prop} {r : Record}

theorem fair_runExtras (h : ∀ t ∈ ts, ∀ v, Check.Fair p (t v)) (v : Value) :
    Check.Fair p (runExtras ts v) := by
  induction ts generalizing v with
  | nil => exact fair_pure v
  | cons t ts ih =>
    exact fair_bind (Test.fair_guarded (h t mem_cons_self v)) (ih (forall_mem_cons.mp h).2)

theorem fair_walk (h : ∀ e ∈ es, ∀ f ∈ r.fields, Check.Fair p (f.test e.2)) :
    ∀ done issues, Check.Fair p (r.walk es done issues) := by
  induction es with
  | nil => exact fun done issues => fair_pure _
  | cons e es ih =>
    obtain ⟨k, v⟩ := e
    intro done issues
    have hrest := ih (forall_mem_cons.mp h).2
    unfold walk
    split
    · exact hrest _ _
    · rename_i f hf
      refine fair_bind (fair_tryCatch (fair_map _ (Test.fair_guarded
        (h _ mem_cons_self f (mem_of_find?_eq_some hf)))) fun e => fair_pure _)
        fun outcome => ?_
      split
      · exact hrest _ _
      · exact hrest _ _
      · simp

theorem fair_run_dict (hfields : ∀ e ∈ r.completed es, ∀ f ∈ r.fields, Check.Fair p (f.test e.2))
    (hextras : ∀ t ∈ r.extras, ∀ v, Check.Fair p (t v)) : Check.Fair p (r.run (.dict es)) := by
  unfold run
  dsimp only
  split
  case' h_2 => refine fair_bind (fair_throw _) fun _ => ?_
  all_goals
    refine fair_bind (fair_walk hfields _ _) fun found => ?_
    split
    · exact fair_runExtras hextras _
    · simp

theorem mem_completed (h : e ∈ r.completed es) :
    e ∈ es ∨ ∃ f ∈ r.fields, f.key = e.1 ∧ f.default? = some e.2 := by
  unfold completed at h
  rcases mem_append.mp h with h | h
  · exact Or.inl h
  · obtain ⟨f, hf, heq⟩ := mem_filterMap.mp h
    refine Or.inr ⟨f, hf, ?_⟩
    split at heq
    · cases heq
    · obtain ⟨v, hv, rfl⟩ := Option.map_eq_some_iff.mp heq
      exact ⟨rfl, hv⟩

theorem mem_extend (h : f ∈ (r.extend more).fields) : f ∈ r.fields ∨ f ∈ more := by
  unfold extend at h
  dsimp only at h
  induction more generalizing r with
  | nil => exact Or.inl h
  | cons g more ih =>
    rcases ih (r := ⟨put r.fields g, r.extras⟩) h with h | h
    · rcases mem_append.mp h with h | h
      · exact Or.inl (mem_filter.mp h).1
      · exact Or.inr (mem_cons.mpr (Or.inl (mem_singleton.mp h)))
    · exact Or.inr (mem_cons_of_mem _ h)

end Record

namespace Field

def Calm (f : Field) : Prop := ∀ v, f.default? = some v → v.calm = true

def Meets (P : Test → Prop) (f : Field) : Prop := P f.test ∧ f.Calm

variable {P : Test → Prop} {key : String} {t : Test} {p : Prop}

@[simp] theorem meets_optional : (Field.optional key t).Meets P ↔ P t := by
  simp [Meets, Calm, Field.optional]

@[simp] theorem meets_required : (Field.required key t).Meets P ↔ P t := by
  simp [Meets, Calm, Field.required]

@[simp] theorem meets_exclusive (group : String) (message : Option String) :
    (Field.exclusive key group message t).Meets P ↔ P t := by
  simp [Meets, Calm, Field.exclusive]

@[simp] theorem meets_defaulted (v : Value) :
    (Field.defaulted key v t).Meets P ↔ P t ∧ v.calm = true := by
  simp [Meets, Calm, Field.defaulted]

@[simp] theorem meets_generated : (Field.generated key t).Meets P ↔ P t := by
  simp [Meets, Calm, Field.generated]

/-- A field that takes notes only on calm values where a condition holds, and whose default is
    calm there. -/
def FairIf (p : Prop) (f : Field) : Prop :=
  (∀ v, Fair (p ∧ v.calm = true) (f.test v)) ∧ (p → f.Calm)

theorem FairIf.mono (h : f.FairIf p) (hqp : q → p) : f.FairIf q :=
  ⟨fun v => (h.1 v).mono (And.imp_left hqp), fun hq => h.2 (hqp hq)⟩

theorem Meets.fairIf (h : f.Meets Test.Fair) : f.FairIf p :=
  ⟨fun v => (h.1 v).mono And.right, fun _ => h.2⟩

end Field

namespace Record

variable {p : Prop} {r : Record} {P Q : Test → Prop}

/-- A record of fields that take notes only on calm values where a condition holds. -/
def FairIf (p : Prop) (r : Record) : Prop :=
  (∀ f ∈ r.fields, f.FairIf p) ∧ ∀ t ∈ r.extras, Test.Neutral t

/-- A record whose fields are of a sort and whose checks of the whole are neutral. -/
def Meets (P : Test → Prop) (r : Record) : Prop :=
  (∀ f ∈ r.fields, f.Meets P) ∧ ∀ t ∈ r.extras, Test.Neutral t

theorem meets_of {fs : List Field} (h : ∀ f ∈ fs, f.Meets P) : (Record.of fs).Meets P :=
  ⟨h, forall_mem_nil _⟩

theorem Meets.mono (h : r.Meets P) (hPQ : ∀ t, P t → Q t) : r.Meets Q :=
  ⟨fun f hf => ⟨hPQ _ (h.1 f hf).1, (h.1 f hf).2⟩, h.2⟩

theorem Meets.extend (h : r.Meets P) (hmore : ∀ f ∈ more, f.Meets P) : (r.extend more).Meets P :=
  ⟨fun f hf => (mem_extend hf).elim (h.1 f) (hmore f), h.2⟩

theorem Meets.check {t : Test} (h : r.Meets P) (ht : Test.Neutral t) : (r.check t).Meets P := by
  refine ⟨h.1, fun u hu => ?_⟩
  rcases mem_append.mp hu with hu | hu
  · exact h.2 u hu
  · rw [mem_singleton.mp hu]
    exact ht

theorem neutral_run (h : r.Meets Test.Neutral) : Test.Neutral r.run := by
  intro p v
  cases v with
  | dict es => exact fair_run_dict (fun e _ f hf => (h.1 f hf).1 p e.2) fun t ht => h.2 t ht p
  | _ => exact fair_refuse _

theorem FairIf.run (h : r.FairIf p) (v : Value) : Fair (p ∧ v.calm = true) (r.run v) := by
  cases v with
  | dict es =>
    refine fair_run_dict (fun e he f hf => ((h.1 f hf).1 e.2).mono fun hp => ⟨hp.1, ?_⟩)
      fun t ht => h.2 t ht _
    rcases mem_completed he with he | ⟨g, hg, -, hdefault⟩
    · exact calm_of_mem_dict hp.2 he
    · exact (h.1 g hg).2 hp.1 _ hdefault
  | _ => exact fair_refuse _

theorem FairIf.mono (h : r.FairIf p) (hqp : q → p) : r.FairIf q :=
  ⟨fun f hf => (h.1 f hf).mono hqp, h.2⟩

theorem FairIf.extend (h : r.FairIf p) (hmore : ∀ f ∈ more, f.FairIf p) :
    (r.extend more).FairIf p :=
  ⟨fun f hf => (mem_extend hf).elim (h.1 f) (hmore f), h.2⟩

theorem Meets.fairIf (h : r.Meets Test.Fair) : r.FairIf p := ⟨fun f hf => (h.1 f hf).fairIf, h.2⟩

theorem fair_run (h : r.Meets Test.Fair) : Test.Fair r.run := fun v =>
  (h.fairIf.run v).mono fun hv => ⟨trivial, hv⟩

end Record

end Panel
