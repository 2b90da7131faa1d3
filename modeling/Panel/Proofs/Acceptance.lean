import Panel.Proofs.Entries
import Panel.Proofs.Work
import Panel.Rule.Record

/-! # Accepted values — what a rule says about the values that pass it -/

namespace Panel

open List

variable {v w : Value} {s s' : Session} {r : Record} {k : String} {f : Field} {es : Entries}
  {more : List Field} {t : Test} {α : Type} {given : Entries} {e : String × Value}
  {fields : List Field} {out : Entries} {issues found : List Issue}

/-! ## Tests -/

namespace Test

def Gives (t : Test) (w : Value) : Prop :=
  ∃ v s s', (t v).on s = (.ok w, s')

theorem guarded_eq_ok (h : (guarded t v).on s = (.ok w, s')) : (t v).on s = (.ok w, s') := by
  rcases ht : (t v).on s with ⟨r, u⟩
  unfold guarded at h
  cases r with
  | ok x =>
    rw [Check.on_tryCatch_ok _ ht] at h
    exact h
  | error e =>
    rw [Check.on_tryCatch_error _ ht] at h
    cases e <;> cases h

theorem on_attempt (c : Check α) (s : Session) :
    (tryCatch (Except.ok <$> c) fun e => pure (Except.error e) : Check (Except Failure α)).on s
      = (.ok (c.on s).1, (c.on s).2) := by
  have hmap : (Except.ok <$> c : Check (Except Failure α)) = c >>= fun a => pure (.ok a) :=
    map_eq_pure_bind _ _
  rw [hmap]
  rcases hc : c.on s with ⟨r, t⟩
  cases r with
  | ok a =>
    have hok : (c >>= fun a => pure (Except.ok a) : Check (Except Failure α)).on s
        = (.ok (.ok a), t) := Check.on_bind_ok _ hc
    rw [Check.on_tryCatch_ok _ hok]
  | error e =>
    have herror : (c >>= fun a => pure (Except.ok a) : Check (Except Failure α)).on s
        = (.error e, t) := Check.on_bind_error _ hc
    rw [Check.on_tryCatch_error _ herror]
    rfl

end Test

/-! ## Records -/

namespace Record

def Fits (r : Record) (e : String × Value) : Prop :=
  ∃ f, r.field? e.1 = some f ∧ f.test.Gives e.2

/-- An entry whose value is the answer of the test of its field to a value given for its key. -/
def Answers (r : Record) (given : Entries) (e : String × Value) : Prop :=
  ∃ v, (e.1, v) ∈ given ∧ ∃ f s s', r.field? e.1 = some f ∧ (f.test v).on s = (.ok e.2, s')

theorem Answers.fits (h : r.Answers given e) : r.Fits e := by
  obtain ⟨v, -, f, s, s', hf, hv⟩ := h
  exact ⟨f, hf, v, s, s', hv⟩

theorem Answers.key_mem (h : r.Answers given e) : e.1 ∈ given.map (·.1) := by
  obtain ⟨v, hmem, -⟩ := h
  exact mem_map_of_mem (f := (·.1)) hmem

/-- One step of a walk: what the test of a field accepts is kept, what it refuses is noted, and any
    other failure ends the walk. -/
theorem walk_cons_on (hf : r.field? k = some f) (v : Value) (es done : Entries)
    (issues : List Issue) (s : Session) :
    (r.walk ((k, v) :: es) done issues).on s = match (Test.guarded f.test v).on s with
      | (.ok w, u) => (r.walk es ((k, w) :: done) issues).on u
      | (.error (.refused found), u) =>
        (r.walk es done (issues ++ found.map fun i => { i with path := .key k :: i.path })).on u
      | (.error e, u) => (.error e, u) := by
  have hattempt := Test.on_attempt (Test.guarded f.test v) s
  rw [walk, hf]
  refine (Check.on_bind_ok _ hattempt).trans ?_
  rcases (Test.guarded f.test v).on s with ⟨result, u⟩
  cases result with
  | ok w => rfl
  | error e => cases e <;> rfl

/-- How a walk goes over entries: what it keeps of them, and the issues of those that are lost. -/
inductive Walk (r : Record) : Entries → Entries → List Issue → Prop
  | nil : Walk r [] [] []
  | kept : ∀ {k v w f s u es out issues}, r.field? k = some f → (f.test v).on s = (.ok w, u) →
      Walk r es out issues → Walk r ((k, v) :: es) ((k, w) :: out) issues
  | lost : ∀ {k v found es out issues}, found ≠ [] → Walk r es out issues →
      Walk r ((k, v) :: es) out (found ++ issues)

theorem walk_eq_ok {done : Entries} (h : (r.walk es done issues).on s = (.ok (out, found), s')) :
    ∃ new more, out = done.reverse ++ new ∧ found = issues ++ more ∧ r.Walk es new more := by
  induction es generalizing done issues s with
  | nil =>
    cases h
    exact ⟨[], [], (append_nil _).symm, (append_nil _).symm, .nil⟩
  | cons x es ih =>
    obtain ⟨k, v⟩ := x
    cases hf : r.field? k with
    | none =>
      rw [walk, hf] at h
      obtain ⟨new, more, hout, rfl, hwalk⟩ := ih h
      exact ⟨new, _, hout, append_assoc .., hwalk.lost (cons_ne_nil _ _)⟩
    | some f =>
      rw [walk_cons_on hf] at h
      rcases ht : (Test.guarded f.test v).on s with ⟨r', u⟩
      rw [ht] at h
      cases r' with
      | ok w =>
        obtain ⟨new, more, rfl, hfound, hwalk⟩ := ih h
        refine ⟨(k, w) :: new, more, ?_, hfound, .kept hf (Test.guarded_eq_ok ht) hwalk⟩
        rw [reverse_cons, append_assoc]
        rfl
      | error e =>
        -- A refusal is noted and the walk goes on; any other failure ends it.
        cases e with
        | refused _ =>
          obtain ⟨new, more, hout, rfl, hwalk⟩ := ih h
          exact ⟨new, _, hout, append_assoc .., hwalk.lost (cons_ne_nil _ _)⟩
        | _ => cases h

theorem Walk.of_ok (h : (r.walk es [] []).on s = (.ok (out, found), s')) : r.Walk es out found := by
  obtain ⟨_, _, rfl, rfl, hwalk⟩ := walk_eq_ok h
  exact hwalk

theorem Walk.answers (h : r.Walk es out issues) : ∀ e ∈ out, r.Answers es e := by
  have hlater : ∀ {x e} {es : Entries}, r.Answers es e → r.Answers (x :: es) e :=
    fun ⟨v, hmem, hanswer⟩ => ⟨v, mem_cons_of_mem _ hmem, hanswer⟩
  induction h with
  | nil => exact forall_mem_nil _
  | kept hf hw _ ih =>
    refine forall_mem_cons.mpr ⟨⟨_, mem_cons_self, _, _, _, hf, hw⟩, ?_⟩
    exact fun e he => hlater (ih e he)
  | lost _ _ ih => exact fun e he => hlater (ih e he)

/-- A record that accepts has walked over its entries without an issue, has missed no key, and its
    checks of the whole have accepted what the walk gave. -/
theorem walk_of_run (h : (r.run (.dict es)).on s = (.ok w, s')) :
    ∃ out u, (r.walk (r.completed es) [] []).on s = (.ok (out, []), u) ∧ r.missing es = []
      ∧ (runExtras r.extras (.dict out)).on u = (.ok w, s') := by
  unfold run at h
  dsimp only at h
  cases hgroups : r.groups.filterMap (r.groupIssue? es) with
  | cons i is =>
    rw [hgroups] at h
    cases h
  | nil =>
    rw [hgroups] at h
    obtain ⟨⟨out, issues⟩, u, hwalk, h⟩ := Check.on_bind_eq_ok h
    dsimp only at h
    cases hall : issues ++ r.missing es with
    | cons i is =>
      rw [hall] at h
      cases h
    | nil =>
      rw [hall] at h
      obtain ⟨rfl, hmissing⟩ := append_eq_nil_iff.mp hall
      exact ⟨out, u, hwalk, hmissing, h⟩

theorem run_answers (hextras : r.extras = []) (h : (r.run v).on s = (.ok w, s')) :
    ∃ given es, v = .dict given ∧ w = .dict es ∧ ∀ e ∈ es, r.Answers (r.completed given) e := by
  cases v with
  | dict given =>
    obtain ⟨done, u, hwalk, -, hwhole⟩ := walk_of_run h
    rw [hextras] at hwhole
    cases hwhole
    exact ⟨given, done, rfl, rfl, fun e he =>
      (Walk.of_ok hwalk).answers e he⟩
  | _ => cases h

theorem gives_dict (hextras : r.extras = []) (h : r.run.Gives w) :
    ∃ es, w = .dict es ∧ ∀ e ∈ es, r.Fits e := by
  obtain ⟨v, s, s', h⟩ := h
  obtain ⟨_, es, -, hw, hanswers⟩ := run_answers hextras h
  exact ⟨es, hw, fun e he => (hanswers e he).fits⟩

theorem find?_put (fields : List Field) (f : Field) (k : String) : (put fields f).find? (·.key == k)
      = if f.key == k then some f else fields.find? (·.key == k) := by
  unfold put
  rw [find?_append, find?_filter, find?_singleton]
  by_cases hk : f.key = k
  · subst hk
    have hnone : fields.find? (fun g => decide ((g.key != f.key) = true ∧ (g.key == f.key) = true))
        = none := by
      rw [find?_eq_none]
      intro g _
      simp
    rw [hnone, Option.none_or, if_pos (beq_self_eq_true _), if_pos (beq_self_eq_true _)]
  · have hsame : (fun g : Field => decide ((g.key != f.key) = true ∧ (g.key == k) = true))
        = fun g => g.key == k := by
      funext g
      by_cases hg : g.key = k
      · simp [hg, Ne.symm hk]
      · simp [hg]
    have hfalse : ¬ (f.key == k) = true := fun hb => hk (beq_iff_eq.mp hb)
    rw [hsame, if_neg hfalse, if_neg hfalse, Option.or_none]

theorem field?_extend_eq (r : Record) (more : List Field) (k : String) :
    (r.extend more).field? k = (more.reverse.find? (·.key == k)).or (r.field? k) :=
  find?_foldl (by simpa using find?_put) more r.fields k

theorem field?_extend (h : (r.extend more).field? k = some f) :
    (f ∈ more ∧ f.key = k) ∨ ((∀ g ∈ more, g.key ≠ k) ∧ r.field? k = some f) := by
  rw [field?_extend_eq] at h
  cases hfind : more.reverse.find? (·.key == k) with
  | some g =>
    rw [hfind] at h
    obtain rfl := Option.some.inj h
    have hkey := find?_some (p := fun g : Field => g.key == k) hfind
    exact Or.inl ⟨mem_reverse.mp (mem_of_find?_eq_some hfind), beq_iff_eq.mp hkey⟩
  | none =>
    rw [hfind] at h
    refine Or.inr ⟨fun g hg hkey => ?_, h⟩
    exact find?_eq_none.mp hfind g (mem_reverse.mpr hg) (beq_iff_eq.mpr hkey)

theorem field?_extend_of_not_mem (h : k ∉ more.map (·.key)) :
    (r.extend more).field? k = r.field? k := by
  have hnone : more.reverse.find? (·.key == k) = none := by
    rw [find?_eq_none]
    intro f hf hkey
    exact h (mem_map.mpr ⟨f, mem_reverse.mp hf, beq_iff_eq.mp hkey⟩)
  rw [field?_extend_eq, hnone, Option.none_or]

theorem field?_of (h : (Record.of fields).field? k = some f) : f ∈ fields ∧ f.key = k := by
  have hkey := find?_some (p := fun g : Field => g.key == k) h
  exact ⟨mem_of_find?_eq_some h, beq_iff_eq.mp hkey⟩

/-! ### Records without conditions on the whole -/

def AllOptional (fields : List Field) : Prop :=
  ∀ f ∈ fields, f.presence = .optional ∧ f.default? = none

theorem allOptional_extend (hr : AllOptional r.fields) (hmore : AllOptional more) :
    AllOptional (r.extend more).fields := by
  suffices hfold : ∀ fields, AllOptional fields → AllOptional (more.foldl put fields) from
    hfold r.fields hr
  induction more with
  | nil =>
    intro fields h
    exact h
  | cons f more ih =>
    intro fields h
    refine ih (forall_mem_cons.mp hmore).2 (put fields f) fun g hg => ?_
    rcases mem_append.mp hg with hg | hg
    · exact h g (mem_filter.mp hg).1
    · rw [mem_singleton.mp hg]
      exact hmore f mem_cons_self

theorem allOptional_map (key : α → String) (test : α → Test) (xs : List α) :
    AllOptional (xs.map fun x => .optional (key x) (test x)) := by
  intro f hf
  obtain ⟨x, -, rfl⟩ := mem_map.mp hf
  exact ⟨rfl, rfl⟩

theorem completed_eq (hall : AllOptional r.fields) (es : Entries) : r.completed es = es := by
  unfold completed
  rw [filterMap_eq_nil_iff.mpr, append_nil]
  intro f hf
  rw [(hall f hf).2]
  exact ite_self none

theorem walk_cons (ht : (r.field? k).map Field.test = some t) (hv : (t v).on s = (.ok w, s'))
    (es done : Entries) (issues : List Issue) :
    (r.walk ((k, v) :: es) done issues).on s = (r.walk es ((k, w) :: done) issues).on s' := by
  obtain ⟨f, hf, rfl⟩ := Option.map_eq_some_iff.mp ht
  have hguarded : (Test.guarded f.test v).on s = (.ok w, s') := Check.on_tryCatch_ok _ hv
  rw [walk_cons_on hf, hguarded]

theorem run_eq_ok (hgroups : r.groups = []) (hmissing : r.missing es = [])
    (hextras : r.extras = []) (hwalk : (r.walk (r.completed es) [] []).on s = (.ok (out, []), s')) :
    (r.run (.dict es)).on s = (.ok (.dict out), s') := by
  unfold run
  dsimp only
  rw [hgroups]
  dsimp only [filterMap_nil]
  rw [Check.on_bind_ok _ hwalk]
  dsimp only
  rw [hmissing, hextras]
  rfl

end Record

end Panel
