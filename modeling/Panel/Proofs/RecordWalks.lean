import Panel.Proofs.FontTables

/-! # Walks of records — how a record goes over its entries

    A record looks at what it is given and then at the defaults of the keys that are missing, and
    what it hands on for both depends on the keys and tests of its fields only. -/

namespace Panel

open List

variable {r' : Record} (fields : List Field)

variable {r : Record} {es out : Entries} {s t : Session} {key : String}

/-! ## Walks -/

namespace Record

theorem walk_append (r : Record) (es fs : Entries) (done : Entries) (issues : List Issue) :
    r.walk (es ++ fs) done issues
      = r.walk es done issues >>= fun out => r.walk fs out.1.reverse out.2 := by
  induction es generalizing done issues with
  | nil =>
    rw [nil_append, walk, pure_bind, reverse_reverse]
  | cons e es ih =>
    obtain ⟨k, v⟩ := e
    rw [cons_append, walk, walk]
    cases r.field? k with
    | none => exact ih _ _
    | some f =>
      dsimp only
      rw [bind_assoc]
      congr 1
      funext outcome
      cases outcome with
      | ok w => exact ih _ _
      | error e =>
        cases e with
        | refused found => exact ih _ _
        | _ => rfl

theorem walk_congr (h : ∀ k, (r.field? k).map (·.test) = (r'.field? k).map (·.test))
    (es : Entries) (done : Entries) (issues : List Issue) :
    r.walk es done issues = r'.walk es done issues := by
  induction es generalizing done issues with
  | nil => rfl
  | cons e es ih =>
    obtain ⟨k, v⟩ := e
    rw [walk, walk]
    have hk := h k
    cases hf : r.field? k with
    | none =>
      rw [hf] at hk
      rw [Option.map_eq_none_iff.mp hk.symm]
      exact ih _ _
    | some f =>
      rw [hf] at hk
      obtain ⟨f', hf', htest⟩ := Option.map_eq_some_iff.mp hk.symm
      rw [hf']
      dsimp only
      rw [htest]
      congr 1
      funext outcome
      cases outcome with
      | ok w => exact ih _ _
      | error e =>
        cases e with
        | refused found => exact ih _ _
        | _ => rfl

theorem walk_settled {fs : Entries}
    (h : ∀ e ∈ fs, ∃ f, r.field? e.1 = some f ∧ ∀ s, (f.test e.2).on s = (.ok e.2, s))
    (done : Entries) (issues : List Issue) (s : Session) :
    (r.walk fs done issues).on s = (.ok (done.reverse ++ fs, issues), s) := by
  induction fs generalizing done with
  | nil =>
    rw [append_nil]
    rfl
  | cons e fs ih =>
    obtain ⟨k, v⟩ := e
    obtain ⟨f, hf, hv⟩ := h (k, v) mem_cons_self
    rw [walk_cons (congrArg (Option.map Field.test) hf) (hv s),
      ih (forall_mem_cons.mp h).2, reverse_cons, append_assoc]
    rfl

theorem run_on_iff (hgroups : r.groups = []) (hextras : r.extras = []) {w : Value} :
    (r.run (.dict es)).on s = (.ok w, t) ↔ ∃ out, w = .dict out ∧ r.missing es = []
      ∧ (r.walk (r.completed es) [] []).on s = (.ok (out, []), t) := by
  constructor
  · intro h
    obtain ⟨out, u, hwalk, hmissing, hwhole⟩ := walk_of_run h
    rw [hextras] at hwhole
    cases hwhole
    exact ⟨out, rfl, hmissing, hwalk⟩
  · rintro ⟨out, rfl, hmissing, hwalk⟩
    exact run_eq_ok hgroups hmissing hextras hwalk

theorem walk_cons_eq_ok {k : String} {f : Field} (hf : r.field? k = some f) {v : Value}
    {done : Entries} (h : (r.walk ((k, v) :: es) done []).on s = (.ok (out, []), t)) :
    ∃ w u, (f.test v).on s = (.ok w, u)
      ∧ (r.walk es ((k, w) :: done) []).on u = (.ok (out, []), t) := by
  rw [walk_cons_on hf] at h
  rcases hv : (Test.guarded f.test v).on s with ⟨result, u⟩
  rw [hv] at h
  cases result with
  | ok w => exact ⟨w, u, Test.guarded_eq_ok hv, h⟩
  | error e =>
    cases e with
    | refused found =>
      obtain ⟨_, _, -, hissues, -⟩ := walk_eq_ok h
      exact absurd (nil_eq_append_iff.mp hissues).1 (cons_ne_nil _ _)
    | _ => cases h

/-! ## Defaults -/

def supplied (fields : List Field) (es : Entries) : Entries :=
  fields.filterMap fun f =>
    if Entries.has es f.key then none else f.default?.map fun v => (f.key, v)

theorem completed_eq_append (r : Record) (es : Entries) :
    r.completed es = es ++ supplied r.fields es := rfl

theorem supplied_append (more : List Field) (es : Entries) :
    supplied (fields ++ more) es = supplied fields es ++ supplied more es :=
  filterMap_append

theorem supplied_eq_nil {fields : List Field} (h : ∀ f ∈ fields, f.default? = none) (es : Entries) :
    supplied fields es = [] := by
  refine filterMap_eq_nil_iff.mpr fun f hf => ?_
  rw [h f hf]
  exact ite_self _

theorem supplied_cons (f : Field) (fields : List Field) (es : Entries) : supplied (f :: fields) es
      = (if es.has f.key then none else f.default?.map fun v => (f.key, v)).toList
        ++ supplied fields es := by
  rw [supplied, filterMap_cons]
  split <;> next h => rw [h]; rfl

theorem get?_supplied (es : Entries) (key : String) : Entries.get? (supplied fields es) key
      = if es.has key then none else Entries.get? (supplied fields []) key := by
  induction fields with
  | nil => exact (ite_self _).symm
  | cons f fields ih =>
    rw [supplied_cons, supplied_cons, Entries.get?_append, Entries.get?_append, ih]
    have hempty : Entries.has [] f.key = false := rfl
    rw [hempty]
    cases f.default? with
    | none =>
      simp only [Option.map_none, ite_self]
      rfl
    | some v =>
      have hlookup : Entries.get? [(f.key, v)] key = if f.key == key then some v else none :=
        Entries.get?_cons _ [] key
      by_cases hk : f.key = key
      · subst hk
        rw [beq_self_eq_true, if_pos rfl] at hlookup
        cases hhas : es.has f.key with
        | true => rfl
        | false => simp [hlookup]
      · rw [if_neg (by simpa using hk)] at hlookup
        have hnone : Entries.get? (if es.has f.key = true then none
            else some (f.key, v)).toList key = none := by
          cases es.has f.key
          · exact hlookup
          · rfl
        simp [hnone, hlookup]

theorem supplied_subset (es : Entries) : supplied fields es ⊆ supplied fields [] := by
  intro e he
  obtain ⟨f, hf, hfe⟩ := mem_filterMap.mp he
  refine mem_filterMap.mpr ⟨f, hf, ?_⟩
  split at hfe
  · cases hfe
  · exact hfe

theorem field?_test_congr
    (h : r.fields.map (fun f => (f.key, f.test)) = r'.fields.map (fun f => (f.key, f.test)))
    (k : String) : (r.field? k).map (·.test) = (r'.field? k).map (·.test) := by
  have hfind : ∀ fields : List Field, (fields.find? (·.key == k)).map (·.test)
      = ((fields.map fun f => (f.key, f.test)).find? (·.1 == k)).map (·.2) := by
    intro fields
    rw [find?_map, Option.map_map]
    rfl
  unfold field?
  rw [hfind, hfind, h]

end Record

end Panel
