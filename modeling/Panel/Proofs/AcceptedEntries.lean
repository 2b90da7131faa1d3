import Panel.Proofs.PictureRules
import Panel.Proofs.RecordWalks
import Panel.Proofs.StyleValues

/-! # Accepted entries — what a rule hands on, value by value

    A record or a list that is accepted is accepted entry by entry, in order: what is handed on has
    an answer for each entry and nothing else. -/

namespace Panel

open List

variable {r : Record} {es out : Entries} {s : Session} {t : Test} {v w : Value}
  {done xs ys : List Value} {i : Nat} {u : Session}

/-! ## Records -/

def Test.Accepts (t : Test) (v w : Value) : Prop := ∃ s u, (t v).on s = (.ok w, u)

namespace Record

/-- An entry that a record accepts, with what it hands on for it. -/
def Accepts (r : Record) (e e' : String × Value) : Prop :=
  e'.1 = e.1 ∧ ∃ f, r.field? e.1 = some f ∧ f.test.Accepts e.2 e'.2

theorem Walk.accepts (h : r.Walk es out []) : List.Forall₂ r.Accepts es out := by
  generalize hnone : [] = issues at h
  induction h with
  | nil => exact .nil
  | kept hf hw _ ih => exact .cons ⟨rfl, _, hf, _, _, hw⟩ (ih hnone)
  | lost hlost _ _ => exact absurd (nil_eq_append_iff.mp hnone).1 hlost

theorem run_accepts (hextras : r.extras = []) (h : r.run.Accepts v w) :
    ∃ es out, v = .dict es ∧ w = .dict out ∧ r.missing es = []
      ∧ List.Forall₂ r.Accepts (r.completed es) out := by
  obtain ⟨s, u, h⟩ := h
  cases v with
  | dict es =>
    obtain ⟨out, u', hwalk, hmissing, hwhole⟩ := walk_of_run h
    rw [hextras] at hwhole
    cases hwhole
    exact ⟨es, out, rfl, rfl, hmissing, (Walk.of_ok hwalk).accepts⟩
  | _ => cases h

theorem field?_accepts (h : List.Forall₂ r.Accepts es out) :
    ∀ e ∈ es, ∃ f, r.field? e.1 = some f := by
  induction h with
  | nil => exact forall_mem_nil _
  | cons hentry _ ih =>
    obtain ⟨-, f, hf, -⟩ := hentry
    exact forall_mem_cons.mpr ⟨⟨f, hf⟩, ih⟩

theorem get?_completed (r : Record) (es : Entries) (key : String) :
    Entries.get? (r.completed es) key
      = (es.get? key).or (Entries.get? (supplied r.fields []) key) := by
  rw [completed_eq_append, Entries.get?_append, get?_supplied, Entries.has_eq_isSome]
  cases es.get? key <;> rfl

theorem get?_accepts (h : List.Forall₂ r.Accepts es out) (key : String) :
    (es.get? key = none ∧ out.get? key = none)
      ∨ ∃ v w f, es.get? key = some v ∧ out.get? key = some w
        ∧ r.field? key = some f ∧ f.test.Accepts v w := by
  induction h with
  | nil => exact .inl ⟨rfl, rfl⟩
  | @cons e e' es out hentry _ ih =>
    obtain ⟨hkey, f, hf, haccepts⟩ := hentry
    rw [Entries.get?_cons, Entries.get?_cons, hkey]
    by_cases hk : e.1 = key
    · subst hk
      rw [beq_self_eq_true, if_pos rfl, if_pos rfl]
      exact .inr ⟨e.2, e'.2, f, rfl, rfl, hf, haccepts⟩
    · rw [if_neg fun hb => hk (beq_iff_eq.mp hb), if_neg fun hb => hk (beq_iff_eq.mp hb)]
      exact ih

end Record

/-! ## Lists -/

namespace Test

/-- The items of a list, or of a single value that stands for one. -/
def itemsIn : Value → List Value
  | .null => []
  | .dict [] => []
  | .list xs => xs
  | v => [v]

theorem itemsFrom_accepts {issues : List Issue}
    (h : (itemsFrom t i xs done issues).on s = (.ok ys, u)) :
    issues = [] ∧ ∃ new, ys = done.reverse ++ new ∧ List.Forall₂ t.Accepts xs new := by
  induction xs generalizing i done issues s with
  | nil =>
    cases issues with
    | nil =>
      cases h
      exact ⟨rfl, [], (append_nil _).symm, .nil⟩
    | cons _ _ => cases h
  | cons x xs ih =>
    rw [itemsFrom, Check.on_bind_ok _ (on_attempt (guarded t x) s)] at h
    rcases hx : (guarded t x).on s with ⟨r, v⟩
    rw [hx] at h
    cases r with
    | ok w =>
      obtain ⟨hissues, new, rfl, hnew⟩ := ih h
      refine ⟨hissues, w :: new, ?_, .cons ⟨s, v, guarded_eq_ok hx⟩ hnew⟩
      rw [reverse_cons, append_assoc]
      rfl
    | error e =>
      cases e with
      | refused found =>
        dsimp only at h
        split at h
        · cases h
        · exact absurd (append_eq_nil_iff.mp (ih h).1).2 (cons_ne_nil _ _)
      | _ => cases h

theorem ensureList_accepts (h : (ensureList t).Accepts v w) :
    ∃ ys, w = .list ys ∧ List.Forall₂ t.Accepts (itemsIn v) ys := by
  obtain ⟨s, u, h⟩ := h
  unfold ensureList at h
  obtain ⟨_, s', -, h⟩ := Check.on_bind_eq_ok h
  have hone : ∀ {x}, (do return .list [← guarded t x] : Check Value).on s' = (.ok w, u) →
      ∃ ys, w = .list ys ∧ List.Forall₂ t.Accepts [x] ys := by
    intro x h
    obtain ⟨y, u', hy, hdone⟩ := Check.on_bind_eq_ok h
    cases hdone
    exact ⟨[y], rfl, .cons ⟨s', _, guarded_eq_ok hy⟩ .nil⟩
  cases v with
  | null =>
    cases h
    exact ⟨[], rfl, .nil⟩
  | list xs =>
    obtain ⟨ys, u', hys, hdone⟩ := Check.on_bind_eq_ok h
    cases hdone
    obtain ⟨-, new, rfl, hnew⟩ := itemsFrom_accepts hys
    exact ⟨_, rfl, hnew⟩
  | dict es =>
    cases es with
    | nil =>
      cases h
      exact ⟨[], rfl, .nil⟩
    | cons e es => exact hone h
  | _ => exact hone h

theorem anyOf_accepts {ts : List Test} (h : (anyOf ts).Accepts v w) : ∃ t ∈ ts, t.Accepts v w := by
  obtain ⟨s, u, h⟩ := h
  have hyields : (anyOfFrom none ts v).Yields fun w => ∃ t ∈ ts, t.Accepts v w :=
    Property.anyOfFrom_yields ts (fun t ht s u w hw => ⟨t, ht, s, u, hw⟩) none
  exact hyields s u w h

end Test

end Panel
