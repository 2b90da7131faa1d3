import Mathlib.Data.List.Nodup
import Panel.Proofs.Emission

/-! # Options of drawn pictures — properties that have two names

    The options of a picture are put under their current names one after the other, so of two that
    share a name the later one stays. -/

namespace Panel

open List

variable {es es' done : Entries} {s t : Session} {key : String} {v : Value}

namespace Kinds

/-! ## Current names -/

/-- The last value that options give to a property, under whatever name. -/
def lastGiven? (es : Entries) (name : String) : Option Value :=
  Entries.get? (es.reverse.map fun e => (renamed e.1, e.2)) name

def renamedFrom (done es : Entries) : Entries :=
  es.foldl (fun done e => done.put (renamed e.1) e.2) done

/-- Options with current names, each of them once. -/
structure Current (es : Entries) : Prop where
  once : (es.map (·.1)).Nodup
  current : ∀ e ∈ es, renamed e.1 = e.1

theorem currentProperty_on (name : String) (s : Session) : ∃ t,
    (currentProperty name).on s = (.ok (renamed name), t) ∧ (renamed name = name → t = s) := by
  unfold currentProperty renamed
  cases hfind : renamedProperties.find? (·.1 == name) with
  | none => exact ⟨s, rfl, fun _ => rfl⟩
  | some p =>
    have hold : p.1 = name := by simpa using find?_some hfind
    have hne : ∀ p ∈ renamedProperties, p.2 ≠ p.1 := by decide
    refine ⟨_, rfl, fun heq => ?_⟩
    exact absurd (heq.trans hold.symm) (hne p (mem_of_find?_eq_some hfind))

theorem renamed_renamed (name : String) : renamed (renamed name) = renamed name := by
  cases hfind : renamedProperties.find? (·.1 == name) with
  | none => simp [renamed, hfind]
  | some p =>
    have hall : ∀ p ∈ renamedProperties, renamed p.2 = p.2 := by decide
    have hname : renamed name = p.2 := by simp [renamed, hfind]
    rw [hname]
    exact hall p (mem_of_find?_eq_some hfind)

theorem renameAll_on (es done : Entries) (s : Session) : ∃ t,
    (renameAll es done).on s = (.ok (renamedFrom done es), t)
      ∧ ((∀ e ∈ es, renamed e.1 = e.1) → t = s) := by
  induction es generalizing done s with
  | nil => exact ⟨s, rfl, fun _ => rfl⟩
  | cons e es ih =>
    obtain ⟨u, hname, hu⟩ := currentProperty_on e.1 s
    obtain ⟨t, hrest, ht⟩ := ih (done.put (renamed e.1) e.2) u
    refine ⟨t, (Check.on_bind_ok _ hname).trans hrest, fun h => ?_⟩
    rw [ht (forall_mem_cons.mp h).2, hu (h e mem_cons_self)]

theorem get?_renamedFrom (es done : Entries) (name : String) :
    (renamedFrom done es).get? name = (lastGiven? es name).or (done.get? name) := by
  induction es generalizing done with
  | nil => rfl
  | cons e es ih =>
    rw [renamedFrom, foldl_cons, ← renamedFrom, ih, Entries.get?_put, lastGiven?, lastGiven?,
      reverse_cons, map_append, Entries.get?_append, Option.or_assoc]
    congr 1
    rw [map_singleton, Entries.get?_cons]
    have hnil : Entries.get? [] name = none := rfl
    by_cases hname : renamed e.1 = name <;> simp [hname, hnil, Ne.symm]

theorem Current.put (h : Current es) (hkey : renamed key = key) : Current (es.put key v) where
  once := by
    rw [Entries.put_eq, keys_putBy]
    have honce := h.once
    grind
  current e he := by
    rcases mem_putBy _ (Entries.put_eq es key v ▸ he) with rfl | he
    · exact hkey
    · exact h.current e he

theorem current_renamedFrom (h : Current done) (es : Entries) : Current (renamedFrom done es) := by
  induction es generalizing done with
  | nil => exact h
  | cons e es ih => exact ih (h.put (renamed_renamed e.1))

/-- Options with current names stay as they are. -/
theorem Current.renamedFrom_eq (done : Entries) (h : Current (done ++ es)) :
    renamedFrom done es = done ++ es := by
  induction es generalizing done with
  | nil => exact (append_nil done).symm
  | cons e es ih =>
    have hfresh : ∀ e' ∈ done, e'.1 ≠ e.1 := fun e' he' heq => by
      have honce := h.once
      rw [map_append, nodup_append] at honce
      exact honce.2.2 _ (mem_map_of_mem he') _ (mem_map_of_mem mem_cons_self) heq
    rw [append_cons] at h ⊢
    rw [← ih _ h, renamedFrom, foldl_cons, h.current e (by simp), Entries.put_eq,
      putBy_of_not_mem _ hfresh]
    rfl

/-! ## A scale for both directions -/

def spread (es : Entries) : Entries :=
  match es.get? "scale" with
  | none => es
  | some v => ((es.put "scale_x" v).put "scale_y" v).without "scale"

/-- No direction has a scale of its own beside that for both. -/
def OneScale (es : Entries) : Prop :=
  es.get? "scale" = none ∨ es.get? "scale_x" = none ∧ es.get? "scale_y" = none

theorem spreadScale_on_iff {w : Value} : (spreadScale (.dict es)).on s = (.ok w, t)
    ↔ (renameAll es []).on s = (.ok (renamedFrom [] es), t) ∧ OneScale (renamedFrom [] es)
      ∧ w = .dict (spread (renamedFrom [] es)) := by
  obtain ⟨u, hrename, -⟩ := renameAll_on es [] s
  rw [spreadScale, Check.on_bind_ok _ hrename, hrename, spread, OneScale, Entries.has_eq_isSome,
    Entries.has_eq_isSome]
  cases (renamedFrom [] es).get? "scale" with
  | none =>
    show (Except.ok _, u) = _ ↔ _
    grind
  | some v =>
    dsimp only
    split
    · next h =>
        constructor
        · rintro ⟨⟩
        · grind
    · next h =>
        rw [Bool.or_eq_true, not_or, Option.not_isSome_iff_eq_none, Option.not_isSome_iff_eq_none] at h
        show (Except.ok _, u) = _ ↔ _
        grind

theorem get?_spread (h : OneScale es) (name : String) : (spread es).get? name =
    if name = "scale" then none
    else if name = "scale_x" ∨ name = "scale_y" then (es.get? name).or (es.get? "scale")
    else es.get? name := by
  unfold spread
  cases hscale : es.get? "scale" with
  | none => grind
  | some v =>
    by_cases hname : name = "scale"
    · rw [if_pos hname]
      refine Entries.get?_eq_none_of_forall fun e he => ?_
      rw [hname]
      simpa using (mem_filter.mp he).2
    · have hkept : (name != "scale") = true := bne_iff_ne.mpr hname
      dsimp only [Entries.without]
      rw [Entries.get?_filter (p := (· != "scale")) hkept, Entries.get?_put, Entries.get?_put,
        if_neg hname]
      have hfree := h.resolve_left (by rw [hscale]; exact nofun)
      grind

theorem current_spread (h : Current es) : Current (spread es) := by
  unfold spread
  split
  · exact h
  · next v _ =>
      have hput : Current ((es.put "scale_x" v).put "scale_y" v) := (h.put (by decide)).put (by decide)
      exact ⟨hput.once.sublist (filter_sublist.map _), fun e he => hput.current e (mem_filter.mp he).1⟩

/-- Options with current names and without a scale for both directions stay as they are. -/
theorem Current.spreadScale_on (h : Current es) (hnone : es.get? "scale" = none) (u : Session) :
    (spreadScale (.dict es)).on u = (.ok (.dict es), u) := by
  obtain ⟨u', hrename, hu⟩ := renameAll_on es [] u
  have hsame : renamedFrom [] es = es := Current.renamedFrom_eq [] h
  rw [hu h.current] at hrename
  refine spreadScale_on_iff.mpr ⟨hrename, ?_, ?_⟩
  · rw [hsame]
    exact .inl hnone
  · rw [hsame, spread, hnone]

theorem lastGiven?_eq_some_iff (h : (es.map fun e => renamed e.1).Nodup) {name : String} :
    lastGiven? es name = some v ↔ ∃ e ∈ es, renamed e.1 = name ∧ e.2 = v := by
  have hkeys : ((es.reverse.map fun e => (renamed e.1, e.2)).map (·.1)).Nodup := by
    rw [map_map, map_reverse, nodup_reverse]
    exact h
  rw [lastGiven?, Entries.get?_eq_some_iff hkeys, mem_map]
  simp only [mem_reverse, Prod.mk.injEq]

/-- What becomes of the options of a picture that are accepted.  Each property has the last value
    that is given to it, under its current name, and a scale for both directions becomes two; a second
    time nothing changes.  Where no property is given under two names, every option is kept, and in
    any other order the options are accepted with the same result. -/
theorem spreadScale_last_wins {w : Value} (h : (spreadScale (.dict es)).on s = (.ok w, t)) :
    ∃ out, w = .dict out ∧ (∀ u, (spreadScale w).on u = (.ok w, u))
      ∧ (∀ name, Entries.get? out name = if name = "scale" then none
        else if name = "scale_x" ∨ name = "scale_y" then
          (lastGiven? es name).or (lastGiven? es "scale")
        else lastGiven? es name)
      ∧ ((es.map fun e => renamed e.1).Nodup →
        (∀ e ∈ es, lastGiven? es (renamed e.1) = some e.2)
        ∧ ∀ es', es'.Perm es → ∀ u, ∃ out' u', (spreadScale (.dict es')).on u = (.ok (.dict out'), u')
          ∧ ∀ name, Entries.get? out' name = Entries.get? out name) := by
  have hlast : ∀ es name, (renamedFrom [] es).get? name = lastGiven? es name := fun es name => by
    rw [get?_renamedFrom]
    exact Option.or_none
  obtain ⟨-, hone, rfl⟩ := spreadScale_on_iff.mp h
  have hnil : Current [] := { once := nodup_nil, current := fun e he => absurd he not_mem_nil }
  have hcurrent := current_spread (current_renamedFrom hnil es)
  refine ⟨_, rfl, fun u => ?_, fun name => ?_, fun hnodup => ⟨fun e he => ?_, ?_⟩⟩
  · exact hcurrent.spreadScale_on (get?_spread hone "scale") u
  · rw [get?_spread hone, hlast, hlast]
  · exact (lastGiven?_eq_some_iff hnodup).mpr ⟨e, he, rfl, rfl⟩
  · intro es' hperm u
    have hsame : ∀ name, lastGiven? es' name = lastGiven? es name := fun name => by
      have hnodup' := (hperm.map fun e => renamed e.1).nodup_iff.mpr hnodup
      refine Option.ext fun v => ?_
      rw [lastGiven?_eq_some_iff hnodup, lastGiven?_eq_some_iff hnodup']
      simp only [hperm.mem_iff]
    obtain ⟨u', hrename, -⟩ := renameAll_on es' [] u
    have hone' : OneScale (renamedFrom [] es') := by
      unfold OneScale at hone ⊢
      simpa only [hlast, hsame] using hone
    refine ⟨_, u', spreadScale_on_iff.mpr ⟨hrename, hone', rfl⟩, fun name => ?_⟩
    simp only [get?_spread hone, get?_spread hone', hlast, hsame]

/-- An angle and a rotation are accepted together, and the later of them stays. -/
theorem spreadScale_last_wins_rotation : ∃ w t,
    (spreadScale (.dict [("angle", .int 10), ("rotation", .int 20)])).on {} = (.ok w, t)
      ∧ ∃ out, w = .dict out ∧ Entries.get? out "rotation" = some (.int 20) := by
  refine ⟨_, _, rfl, ?_⟩
  have hrun : (spreadScale (.dict [("angle", .int 10), ("rotation", .int 20)])).on {}
      = (.ok (.dict [("rotation", .int 20)]), _) := rfl
  obtain ⟨out, hout, -, hget, -⟩ := spreadScale_last_wins hrun
  exact ⟨out, hout, hget "rotation"⟩

end Kinds

end Panel
