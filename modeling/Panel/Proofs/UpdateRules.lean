import Panel.Proofs.Acceptance
import Panel.Proofs.Entries
import Panel.Proofs.RuleFairness
import Panel.Proofs.StyleCoverage

/-! # Accepted updates — which keys they hold

    A record hands on the keys it was given and adds its defaults. -/

namespace Panel

open Cpp List

variable {t : Test} {ts : List Test} {v w : Value} {s s' : Session} {f : Field}

/-! ## Records -/

namespace Record

open Check

variable {r : Record}

theorem Walk.keys {out : Entries} (h : r.Walk es out []) : out.map (·.1) = es.map (·.1) := by
  generalize hnone : [] = issues at h
  induction h with
  | nil => rfl
  | kept _ _ _ ih => exact congrArg (_ :: ·) (ih hnone)
  | lost hlost _ _ => exact absurd (nil_eq_append_iff.mp hnone).1 hlost

/-- What a record hands on for what it was given: entries that fit its fields, with keys that were
    given or have a default, and with every key of a field that must be there or has a default. -/
structure Accepted (r : Record) (written es : Entries) : Prop where
  fits : ∀ e ∈ es, r.Fits e
  given : ∀ key, Entries.has es key = true → Entries.has written key = true ∨
    ∃ f ∈ r.fields, f.key = key ∧ f.default?.isSome = true
  kept : ∀ f, r.field? f.key = some f → f.default?.isSome = true ∨ f.presence = .required →
    Entries.has es f.key = true

theorem runExtras_eq (h : ∀ t ∈ ts, ∀ {v w s u}, (t v).on s = (.ok w, u) → w = v) {u : Session}
    (hrun : (runExtras ts v).on s = (.ok w, u)) : w = v := by
  induction ts generalizing v s with
  | nil =>
    cases hrun
    rfl
  | cons t ts ih =>
    obtain ⟨x, u', hx, hrest⟩ := Check.on_bind_eq_ok hrun
    obtain rfl := h t mem_cons_self (Test.guarded_eq_ok hx)
    exact ih (forall_mem_cons.mp h).2 hrest

theorem run_accepted (hextras : ∀ t ∈ r.extras, ∀ {v w s u}, (t v).on s = (.ok w, u) → w = v)
    (h : (r.run v).on s = (.ok w, s')) :
    ∃ written es, v = .dict written ∧ w = .dict es ∧ r.Accepted written es := by
  cases v with
  | dict written =>
    obtain ⟨es, u, hwalk, hmissing, h⟩ := walk_of_run h
    replace hwalk := Walk.of_ok hwalk
    obtain rfl := runExtras_eq hextras h
    refine ⟨written, es, rfl, rfl, ?_, ?_, ?_⟩
    · exact fun e he => (hwalk.answers e he).fits
    · intro key hkey
      obtain ⟨e, he, rfl⟩ := List.mem_map.mp (Entries.has_iff_mem_keys.mp hkey)
      have hmet := (hwalk.answers e he).key_mem
      obtain ⟨x, hx, hxe⟩ := List.mem_map.mp hmet
      rcases mem_completed hx with hx | ⟨f, hf, hkey, hdefault⟩
      · exact .inl (Entries.has_iff_mem_keys.mpr (List.mem_map.mpr ⟨x, hx, hxe⟩))
      · exact .inr ⟨f, hf, hkey.trans hxe, by rw [hdefault]; rfl⟩
    · intro f hfield hcome
      have hmem : f ∈ r.fields := List.mem_of_find?_eq_some hfield
      have hmet : f.key ∈ (r.completed written).map (·.1) := by
        unfold completed
        rw [List.map_append, List.mem_append]
        cases hhas : Entries.has written f.key with
        | true => exact .inl (Entries.has_iff_mem_keys.mp hhas)
        | false =>
          have hdefault : f.default?.isSome = true := by
            refine hcome.resolve_right fun hrequired => ?_
            -- A required key that is not there would have been reported as missing.
            have hnone := List.filterMap_eq_nil_iff.mp hmissing f hmem
            rw [hrequired, hhas] at hnone
            exact nomatch hnone
          obtain ⟨v, hv⟩ := Option.isSome_iff_exists.mp hdefault
          refine .inr (List.mem_map.mpr ⟨(f.key, v), ?_, rfl⟩)
          refine List.mem_filterMap.mpr ⟨f, hmem, ?_⟩
          rw [hhas, hv]
          rfl
      exact Entries.has_iff_mem_keys.mpr (hwalk.keys ▸ hmet)
  | _ => cases h

/-- The key of a field that must be there or has a default is there, with an answer of the test. -/
theorem Accepted.there {written : Entries} (h : r.Accepted written es)
    (hf : r.field? f.key = some f) (hcome : f.default?.isSome = true ∨ f.presence = .required) :
    ∃ v, es.get? f.key = some v ∧ f.test.Gives v := by
  obtain ⟨v, hv⟩ := Entries.exists_get?_of (h.kept f hf hcome)
  obtain ⟨f', hf', hgives⟩ := h.fits _ (Entries.mem_of_get? hv)
  obtain rfl := Option.some.inj (hf.symm.trans hf')
  exact ⟨v, hv, hgives⟩

end Record

/-! ## Updates -/

namespace Kind

variable {k : Kind} {g : Grammar} {written es : Entries} {key : String}

def updateRecord (k : Kind) (g : Grammar) : Record :=
  ((Schema.updateRecord k.traits.type k.traits.parts).check (Schema.noteUpdate k)).extend
    (k.design.changes g)

def sharedKeys : List String :=
  Constants.states ++ Schema.styleFields.map (·.key) ++ Constants.flags ++ ["id", "state"]

theorem update_accepted {config : Value}
    (h : ((Automation.updateOf k k.design).rule g v).on s = (.ok config, s')) :
    ∃ written es, v = .dict written ∧ config = .dict es ∧
      (k.updateRecord g).Accepted written es := by
  refine Record.run_accepted (r := k.updateRecord g) (fun t ht v w s u hrun => ?_) h
  obtain rfl : t = Schema.noteUpdate k := mem_singleton.mp ht
  cases hrun
  rfl

theorem shared_field (h : f ∈ (Schema.updateRecord k.traits.type k.traits.parts).fields) :
    (f.key ∈ sharedKeys ∨ f.key ∈ k.traits.parts) ∧ f.default? = none := by
  have hmap : ∀ {names : List String} {t : Test}, f ∈ names.map (fun n => Field.optional n t) →
      f.key ∈ names ∧ f.default? = none := by
    intro names t hf
    obtain ⟨n, hn, rfl⟩ := mem_map.mp hf
    exact ⟨hn, rfl⟩
  unfold sharedKeys
  simp only [mem_append]
  rcases Record.mem_extend h with h | h
  · rcases Record.mem_extend h with h | h
    · rcases Record.mem_extend h with h | h
      · refine ⟨.inl (.inl (.inl ?_)), (Style.allOptional_states f h).2⟩
        rcases Record.mem_extend h with h | h
        · exact .inl (hmap h).1
        · exact .inr (mem_map.mpr ⟨f, h, rfl⟩)
      · exact ⟨.inl (.inl (.inr (hmap h).1)), (hmap h).2⟩
    · exact ⟨.inr (hmap h).1, (hmap h).2⟩
  · rcases mem_pair.mp h with rfl | rfl
    · exact ⟨.inl (.inr mem_cons_self), rfl⟩
    · exact ⟨.inl (.inr (mem_cons_of_mem _ mem_cons_self)), rfl⟩

section

variable (h : (k.updateRecord g).Accepted written es)

include h

theorem not_has (hshared : key ∉ sharedKeys)
    (hparts : key ∉ k.traits.parts) (hown : key ∉ (k.design.changes g).map (·.key)) :
    es.has key = false := by
  by_contra hhas
  rw [Bool.not_eq_false, Entries.has, any_eq_true] at hhas
  obtain ⟨e, he, hek⟩ := hhas
  obtain ⟨f, hfield, -⟩ := h.fits e he
  rw [beq_iff_eq.mp hek] at hfield
  rcases Record.field?_extend hfield with ⟨hmem, hkey⟩ | ⟨-, hfield⟩
  · exact hown (mem_map.mpr ⟨f, hmem, hkey⟩)
  · obtain ⟨hmem, rfl⟩ := Record.field?_of hfield
    exact (shared_field hmem).1.elim hshared hparts

theorem has_written (hdefault : ∀ f ∈ k.design.changes g, f.key = key → f.default? = none)
    (hhas : es.has key = true) : written.has key = true := by
  refine (h.given key hhas).resolve_right ?_
  rintro ⟨f, hf, hkey, hsome⟩
  have hnone : f.default? = none := by
    rcases Record.mem_extend hf with hf | hf
    · exact (shared_field hf).2
    · exact hdefault f hf hkey
  rw [hnone] at hsome
  exact nomatch hsome

theorem has_changed
    (hf : (k.design.changes g).reverse.find? (·.key == f.key) = some f)
    (hcome : f.default?.isSome = true ∨ f.presence = .required) : es.has f.key = true := by
  refine h.kept f ?_ hcome
  unfold updateRecord
  rw [Record.field?_extend_eq, hf, Option.some_or]

end

end Kind

end Panel
