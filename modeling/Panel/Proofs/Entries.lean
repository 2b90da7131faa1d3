import Panel.Style.Collect

/-! # Entries — looking up the keys of a dictionary -/

namespace Panel

open List

variable {es : Entries} {key : String} {v : Value}

/-! ## Items with keys -/

section Keyed

variable {α : Type} (key : α → String) (xs : List α) (a : α)

/-- Puts an item among others: in the place of the one with its key, or at the end. -/
def putBy (key : α → String) : List α → α → List α
  | [], a => [a]
  | x :: xs, a => if key x == key a then a :: xs else x :: putBy key xs a

theorem find?_putBy (k : String) : (putBy key xs a).find? (key · == k)
    = if key a = k then some a else xs.find? (key · == k) := by
  induction xs with
  | nil => grind [putBy]
  | cons x xs ih => grind [putBy]

theorem keys_putBy : (putBy key xs a).map key
    = if key a ∈ xs.map key then xs.map key else xs.map key ++ [key a] := by
  induction xs with
  | nil => rfl
  | cons x xs ih => grind [putBy]

variable {key xs}

theorem putBy_of_not_mem (h : ∀ x ∈ xs, key x ≠ key a) : putBy key xs a = xs ++ [a] := by
  induction xs with
  | nil => rfl
  | cons x xs ih => grind [putBy]

theorem mem_putBy {x : α} (h : x ∈ putBy key xs a) : x = a ∨ x ∈ xs := by
  induction xs with
  | nil => grind [putBy]
  | cons y xs ih => grind [putBy]

theorem getElem?_putBy {i : Nat} {x : α} (hx : xs[i]? = some x) (hne : key x ≠ key a) :
    (putBy key xs a)[i]? = some x := by
  induction xs generalizing i with
  | nil => cases hx
  | cons y xs ih => cases i <;> grind [putBy]

/-- Of the items that are put one after the other, the last one with a key is found. -/
theorem find?_foldl {put : List α → α → List α} (hput : ∀ xs a k, (put xs a).find? (key · == k)
      = if key a = k then some a else xs.find? (key · == k)) (news xs : List α) (k : String) :
    (news.foldl put xs).find? (key · == k)
      = (news.reverse.find? (key · == k)).or (xs.find? (key · == k)) := by
  induction news generalizing xs with
  | nil => rfl
  | cons a news ih =>
    rw [foldl_cons, ih, hput, reverse_cons, find?_append, Option.or_assoc, find?_singleton]
    grind

end Keyed

section Lookup

variable {α : Type} {xs : List (String × α)} {k : String} {a : α}

theorem mem_of_lookup (h : (xs.find? (·.1 == k)).map (·.2) = some a) : (k, a) ∈ xs := by
  obtain ⟨x, hx, rfl⟩ := Option.map_eq_some_iff.mp h
  have hk : x.1 = k := by simpa using find?_some hx
  exact hk ▸ mem_of_find?_eq_some hx

/-- Where no two keys are the same, every item is found by its key. -/
theorem find?_key (hkeys : (xs.map (·.1)).Nodup) {x : String × α} (hx : x ∈ xs) :
    xs.find? (·.1 == x.1) = some x := by
  induction xs with
  | nil => exact nomatch hx
  | cons y xs ih =>
    rw [map_cons, nodup_cons] at hkeys
    rcases mem_cons.mp hx with rfl | hx
    · exact find?_cons_of_pos (beq_self_eq_true _)
    · have hne : y.1 ≠ x.1 := fun heq => hkeys.1 (heq ▸ mem_map_of_mem hx)
      rw [find?_cons_of_neg (by simpa using hne)]
      exact ih hkeys.2 hx

theorem lookup_eq_some_iff (hkeys : (xs.map (·.1)).Nodup) :
    (xs.find? (·.1 == k)).map (·.2) = some a ↔ (k, a) ∈ xs := by
  refine ⟨mem_of_lookup, fun h => ?_⟩
  rw [find?_key hkeys h]
  rfl

end Lookup

theorem Style.putNamed_eq {α : Type} (found : List (String × α)) (name : String) (a : α) :
    putNamed found name a = putBy (·.1) found (name, a) := by
  induction found with
  | nil => rfl
  | cons e found ih => grind [putNamed, putBy]

/-! ## Entries -/

namespace Entries

theorem put_eq (es : Entries) (key : String) (v : Value) :
    put es key v = putBy (·.1) es (key, v) := by
  induction es with
  | nil => rfl
  | cons e es ih => grind [put, putBy]

theorem get?_cons (x : String × Value) (es : Entries) (k : String) :
    get? (x :: es) k = if x.1 == k then some x.2 else get? es k := by
  unfold get?
  rw [find?_cons]
  cases x.1 == k <;> rfl

theorem has_eq_isSome (es : Entries) (key : String) : has es key = (get? es key).isSome := by
  rw [Bool.eq_iff_iff, get?, Option.isSome_map, find?_isSome, has, any_eq_true]

theorem has_iff_mem_keys : has es key = true ↔ key ∈ es.map (·.1) := by
  rw [has, any_eq_true, mem_map]
  simp only [beq_iff_eq]

theorem get?_eq_none_of (h : has es key = false) : get? es key = none := by
  rw [has_eq_isSome] at h
  exact Option.isNone_iff_eq_none.mp (Option.isSome_eq_false_iff.mp h)

theorem exists_get?_of (h : has es key = true) : ∃ v, get? es key = some v := by
  rw [has_eq_isSome] at h
  exact Option.isSome_iff_exists.mp h

theorem has_of_get? (h : get? es key = some v) : has es key = true := by
  rw [has_eq_isSome, h]
  rfl

theorem mem_of_get? {k : String} (h : get? es k = some v) : (k, v) ∈ es := mem_of_lookup h

theorem get?_eq_some_iff (hkeys : (es.map (·.1)).Nodup) : get? es key = some v ↔ (key, v) ∈ es :=
  lookup_eq_some_iff hkeys

theorem get?_filter {p : String → Bool} (hkey : p key = true) (es : Entries) :
    get? (es.filter fun e => p e.1) key = get? es key := by
  induction es with
  | nil => rfl
  | cons e es ih =>
    rw [filter_cons, get?_cons e es]
    split
    · rw [get?_cons, ih]
    · next hp =>
        have hne : ¬ (e.1 == key) = true := fun he => hp (beq_iff_eq.mp he ▸ hkey)
        rw [if_neg hne, ih]

theorem get?_eq_none_of_forall (h : ∀ e ∈ es, e.1 ≠ key) : get? es key = none := by
  rw [get?, Option.map_eq_none_iff, find?_eq_none]
  exact fun e he hkey => h e he (beq_iff_eq.mp hkey)

theorem get?_put (es : Entries) (key key' : String) (v : Value) :
    get? (put es key v) key' = if key' = key then some v else get? es key' := by
  rw [get?, put_eq, find?_putBy, get?]
  grind

theorem get?_put_self (es : Entries) (key : String) (v : Value) :
    get? (put es key v) key = some v := by
  rw [get?_put, if_pos rfl]

theorem get?_put_ne (es : Entries) {key' : String} (v : Value) (h : key' ≠ key) :
    get? (put es key v) key' = get? es key' := by
  rw [get?_put, if_neg h]

theorem put_of_get? (h : get? es key = some v) : put es key v = es := by
  induction es with
  | nil => cases h
  | cons e rest ih =>
    obtain ⟨k, w⟩ := e
    rw [get?_cons] at h
    rw [put]
    grind

theorem get?_append (es fs : Entries) (key : String) :
    get? (es ++ fs) key = (get? es key).or (get? fs key) := by
  unfold get?
  rw [find?_append]
  cases es.find? (·.1 == key) <;> rfl

theorem get?_append_of_some (h : get? es key = some v) (fs : Entries) :
    get? (es ++ fs) key = some v := by
  rw [get?_append, h, Option.some_or]

theorem get?_map_pair (keys : List String) (g : String → Value) (key : String) :
    get? (keys.map fun k => (k, g k)) key = if key ∈ keys then some (g key) else none := by
  induction keys with
  | nil => rfl
  | cons k keys ih =>
    rw [map_cons, get?_cons, ih]
    grind

theorem given?_congr {fs : Entries} (h : (get? es key).getD .null = (get? fs key).getD .null) :
    given? es key = given? fs key := by
  have hgiven : ∀ es : Entries,
      given? es key = given? [(key, (get? es key).getD .null)] key := by
    intro es
    rw [given?, given?, get?_cons, if_pos (beq_self_eq_true key)]
    cases get? es key with
    | none => rfl
    | some v => cases v <;> rfl
  rw [hgiven es, hgiven fs, h]

end Entries

theorem Value.get?_eq_none_of (h : es.has key = false) : (Value.dict es).get? key = none :=
  Entries.get?_eq_none_of h

end Panel
