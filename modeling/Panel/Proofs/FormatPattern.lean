import Mathlib
import Panel.Property.Text

/-! # The pattern of conversions — which parts of a format pass for conversions

    A format is searched for conversions with a pattern, from left to right.  Before the letter of a
    conversion nothing stands that could begin another one, so what is found at a percent sign does
    not depend on what was found before. -/

namespace Panel.Printf

open List

variable {cs flags point rest size width letters after : List Char} {c : Char}

/-! ## The pattern -/

def IsFlag (c : Char) : Prop := c ∈ "-+0 #".toList

def IsDigit (c : Char) : Prop := (Text.digitValue? c).isSome = true

def IsCount (cs : List Char) : Prop := cs = ['*'] ∨ cs ≠ [] ∧ ∀ c ∈ cs, IsDigit c

def sizes : List (List Char) := ["h", "l", "ll", "w", "I", "I32", "I64", ""].map String.toList

/-- What the pattern takes between a percent sign and the letter of a conversion. -/
structure Modifiers (flags width point size : List Char) : Prop where
  few : flags.length ≤ 5
  flags : ∀ c ∈ flags, IsFlag c
  width : width = [] ∨ IsCount width
  point : point = [] ∨ ∃ count, point = '.' :: count ∧ IsCount count
  size : size ∈ sizes

/-- A text after a percent sign that the pattern takes for a conversion. -/
def Counted (cs : List Char) : Prop :=
  ∃ flags width point size c rest, Modifiers flags width point size ∧ c ∈ conversionLetters
    ∧ cs = flags ++ width ++ (point ++ size) ++ c :: rest

/-- What stands before the letter of a conversion that is counted. -/
def Marks (cs : List Char) : Prop :=
  ∃ flags width point size, Modifiers flags width point size
    ∧ cs = flags ++ width ++ (point ++ size)

theorem counted_iff :
    Counted cs ↔ ∃ marks c rest, Marks marks ∧ c ∈ conversionLetters ∧ cs = marks ++ c :: rest := by
  constructor
  · rintro ⟨flags, width, point, size, c, rest, hmods, hc, h⟩
    exact ⟨_, c, rest, ⟨flags, width, point, size, hmods, rfl⟩, hc, h⟩
  · rintro ⟨_, c, rest, ⟨flags, width, point, size, hmods, rfl⟩, hc, h⟩
    exact ⟨flags, width, point, size, c, rest, hmods, hc, h⟩

theorem forall_mem_of_all {p : Char → Prop} [DecidablePred p] (h : cs.all fun c => decide (p c)) :
    ∀ c ∈ cs, p c := fun c hc =>
  of_decide_eq_true (all_eq_true.mp h c hc)

theorem not_isDigit_of_mem (h : c ∈ "-+ #*.%FhljztLwI".toList ++ conversionLetters) :
    ¬ IsDigit c := by
  have hall : ∀ c ∈ "-+ #*.%FhljztLwI".toList ++ conversionLetters,
      ¬ (Text.digitValue? c).isSome = true := forall_mem_of_all (by decide)
  exact hall c h

def trailing : List Char := ".hljztLwI".toList

theorem not_isDigit_of_trailing (h : c ∈ trailing) : ¬ IsDigit c := by
  have hsome : trailing ⊆ "-+ #*.%FhljztLwI".toList ++ conversionLetters := by decide
  exact not_isDigit_of_mem (hsome h)

theorem head_mem_trailing (h : size ∈ sizes) : ∀ c ∈ size.head?, c ∈ trailing := by
  have hheads : sizes.filterMap head? ⊆ trailing := by decide
  exact fun c hc => hheads (mem_filterMap.mpr ⟨size, h, hc⟩)

/-- Characters that stand nowhere before the letter of a conversion. -/
def foreign : List Char := '%' :: 'F' :: conversionLetters

theorem IsDigit.not_foreign (h : IsDigit c) : c ∉ foreign := by
  have hnone : foreign ⊆ "-+ #*.%FhljztLwI".toList ++ conversionLetters := by decide
  exact fun hforeign => not_isDigit_of_mem (hnone hforeign) h

theorem IsCount.not_foreign (h : IsCount cs) : ∀ c ∈ cs, c ∉ foreign := by
  intro c hc
  rcases h with rfl | ⟨-, hdigits⟩
  · obtain rfl := mem_singleton.mp hc
    decide
  · exact (hdigits c hc).not_foreign

theorem IsFlag.not_foreign (h : IsFlag c) : c ∉ foreign := by
  have hall : ∀ c ∈ "-+0 #".toList, c ∉ foreign := forall_mem_of_all (by decide)
  exact hall c h

theorem Marks.not_foreign (h : Marks cs) : ∀ c ∈ cs, c ∉ foreign := by
  intro c hc
  obtain ⟨flags, width, point, size, h, rfl⟩ := h
  rcases mem_append.mp hc with hc | hc <;> rcases mem_append.mp hc with hc | hc
  · exact (h.flags c hc).not_foreign
  · rcases h.width with rfl | hcount
    · cases hc
    · exact hcount.not_foreign c hc
  · rcases h.point with rfl | ⟨count, rfl, hcount⟩
    · cases hc
    · rcases mem_cons.mp hc with rfl | hc
      · decide
      · exact hcount.not_foreign c hc
  · have hall : ∀ c ∈ sizes.flatten, c ∉ foreign := forall_mem_of_all (by decide)
    exact hall c (mem_flatten_of_mem h.size hc)

/-! ### What is found -/

theorem isDigit_of_mem_takeWhile (h : c ∈ cs.takeWhile fun c => (Text.digitValue? c).isSome) :
    IsDigit c :=
  mem_takeWhile_imp (p := fun c => (Text.digitValue? c).isSome) h

theorem afterCount_eq (cs : List Char) :
    ∃ width, (width = [] ∨ IsCount width) ∧ cs = width ++ afterCount cs := by
  unfold afterCount
  split
  · exact ⟨['*'], .inr (.inl rfl), rfl⟩
  · refine ⟨cs.takeWhile fun c => (Text.digitValue? c).isSome, ?_, takeWhile_append_dropWhile.symm⟩
    exact or_iff_not_imp_left.mpr fun hne => .inr ⟨hne, fun _ => isDigit_of_mem_takeWhile⟩

theorem afterPrecision_eq (cs : List Char) :
    ∃ point, (point = [] ∨ ∃ count, point = '.' :: count ∧ IsCount count)
      ∧ cs = point ++ afterPrecision cs := by
  unfold afterPrecision
  split
  · exact ⟨['.', '*'], .inr ⟨['*'], rfl, .inl rfl⟩, rfl⟩
  · next rest _ =>
      have hsplit := rest.takeWhile_append_dropWhile (p := fun c => (Text.digitValue? c).isSome)
      dsimp only
      split
      · next hless =>
          refine ⟨'.' :: rest.takeWhile fun c => (Text.digitValue? c).isSome,
            .inr ⟨_, rfl, .inr ⟨fun hnil => ?_, fun _ => isDigit_of_mem_takeWhile⟩⟩, ?_⟩
          · rw [hnil, nil_append] at hsplit
            rw [hsplit] at hless
            exact Nat.lt_irrefl _ hless
          · rw [cons_append, hsplit]
      · exact ⟨[], .inl rfl, rfl⟩
  · exact ⟨[], .inl rfl, rfl⟩

theorem mem_afterSize {tail : List Char} :
    tail ∈ afterSize cs ↔ ∃ size ∈ sizes, cs = size ++ tail := by
  have hdrop : ∀ m : String, (if m.toList.isPrefixOf cs then some (cs.drop m.length) else none)
      = some tail ↔ cs = m.toList ++ tail := by
    intro m
    rw [← String.length_toList]
    constructor
    · intro h
      split at h
      · next hprefix =>
          obtain ⟨rest, rfl⟩ := isPrefixOf_iff_prefix.mp hprefix
          rw [drop_left] at h
          rw [Option.some.inj h]
      · cases h
    · rintro rfl
      rw [if_pos ( List.isPrefixOf_iff_prefix.mpr (prefix_append _ _)), drop_left]
  have hsizes : sizes = (["h", "l", "ll", "w", "I", "I32", "I64"].map String.toList) ++ [[]] := rfl
  unfold afterSize
  rw [hsizes, mem_append, mem_singleton, mem_filterMap]
  constructor
  · rintro (⟨m, hm, h⟩ | rfl)
    · exact ⟨m.toList, mem_append_left _ (mem_map_of_mem hm), (hdrop m).mp h⟩
    · exact ⟨[], mem_append_right _ (mem_singleton.mpr rfl), rfl⟩
  · rintro ⟨size, hsize, h⟩
    rcases mem_append.mp hsize with hsize | hsize
    · obtain ⟨m, hm, rfl⟩ := mem_map.mp hsize
      exact .inl ⟨m, hm, (hdrop m).mpr h⟩
    · obtain rfl := mem_singleton.mp hsize
      exact .inr h.symm

theorem isFlag_of_mem_take {k : Nat}
    (hk : k ≤ (cs.takeWhile fun c => "-+0 #".toList.contains c).length) :
    ∀ c ∈ cs.take k, IsFlag c := by
  intro c hc
  generalize hflags : cs.takeWhile _ = flags at hk
  obtain ⟨rest, hrest⟩ : flags <+: cs := hflags ▸ takeWhile_prefix _
  rw [← hrest, take_append_of_le_length hk] at hc
  have hmem := mem_of_mem_take hc
  rw [← hflags] at hmem
  exact contains_iff_mem.mp (mem_takeWhile_imp (p := fun c => "-+0 #".toList.contains c) hmem)

theorem conversionEnd?_eq_some (h : conversionEnd? letters cs = some after) :
    ∃ marks c, Marks marks ∧ c ∈ letters ∧ cs = marks ++ c :: after := by
  obtain ⟨k, hk, h⟩ := exists_of_findSome?_eq_some h
  obtain ⟨afterWidth, hwidth, h⟩ := exists_of_findSome?_eq_some h
  obtain ⟨afterPoint, hpoint, h⟩ := exists_of_findSome?_eq_some h
  obtain ⟨tail, htail, h⟩ := exists_of_findSome?_eq_some h
  have hletter : ∃ c, c ∈ letters ∧ tail = c :: after := by
    split at h
    · next c rest =>
        split at h
        · next hc =>
            obtain rfl := Option.some.inj h
            exact ⟨c, contains_iff_mem.mp hc, rfl⟩
        · cases h
    · cases h
  obtain ⟨c, hc, rfl⟩ := hletter
  obtain ⟨size, hsize, rfl⟩ := mem_afterSize.mp htail
  have hpoint' : ∃ point, (point = [] ∨ ∃ count, point = '.' :: count ∧ IsCount count)
      ∧ afterWidth = point ++ (size ++ c :: after) := by
    rcases mem_pair.mp hpoint with heq | rfl
    · rw [heq]
      exact afterPrecision_eq afterWidth
    · exact ⟨[], .inl rfl, rfl⟩
  obtain ⟨point, hpoint', rfl⟩ := hpoint'
  have hwidth' : ∃ width, (width = [] ∨ IsCount width)
      ∧ cs.drop k = width ++ (point ++ (size ++ c :: after)) := by
    rcases mem_pair.mp hwidth with heq | heq
    · rw [heq]
      exact afterCount_eq (cs.drop k)
    · exact ⟨[], .inl rfl, heq.symm⟩
  obtain ⟨width, hwidth', hdrop⟩ := hwidth'
  rw [mem_reverse, mem_range] at hk
  refine ⟨_, c, ⟨cs.take k, width, point, size, ⟨?_, ?_, hwidth', hpoint', hsize⟩, rfl⟩, hc, ?_⟩
  · rw [length_take]
    omega
  · exact isFlag_of_mem_take (by omega)
  · calc cs = cs.take k ++ cs.drop k := (take_append_drop k cs).symm
      _ = _ := by rw [hdrop]; simp only [append_assoc]

theorem dropWhile_digits {ds : List Char} (hds : ∀ c ∈ ds, IsDigit c)
    (hrest : ∀ c ∈ rest.head?, ¬ IsDigit c) :
    (ds ++ rest).dropWhile (fun c => (Text.digitValue? c).isSome) = rest := by
  rw [dropWhile_append_of_pos hds]
  cases rest with
  | nil => rfl
  | cons c rest => exact dropWhile_cons_of_neg (hrest c rfl)

theorem afterCount_append (h : IsCount width) (hrest : ∀ c ∈ rest.head?, ¬ IsDigit c) :
    afterCount (width ++ rest) = rest := by
  rcases h with rfl | ⟨hne, hdigits⟩
  · rfl
  · have hstar : ¬ IsDigit '*' := not_isDigit_of_mem (by decide)
    obtain ⟨d, ds, rfl⟩ := exists_cons_of_ne_nil hne
    unfold afterCount
    split
    · next heq =>
        obtain ⟨rfl, -⟩ := cons.inj heq
        exact absurd (hdigits '*' mem_cons_self) hstar
    · exact dropWhile_digits hdigits hrest

theorem afterPrecision_append {count : List Char} (h : IsCount count)
    (hrest : ∀ c ∈ rest.head?, ¬ IsDigit c) : afterPrecision ('.' :: (count ++ rest)) = rest := by
  rcases h with rfl | ⟨hne, hdigits⟩
  · rfl
  · have hstar : ¬ IsDigit '*' := not_isDigit_of_mem (by decide)
    have hdrop := dropWhile_digits hdigits hrest
    obtain ⟨d, ds, rfl⟩ := exists_cons_of_ne_nil hne
    unfold afterPrecision
    split
    · next heq =>
        obtain ⟨rfl, -⟩ := cons.inj (cons.inj heq).2
        exact absurd (hdigits '*' mem_cons_self) hstar
    · next heq =>
        obtain ⟨-, rfl⟩ := cons.inj heq
        dsimp only
        rw [hdrop, if_pos]
        rw [length_append, length_cons]
        omega
    · next hnone => exact absurd rfl (hnone _)

theorem not_isDigit_head (hpoint : point = [] ∨ ∃ count, point = '.' :: count ∧ IsCount count)
    (hsize : size ∈ sizes) (hc : c ∈ conversionLetters) :
    ∀ d ∈ (point ++ (size ++ c :: rest)).head?, ¬ IsDigit d := by
  have hletter : ¬ IsDigit c := not_isDigit_of_mem (mem_append_right _ hc)
  have hafter : ∀ d ∈ (size ++ c :: rest).head?, ¬ IsDigit d := by
    intro d hd
    cases size with
    | nil =>
      obtain rfl := Option.some.inj hd
      exact hletter
    | cons x size => exact not_isDigit_of_trailing (head_mem_trailing hsize d hd)
  rcases hpoint with rfl | ⟨count, rfl, -⟩
  · exact hafter
  · intro d hd
    obtain rfl := Option.some.inj hd
    exact not_isDigit_of_mem (by decide)

theorem Marks.isSome (h : Marks cs) (hc : c ∈ conversionLetters)
    (hletter : c ∈ letters) (rest : List Char) :
    (conversionEnd? letters (cs ++ c :: rest)).isSome := by
  obtain ⟨flags, width, point, size, hmods, rfl⟩ := h
  have hflags : flags.length ≤ ((flags ++ width ++ (point ++ size) ++ c :: rest).takeWhile
      fun c => "-+0 #".toList.contains c).length := by
    rw [append_assoc, append_assoc,
      takeWhile_append_of_pos fun c hc => contains_iff_mem.mpr (hmods.flags c hc),
      length_append]
    exact Nat.le_add_right _ _
  have hdrop : (flags ++ width ++ (point ++ size) ++ c :: rest).drop flags.length
      = width ++ (point ++ (size ++ c :: rest)) := by
    simp only [append_assoc, drop_left]
  have hfew := hmods.few
  -- The flags, the width, the point and the size are tried in this order; each may also be missing.
  unfold conversionEnd?
  simp only [findSome?_isSome_iff]
  refine ⟨flags.length, ?_, point ++ (size ++ c :: rest), ?_, size ++ c :: rest, ?_, c :: rest, ?_,
    ?_⟩
  · rw [mem_reverse, mem_range]
    omega
  · rw [hdrop, mem_pair]
    rcases hmods.width with rfl | hwidth
    · exact .inr rfl
    · exact .inl (afterCount_append hwidth (not_isDigit_head hmods.point hmods.size hc)).symm
  · rw [mem_pair]
    rcases hmods.point with rfl | ⟨count, rfl, hcount⟩
    · exact .inr rfl
    · have hhead : ∀ d ∈ ([] ++ (size ++ c :: rest)).head?, ¬ IsDigit d :=
        not_isDigit_head (.inl rfl) hmods.size hc
      exact .inl (afterPrecision_append hcount hhead).symm
  · exact mem_afterSize.mpr ⟨size, hmods.size, rfl⟩
  · dsimp only
    rw [if_pos (contains_iff_mem.mpr hletter)]
    rfl

theorem append_cut (sort : Char → Prop) {xs ys xs' ys' : List Char} (hxs : ∀ c ∈ xs, sort c)
    (hxs' : ∀ c ∈ xs', sort c) (hys : ∀ c ∈ ys.head?, ¬ sort c) (hys' : ∀ c ∈ ys'.head?, ¬ sort c)
    (h : xs ++ ys = xs' ++ ys') : xs = xs' ∧ ys = ys' := by
  rcases append_eq_append_iff.mp h with ⟨as, rfl, rfl⟩ | ⟨as, rfl, rfl⟩
  · cases as with
    | nil => exact ⟨(append_nil _).symm, rfl⟩
    | cons a as =>
      exact absurd (hxs' a (mem_append_right _ mem_cons_self)) (hys a rfl)
  · cases as with
    | nil => exact ⟨append_nil _, rfl⟩
    | cons a as =>
      exact absurd (hxs a (mem_append_right _ mem_cons_self)) (hys' a rfl)

theorem letter_unique {cs' rest' : List Char} {c' : Char} (hcs : Marks cs) (hcs' : Marks cs')
    (hc : c ∈ conversionLetters) (hc' : c' ∈ conversionLetters)
    (h : cs ++ c :: rest = cs' ++ c' :: rest') : c = c' ∧ rest = rest' := by
  have hforeign : ∀ x ∈ conversionLetters, ∀ y ∈ some x, ¬ y ∉ foreign := by
    rintro x hx y ⟨⟩
    exact not_not_intro (mem_cons_of_mem _ (mem_cons_of_mem _ hx))
  have hcut : _ ∧ c :: rest = c' :: rest' := append_cut (· ∉ foreign) hcs.not_foreign
    hcs'.not_foreign (hforeign c hc) (hforeign c' hc') h
  exact cons.inj hcut.2

theorem conversionEnd?_isSome_iff : (conversionEnd? conversionLetters cs).isSome ↔ Counted cs := by
  rw [Option.isSome_iff_exists, counted_iff]
  constructor
  · rintro ⟨after, hafter⟩
    obtain ⟨marks, c, hmarks, hc, hcs⟩ := conversionEnd?_eq_some hafter
    exact ⟨marks, c, after, hmarks, hc, hcs⟩
  · rintro ⟨marks, c, rest, hmarks, hc, rfl⟩
    exact Option.isSome_iff_exists.mp (hmarks.isSome hc hc rest)

instance (cs : List Char) : Decidable (Counted cs) :=
  decidable_of_iff _ conversionEnd?_isSome_iff

theorem Marks.not_percent (h : Marks cs) (hc : c ∈ conversionLetters) : '%' ∉ cs ++ [c] := by
  intro hmem
  rcases mem_append.mp hmem with hmem | hmem
  · exact h.not_foreign '%' hmem mem_cons_self
  · obtain rfl := mem_singleton.mp hmem
    revert hc
    decide

/-! ## What is found -/

/-- The conversion that a text after a percent sign begins with. -/
def conversionAt? (letters cs : List Char) : Option String :=
  (conversionEnd? letters cs).map fun after =>
    String.ofList ('%' :: cs.take (cs.length - after.length))

/-- The conversions that begin at the percent signs of a text. -/
def found (letters : List Char) : List Char → List String
  | [] => []
  | c :: cs => (if c = '%' then (conversionAt? letters cs).toList else []) ++ found letters cs

/-- The percent signs before a text that the pattern takes for a conversion. -/
def counted : List Char → Nat
  | [] => 0
  | c :: cs => (if c = '%' ∧ Counted cs then 1 else 0) + counted cs

theorem length_found (cs : List Char) : (found conversionLetters cs).length = counted cs := by
  induction cs with
  | nil => rfl
  | cons c cs ih =>
    simp only [found, counted, length_append, ih, ← conversionEnd?_isSome_iff, conversionAt?]
    by_cases hc : c = '%'
    · cases conversionEnd? conversionLetters cs <;> simp [hc]
    · simp [hc]

theorem found_append (h : '%' ∉ cs) (rest : List Char) :
    found letters (cs ++ rest) = found letters rest := by
  induction cs with
  | nil => rfl
  | cons c cs ih =>
    have hc : c ≠ '%' := fun hc => h (hc ▸ mem_cons_self)
    rw [cons_append, found, if_neg hc]
    exact ih fun hmem => h (mem_cons_of_mem c hmem)

theorem counted_append (h : '%' ∉ cs) (rest : List Char) : counted (cs ++ rest) = counted rest := by
  rw [← length_found, ← length_found, found_append h]

theorem take_conversion (marks : List Char) (c : Char) (after : List Char) :
    (marks ++ c :: after).take ((marks ++ c :: after).length - after.length) = marks ++ [c] := by
  have hlength : (marks ++ c :: after).length - after.length = (marks ++ [c]).length := by
    simp only [length_append, length_cons, length_nil]
    omega
  rw [hlength, append_cons marks c after, take_left]

section

variable (hsub : letters ⊆ conversionLetters)

include hsub

theorem conversionAt?_eq_some_iff {m : String} :
    conversionAt? letters cs = some m ↔ ∃ marks c after, Marks marks ∧ c ∈ letters
      ∧ cs = marks ++ c :: after ∧ m = String.ofList ('%' :: (marks ++ [c])) := by
  rw [conversionAt?, Option.map_eq_some_iff]
  constructor
  · rintro ⟨after, hafter, rfl⟩
    obtain ⟨marks, c, hmarks, hc, rfl⟩ := conversionEnd?_eq_some hafter
    exact ⟨marks, c, after, hmarks, hc, rfl, by rw [take_conversion]⟩
  · rintro ⟨marks, c, after, hmarks, hc, rfl, rfl⟩
    obtain ⟨after', hafter⟩ := Option.isSome_iff_exists.mp (hmarks.isSome (hsub hc) hc after)
    obtain ⟨marks', c', hmarks', hc', h⟩ := conversionEnd?_eq_some hafter
    obtain ⟨-, rfl⟩ := letter_unique hmarks hmarks' (hsub hc) (hsub hc') h
    exact ⟨after, hafter, by rw [take_conversion]⟩

theorem mem_found {m : String} (h : m ∈ found letters cs) :
    ∃ marks c, Marks marks ∧ c ∈ letters ∧ m = String.ofList ('%' :: (marks ++ [c])) := by
  induction cs with
  | nil => cases h
  | cons c cs ih =>
    rcases mem_append.mp h with h | h
    · split at h
      · obtain ⟨marks, c, -, hmarks, hc, -, hm⟩ :=
          (conversionAt?_eq_some_iff hsub).mp (Option.mem_toList.mp h)
        exact ⟨marks, c, hmarks, hc, hm⟩
      · cases h
    · exact ih h

theorem conversionsWithin_eq (n : Nat) (hn : cs.length ≤ n) :
    conversionsWithin letters n cs = found letters cs := by
  induction n generalizing cs with
  | zero =>
    obtain rfl := length_eq_zero_iff.mp (Nat.le_zero.mp hn)
    rfl
  | succ n ih =>
    cases cs with
    | nil => rfl
    | cons c cs =>
      have hshort : cs.length ≤ n := Nat.le_of_succ_le_succ hn
      rw [conversionsWithin, found]
      by_cases hc : c = '%'
      · rw [if_pos (beq_iff_eq.mpr hc), if_pos hc, conversionAt?, hc]
        cases hend : conversionEnd? letters cs with
        | none => exact ih hshort
        | some after =>
          obtain ⟨marks, x, hmarks, hx, rfl⟩ := conversionEnd?_eq_some hend
          have hskip : found letters _ = _ := found_append (hmarks.not_percent (hsub hx)) after
          rw [append_assoc, singleton_append] at hskip
          rw [hskip, ← ih]
          · rfl
          · simp only [length_append, length_cons] at hshort
            omega
      · rw [if_neg (by simpa using hc), if_neg hc]
        exact ih hshort

theorem conversions_eq (text : String) : conversions letters text = found letters text.toList :=
  conversionsWithin_eq hsub _ (Nat.le_of_eq String.length_toList)

def endsIn (letters : List Char) (m : String) : Bool := m.toList.getLast?.any letters.contains

omit hsub in
theorem endsIn_ofList (letters marks : List Char) (c : Char) :
    endsIn letters (String.ofList ('%' :: (marks ++ [c]))) = letters.contains c := by
  rw [endsIn, String.toList_ofList, ← cons_append, getLast?_concat]
  rfl

/-- With fewer letters those conversions are found that end in them. -/
theorem found_eq_filter (cs : List Char) :
    found letters cs = (found conversionLetters cs).filter (endsIn letters) := by
  induction cs with
  | nil => rfl
  | cons c cs ih =>
    rw [found, found, filter_append, ih]
    congr 1
    split
    · cases h : conversionAt? conversionLetters cs with
      | none =>
        have hnone : conversionAt? letters cs = none := by
          refine Option.eq_none_iff_forall_ne_some.mpr fun m hm => ?_
          obtain ⟨marks, c, after, hmarks, hc, hcs, rfl⟩ := (conversionAt?_eq_some_iff hsub).mp hm
          rw [(conversionAt?_eq_some_iff (Subset.refl _)).mpr
            ⟨marks, c, after, hmarks, hsub hc, hcs, rfl⟩] at h
          cases h
        rw [hnone]
        rfl
      | some m =>
        obtain ⟨marks, c, after, hmarks, hc, rfl, rfl⟩ :=
          (conversionAt?_eq_some_iff (Subset.refl _)).mp h
        rw [Option.toList_some, filter_singleton, endsIn_ofList]
        by_cases hletter : c ∈ letters
        · rw [(conversionAt?_eq_some_iff hsub).mpr ⟨marks, c, after, hmarks, hletter, rfl, rfl⟩,
            contains_iff_mem.mpr hletter]
          rfl
        · have hnone : conversionAt? letters (marks ++ c :: after) = none := by
            refine Option.eq_none_iff_forall_ne_some.mpr fun m hm => ?_
            obtain ⟨marks', c', after', hmarks', hc', hcs, -⟩ :=
              (conversionAt?_eq_some_iff hsub).mp hm
            obtain ⟨rfl, -⟩ := letter_unique hmarks hmarks' hc (hsub hc') hcs
            exact hletter hc'
          rw [hnone, Bool.eq_false_iff.mpr (mt contains_iff_mem.mp hletter)]
          rfl
    · rfl

end

/-- Parts of a text in their order, with gaps between them. -/
inductive Apart : List Char → List String → Prop
  | nil (cs : List Char) : Apart cs []
  | cons (gap : List Char) (m : String) {rest : List Char} {ms : List String} :
      Apart rest ms → Apart (gap ++ (m.toList ++ rest)) (m :: ms)

theorem Apart.skip {ms : List String} (c : Char) (h : Apart cs ms) : Apart (c :: cs) ms := by
  cases h with
  | nil => exact .nil _
  | cons gap m h => exact .cons (c :: gap) m h

theorem conversionsWithin_apart (n : Nat) (cs : List Char) :
    Apart cs (conversionsWithin letters n cs) := by
  induction n generalizing cs with
  | zero => exact .nil cs
  | succ n ih =>
    cases cs with
    | nil => exact .nil []
    | cons c cs =>
      rw [conversionsWithin]
      split
      · cases hend : conversionEnd? letters cs with
        | none => exact (ih cs).skip c
        | some after =>
          obtain ⟨marks, x, -, -, rfl⟩ := conversionEnd?_eq_some hend
          have hnext := Apart.cons [] (String.ofList (c :: (marks ++ [x]))) (ih after)
          rw [String.toList_ofList, nil_append, cons_append, ← append_cons] at hnext
          dsimp only
          rw [take_conversion]
          exact hnext
      · exact (ih cs).skip c

/-- The conversions to `f` that are found in a text are those of all conversions that end in `f`; and
    conversions stand apart, each with a single percent sign, its first character. -/
theorem conversions_agree (text : String) :
    conversions ['f'] text
      = (conversions conversionLetters text).filter (fun m => m.toList.getLast? = some 'f')
    ∧ ∀ letters ∈ [['f'], conversionLetters], Apart text.toList (conversions letters text)
      ∧ ∀ m ∈ conversions letters text, m.toList.head? = some '%' ∧ m.toList.count '%' = 1 := by
  have hf : ['f'] ⊆ conversionLetters := by decide
  refine ⟨?_, fun letters hletters => ⟨conversionsWithin_apart _ _, fun m hm => ?_⟩⟩
  · rw [conversions_eq hf, conversions_eq (Subset.refl _), found_eq_filter hf]
    refine filter_congr fun m _ => ?_
    cases hlast : m.toList.getLast? <;> simp [endsIn, hlast]
  · have hsub : letters ⊆ conversionLetters := by
      rcases mem_pair.mp hletters with rfl | rfl
      · exact hf
      · exact Subset.refl _
    rw [conversions_eq hsub] at hm
    obtain ⟨marks, c, hmarks, hc, rfl⟩ := mem_found hsub hm
    rw [String.toList_ofList, count_cons_self, count_eq_zero.mpr (hmarks.not_percent (hsub hc))]
    exact ⟨rfl, rfl⟩

end Panel.Printf
