import Panel.Property.Constant
import Panel.Proofs.PictureRules

/-! # Words of constants — the spellings that stand for a value

    A spelling that begins with the stem is compared, in upper case, with the stem and the words in
    upper case.  A bare spelling is brought to upper case too, but compared with the words as they
    were written, so a family that was written in lower case has no bare spellings. -/

namespace Panel

open Cpp List

/-! ## Upper case -/

namespace Text

variable {c : Char} {n : Nat}

def asciiLetters : Run := ⟨97, 122, 1, 65⟩

/-- Letters that have other letters as their capitals. -/
def smallLetters : List Run := asciiLetters :: capitals ++ longCapitals.map (·.1)

/-- No letter of the second run is the capital of one of the first: the capitals come before or after
    it, or take turns with it. -/
def Run.apart (r q : Run) : Bool :=
  Nat.blt (r.target + (r.last - r.first)) q.first || Nat.blt q.last r.target
    || ((Nat.beq r.step 2 || Nat.beq r.first r.last) && Nat.beq q.step 2
      && Nat.beq ((r.target + q.first) % 2) 1)

theorem Run.has_iff {r : Run} :
    r.has n = true ↔ r.first ≤ n ∧ n ≤ r.last ∧ (n - r.first) % r.step = 0 := by
  simp [has, Covers, and_assoc]

theorem Run.not_has_of_apart {r q : Run} (h : r.apart q = true) (hn : r.has n = true) :
    q.has (r.image n) = false := by
  obtain ⟨hfirst, hlast, hstep⟩ := has_iff.mp hn
  simp only [apart, Bool.or_eq_true, Bool.and_eq_true, Nat.blt_eq, Nat.beq_eq] at h
  rw [Bool.eq_false_iff]
  intro hq
  obtain ⟨hqfirst, hqlast, hqstep⟩ := has_iff.mp hq
  unfold image at hqfirst hqlast hqstep
  rcases h with (hbefore | hafter) | ⟨⟨hturn, hqturn⟩, hodd⟩
  · omega
  · omega
  · -- The capitals are an even number of places from the first, and so are the letters of the run.
    rw [hqturn] at hqstep
    have heven : (n - r.first) % 2 = 0 := by
      rcases hturn with hturn | hone
      · rwa [hturn] at hstep
      · omega
    omega

theorem capital_not_small {r : Run} (hr : r ∈ smallLetters) (hn : r.has n = true) :
    ∀ q ∈ smallLetters, q.has (r.image n) = false := by
  have hall : (smallLetters.all fun r => smallLetters.all r.apart) = true := by decide +kernel
  exact fun q hq => Run.not_has_of_apart (all_eq_true.mp (all_eq_true.mp hall r hr) q hq) hn

theorem later_not_small {e : Run × List Nat} (he : e ∈ longCapitals) (hn : n ∈ e.2) :
    ∀ q ∈ smallLetters, q.has n = false := by
  have hall : (longCapitals.all fun e => e.2.all fun n => smallLetters.all fun q => !q.has n)
      = true := by decide +kernel
  intro q hq
  simpa using all_eq_true.mp (all_eq_true.mp (all_eq_true.mp hall e he) n hn) q hq

theorem toUpper_ascii (h : c.toNat < 128) : c.toUpper
    = if asciiLetters.has c.toNat then Char.ofNat (asciiLetters.image c.toNat) else c := by
  have hall : ((range 128).all fun n => (Char.ofNat n).toUpper == if asciiLetters.has n then
      Char.ofNat (asciiLetters.image n) else Char.ofNat n) = true := by decide +kernel
  have hcode := beq_iff_eq.mp (all_eq_true.mp hall c.toNat (mem_range.mpr h))
  rwa [Char.ofNat_toNat] at hcode

theorem upperOf_of_not_small (h : ∀ q ∈ smallLetters, q.has c.toNat = false) : upperOf c = [c] := by
  have hcapitals : ∀ q ∈ capitals, ¬ q.has c.toNat = true := fun q hq =>
    Bool.eq_false_iff.mp (h q (mem_cons_of_mem _ (mem_append_left _ hq)))
  have hlong : ∀ e ∈ longCapitals, ¬ e.1.has c.toNat = true := fun e he =>
    Bool.eq_false_iff.mp (h e.1 (mem_cons_of_mem _ (mem_append_right _ (mem_map_of_mem he))))
  unfold upperOf
  dsimp only
  split
  · next hascii => rw [toUpper_ascii hascii, h _ mem_cons_self, if_neg Bool.false_ne_true]
  · rw [find?_eq_none.mpr hcapitals, find?_eq_none.mpr hlong]

theorem upperOf_ofNat (h : ∀ q ∈ smallLetters, q.has n = false) :
    upperOf (Char.ofNat n) = [Char.ofNat n] := by
  by_cases hn : n.isValidChar
  · refine upperOf_of_not_small fun q hq => ?_
    rw [Char.toNat_ofNat, if_pos hn]
    exact h q hq
  · rw [Char.ofNat, dif_neg hn]
    rfl

/-- A letter is its own capital, or its capitals are their own. -/
theorem upperOf_cases (c : Char) : upperOf c = [c] ∨ ∃ ns : List Nat,
    upperOf c = ns.map Char.ofNat ∧ ∀ n ∈ ns, ∀ q ∈ smallLetters, q.has n = false := by
  unfold upperOf
  dsimp only
  split
  · next hascii =>
      rw [toUpper_ascii hascii]
      split
      · next hhas =>
          refine .inr ⟨[asciiLetters.image c.toNat], rfl, fun n hn => ?_⟩
          rw [mem_singleton.mp hn]
          exact capital_not_small mem_cons_self hhas
      · exact .inl rfl
  split
  · next r hr =>
      have hhas := List.find?_some (p := fun r : Run => r.has c.toNat) hr
      refine .inr ⟨[r.image c.toNat], rfl, fun n hn => ?_⟩
      rw [mem_singleton.mp hn]
      exact capital_not_small
        (mem_cons_of_mem _ (mem_append_left _ (mem_of_find?_eq_some hr))) hhas
  split
  · next r rest hr =>
      have hmem := mem_of_find?_eq_some hr
      have hhas := List.find?_some (p := fun e : Run × List Nat => e.1.has c.toNat) hr
      refine .inr ⟨r.image c.toNat :: rest, rfl, fun n hn => ?_⟩
      rcases mem_cons.mp hn with rfl | hn
      · exact capital_not_small
          (mem_cons_of_mem _ (mem_append_right _ (mem_map_of_mem hmem))) hhas
      · exact later_not_small hmem hn
  · exact .inl rfl

theorem upperOf_upperOf (c : Char) : (upperOf c).flatMap upperOf = upperOf c := by
  rcases upperOf_cases c with hown | ⟨ns, hns, hcapital⟩
  · rw [hown, flatMap_singleton, hown]
  · rw [hns, flatMap_map, flatMap_congr fun n hn => upperOf_ofNat (hcapital n hn),
      ← map_eq_flatMap]

theorem upper_upper (s : String) : upper (upper s) = upper s := by
  unfold upper
  rw [String.toList_ofList, flatMap_assoc]
  simp only [upperOf_upperOf]

theorem upper_append (a b : String) : upper (a ++ b) = upper a ++ upper b := by
  unfold upper
  rw [String.toList_append, flatMap_append, String.ofList_append]

end Text

theorem Test.WordForm.spell_upper (text : String) :
    WordForm.spell { upper := true } text = Text.upper text := by
  have hspace : ∀ c, (if c == ' ' then " ".toList else [c]) = [c] := by
    intro c
    split
    · next hc => rw [beq_iff_eq.mp hc]; rfl
    · rfl
  show Text.upper (String.ofList (text.toList.flatMap _)) = _
  simp only [hspace, flatMap_singleton', String.ofList_toList]

/-! ## Accepted spellings -/

namespace Constant

/-- A text is a spelling of a word: with the stem in any case, bare only as it was written. -/
def Spells (c : Constant) (word text : String) : Prop :=
  if Text.hasPrefix c.stem text then Text.upper text = c.stem ++ Text.upper word
  else Text.upper text = word

theorem wordOf_iff {options : List String} {text word : String} {s t : Session} :
    (Test.wordOf { upper := true } options (.str text)).on s = (.ok word, t)
      ↔ t = s ∧ word ∈ options ∧ Text.upper text = word := by
  constructor
  · intro h
    obtain ⟨hword, found, htext, hspell⟩ := Test.wordOf_eq_ok h
    cases htext
    exact ⟨rfl, hword, (Test.WordForm.spell_upper text).symm.trans hspell⟩
  · rintro ⟨rfl, hword, hspell⟩
    exact Test.wordOf_on ((Test.WordForm.spell_upper text).trans hspell)
      (contains_iff_mem.mpr hword) t

theorem validate_iff (c : Constant) {text : String} {w : Value} {s t : Session} :
    (c.oneOf.validate (.str text)).on s = (.ok w, t)
      ↔ t = s ∧ ∃ word ∈ c.words, c.Spells word text ∧ w = .str (c.stem ++ Text.upper word) := by
  unfold Spells
  have hrun : c.oneOf.validate (.str text) = if Text.hasPrefix c.stem text
      then do return .str (← Test.wordOf { upper := true } (c.choices.map (c.stem ++ ·)) (.str text))
      else do return .str (c.stem ++ (← Test.wordOf { upper := true } c.words (.str text))) := by
    show (if Text.hasPrefix c.stem text then _ else _ : Check Value) = _
    rfl
  rw [hrun]
  split
  · constructor
    · intro h
      obtain ⟨found, u, hfound, h⟩ := Check.on_bind_eq_ok h
      obtain ⟨rfl, hmem, hupper⟩ := wordOf_iff.mp hfound
      obtain ⟨choice, hchoice, rfl⟩ := mem_map.mp hmem
      obtain ⟨word, hword, rfl⟩ := mem_map.mp hchoice
      cases h
      exact ⟨rfl, word, hword, hupper, rfl⟩
    · rintro ⟨rfl, word, hword, hupper, rfl⟩
      exact Check.on_bind_ok _ (wordOf_iff.mpr
        ⟨rfl, mem_map_of_mem (mem_map_of_mem hword), hupper⟩)
  · constructor
    · intro h
      obtain ⟨found, u, hfound, h⟩ := Check.on_bind_eq_ok h
      obtain ⟨rfl, hmem, rfl⟩ := wordOf_iff.mp hfound
      cases h
      exact ⟨rfl, _, hmem, rfl, by rw [Text.upper_upper]⟩
    · rintro ⟨rfl, word, hword, rfl, rfl⟩
      rw [Check.on_bind_ok _ (wordOf_iff.mpr ⟨rfl, hword, rfl⟩), Text.upper_upper]
      rfl

/-- A text is accepted exactly if it is a spelling of a word, as the stem with the word in upper
    case; this is accepted again and is the code of itself. -/
theorem oneOf_spellings (c : Constant) (hstem : Text.upper c.stem = c.stem) (text : String)
    (w : Value) (s t : Session) :
    ((c.oneOf.validate (.str text)).on s = (.ok w, t)
      ↔ t = s ∧ ∃ word ∈ c.words, c.Spells word text ∧ w = .str (c.stem ++ Text.upper word))
    ∧ ((c.oneOf.validate (.str text)).on s = (.ok w, t) →
      (c.oneOf.validate w).on s = (.ok w, s) ∧ c.form w = Expr.named w.show) := by
  refine ⟨c.validate_iff, fun h => ?_⟩
  obtain ⟨-, word, hword, -, rfl⟩ := c.validate_iff.mp h
  have hfront := Text.hasPrefix_append c.stem (Text.upper word)
  have hupper : Text.upper (c.stem ++ Text.upper word) = c.stem ++ Text.upper word := by
    rw [Text.upper_append, hstem, Text.upper_upper]
  refine ⟨c.validate_iff.mpr ⟨rfl, word, hword, ?_, rfl⟩, ?_⟩
  · rw [Spells, if_pos hfront, hupper]
  · show Expr.named (c.spelled (c.stem ++ Text.upper word)) = _
    rw [spelled, if_pos hfront, hupper]
    rfl

-- A ligature has two letters as its capital.
example : Text.upper "LV_OBJ_FLAG_ﬂoating" = "LV_OBJ_FLAG_FLOATING" := by decide +kernel

/-- The flags of objects are written in lower case, so they are found with the stem only. -/
theorem oneOf_spellings_flag :
    (Constants.flag.oneOf.validate (.str "LV_OBJ_FLAG_hidden")).on {}
      = (.ok (.str "LV_OBJ_FLAG_HIDDEN"), {})
    ∧ ∀ w t, (Constants.flag.oneOf.validate (.str "hidden")).on {} ≠ (.ok w, t) := by
  have hstem : Text.upper Constants.flag.stem = Constants.flag.stem := by decide
  refine ⟨(oneOf_spellings _ hstem _ _ _ _).1.mpr ⟨rfl, "hidden", by decide, ?_, rfl⟩, ?_⟩
  · unfold Spells
    decide
  · intro w t h
    obtain ⟨-, word, hword, hspells, -⟩ := (oneOf_spellings _ hstem _ _ _ _).1.mp h
    have hnone : ∀ word ∈ Constants.flag.words, Text.upper "hidden" ≠ word := by decide
    exact hnone word hword hspells

end Constant

end Panel
