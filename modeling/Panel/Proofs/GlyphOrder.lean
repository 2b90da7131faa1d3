import Mathlib.Data.List.Lex
import Mathlib.Order.Defs.Unbundled
import Panel.Font.Cache

/-! # The order of glyphs — comparing the bytes of texts compares their code points -/

namespace Panel.Font

open List

/-! ## Encodings -/

theorem toUTF8_toList (s : String) :
    s.toUTF8.data.toList = s.toList.flatMap String.utf8EncodeChar := by
  have hbytes : s.toUTF8 = s.toList.utf8Encode := by
    rw [← String.toByteArray_ofList, String.ofList_toList]
    rfl
  rw [hbytes]
  exact toList_data_toByteArray

theorem compareBytes_cons {x y : Nat} (hx : x < 256) (hy : y < 256) (xs ys : List UInt8) :
    compareBytes (UInt8.ofNat x :: xs) (UInt8.ofNat y :: ys)
      = if x < y then -1 else if y < x then 1 else compareBytes xs ys := by
  have hlt : ∀ {m n : Nat}, m < 256 → n < 256 → (UInt8.ofNat m < UInt8.ofNat n ↔ m < n) :=
    fun hm hn => by
      rw [UInt8.lt_iff_toNat_lt, UInt8.toNat_ofNat', UInt8.toNat_ofNat', Nat.mod_eq_of_lt hm,
        Nat.mod_eq_of_lt hn]
  simp only [compareBytes, hlt hx hy, hlt hy hx]

theorem toNat_lt (c : Char) : c.val.toNat < 0x110000 := by
  have hvalid : Nat.isValidChar c.val.toNat := c.valid
  unfold Nat.isValidChar at hvalid
  omega

/-- Encodings are compared as the code points are: a longer one begins with a larger byte, and those
    of one length have the digits of the code point in their bytes. -/
theorem compareBytes_encoding (a b : Char) (xs ys : List UInt8) :
    compareBytes (String.utf8EncodeChar a ++ xs) (String.utf8EncodeChar b ++ ys)
      = if a.toNat < b.toNat then -1 else if b.toNat < a.toNat then 1 else compareBytes xs ys := by
  have ha := toNat_lt a
  have hb := toNat_lt b
  unfold String.utf8EncodeChar Char.toNat
  generalize a.val.toNat = m at *
  generalize b.val.toNat = n at *
  have hdigits : ∀ k : Nat, k / 4096 = k / 64 / 64 ∧ k / 262144 = k / 64 / 64 / 64 := fun k => by
    rw [Nat.div_div_eq_div_mul, Nat.div_div_eq_div_mul]
    exact ⟨rfl, rfl⟩
  simp only [hdigits]
  repeat' split
  all_goals
    simp only [cons_append, nil_append]
    repeat rw [compareBytes_cons (by omega) (by omega)]
    omega

/-! ## Texts -/

def codePoints (s : String) : List Nat := s.toList.map Char.toNat

@[simp] theorem codePoints_singleton (c : Char) : codePoints (String.singleton c) = [c.toNat] := by
  rw [codePoints, String.toList_singleton, map_singleton]

theorem codePoints_injective : Function.Injective codePoints := fun _ _ heq =>
  String.toList_inj.mp (map_injective_iff.mpr (fun _ _ => Char.toNat_inj.mp) heq)

theorem compareBytes_flatMap (xs ys : List Char) :
    compareBytes (xs.flatMap String.utf8EncodeChar) (ys.flatMap String.utf8EncodeChar)
      = if xs.map Char.toNat < ys.map Char.toNat then -1
        else if ys.map Char.toNat < xs.map Char.toNat then 1 else 0 := by
  have hlonger : ∀ c (cs : List Char), ∃ byte bytes,
      (c :: cs).flatMap String.utf8EncodeChar = byte :: bytes := fun c cs =>
    exists_cons_of_ne_nil (by simp [String.utf8EncodeChar_ne_nil])
  induction xs generalizing ys with
  | nil =>
    cases ys with
    | nil => rfl
    | cons b ys =>
      obtain ⟨byte, bytes, heq⟩ := hlonger b ys
      rw [heq]
      rfl
  | cons a xs ih =>
    cases ys with
    | nil =>
      obtain ⟨byte, bytes, heq⟩ := hlonger a xs
      rw [heq]
      rfl
    | cons b ys =>
      rw [flatMap_cons, flatMap_cons, compareBytes_encoding, ih]
      simp only [map_cons, cons_lt_cons_iff]
      grind

theorem compareText_eq (x y : String) : compareText x y
      = if codePoints x < codePoints y then -1 else if codePoints y < codePoints x then 1 else 0 := by
  rw [compareText, toUTF8_toList, toUTF8_toList, compareBytes_flatMap]
  rfl

theorem compareText_nonpos (x y : String) : compareText x y ≤ 0 ↔ codePoints x ≤ codePoints y := by
  rw [compareText_eq, ← not_lt]
  grind

theorem compareText_toString (a b : Char) : compareText a.toString b.toString
      = if a.toNat < b.toNat then -1 else if b.toNat < a.toNat then 1 else 0 := by
  simp [compareText_eq, cons_lt_cons_iff]

theorem sorted_eq (cs : List Char) : sorted cs = cs.mergeSort fun a b => decide (a.toNat ≤ b.toNat) := by
  unfold sorted
  congr 1
  funext a b
  rw [compareText_toString]
  grind

theorem mem_sorted {cs : List Char} {c : Char} : c ∈ sorted cs ↔ c ∈ cs := mem_mergeSort

theorem sorted_ordered (cs : List Char) : (sorted cs).Pairwise fun a b => a.toNat ≤ b.toNat := by
  rw [sorted_eq]
  refine (pairwise_mergeSort (fun a b c => ?_) (fun a b => ?_) cs).imp of_decide_eq_true
  · simp only [decide_eq_true_eq]
    exact Nat.le_trans
  · simp only [Bool.or_eq_true, decide_eq_true_eq]
    exact Nat.le_total _ _

theorem sorted_increasing {cs : List Char} (h : cs.Nodup) :
    (sorted cs).Pairwise fun a b => a.toNat < b.toNat := by
  have hdistinct : (sorted cs).Nodup := (mergeSort_perm cs _).nodup_iff.mpr h
  refine ((sorted_ordered cs).and hdistinct).imp fun {a b} ⟨hab, hne⟩ => ?_
  exact Nat.lt_of_le_of_ne hab fun heq => hne (Char.toNat_inj.mp heq)

/-- Texts are ordered by their code points, single characters by theirs.  The order is total, so that
    a list has one sorted form, whatever order it had before. -/
theorem compareText_points (x y : String) :
    (compareText x y = -1 ↔ codePoints x < codePoints y)
      ∧ (compareText x y = 0 ↔ codePoints x = codePoints y)
      ∧ (compareText x y = 1 ↔ codePoints y < codePoints x)
      ∧ (∀ a b : Char, compareText a.toString b.toString
        = if a.toNat < b.toNat then -1 else if b.toNat < a.toNat then 1 else 0)
      ∧ IsLinearOrder String (fun s t => compareText s t ≤ 0)
      ∧ ∀ cs ds : List Char, cs.Perm ds →
        sorted cs = sorted ds ∧ (sorted cs).Perm cs
          ∧ (sorted cs).Pairwise fun a b => compareText a.toString b.toString ≤ 0 := by
  have hbefore : ∀ {s t : List Nat}, s < t → ¬ t < s := lt_asymm
  refine ⟨?_, ?_, ?_, ?_, ?_, ?_⟩
  · rw [compareText_eq]
    grind
  · rw [compareText_eq, le_antisymm_iff (α := List Nat), ← not_lt, ← not_lt]
    grind
  · rw [compareText_eq]
    grind
  · exact compareText_toString
  · simp only [compareText_nonpos]
    exact { refl _ := le_rfl, trans _ _ _ := le_trans, total _ _ := le_total _ _,
            antisymm _ _ hst hts := codePoints_injective (le_antisymm hst hts) }
  · intro cs ds hperm
    have hsame : (sorted cs).Perm (sorted ds) :=
      ((mergeSort_perm cs _).trans hperm).trans (mergeSort_perm ds _).symm
    refine ⟨hsame.eq_of_pairwise ?_ (sorted_ordered cs) (sorted_ordered ds), mergeSort_perm cs _, ?_⟩
    · intro a b _ _ hab hba
      exact Char.toNat_inj.mp (Nat.le_antisymm hab hba)
    · refine (sorted_ordered cs).imp fun hab => ?_
      rw [compareText_toString]
      grind

end Panel.Font
