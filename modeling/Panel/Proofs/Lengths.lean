import Mathlib.Data.List.Basic
import Panel.Property.Measure
import Panel.Proofs.Work

/-! # Lengths — the spellings of pixels and shares

    A number of pixels is accepted as a number, as its text, and with its unit.  The code that a share
    is written as is recognised, but cut one character too early to be read, so no such text is
    accepted back. -/

namespace Panel

open List

/-! ## Texts of integers -/

namespace Text

variable {s : String} {c : Char} (n : Nat)

/-- The characters of decimal integers. -/
def numerals : List Char := "-0123456789".toList

theorem numerals_plain (h : c ∈ numerals) :
    isBlank c = false ∧ lowerOf c = [c] ∧ upperOf c = [c] := by
  have hall : (numerals.all fun c => !isBlank c && (lowerOf c == [c] && upperOf c == [c])) = true := by
    decide
  simpa using all_eq_true.mp hall c h

theorem upper_numerals (h : ∀ c ∈ s.toList, c ∈ numerals) : upper s = s := by
  rw [upper, flatMap_congr fun c hc => (numerals_plain (h c hc)).2.2, flatMap_singleton',
    String.ofList_toList]

theorem trim_numerals (h : ∀ c ∈ s.toList, c ∈ numerals) : trim s = s := by
  have hkeep : ∀ cs : List Char, (∀ c ∈ cs, c ∈ numerals) → cs.dropWhile isBlank = cs := by
    intro cs hcs
    cases cs with
    | nil => rfl
    | cons c cs => exact dropWhile_cons_of_neg (by simp [(numerals_plain (hcs c mem_cons_self)).1])
  rw [trim, trimLeft, hkeep _ h, String.ofList_toList, trimRight,
    hkeep _ fun c hc => h c (mem_reverse.mp hc), reverse_reverse, String.ofList_toList]

theorem length_flatMap_lowerOf {cs : List Char} (h : 'i' ∉ cs.flatMap lowerOf) :
    (cs.flatMap lowerOf).length = cs.length := by
  have hone : ∀ c, 'i' ∉ lowerOf c → (lowerOf c).length = 1 := by
    intro c hc
    unfold lowerOf at hc ⊢
    dsimp only at hc ⊢
    repeat' split
    all_goals first | rfl | simp_all
  induction cs with
  | nil => rfl
  | cons c cs ih =>
    rw [flatMap_cons, mem_append, not_or] at h
    rw [flatMap_cons, length_append, hone c h.1, ih h.2, length_cons, Nat.add_comm]

theorem lower_numerals (h : ∀ c ∈ s.toList, c ∈ numerals) : lower s = s := by
  rw [lower, flatMap_congr fun c hc => (numerals_plain (h c hc)).2.1, flatMap_singleton',
    String.ofList_toList]

theorem mem_toDigits {n : Nat} (h : c ∈ Nat.toDigits 10 n) :
    c ∈ numerals.tail ∧ digitValue? c = some (c.toNat - '0'.toNat) := by
  have hall : ∀ k < 10, Char.ofNat (48 + k) ∈ numerals.tail
      ∧ digitValue? (Char.ofNat (48 + k)) = some (48 + k - '0'.toNat) := by decide
  have hdigit := Char.isDigit_iff_toNat.mp (Nat.isDigit_of_mem_toDigits (by decide) (by decide) h)
  have hk : 48 + (c.toNat - 48) = c.toNat := by simp at hdigit; omega
  have hc := hall (c.toNat - 48) (by simp at hdigit; omega)
  rwa [hk, Char.ofNat_toNat] at hc

theorem digitRun_eq {cs : List Char}
    (h : ∀ c ∈ cs, c ≠ '_' ∧ digitValue? c = some (c.toNat - '0'.toNat)) :
    digitRun cs = (cs.map fun c => c.toNat - '0'.toNat, []) := by
  induction cs with
  | nil => rfl
  | cons c cs ih =>
    obtain ⟨hc, hvalue⟩ := h c mem_cons_self
    rw [digitRun, hvalue, ih (forall_mem_cons.mp h).2]
    · rfl
    · rintro c' cs' rfl
      exact fun _ => hc rfl

theorem read_toDigits : ∃ d ds, ofDigits (d :: ds) = n
    ∧ digits (Nat.toDigits 10 n) = (d :: ds, [])
    ∧ sign (Nat.toDigits 10 n) = (false, Nat.toDigits 10 n) := by
  have hnone : ∀ c ∈ Nat.toDigits 10 n, (c ≠ '_' ∧ c ≠ '-') ∧ c ≠ '+' := by
    intro c hc
    have hall : (numerals.tail.all fun c => c != '_' && c != '-' && c != '+') = true := by decide
    simpa using all_eq_true.mp hall c (mem_toDigits hc).1
  have hrun := digitRun_eq fun c hc => ⟨(hnone c hc).1.1, (mem_toDigits (n := n) hc).2⟩
  have hvalue := Nat.ofDigitChars_toDigits (b := 10) (n := n) (by decide) (by decide)
  obtain ⟨c, cs, hcs⟩ := exists_cons_of_ne_nil (Nat.toDigits_ne_nil (b := 10) (n := n))
  rw [hcs] at hnone hrun hvalue ⊢
  obtain ⟨⟨hunder, hminus⟩, hplus⟩ := hnone c mem_cons_self
  refine ⟨c.toNat - '0'.toNat, cs.map fun c => c.toNat - '0'.toNat, ?_, ?_, ?_⟩
  · rw [ofDigits, ← map_cons (f := fun c : Char => c.toNat - '0'.toNat), foldl_map]
    simpa only [Nat.ofDigitChars, Nat.mul_comm 10] using hvalue
  · rw [digits, hrun, map_cons]
    rintro tail ⟨⟩
    exact hunder rfl
  · rw [sign]
    · rintro tail ⟨⟩
      exact hminus rfl
    · rintro tail ⟨⟩
      exact hplus rfl

theorem toList_negSucc : (toString (Int.negSucc n)).toList = '-' :: Nat.toDigits 10 (n + 1) :=
  String.toList_append.trans (congrArg ('-' :: ·) Nat.toList_repr)

theorem toString_numerals (n : Int) : ∀ c ∈ (toString n).toList, c ∈ numerals := by
  intro c hc
  cases n with
  | ofNat m => exact mem_of_mem_tail (mem_toDigits (Nat.toList_repr ▸ hc)).1
  | negSucc m =>
    rw [toList_negSucc] at hc
    rcases mem_cons.mp hc with rfl | hc
    · exact mem_cons_self
    · exact mem_of_mem_tail (mem_toDigits hc).1

theorem readInt?_toString (n : Int) : readInt? (toString n) = some n := by
  unfold readInt?
  rw [trim_numerals (toString_numerals n)]
  cases n with
  | ofNat m =>
    obtain ⟨d, ds, hvalue, hdigits, hsign⟩ := read_toDigits m
    rw [show (toString (Int.ofNat m)).toList = _ from Nat.toList_repr, hsign]
    dsimp only
    rw [hdigits]
    exact congrArg (fun m : Nat => some (m : Int)) hvalue
  | negSucc m =>
    obtain ⟨d, ds, hvalue, hdigits, -⟩ := read_toDigits (m + 1)
    have hsign : sign ('-' :: Nat.toDigits 10 (m + 1)) = (true, Nat.toDigits 10 (m + 1)) := rfl
    rw [toList_negSucc, hsign]
    dsimp only
    rw [hdigits]
    exact congrArg (fun m : Nat => some (-(m : Int))) hvalue

theorem hasPrefix_toString (front : String) (n : Int) (hc : c ∈ front.toList)
    (hnot : c ∉ numerals) : hasPrefix front (toString n) = false :=
  Bool.eq_false_iff.mpr fun h =>
    hnot (toString_numerals n c (( isPrefixOf_iff_prefix.mp h).subset hc))

end Text

/-! ## Pixels and shares -/

namespace Property

variable {text px : String} {n : Int}

theorem integer_toString (n : Int) : Test.integer (.str (toString n)) = pure (.int n) := by
  have hlower := Text.lower_numerals (Text.toString_numerals n)
  have hhex := Text.hasPrefix_toString "0x" n (c := 'x') (by decide) (by decide)
  have hread := Text.readInt?_toString n
  generalize toString n = text at hlower hhex hread
  unfold Test.integer Test.strictText
  simp [Test.noLambda, Value.isLambda, Value.isText, Value.text?, Value.show, hlower, hhex, hread]

theorem validate_str (test : Test) (type : Cpp.CppType) (form : Value → Check Value) (text : String) :
    (mapped test type form).validate (.str text) = test (.str text) := rfl

theorem pixelText?_str (text : String) : pixelText? (.str text)
    = if Text.hasSuffix "px" (Text.lower text) then some (Text.dropEnd 2 text) else none := rfl

theorem pixelText?_unit (text : String) (hpx : Text.lower px = "px") :
    pixelText? (.str (text ++ px)) = some text := by
  have hlower : Text.lower (text ++ px) = Text.lower text ++ "px" := by
    rw [← hpx]
    unfold Text.lower
    rw [String.toList_append, flatMap_append, String.ofList_append]
  have hlength : px.toList.length = 2 := by
    have hchars : px.toList.flatMap Text.lowerOf = ['p', 'x'] := String.ofList_injective hpx
    rw [← Text.length_flatMap_lowerOf (by rw [hchars]; decide), hchars]
    rfl
  rw [pixelText?_str, if_pos (Text.hasSuffix_iff.mpr ⟨_, hlower⟩), Text.dropEnd, String.toList_append,
    length_append, hlength, Nat.add_sub_cancel, take_left, String.ofList_toList]

theorem validate_unit (hpx : Text.lower px = "px")
    (hread : Test.integer (.str text) = pure (.int n)) :
    pixelsOrPercent.validate (.str (text ++ px)) = pure (.int n)
      ∧ size.validate (.str (text ++ px)) = pure (.int n) := by
  have hunit := pixelText?_unit text hpx
  rw [pixelsOrPercent, validate_str, acceptPixelsOrPercent, size, validate_str, acceptSize]
  simp [asksChoices, Value.isObject, hunit, hread]
  rfl

/-- A text that is neither pixels with their unit nor the word for the size of a content. -/
structure Unitless (text : String) : Prop where
  unit : Text.hasSuffix "px" (Text.lower text) = false
  word : (Text.upper text == "SIZE_CONTENT") = false

namespace Unitless

theorem pixels (h : Unitless text) : pixelText? (.str text) = none := by
  rw [pixelText?_str, h.unit]
  rfl

theorem sizes (h : Unitless text) :
    size.validate (.str text) = pixelsOrPercent.validate (.str text) := by
  have hword : Text.upper text ≠ "SIZE_CONTENT" := beq_eq_false_iff_ne.mp h.word
  rw [size, validate_str, pixelsOrPercent, validate_str, acceptSize]
  simp [asksChoices, Value.isObject, h.pixels, hword, Value.text?]

theorem share (h : Unitless text) (hcode : isPercentCode text = true) :
    pixelsOrPercent.validate (.str text) = throw (.badValue ("invalid literal for int() with base 10: "
      ++ Text.quoted (Text.dropEnd 1 (Text.drop 6 text)))) := by
  rw [pixelsOrPercent, validate_str, acceptPixelsOrPercent]
  simp [asksChoices, Value.isObject, h.pixels, Value.text?, hcode]

theorem whole (h : Unitless text) (hcode : isPercentCode text = false)
    (hread : Test.integer (.str text) = pure (.int n)) :
    pixelsOrPercent.validate (.str text) = pure (.int n) := by
  rw [pixelsOrPercent, validate_str, acceptPixelsOrPercent]
  simp [asksChoices, Value.isObject, h.pixels, Value.text?, hcode, Test.anyOf, Test.anyOfFrom,
    Test.guarded, hread]
  rfl

theorem of_toString (n : Int) : Unitless (toString n) := by
  have hchars := Text.toString_numerals n
  refine ⟨?_, ?_⟩
  · rw [Text.lower_numerals hchars, Bool.eq_false_iff]
    intro h
    obtain ⟨rest, hrest⟩ := Text.hasSuffix_iff.mp h
    have hx : 'x' ∈ (toString n).toList := by
      rw [hrest, String.toList_append]
      exact mem_append_right _ (by decide)
    exact absurd (hchars _ hx) (by decide)
  · rw [Text.upper_numerals hchars, beq_eq_false_iff_ne]
    intro h
    exact absurd (hchars 'S' (h ▸ by decide)) (by decide)

end Unitless

theorem isPercentCode_toString (n : Int) : isPercentCode (toString n) = false := by
  have hfront := Text.hasPrefix_toString "lv_pct(" n (c := 'l') (by decide) (by decide)
  unfold isPercentCode Text.removePrefix
  rw [hfront]
  exact if_pos (beq_self_eq_true _)

/-- The code that a share is written as. -/
def percentCode (n : Nat) : String := "lv_pct(" ++ toString n ++ ")"

theorem Unitless.of_percentCode (n : Nat) : Unitless (percentCode n) := by
  refine ⟨?_, ?_⟩
  · have hlast : (Text.lower (percentCode n)).toList.reverse
        = ')' :: (Text.lower ("lv_pct(" ++ toString n)).toList.reverse := by
      unfold percentCode Text.lower
      rw [String.toList_ofList, String.toList_ofList, String.toList_append, flatMap_append,
        reverse_append]
      rfl
    rw [Text.hasSuffix, hlast]
    rfl
  · have hfirst : (Text.upper (percentCode n)).toList.head? = some 'L' := by
      unfold percentCode Text.upper
      rw [String.toList_ofList, String.append_assoc, String.toList_append, flatMap_append]
      rfl
    rw [beq_eq_false_iff_ne]
    intro h
    rw [h] at hfirst
    exact absurd hfirst (by decide)

theorem isPercentCode_percentCode (n : Nat) : isPercentCode (percentCode n) = true := by
  have hrest : Text.removePrefix "lv_pct(" (percentCode n) = toString n ++ ")" := by
    rw [percentCode, String.append_assoc, Text.removePrefix_append]
  have hne : (toString n ++ ")" == percentCode n) = false := by
    rw [beq_eq_false_iff_ne]
    intro h
    have hlength := congrArg String.length h
    simp [percentCode] at hlength
  have hline : Text.withoutFinalNewline (toString n ++ ")").toList = (toString n ++ ")").toList := by
    unfold Text.withoutFinalNewline
    rw [String.toList_append, reverse_append]
    rfl
  have hdigits : (Text.dropEnd 1 (toString n ++ ")")).toList = Nat.toDigits 10 n := by
    rw [Text.dropEnd, String.toList_append, String.toList_ofList, length_append]
    exact take_left.trans Nat.toList_repr
  unfold isPercentCode
  dsimp only
  rw [hrest, hne, if_neg (by decide), hline, String.ofList_toList,
    Text.hasSuffix_iff.mpr ⟨_, rfl⟩, Bool.true_and, hdigits]
  split
  · next hnil => exact absurd hnil Nat.toDigits_ne_nil
  · exact all_eq_true.mpr fun c hc => by rw [(Text.mem_toDigits hc).2]; rfl

theorem cut_percentCode (n : Nat) :
    Text.dropEnd 1 (Text.drop 6 (percentCode n)) = "(" ++ toString n := by
  have hcode : percentCode n = "lv_pct" ++ ("(" ++ toString n) ++ String.singleton ')' := by
    rw [← String.append_assoc]
    rfl
  rw [hcode]
  exact Text.between_append "lv_pct" ("(" ++ toString n) ')'

/-- The three spellings of a number of pixels are accepted as this number.  The code of a share is
    recognised, but read with its bracket, which is no number. -/
theorem length_spellings (p : Property) (hp : p ∈ [pixelsOrPercent, size]) :
    (∀ n : Nat, p.validate (.str (percentCode n)) = throw (.badValue
      ("invalid literal for int() with base 10: " ++ Text.quoted ("(" ++ toString n))))
    ∧ ∀ (n : Int) (px : String), Text.lower px = "px" →
      ∀ v ∈ [.int n, .str (toString n), .str (toString n ++ px)], p.validate v = pure (.int n) := by
  have hshare : ∀ n : Nat, pixelsOrPercent.validate (.str (percentCode n)) = throw (.badValue
      ("invalid literal for int() with base 10: " ++ Text.quoted ("(" ++ toString n))) := fun n => by
    rw [(Unitless.of_percentCode n).share (isPercentCode_percentCode n), cut_percentCode]
  have hwhole : ∀ n : Int, pixelsOrPercent.validate (.str (toString n)) = pure (.int n) := fun n =>
    (Unitless.of_toString n).whole (isPercentCode_toString n) (integer_toString n)
  have hunit : ∀ (n : Int) px, Text.lower px = "px" → _ := fun n px hpx =>
    validate_unit hpx (integer_toString n)
  simp only [mem_cons, not_mem_nil, or_false] at hp ⊢
  rcases hp with rfl | rfl
  · refine ⟨hshare, ?_⟩
    rintro n px hpx v (rfl | rfl | rfl)
    · rfl
    · exact hwhole n
    · exact (hunit n px hpx).1
  · refine ⟨fun n => (Unitless.of_percentCode n).sizes.trans (hshare n), ?_⟩
    rintro n px hpx v (rfl | rfl | rfl)
    · rfl
    · exact (Unitless.of_toString n).sizes.trans (hwhole n)
    · exact (hunit n px hpx).2

theorem length_spellings_negative : Text.lower "Px" = "px"
    ∧ size.validate (.str "-7Px") = pure (.int (-7)) := by
  have hpx : Text.lower "Px" = "px" := by decide
  exact ⟨hpx, (length_spellings size (by simp)).2 (-7) "Px" hpx _ (by simp; decide)⟩

end Property

end Panel
