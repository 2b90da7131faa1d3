import Panel.Proofs.FormatArguments

/-! # Literals of colours — which number a printed colour stands for

    A colour is printed by its three channels, and they make up its number modulo `2 ^ 24`. -/

namespace Panel

open List

variable {r g b r' g' b' : Nat}

def rgbText (r g b : Nat) : String :=
  "lv_color_make(" ++ toString r ++ ", " ++ toString g ++ ", " ++ toString b ++ ")"

/-- A number can be read off from the text that begins with it. -/
theorem toString_append_inj {m n : Nat} {c : Char} {x y : List Char} (hc : c.isDigit = false)
    (h : (toString m).toList ++ c :: x = (toString n).toList ++ c :: y) : m = n ∧ x = y := by
  have hdigits : ∀ k : Nat, ∀ d ∈ (toString k).toList, d.isDigit = true := by
    intro k d hd
    rw [Nat.toString_eq_repr, Nat.toList_repr] at hd
    exact Nat.isDigit_of_mem_toDigits (by decide) (by decide) hd
  have hend : ∀ z : List Char, ∀ d ∈ (c :: z).head?, ¬ d.isDigit = true := by
    rintro z d ⟨⟩
    rw [hc]
    exact Bool.false_ne_true
  obtain ⟨htext, hrest⟩ :=
    Printf.append_cut (·.isDigit = true) (hdigits m) (hdigits n) (hend x) (hend y) h
  exact ⟨Nat.repr_injective (String.toList_injective htext), (cons.inj hrest).2⟩

theorem rgbText_inj (h : rgbText r g b = rgbText r' g' b') : r = r' ∧ g = g' ∧ b = b' := by
  have hlist := congrArg String.toList h
  unfold rgbText at hlist
  simp only [String.toList_append, append_assoc, append_cancel_left_eq] at hlist
  obtain ⟨hr, hrest⟩ := toString_append_inj (c := ',') (by decide) hlist
  obtain ⟨hg, hrest⟩ := toString_append_inj (c := ',') (by decide) (cons.inj hrest).2
  exact ⟨hr, hg, (toString_append_inj (c := ')') (by decide) (cons.inj hrest).2).1⟩

theorem literal_inj {x y : String} (h : Value.literal x = .literal y) : x = y := by
  cases h
  rfl

theorem colorNumberCode_eq (n : Int) : ∃ r g b : Nat, r ≤ 255 ∧ g ≤ 255 ∧ b ≤ 255
    ∧ (r * 65536 + g * 256 + b : Int) = n % 2 ^ 24
    ∧ colorNumberCode n = .literal (rgbText r g b) := by
  have hchannel : ∀ place, ∃ x : Nat, x ≤ 255 ∧ channel n place = x
      ∧ (x : Int) = n / 2 ^ place % 256 := by
    intro place
    have hbounds : 0 ≤ channel n place ∧ channel n place < 256 := by
      unfold channel
      omega
    refine ⟨(channel n place).toNat, by omega, by omega, ?_⟩
    rw [Int.toNat_of_nonneg hbounds.1, channel, Int.shiftRight_eq_div_pow]
    rfl
  obtain ⟨r, hr, hred, hr'⟩ := hchannel 16
  obtain ⟨g, hg, hgreen, hg'⟩ := hchannel 8
  obtain ⟨b, hb, hblue, hb'⟩ := hchannel 0
  refine ⟨r, g, b, hr, hg, hb, by omega, ?_⟩
  rw [colorNumberCode, hred, hgreen, hblue]
  rfl

/-- Every whole number is accepted as a colour and printed by three channels of a byte each, which
    make up its residue modulo `2 ^ 24`; so the texts of two numbers are the same just if the numbers
    are congruent, and a colour that has a name is printed like its number. -/
theorem formColor_residue :
    (∀ (n : Int) (s : Session), (Property.acceptColor (.int n)).on s = (.ok (.int n), s)
      ∧ ∃ r g b : Nat, r ≤ 255 ∧ g ≤ 255 ∧ b ≤ 255 ∧ (r * 65536 + g * 256 + b : Int) = n % 2 ^ 24
        ∧ (formColor (.int n)).on s = (.ok (.literal (rgbText r g b)), s))
    ∧ (∀ (m n : Int) (s : Session), (formColor (.int m)).on s = (formColor (.int n)).on s
      ↔ m ≡ n [ZMOD 2 ^ 24])
    ∧ ∀ (v : Value) (name : String) (n : Int), v.text? = some name → (name, n) ∈ colorNames →
      formColor v = formColor (.int n) := by
  have hform : ∀ n s, (formColor (.int n)).on s = (.ok (colorNumberCode n), s) := fun _ _ => rfl
  refine ⟨fun n s => ⟨rfl, ?_⟩, fun m n s => ?_, fun v name n hv hn => ?_⟩
  · obtain ⟨r, g, b, hr, hg, hb, hsum, hcode⟩ := colorNumberCode_eq n
    exact ⟨r, g, b, hr, hg, hb, hsum, by rw [hform, hcode]⟩
  · rw [hform, hform]
    obtain ⟨r, g, b, hr, hg, hb, hsum, hcode⟩ := colorNumberCode_eq m
    obtain ⟨r', g', b', hr', hg', hb', hsum', hcode'⟩ := colorNumberCode_eq n
    rw [hcode, hcode', Int.ModEq, ← hsum, ← hsum']
    constructor
    · intro h
      obtain ⟨rfl, rfl, rfl⟩ := rgbText_inj (literal_inj (Except.ok.inj (Prod.mk.inj h).1))
      rfl
    · intro h
      obtain ⟨rfl, rfl, rfl⟩ : r = r' ∧ g = g' ∧ b = b' := by omega
      rfl
  · have hnames : (colorNames.map (·.1)).Nodup := by decide +kernel
    have hnamed : v.text?.bind namedColor? = some n := by
      rw [hv, Option.bind_some, namedColor?, find?_key hnames hn]
      rfl
    unfold formColor
    split
    case h_5 => rw [hnamed]
    all_goals cases hv

end Panel
