import Panel.Proofs.NumberRanges

/-! # Limits of spin boxes — which of the numbers that a spin box writes fit into a word

    The limits are checked as they are given, and written in parts: the check knows nothing of the
    decimal places. -/

namespace Panel

open Check List

variable {v : Value} {es : Entries}

/-- The numbers that a signed word of thirty-two bits holds. -/
def Fits (n : Int) : Prop := -2 ^ 31 ≤ n ∧ n < 2 ^ 31

theorem fits_parts_iff (n : Int) (p : Nat) :
    Fits (n * 10 ^ p) ↔ -(2 ^ 31 / 10 ^ p) ≤ n ∧ n ≤ (2 ^ 31 - 1) / 10 ^ p := by
  have hpos : (0 : Int) < 10 ^ p := Int.pow_pos (by decide)
  have hlow : -2 ^ 31 ≤ n * 10 ^ p ↔ -(2 ^ 31 / 10 ^ p) ≤ n := by
    rw [neg_le, neg_le (a := 2 ^ 31 / 10 ^ p), Int.le_ediv_iff_mul_le hpos, Int.neg_mul]
  rw [Fits, hlow, Int.le_ediv_iff_mul_le hpos, Int.le_sub_one_iff]

theorem fits_power {m : Nat} (h : m ≤ 9) : Fits (10 ^ m) := by
  have hle : (10 : Int) ^ m ≤ 10 ^ 9 := pow_le_pow_right₀ (by decide) h
  have hpos : (0 : Int) < 10 ^ m := Int.pow_pos (by decide)
  exact ⟨by omega, by omega⟩

namespace Kinds

variable {x y : Float} {p m : Nat} {d : Int} {s t : Session}

theorem convertInt_on {z : Float} {n : Int} (h : (Test.convertInt (.float z)).on s = (.ok n, t)) :
    Text.truncate? z = some n := by
  have hrun : (Test.truncated z).on s = (.ok n, t) := h
  unfold Test.truncated at hrun
  split at hrun
  · next hz =>
      cases hrun
      exact hz
  · split at hrun <;> cases hrun

theorem atMost_whole {a b : Value} {i j : Int} (ha : Test.intOf? a = some i)
    (hb : Test.intOf? b = some j) : a.atMost b = pure (decide (i ≤ j)) := by
  rcases Test.intOf?_cases ha with rfl | ⟨c, rfl, rfl⟩ <;>
    rcases Test.intOf?_cases hb with rfl | ⟨e, rfl, rfl⟩ <;> rfl

theorem checkSpinbox_same {v w : Value} (h : (checkSpinbox v).on s = (.ok w, t)) : w = v := by
  unfold checkSpinbox at h
  dsimp only at h
  obtain ⟨_, _, -, h⟩ := on_bind_eq_ok h
  obtain ⟨_, _, -, h⟩ := on_bind_eq_ok h
  obtain ⟨_, _, -, h⟩ := on_bind_eq_ok h
  obtain ⟨_, _, -, h⟩ := on_bind_eq_ok h
  obtain ⟨_, _, -, h⟩ := on_bind_eq_ok h
  obtain ⟨_, _, -, h⟩ := on_bind_eq_ok h
  split at h
  · cases h
  · obtain ⟨_, _, -, h⟩ := on_bind_eq_ok h
    obtain ⟨_, _, -, h⟩ := on_bind_eq_ok h
    split at h
    · cases h
    · obtain ⟨_, _, -, h⟩ := on_bind_eq_ok h
      split at h <;> cases h
      rfl

theorem checkSpinbox_on (h : SpinBox es x y p m) (hd : (es.get? "digits").bind Test.intOf? = some d)
    (hrun : (checkSpinbox (.dict es)).on s = (.ok v, t)) :
    (m : Int) < d ∧ ∃ a b, Text.truncate? x = some a ∧ Text.truncate? y = some b
      ∧ Fits a ∧ Fits b := by
  obtain ⟨digits, hdigits, hd⟩ := Option.bind_eq_some_iff.mp hd
  obtain ⟨places, hplaces, hp⟩ := Option.bind_eq_some_iff.mp h.places
  obtain ⟨selected, hselected, hm⟩ := Option.bind_eq_some_iff.mp h.selected
  unfold checkSpinbox at hrun
  simp only [required_of_get? h.low, required_of_get? h.high, required_of_get? hselected,
    required_of_get? hdigits, required_of_get? hplaces, pure_bind, atMost_whole hd hp,
    atMost_whole hd hm] at hrun
  obtain ⟨a, u, ha, hrun⟩ := on_bind_eq_ok hrun
  obtain ⟨b, u', hb, hrun⟩ := on_bind_eq_ok hrun
  have hfit : ∀ n : Int, (decide (-1 - spinLimit ≤ n) && decide (n ≤ spinLimit)) = true → Fits n := by
    intro n hn
    rw [Bool.and_eq_true, decide_eq_true_iff, decide_eq_true_iff, spinLimit] at hn
    exact ⟨by omega, by omega⟩
  split at hrun
  · cases hrun
  · split at hrun
    · cases hrun
    · split at hrun
      · cases hrun
      · next hinside _ hbelow =>
          rw [Bool.not_eq_true', Bool.not_eq_false, Bool.and_eq_true] at hinside
          exact ⟨by simpa using hbelow, a, b, convertInt_on ha, convertInt_on hb,
            hfit a hinside.1, hfit b hinside.2⟩

/-- **Limits of spin boxes.**  Whatever configuration of a spin box is accepted, its step fits into
    a word, and so do its limits as they are given, cut to whole numbers.  They are written in
    parts, and what is written fits exactly if the limit is small enough for the decimal places. -/
theorem spinbox_words (g : Generator) (w : Widget) (hw : w.kind = .spinbox)
    (haccepted : spinboxRecord.run.Gives (.dict es)) {full : Entries}
    (hfull : ∀ key ∈ spinboxRecord.fields.map (·.key), Entries.get? full key = Entries.get? es key) :
    ∃ (a b : Int) (p m : Nat),
      Kind.WritesRange .spinbox w (spinbox.options g w (.dict full)) (a * 10 ^ p) (b * 10 ^ p)
      ∧ (spinbox.options g w (.dict full)).Calls "lv_spinbox_set_step" [w.obj, .integer (10 ^ m)]
      ∧ (∃ x y, SpinBox es x y p m ∧ Text.truncate? x = some a ∧ Text.truncate? y = some b)
      ∧ p ≤ 6 ∧ Fits (10 ^ m)
      ∧ ∀ n ∈ [a, b], Fits n
        ∧ (Fits (n * 10 ^ p) ↔ -(2 ^ 31 / 10 ^ p) ≤ n ∧ n ≤ (2 ^ 31 - 1) / 10 ^ p) := by
  obtain ⟨v, s, t, hrun⟩ := haccepted
  obtain ⟨written, es', rfl, hes, haccepted⟩ := Record.run_accepted (fun test ht v w s u h => by
    obtain rfl := mem_singleton.mp ht
    exact checkSpinbox_same h) hrun
  cases hes
  obtain ⟨x, y, p, m, d, hbox, hp, hten, hd⟩ := Kind.exists_spinBox haccepted fun _ _ => rfl
  obtain ⟨out, u, -, -, hwhole⟩ := Record.walk_of_run hrun
  obtain ⟨v, u', hcheck, hlast⟩ := on_bind_eq_ok hwhole
  have hcheck := Test.guarded_eq_ok hcheck
  cases hlast
  cases checkSpinbox_same hcheck
  obtain ⟨hm, a, b, ha, hb, hfa, hfb⟩ := checkSpinbox_on hbox hd hcheck
  have hwhole : SpinBox full x y p m := by
    refine ⟨?_, ?_, ?_, ?_, ?_⟩
    · rw [hfull _ (by decide), hbox.low]
    · rw [hfull _ (by decide), hbox.high]
    · rw [Entries.has_eq_isSome, hfull _ (by decide), ← Entries.has_eq_isSome, hbox.digits]
    · rw [hfull _ (by decide), hbox.places]
    · rw [hfull _ (by decide), hbox.selected]
  obtain ⟨hrange, hstep⟩ := spinbox_calls (g := g) hw hwhole ha hb
  refine ⟨a, b, p, m, hrange, hstep, ⟨x, y, hbox, ha, hb⟩, hp, fits_power (by omega), ?_⟩
  intro n hn
  refine ⟨?_, fits_parts_iff n p⟩
  rcases mem_pair.mp hn with rfl | rfl
  · exact hfa
  · exact hfb

/-- A spin box that counts to the largest limit in tenths. -/
def largestBox : Entries :=
  [("range_from", .float 0.0), ("range_to", .float 2147483647.0), ("digits", .int 10),
    ("selected_digit", .int 9), ("decimal_places", .int 1), ("rollover", .bool false)]

theorem largestBox_accepted : spinboxRecord.run.Gives (.dict largestBox) :=
  ⟨.dict largestBox, {}, {}, rfl⟩

/-- Its upper limit does not fit. -/
theorem spinbox_words_largest : spinboxRecord.run.Gives (.dict largestBox)
    ∧ ∀ (g : Generator) (w : Widget), w.kind = .spinbox →
      Kind.WritesRange .spinbox w (spinbox.options g w (.dict largestBox)) 0 21474836470
      ∧ ¬ Fits 21474836470 := by
  refine ⟨largestBox_accepted, fun g w hw => ?_⟩
  obtain ⟨a, b, p, m, hrange, -, ⟨x, y, hbox, ha, hb⟩, -⟩ :=
    spinbox_words g w hw largestBox_accepted fun _ _ => rfl
  obtain ⟨hx, hy, -, hp, -⟩ := hbox
  cases hx
  cases hy
  obtain rfl : p = 1 := Int.ofNat.inj (Option.some.inj hp).symm
  obtain rfl : 0 = a := Option.some.inj ((show Text.truncate? 0.0 = some 0 by decide).symm.trans ha)
  obtain rfl : 2147483647 = b :=
    Option.some.inj ((show Text.truncate? 2147483647.0 = some 2147483647 by decide).symm.trans hb)
  exact ⟨hrange, fun h => absurd h.2 (by decide)⟩

end Kinds

end Panel
