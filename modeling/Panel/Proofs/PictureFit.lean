import Panel.Picture.Fit

/-! # Fitted pictures — how much of a picture is left in a box

    Without rounding, a picture fills the side of the box that it has less room in, and what it has
    in the other direction is cut off to whole pixels.  A picture that is much longer than wide, or
    wider than long, can be left with no pixels at all. -/

namespace Panel.Picture

open Ratio

variable {w h boxWidth boxHeight : Nat}

theorem Ratio.least_ofNat (m n : Nat) : least (ofNat m) (ofNat n) = ofNat (min m n) := by
  unfold least ofNat
  rw [Nat.mul_one, Nat.mul_one]
  split
  · next hlt => rw [Nat.min_eq_right (Nat.le_of_lt hlt)]
  · next hlt => rw [Nat.min_eq_left (Nat.le_of_not_lt hlt)]

/-- The side that has less room fills it, and the other one follows. -/
theorem fitted_id (hw : 0 < w) (hh : 0 < h) :
    fitted id w h (ofNat boxWidth) (ofNat boxHeight)
      = if min h boxHeight * w < min w boxWidth * h then (w * min h boxHeight / h, min h boxHeight)
        else (min w boxWidth, h * min w boxWidth / w) := by
  unfold fitted
  rw [least_ofNat, least_ofNat]
  dsimp only [id, least, dividedBy, ofNat]
  rw [Nat.one_mul, Nat.one_mul]
  split
  · exact Prod.ext rfl (Nat.mul_div_cancel_left _ hh)
  · exact Prod.ext (Nat.mul_div_cancel_left _ hw) rfl

/-- A picture that is fitted into a box with room in both directions lies inside of the box, does not
    grow, and reaches one of the bounds.  In each direction it keeps a pixel unless it is so much
    longer in the other one that less than a pixel would be left. -/
theorem fitted_within (hw : 0 < w) (hh : 0 < h) (hwide : 0 < boxWidth) (hhigh : 0 < boxHeight) :
    let size := fitted id w h (ofNat boxWidth) (ofNat boxHeight)
    size.1 ≤ min w boxWidth ∧ size.2 ≤ min h boxHeight
      ∧ (size.1 = min w boxWidth ∨ size.2 = min h boxHeight)
      ∧ (1 ≤ size.1 ↔ h ≤ w * min h boxHeight) ∧ (1 ≤ size.2 ↔ w ≤ h * min w boxWidth) := by
  have ha : 0 < min w boxWidth := Nat.lt_min.mpr ⟨hw, hwide⟩
  have hb : 0 < min h boxHeight := Nat.lt_min.mpr ⟨hh, hhigh⟩
  dsimp only
  rw [fitted_id hw hh]
  generalize min w boxWidth = a at ha ⊢
  generalize min h boxHeight = b at hb ⊢
  split
  · next hless =>
      -- less room in height: the width is cut off
      refine ⟨?_, Nat.le_refl _, .inr rfl, Nat.one_le_div_iff hh, fun _ => ?_, fun _ => hb⟩
      · refine Nat.le_of_lt ((Nat.div_lt_iff_lt_mul hh).mpr ?_)
        rwa [Nat.mul_comm]
      · rw [Nat.mul_comm h]
        exact Nat.le_trans (Nat.le_mul_of_pos_left w hb) (Nat.le_of_lt hless)
  · next hless =>
      have hmore := Nat.le_of_not_lt hless
      refine ⟨Nat.le_refl _, ?_, .inl rfl, ⟨fun _ => ?_, fun _ => ha⟩, Nat.one_le_div_iff hw⟩
      · refine Nat.div_le_of_le_mul ?_
        rwa [Nat.mul_comm, Nat.mul_comm w]
      · rw [Nat.mul_comm w]
        exact Nat.le_trans (Nat.le_mul_of_pos_left h ha) hmore

/-- A line of a hundred pixels keeps nothing of its height in a box of ten by ten. -/
theorem fitted_within_line :
    fitted id 100 1 (ofNat 10) (ofNat 10) = (10, 0)
      ∧ ¬ 1 ≤ (fitted id 100 1 (ofNat 10) (ofNat 10)).2 := by
  obtain ⟨-, -, -, -, hheight⟩ :=
    @fitted_within 100 1 10 10 (by decide) (by decide) (by decide) (by decide)
  exact ⟨by decide, fun hkept => absurd (hheight.mp hkept) (by decide)⟩

end Panel.Picture
