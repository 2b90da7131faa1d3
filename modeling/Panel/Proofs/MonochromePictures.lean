import Panel.Proofs.ColourPictures

/-! # Pictures without colours — the bits and the shades of a picture

    A black and white picture has a bit for every pixel; its rows are filled up to whole bytes.  A
    picture of shades has a byte for every pixel, one value of which may stand for a transparent
    one. -/

namespace Panel.Picture

open List Nat Encoder

variable {w h : Nat}

/-! ## Black and white -/

/-- Every pixel of a black and white picture can be read from the bit at its place, and what fills
    up a row is black, whether the picture is inverted or not. -/
theorem encodeFrame_bits (m : Fin h → Fin w → Bool) (t : Transparency) (inverted bigEndian : Bool) :
    ∃ e, (encoderOf .binary t inverted bigEndian w h).encodeFrame
        (rowsOf fun y x => blackOrWhite (m y x)) = .ok e
      ∧ e.data.size = (w + 7) / 8 * h
      ∧ ∀ y : Fin h, (∀ x : Fin w, ∃ byte, e.data[y * ((w + 7) / 8) + x / 8]? = some byte
          ∧ (byte &&& 0x80 >>> (x.val % 8) ≠ 0 ↔ (m y x ^^ inverted) = true))
        ∧ ∀ x, w ≤ x → x < 8 * ((w + 7) / 8) →
          ∃ byte, e.data[y * ((w + 7) / 8) + x / 8]? = some byte
            ∧ byte &&& 0x80 >>> (x % 8) = 0 := by
  have hm : ∀ y x, Format.binary.Takes (blackOrWhite (m y x)) := fun _ _ => trivial
  obtain ⟨e, hencode, hwrote⟩ := encodeRows_rowsOf t inverted bigEndian hm
  have hsize : e.data.size = (w + 7) / 8 * h := hwrote.same.data.trans Array.size_replicate
  -- A bit is found in its byte: nothing was set before, so it is set as its pixel wants it.
  have hbit : ∀ (y : Fin h) (x : Nat), x < 8 * ((w + 7) / 8) →
      ∃ byte, e.data[y * ((w + 7) / 8) + x / 8]? = some byte ∧ (byte &&& 0x80 >>> (x % 8) != 0)
        = if hx : x < w then m y ⟨x, hx⟩ ^^ inverted else false := by
    intro y x hx
    have hplace : (8 * (0 + (w + 7) / 8 * y) + x) / 8 = y * ((w + 7) / 8) + x / 8 := by
      rw [Nat.zero_add, Nat.mul_comm ((w + 7) / 8)]
      omega
    have hmask : (8 * (0 + (w + 7) / 8 * y) + x) % 8 = x % 8 := by omega
    have hinside : y * ((w + 7) / 8) + x / 8 < e.data.size := by
      have hrows : (y + 1) * ((w + 7) / 8) ≤ h * ((w + 7) / 8) := Nat.mul_le_mul_right _ y.isLt
      rw [Nat.succ_mul] at hrows
      rw [hsize, Nat.mul_comm _ h]
      omega
    have hlit := hwrote.bits rfl y (by simp [rowsOf]) x hx
    change litAt e.data (8 * (0 + (w + 7) / 8 * y) + x)
      = (litAt (Array.replicate _ 0) _ || _) at hlit
    rw [litAt, litAt, hplace, hmask, Array.getElem?_replicate,
      Array.getElem?_eq_getElem hinside] at hlit
    refine ⟨_, Array.getElem?_eq_getElem hinside, hlit.trans ?_⟩
    have hclear : ∀ (c : Prop) [Decidable c], (if c then some 0 else none).getD 0 = 0 :=
      fun c _ => by split <;> rfl
    rw [hclear, Nat.zero_and]
    by_cases hx : x < w
    · cases hm : m y ⟨x, hx⟩ <;> cases inverted <;>
        simp [rowsOf, hx, hm, shows, blackOrWhite, Pixel.isLit, encoderOf, Encoder.new]
    · simp [rowsOf, hx]
  have hformat : e.format = .binary := hwrote.same.format
  have hend : e.endFrame = e := if_neg fun hkept => absurd (hformat.symm.trans hkept.1) (by decide)
  refine ⟨e, by rw [encodeFrame, hencode]; exact congrArg Except.ok hend, hsize,
    fun y => ⟨fun x => ?_, fun x hout hx => ?_⟩⟩
  · obtain ⟨byte, hbyte, hset⟩ := hbit y x (by omega)
    refine ⟨byte, hbyte, ?_⟩
    rw [dif_pos x.isLt] at hset
    rw [← hset, bne_iff_ne]
  · obtain ⟨byte, hbyte, hset⟩ := hbit y x hx
    rw [dif_neg (Nat.not_lt.mpr hout)] at hset
    exact ⟨byte, hbyte, by simpa using hset⟩

/-! ## Shades -/

/-- A pixel: its shade and its alpha. -/
structure Shade where
  level : UInt8
  alpha : UInt8
  deriving DecidableEq, Repr

def Shade.pixel (s : Shade) : Pixel := .samples [s.level.toNat, s.alpha.toNat]

theorem grayLevel_key_iff (s : Shade) :
    (grayLevel .chromaKey false s.level.toNat s.alpha.toNat = 1 ↔ s.alpha ≠ 0xFF)
    ∧ (grayLevel .chromaKey true s.level.toNat s.alpha.toNat = 0xFE ↔ s.alpha ≠ 0xFF)
    ∧ (grayLevel .chromaKey true s.level.toNat s.alpha.toNat = 1
      ↔ s.alpha = 0xFF ∧ s.level = 0xFE) := by
  have halpha : s.alpha = 0xFF ↔ s.alpha.toNat = 255 := by rw [← UInt8.toNat_inj]; rfl
  have hlevel : s.level = 0xFE ↔ s.level.toNat = 254 := by rw [← UInt8.toNat_inj]; rfl
  have hxor : ∀ a b, a ^^^ 0xFF = b ↔ a = b ^^^ 0xFF := fun a b =>
    ⟨fun heq => by rw [← heq, Nat.xor_assoc, Nat.xor_self, Nat.xor_zero],
      fun heq => by rw [heq, Nat.xor_assoc, Nat.xor_self, Nat.xor_zero]⟩
  rw [halpha, hlevel]
  simp only [grayLevel, reduceIte, hxor, reduceCtorEq, false_and]
  grind

/-- Which pixels of a picture of shades have the key: those that are not solid.  In an inverted
    picture, though, the key is inverted as well, and solid pixels have it that were the inverse of
    the key before. -/
theorem encodeFrame_shades (m : Fin h → Fin w → Shade) (inverted bigEndian : Bool) :
    ∃ e, (encoderOf .grayscale .chromaKey inverted bigEndian w h).encodeFrame
        (rowsOf fun y x => (m y x).pixel) = .ok e
      ∧ e.data.size = w * h
      ∧ ∀ (y : Fin h) (x : Fin w), ∃ byte, e.data[y * w + x]? = some byte
        ∧ (inverted = false → (byte = 1 ↔ (m y x).alpha ≠ 0xFF))
        ∧ (inverted = true → (byte = 0xFE ↔ (m y x).alpha ≠ 0xFF)
          ∧ (byte = 1 ↔ (m y x).alpha = 0xFF ∧ (m y x).level = 0xFE)) := by
  have hm : ∀ y x, Format.grayscale.Takes (m y x).pixel := fun y x => ⟨_, _, rfl⟩
  obtain ⟨e, hencode, hreads⟩ := encodeFrame_reads (by decide) .chromaKey inverted bigEndian hm
  refine ⟨e, hencode, hreads.size.trans (Nat.one_mul _), fun y x => ?_⟩
  have hbyte : e.data[y * w + x]?
      = some (grayLevel .chromaKey inverted (m y x).level.toNat (m y x).alpha.toNat) := by
    have hpixel := hreads.pixel y x (j := 0) Nat.one_pos
    rwa [show (encoderOf .grayscale .chromaKey inverted bigEndian w h).pixelSize = 1 from rfl,
      Nat.one_mul] at hpixel
  obtain ⟨hplain, hinverted⟩ := grayLevel_key_iff (m y x)
  refine ⟨_, hbyte, ?_, ?_⟩
  · rintro rfl
    exact hplain
  · rintro rfl
    exact hinverted

end Panel.Picture
