import Mathlib.Tactic.FinCases
import Panel.Picture.Build
import Panel.Proofs.PictureRows
import Panel.Proofs.Work

/-! # Colour pictures — what can be read out of the bytes of a picture -/

namespace Panel.Picture

open List Nat Encoder

variable {n w h : Nat} {data : Array Nat} {α β : Type}

/-! ## Pixels and pictures -/

/-- A pixel: its colours and its alpha. -/
structure Colour where
  red : UInt8
  green : UInt8
  blue : UInt8
  alpha : UInt8
  deriving DecidableEq, Repr

def Raster (w h : Nat) : Type := Fin h → Fin w → Colour

namespace Colour

def samples (c : Colour) : List Nat := [c.red.toNat, c.green.toNat, c.blue.toNat, c.alpha.toNat]

def pixel (c : Colour) : Pixel := .samples c.samples

def stored (inverted : Bool) (c : Colour) : Nat := Encoder.storedAlpha inverted c.alpha.toNat

def word (c : Colour) : Nat :=
  (c.red.toNat >>> 3) <<< 11 ||| (c.green.toNat >>> 2) <<< 5 ||| c.blue.toNat >>> 3

/-- The word that stands for a pixel, as the transparency wants it. -/
def shownWord (t : Transparency) (inverted : Bool) (c : Colour) : Nat :=
  Encoder.shownWord t inverted c.red.toNat c.green.toNat c.blue.toNat c.alpha.toNat

def shownBytes (t : Transparency) (c : Colour) : List Nat :=
  Encoder.shownBytes t c.red.toNat c.green.toNat c.blue.toNat c.alpha.toNat

end Colour

/-- The rows of a matrix. -/
def rowsOf (m : Fin h → Fin w → α) : List (List α) :=
  (List.finRange h).map fun y => (List.finRange w).map (m y)

namespace Raster

def rows (m : Raster w h) : List (List Colour) := rowsOf m

def colours (m : Raster w h) : List Colour := m.rows.flatten

def pixels (m : Raster w h) : List (List Pixel) := m.rows.map (·.map Colour.pixel)

def frame (m : Raster w h) : Frame := ⟨.rgba, w, h, m.colours.flatMap Colour.samples⟩

end Raster

/-! ## Blocks of one length -/

section Blocks

variable {f : α → List β} {k : Nat}

theorem pieces_flatMap_of_length (hk : 0 < k) (hf : ∀ a, (f a).length = k) (xs : List α) :
    pieces k (xs.flatMap f) = xs.map f := by
  induction xs with
  | nil => rw [flatMap_nil, pieces, map_nil]
  | cons x xs ih =>
    rw [flatMap_cons, map_cons]
    cases hx : f x with
    | nil =>
      have hlength := hf x
      rw [hx] at hlength
      exact absurd hlength (Nat.ne_of_lt hk)
    | cons b bs =>
      have hlength : bs.length = k - 1 := by
        have := hf x
        rw [hx, length_cons] at this
        omega
      rw [cons_append, pieces, take_left' hlength, drop_left' hlength, ih]

end Blocks

section Matrices

variable (m : Fin h → Fin w → α)

theorem length_flatten_rowsOf : (rowsOf m).flatten.length = w * h := by
  rw [rowsOf, ← flatMap_def, length_flatMap_of_length (k := w) (by simp), length_finRange]

theorem flatten_rowsOf_getElem? (y : Fin h) (x : Fin w) :
    (rowsOf m).flatten[y.val * w + x.val]? = some (m y x) := by
  rw [rowsOf, ← flatMap_def, Nat.mul_comm, getElem?_flatMap_of_length (by simp) _ _ x.isLt]
  simp

end Matrices

/-! ## Whole pictures -/

section Whole

variable {format : Format} {t : Transparency} {inverted bigEndian : Bool} {e : Encoder}
  {m : Fin h → Fin w → Pixel}

theorem lines_encoderOf (format : Format) (t : Transparency) (inverted bigEndian : Bool)
    (w k : Nat) : (encoderOf format t inverted bigEndian w k).Lines w k := by
  refine ⟨rfl, ?_, fun hformat => ?_⟩
  · exact Nat.le_of_eq ((Nat.zero_add _).trans Array.size_replicate.symm)
  · obtain rfl : format = .rgb565 := hformat
    simp [encoderOf, Encoder.new]

theorem splice_all {xs : Array Nat} {ys : List Nat} (h : ys.length = xs.size) :
    splice xs 0 ys = ys.toArray := by
  refine Array.ext_getElem? fun j => ?_
  rw [getElem?_splice]
  grind

/-- What can be read in the data of a picture: at its place every pixel has its bytes, and behind
    them all come the alphas that are kept apart. -/
structure Reads (start : Encoder) (m : Fin h → Fin w → Pixel) (data : Array Nat) : Prop where
  size : data.size = start.pixelSize * (w * h)
    + if start.format = .rgb565 ∧ start.transparency = .alphaChannel then w * h else 0
  pixel : ∀ (y : Fin h) (x : Fin w) {j : Nat}, j < start.pixelSize →
    data[start.pixelSize * (y * w + x) + j]? = (start.pixelBytes (m y x))[j]?
  alpha : start.format = .rgb565 ∧ start.transparency = .alphaChannel → ∀ (y : Fin h) (x : Fin w),
    data[start.pixelSize * (w * h) + (y * w + x)]?
      = some (storedAlpha start.inverted ((m y x).sample 3))
  bytes : ∀ b ∈ data, ∃ y x, b ∈ start.pixelBytes (m y x)
    ∨ b = storedAlpha start.inverted ((m y x).sample 3)

def alphaOf (inverted : Bool) (p : Pixel) : Nat := storedAlpha inverted (p.sample 3)

theorem data_endFrame (e : Encoder) : e.endFrame.data.toList = e.data.toList
    ++ if e.format = .rgb565 ∧ e.transparency = .alphaChannel then e.alpha.toList else [] := by
  unfold endFrame
  split
  · exact Array.toList_append
  · exact (append_nil _).symm

theorem encodeRows_rowsOf (t : Transparency) (inverted bigEndian : Bool)
    (hm : ∀ y x, format.Takes (m y x)) :
    ∃ e, (encoderOf format t inverted bigEndian w h).encodeRows (rowsOf m) = .ok e
      ∧ (encoderOf format t inverted bigEndian w h).WroteRows w (rowsOf m) e := by
  have hrows : ∀ row ∈ rowsOf m, row.length = w ∧ ∀ p ∈ row, format.Takes p := by
    simp only [rowsOf, mem_map, mem_finRange, true_and, forall_exists_index, forall_apply_eq_imp_iff]
    exact fun y => ⟨by simp, fun x => hm y x⟩
  have hheight : (rowsOf m).length = h := by simp [rowsOf]
  exact encodeRows_wrote (k := 0) hrows
    (hheight.symm ▸ lines_encoderOf format t inverted bigEndian w h)

theorem encodeFrame_rowsOf (hformat : format ≠ .binary) (t : Transparency)
    (inverted bigEndian : Bool) (hm : ∀ y x, format.Takes (m y x)) :
    ∃ e, (encoderOf format t inverted bigEndian w h).encodeFrame (rowsOf m) = .ok e
      ∧ e.data.toList
        = (rowsOf m).flatten.flatMap (encoderOf format t inverted bigEndian w h).pixelBytes
          ++ if format = .rgb565 ∧ t = .alphaChannel then (rowsOf m).flatten.map (alphaOf inverted)
            else [] := by
  let start := encoderOf format t inverted bigEndian w h
  have hcount := length_flatten_rowsOf m
  obtain ⟨e, hencode, hwrote⟩ := encodeRows_rowsOf t inverted bigEndian hm
  obtain rfl := hwrote.bytes hformat
  have hdata : (start.wroteAll (rowsOf m).flatten).data
      = ((rowsOf m).flatten.flatMap start.pixelBytes).toArray := by
    refine splice_all ?_
    rw [length_flatMap_of_length (length_pixelBytes hformat), hcount, ← Nat.mul_assoc,
      ← rowSize_eq (e := start) hformat]
    exact Array.size_replicate.symm
  have halpha : format = .rgb565 → (start.wroteAll (rowsOf m).flatten).alpha
      = ((rowsOf m).flatten.map (alphaOf inverted)).toArray := by
    rintro rfl
    rw [map_eq_flatMap]
    show splice start.alpha (0 / 2) _ = ((rowsOf m).flatten.flatMap start.pixelAlphas).toArray
    rw [Nat.zero_div]
    refine splice_all ?_
    rw [length_flatMap_of_length (k := 1) fun _ => rfl, hcount, Nat.one_mul]
    exact Array.size_replicate.symm
  refine ⟨(start.wroteAll (rowsOf m).flatten).endFrame, by rw [encodeFrame, hencode]; rfl, ?_⟩
  rw [data_endFrame, hdata]
  refine congrArg (_ ++ ·) ?_
  by_cases hkept : format = .rgb565 ∧ t = .alphaChannel
  · rw [if_pos hkept, halpha hkept.1]
    exact if_pos hkept
  · rw [if_neg hkept]
    exact if_neg hkept

theorem encodeFrame_reads (hformat : format ≠ .binary) (t : Transparency)
    (inverted bigEndian : Bool) (hm : ∀ y x, format.Takes (m y x)) :
    ∃ e, (encoderOf format t inverted bigEndian w h).encodeFrame (rowsOf m) = .ok e
      ∧ Reads (encoderOf format t inverted bigEndian w h) m e.data := by
  have hsize := length_pixelBytes (e := encoderOf format t inverted bigEndian w h) hformat
  obtain ⟨e, hencode, hdata⟩ := encodeFrame_rowsOf hformat t inverted bigEndian hm
  have hlength := length_flatMap_of_length hsize (rowsOf m).flatten
  rw [length_flatten_rowsOf] at hlength
  have hmem : ∀ p ∈ (rowsOf m).flatten, ∃ y x, m y x = p := by simp [rowsOf]
  refine ⟨e, hencode, ?_, fun y x j hj => ?_, fun hkept y x => ?_, fun b hb => ?_⟩
  · rw [← Array.length_toList, hdata, length_append, hlength]
    congr 1
    by_cases hkept : format = .rgb565 ∧ t = .alphaChannel
    · rw [if_pos hkept, length_map, length_flatten_rowsOf]
      exact (if_pos hkept).symm
    · rw [if_neg hkept]
      exact (if_neg hkept).symm
  · have hfound := getElem?_flatMap_of_length hsize (rowsOf m).flatten (y * w + x) hj
    rw [flatten_rowsOf_getElem? m y x] at hfound
    rw [← Array.getElem?_toList, hdata, getElem?_append_left, hfound]
    · rfl
    · have hthere : j < ((encoderOf format t inverted bigEndian w h).pixelBytes (m y x)).length := hsize _ ▸ hj
      rw [← Nat.not_le, ← getElem?_eq_none_iff, hfound]
      exact fun h => absurd (h.symm.trans (getElem?_eq_getElem hthere)) nofun
  · rw [← Array.getElem?_toList, hdata, ← hlength,
      getElem?_append_right (Nat.le_add_right _ _), Nat.add_sub_cancel_left,
      if_pos (show format = .rgb565 ∧ t = .alphaChannel from hkept), getElem?_map,
      flatten_rowsOf_getElem? m y x]
    rfl
  · have hb : b ∈ e.data.toList := Array.mem_toList_iff.mpr hb
    rw [hdata, mem_append] at hb
    rcases hb with hb | hb
    · obtain ⟨p, hp, hb⟩ := mem_flatMap.mp hb
      obtain ⟨y, x, rfl⟩ := hmem p hp
      exact ⟨y, x, .inl hb⟩
    · split at hb
      · obtain ⟨p, hp, rfl⟩ := mem_map.mp hb
        obtain ⟨y, x, rfl⟩ := hmem p hp
        exact ⟨y, x, .inr rfl⟩
      · exact nomatch hb

theorem rows_frame (hw : 0 < w) (m : Raster w h) : m.frame.rows = m.rows.map (·.map Colour.samples) := by
  have hline : ∀ y, (((finRange w).map (m y)).flatMap Colour.samples).length = w * 4 := fun y => by
    rw [length_flatMap_of_length (k := 4) fun _ => rfl, length_map, length_finRange, Nat.mul_comm]
  have hsamples : m.frame.samples
      = (finRange h).flatMap fun y => ((finRange w).map (m y)).flatMap Colour.samples := by
    show (List.flatten (List.map _ _)).flatMap _ = _
    rw [← flatMap_def, flatMap_assoc]
  have hrows : m.rows = (finRange h).map fun y => (finRange w).map (m y) := rfl
  show (pieces (w * 4) m.frame.samples).map (pieces 4) = _
  rw [hsamples, pieces_flatMap_of_length (Nat.mul_pos hw (by decide)) hline, hrows, map_map, map_map]
  refine map_congr_left fun y _ => ?_
  exact pieces_flatMap_of_length (k := 4) (by decide) (fun _ => rfl) _

theorem encodeFrames_frame (hw : 0 < w) (hh : 0 < h) (he : e.format = .rgb565 ∨ e.format = .rgb) (m : Raster w h)
    (path : String) (dithered : Bool) (s : Session) :
    (encodeFrames path dithered w h e [m.frame]).on s = (e.encodeFrame m.pixels, s) := by
  have hpixels : m.frame.rows.map (·.map fun p => Pixel.samples (rgba p)) = m.pixels := by
    rw [rows_frame hw, map_map]
    exact map_congr_left fun row _ => map_map
  have hsame : m.frame.resized w h = m.frame := if_pos ⟨rfl, rfl⟩
  have hconverted : converted path dithered e m.frame = pure (e, m.pixels) := by
    unfold converted
    rcases he with he | he <;> rw [he, ← hpixels]
  unfold encodeFrames
  rw [if_neg (by omega), hsame, hconverted]
  simp only [pure_bind]
  cases e.encodeFrame m.pixels <;> rfl

end Whole

/-! ## Reading back -/

def wordAt (bigEndian : Bool) (data : Array Nat) (i : Nat) : Option Nat :=
  match data[i]?, data[i + 1]? with
  | some first, some second =>
    some (if bigEndian then 256 * first + second else 256 * second + first)
  | _, _ => none

theorem wordAt_wordBytes {bigEndian : Bool} {i word : Nat}
    (hfirst : data[i]? = (wordBytes bigEndian word)[0]?)
    (hsecond : data[i + 1]? = (wordBytes bigEndian word)[1]?) :
    wordAt bigEndian data i = some word := by
  have hword : 256 * (word >>> 8) + (word &&& 0xFF) = word := by
    rw [shiftRight_eq_div_pow, and_two_pow_sub_one_eq_mod word 8]
    exact div_add_mod word 256
  unfold wordAt
  rw [hfirst, hsecond]
  cases bigEndian <;> exact congrArg some hword

theorem wordBytes_lt {word : Nat} (h : word < 65536) (bigEndian : Bool) :
    ∀ b ∈ wordBytes bigEndian word, b < 256 := by
  have hhigh : word >>> 8 < 256 := by
    rw [shiftRight_eq_div_pow]
    omega
  have hlow : word &&& 0xFF < 256 := lt_succ_of_le and_le_right
  cases bigEndian <;> simp [wordBytes, hhigh, hlow]

theorem packed_eq {r g b : Nat} (hg : g < 64) (hb : b < 32) :
    r <<< 11 ||| g <<< 5 ||| b = 2048 * r + 32 * g + b := by
  have hgreen : g <<< 5 < 2 ^ 11 := by
    rw [shiftLeft_eq]
    omega
  have hfront : r <<< 11 ||| g <<< 5 = (64 * r + g) <<< 5 := by
    rw [← shiftLeft_add_eq_or_of_lt hgreen]
    simp only [shiftLeft_eq]
    omega
  rw [hfront, ← shiftLeft_add_eq_or_of_lt hb, shiftLeft_eq]
  omega

namespace Colour

variable (c : Colour)

theorem red_lt : c.red.toNat >>> 3 < 32 := by
  have := c.red.toNat_lt
  rw [shiftRight_eq_div_pow]
  omega

theorem green_lt : c.green.toNat >>> 2 < 64 := by
  have := c.green.toNat_lt
  rw [shiftRight_eq_div_pow]
  omega

theorem blue_lt : c.blue.toNat >>> 3 < 32 := by
  have := c.blue.toNat_lt
  rw [shiftRight_eq_div_pow]
  omega

theorem stored_lt (inverted : Bool) : c.stored inverted < 256 := by
  unfold stored Encoder.storedAlpha
  split
  · exact xor_lt_two_pow (n := 8) c.alpha.toNat_lt (by decide)
  · exact c.alpha.toNat_lt

/-- Are the colours those of the key, in five, six and five bits? -/
def IsKeyWord : Prop := c.red.toNat >>> 3 = 0 ∧ c.green.toNat >>> 2 = 1 ∧ c.blue.toNat >>> 3 = 0

def IsKey : Prop := c.red = 0 ∧ c.green = 1 ∧ c.blue = 0

instance : Decidable c.IsKeyWord := inferInstanceAs (Decidable (_ ∧ _ ∧ _))

instance : Decidable c.IsKey := inferInstanceAs (Decidable (_ ∧ _ ∧ _))

end Colour

section Reading

variable {w h : Nat} {t : Transparency} {bigEndian inverted : Bool} (c : Colour) {m : Raster w h}

theorem Raster.pixels_eq (m : Raster w h) : m.pixels = rowsOf fun y x => (m y x).pixel := by
  simp [pixels, rows, rowsOf]

theorem encodeFrame_raster {format : Format} (hformat : format = .rgb565 ∨ format = .rgb)
    (t : Transparency) (inverted bigEndian : Bool) (m : Raster w h) :
    ∃ e, (encoderOf format t inverted bigEndian w h).encodeFrame m.pixels = .ok e
      ∧ Reads (encoderOf format t inverted bigEndian w h) (fun y x => (m y x).pixel) e.data := by
  rw [m.pixels_eq]
  refine encodeFrame_reads ?_ t inverted bigEndian fun y x => ?_
  · rcases hformat with rfl | rfl <;> decide
  · rcases hformat with rfl | rfl <;> exact ⟨_, _, _, _, rfl⟩

/-- A picture of words from which every pixel can be read, with its alpha if there is a channel. -/
structure Words (m : Raster w h) (t : Transparency) (inverted bigEndian : Bool) (data : Array Nat) :
    Prop where
  size : data.size = 2 * w * h + if t = .alphaChannel then w * h else 0
  bytes : ∀ b ∈ data, b < 256
  word : ∀ (y : Fin h) (x : Fin w), wordAt bigEndian data (2 * (y * w + x)) = some (m y x).word
  alpha : t = .alphaChannel → ∀ (y : Fin h) (x : Fin w),
    data[2 * w * h + y * w + x]? = some ((m y x).stored inverted)

/-- A picture of `n` bytes a pixel from which every pixel can be read. -/
structure Bytes (m : Raster w h) (t : Transparency) (inverted : Bool) (n : Nat) (data : Array Nat) :
    Prop where
  size : data.size = n * w * h
  bytes : ∀ b ∈ data, b < 256
  blue : ∀ (y : Fin h) (x : Fin w), data[n * (y * w + x)]? = some (m y x).blue.toNat
  green : ∀ (y : Fin h) (x : Fin w), data[n * (y * w + x) + 1]? = some (m y x).green.toNat
  red : ∀ (y : Fin h) (x : Fin w), data[n * (y * w + x) + 2]? = some (m y x).red.toNat
  alpha : t = .alphaChannel → ∀ (y : Fin h) (x : Fin w),
    data[n * (y * w + x) + 3]? = some ((m y x).stored inverted)

theorem colours_of_ne (ht : t ≠ .chromaKey) (r g b alpha : Nat) :
    colours t r g b alpha = (r, g, b) := if_neg ht

theorem shownWord_of_ne (ht : t ≠ .chromaKey) (inverted : Bool) (c : Colour) :
    c.shownWord t inverted = c.word := by
  unfold Colour.shownWord Encoder.shownWord
  rw [colours_of_ne ht]
  rfl

theorem words_of_reads (ht : t ≠ .chromaKey)
    (hdata : Reads (encoderOf .rgb565 t inverted bigEndian w h) (fun y x => (m y x).pixel) data) :
    Words m t inverted bigEndian data := by
  have hpixel : ∀ c : Colour, (encoderOf .rgb565 t inverted bigEndian w h).pixelBytes c.pixel
      = wordBytes bigEndian c.word := fun c =>
    congrArg (wordBytes bigEndian) (shownWord_of_ne ht inverted c)
  refine ⟨?_, fun b hb => ?_, fun y x => ?_, fun halpha y x => ?_⟩
  · rw [hdata.size, Nat.mul_assoc]
    congr 1
    by_cases halpha : t = .alphaChannel
    · rw [if_pos halpha]
      exact if_pos ⟨rfl, halpha⟩
    · rw [if_neg halpha]
      exact if_neg fun h => halpha h.2
  · obtain ⟨y, x, hb⟩ := hdata.bytes b hb
    generalize m y x = c at hb
    rcases hb with hc | rfl
    · rw [hpixel] at hc
      refine wordBytes_lt ?_ bigEndian b hc
      have hpacked : c.word = _ := packed_eq c.green_lt c.blue_lt
      have := c.red_lt
      have := c.green_lt
      have := c.blue_lt
      omega
    · exact c.stored_lt _
  · refine wordAt_wordBytes ?_ ?_
    · rw [← hpixel]
      exact hdata.pixel y x (j := 0) (show 0 < 2 by decide)
    · rw [← hpixel]
      exact hdata.pixel y x (j := 1) (show 1 < 2 by decide)
  · rw [Nat.mul_assoc, Nat.add_assoc]
    exact hdata.alpha ⟨rfl, halpha⟩ y x

theorem bytes_of_reads (ht : t ≠ .chromaKey)
    (hdata : Reads (encoderOf .rgb t inverted bigEndian w h) (fun y x => (m y x).pixel) data) :
    Bytes m t inverted (if t = .alphaChannel then 4 else 3) data := by
  have hsize : (encoderOf .rgb t inverted bigEndian w h).pixelSize = if t = .alphaChannel then 4 else 3 :=
    Nat.one_mul _
  -- The alpha comes behind the colours, so with or without it these stand at the same places.
  have hthree : 3 ≤ (encoderOf .rgb t inverted bigEndian w h).pixelSize := by
    rw [hsize]
    split <;> decide
  have hpixel : ∀ c : Colour, (encoderOf .rgb t inverted bigEndian w h).pixelBytes c.pixel
      = [c.blue.toNat, c.green.toNat, c.red.toNat]
        ++ if t = .alphaChannel then [c.stored inverted] else [] := fun c => by
    show c.shownBytes t ++ _ = _
    unfold Colour.shownBytes Encoder.shownBytes
    rw [colours_of_ne ht]
    rfl
  refine ⟨?_, fun b hb => ?_, fun y x => ?_, fun y x => ?_, fun y x => ?_, fun halpha y x => ?_⟩
  · rw [hdata.size, hsize, Nat.mul_assoc]
    exact Nat.add_zero _
  · obtain ⟨y, x, hb⟩ := hdata.bytes b hb
    generalize m y x = c at hb
    rcases hb with hc | rfl
    · rw [hpixel, mem_append] at hc
      rcases hc with hc | hc
      · fin_cases hc <;> exact UInt8.toNat_lt _
      · split at hc
        · rw [mem_singleton.mp hc]
          exact c.stored_lt _
        · exact nomatch hc
    · exact c.stored_lt _
  · rw [← hsize, ← Nat.add_zero (_ * _), hdata.pixel y x (by omega), hpixel]
    rfl
  · rw [← hsize, hdata.pixel y x (by omega), hpixel]
    rfl
  · rw [← hsize, hdata.pixel y x (by omega), hpixel]
    rfl
  · have hfour : (encoderOf .rgb t inverted bigEndian w h).pixelSize = 4 := by rw [hsize, if_pos halpha]
    rw [← hsize, hdata.pixel y x (by omega), hpixel, if_pos halpha]
    rfl

/-- Every pixel of a colour picture without a colour key can be read back: from the word at its
    place, and the alpha behind all words; or from the bytes at its place.  The picture of a file
    that is not empty is encoded so. -/
theorem encodeFrame_reads_back (m : Raster w h) {t : Transparency}
    (ht : t = .solid ∨ t = .alphaChannel) (inverted bigEndian : Bool) (path : String)
    (dithered : Bool) (s : Session) :
    (∃ e, (encoderOf .rgb565 t inverted bigEndian w h).encodeFrame m.pixels = .ok e
      ∧ Words m t inverted bigEndian e.data
      ∧ (0 < w → 0 < h →
        (encodeFrames path dithered w h (encoderOf .rgb565 t inverted bigEndian w h) [m.frame]).on s
          = (.ok e, s)))
    ∧ ∃ e, (encoderOf .rgb t inverted bigEndian w h).encodeFrame m.pixels = .ok e
      ∧ Bytes m t inverted (if t = .alphaChannel then 4 else 3) e.data
      ∧ (0 < w → 0 < h →
        (encodeFrames path dithered w h (encoderOf .rgb t inverted bigEndian w h) [m.frame]).on s
          = (.ok e, s)) := by
  have hkeyless : t ≠ .chromaKey := by
    rcases ht with rfl | rfl <;> nofun
  constructor
  · obtain ⟨e, hencode, hreads⟩ := encodeFrame_raster (.inl rfl) t inverted bigEndian m
    refine ⟨e, hencode, words_of_reads hkeyless hreads, fun hw hh => ?_⟩
    rw [encodeFrames_frame hw hh (.inl rfl), hencode]
  · obtain ⟨e, hencode, hreads⟩ := encodeFrame_raster (.inr rfl) t inverted bigEndian m
    refine ⟨e, hencode, bytes_of_reads hkeyless hreads, fun hw hh => ?_⟩
    rw [encodeFrames_frame hw hh (.inr rfl), hencode]

def samplePicture : Raster 2 1 := fun _ x =>
  if x = 0 then ⟨0x12, 0x34, 0x56, 0x80⟩ else ⟨0xFF, 0xFE, 0x01, 0x07⟩

theorem encodeFrame_reads_back_samplePicture :
    ∃ e, (encoderOf .rgb565 .alphaChannel true false 2 1).encodeFrame samplePicture.pixels = .ok e
      ∧ Words samplePicture .alphaChannel true false e.data
      ∧ (encodeFrames "pic.png" false 2 1 (encoderOf .rgb565 .alphaChannel true false 2 1)
          [samplePicture.frame]).on {} = (.ok e, {}) := by
  obtain ⟨e, hencode, hwords, hfile⟩ :=
    (encodeFrame_reads_back samplePicture (.inr rfl) true false "pic.png" false {}).1
  exact ⟨e, hencode, hwords, hfile (by decide) (by decide)⟩

/-! ## Colour keys -/

/-- Under a colour key, pixels that have its colours become black and all other transparent ones get
    the key. -/
theorem shownWord_chromaKey (inverted : Bool) (c : Colour) : c.shownWord .chromaKey inverted
      = if c.IsKeyWord then 0 else if c.stored inverted < 128 then 0x20 else c.word := by
  have hkey : (c.red.toNat >>> 3 = 0 ∧ c.green.toNat >>> 2 = 1 ∧ c.blue.toNat >>> 3 = 0) ↔ c.IsKeyWord :=
    Iff.rfl
  have hstored : storedAlpha inverted c.alpha.toNat = c.stored inverted := rfl
  unfold Colour.shownWord Encoder.shownWord colours keyed
  simp only [hkey, hstored, if_pos]
  by_cases h : c.IsKeyWord
  · rw [if_pos h, if_pos h]
    rfl
  · rw [if_neg h, if_neg h]
    by_cases halpha : c.stored inverted < 128
    · rw [if_pos halpha, if_pos halpha]
      rfl
    · rw [if_neg halpha, if_neg halpha]
      rfl

theorem isKey_iff : c.IsKey ↔ c.red.toNat = 0 ∧ c.green.toNat = 1 ∧ c.blue.toNat = 0 := by
  unfold Colour.IsKey
  rw [← UInt8.toNat_inj, ← UInt8.toNat_inj, ← UInt8.toNat_inj]
  rfl

theorem shownBytes_chromaKey :
    c.shownBytes .chromaKey = if c.IsKey then [0, 0, 0] else if c.alpha.toNat < 128 then [0, 1, 0]
      else [c.blue.toNat, c.green.toNat, c.red.toNat] := by
  unfold Colour.shownBytes Encoder.shownBytes colours keyed
  simp only [← isKey_iff, if_pos]
  by_cases h : c.IsKey
  · rw [if_pos h, if_pos h]
  · rw [if_neg h, if_neg h]
    by_cases halpha : c.alpha.toNat < 128
    · rw [if_pos halpha, if_pos halpha]
    · rw [if_neg halpha, if_neg halpha]

theorem word_eq_key_iff : c.word = 0x20 ↔ c.IsKeyWord := by
  have hpacked : c.word = _ := packed_eq c.green_lt c.blue_lt
  have := c.blue_lt
  have := c.green_lt
  rw [hpacked, Colour.IsKeyWord]
  omega

/-- Which pixels of a picture with a colour key have the key: the transparent ones, but for those
    that had the colours of the key before.  These are black instead, as solid pixels of these
    colours are; all other solid pixels keep their colours. -/
theorem encodeFrame_keyed (m : Raster w h) (inverted bigEndian : Bool) :
    (∃ e, (encoderOf .rgb565 .chromaKey inverted bigEndian w h).encodeFrame m.pixels = .ok e
      ∧ e.data.size = 2 * w * h
      ∧ ∀ (y : Fin h) (x : Fin w), ∃ word, wordAt bigEndian e.data (2 * (y * w + x)) = some word
        ∧ (word = 0x20 ↔ (m y x).stored inverted < 128 ∧ ¬(m y x).IsKeyWord)
        ∧ ((m y x).IsKeyWord → word = 0)
        ∧ (128 ≤ (m y x).stored inverted → ¬(m y x).IsKeyWord → word = (m y x).word))
    ∧ ∃ e, (encoderOf .rgb .chromaKey inverted bigEndian w h).encodeFrame m.pixels = .ok e
      ∧ e.data.size = 3 * w * h
      ∧ ∀ (y : Fin h) (x : Fin w), ∃ b g r, e.data[3 * (y * w + x)]? = some b
        ∧ e.data[3 * (y * w + x) + 1]? = some g ∧ e.data[3 * (y * w + x) + 2]? = some r
        ∧ ((r, g, b) = (0, 1, 0) ↔ (m y x).alpha.toNat < 128 ∧ ¬(m y x).IsKey)
        ∧ ((m y x).IsKey → (r, g, b) = (0, 0, 0))
        ∧ (128 ≤ (m y x).alpha.toNat → ¬(m y x).IsKey →
          (r, g, b) = ((m y x).red.toNat, (m y x).green.toNat, (m y x).blue.toNat)) := by
  constructor
  · obtain ⟨e, hencode, hreads⟩ := encodeFrame_raster (.inl rfl) .chromaKey inverted bigEndian m
    have hsize : e.data.size = 2 * w * h := hreads.size.trans (Nat.mul_assoc _ _ _).symm
    refine ⟨e, hencode, hsize, fun y x => ⟨(m y x).shownWord .chromaKey inverted, ?_, ?_⟩⟩
    · exact wordAt_wordBytes (hreads.pixel y x (j := 0) (show 0 < 2 by decide))
        (hreads.pixel y x (j := 1) (show 1 < 2 by decide))
    · have hword := word_eq_key_iff (m y x)
      rw [shownWord_chromaKey]
      -- Pixels with the colours of the key lose them first, also where they are transparent.
      by_cases hkey : (m y x).IsKeyWord
      · simp [hkey]
      · by_cases halpha : (m y x).stored inverted < 128
        · simp [hkey, halpha, Nat.not_le.mpr halpha]
        · simp [hkey, halpha, hword]
  · obtain ⟨e, hencode, hreads⟩ := encodeFrame_raster (.inr rfl) .chromaKey inverted bigEndian m
    have hsize : e.data.size = 3 * w * h := hreads.size.trans (Nat.mul_assoc _ _ _).symm
    refine ⟨e, hencode, hsize, fun y x => ?_⟩
    have hbyte : ∀ j < 3, e.data[3 * (y * w + x) + j]? = ((m y x).shownBytes .chromaKey)[j]? :=
      fun j hj => (hreads.pixel y x (show j < 3 from hj)).trans (congrArg (·[j]?) (append_nil _))
    have hblue := hbyte 0 (by decide)
    have hgreen := hbyte 1 (by decide)
    have hred := hbyte 2 (by decide)
    rw [Nat.add_zero] at hblue
    rw [hblue, hgreen, hred, shownBytes_chromaKey]
    by_cases hkey : (m y x).IsKey
    · refine ⟨0, 0, 0, ?_⟩
      simp [hkey]
    · by_cases halpha : (m y x).alpha.toNat < 128
      · refine ⟨0, 1, 0, ?_⟩
        simp [hkey, halpha, Nat.not_le.mpr halpha]
      · refine ⟨(m y x).blue.toNat, (m y x).green.toNat, (m y x).red.toNat, ?_⟩
        have hcolours : ¬((m y x).red.toNat, (m y x).green.toNat, (m y x).blue.toNat) = (0, 1, 0) := by
          rw [Prod.mk.injEq, Prod.mk.injEq, ← isKey_iff]
          exact hkey
        simp [hkey, halpha, hcolours]

/-- A transparent pixel that has the colours of the key comes out black. -/
example : ((encoderOf .rgb565 .chromaKey false false 1 1).encodeFrame
    [[.samples [0, 4, 0, 0]]]).toOption.map (·.data) = some #[0, 0] := by decide

end Reading

end Panel.Picture
