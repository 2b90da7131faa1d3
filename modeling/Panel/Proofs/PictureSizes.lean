import Panel.Proofs.ColourPictures
import Panel.Proofs.GlyphTables

/-! # Sizes of pictures — how many bytes the frames of a picture take

    An encoder has the buffer for all frames from the start.  A row moves it on by the bytes of a row,
    and the end of a frame may put the alphas behind the buffer that are kept apart. -/

namespace Panel

variable {α : Type} {k n w : Nat} {resize : Value}

theorem pieces_full (hk : 0 < k) (n : Nat) {xs : List α} (h : xs.length = k * n) :
    (pieces k xs).length = n ∧ ∀ p ∈ pieces k xs, p.length = k := by
  induction n generalizing xs with
  | zero =>
    obtain rfl := List.length_eq_zero_iff.mp h
    rw [pieces]
    exact ⟨rfl, fun p hp => absurd hp List.not_mem_nil⟩
  | succ n ih =>
    rw [Nat.mul_succ] at h
    cases xs with
    | nil =>
      rw [List.length_nil] at h
      omega
    | cons x xs =>
      rw [List.length_cons] at h
      have hrest : (xs.drop (k - 1)).length = k * n := by
        rw [List.length_drop]
        omega
      obtain ⟨hcount, hfull⟩ := ih hrest
      rw [pieces]
      refine ⟨congrArg (· + 1) hcount, fun p hp => ?_⟩
      rcases List.mem_cons.mp hp with rfl | hp
      · rw [List.length_cons, List.length_take]
        omega
      · exact hfull p hp

namespace Picture

open Cpp List Check Nat

variable {h : Nat} {p : List Nat} {u : Session} {frames : List Frame} (v : Value) {path : String}
  {β : Type}

/-! ## Frames with all their samples -/

/-- A frame that is not empty and has all its samples. -/
structure Frame.Full (f : Frame) : Prop where
  width : 0 < f.width
  height : 0 < f.height
  samples : f.samples.length = f.mode.channels * (f.width * f.height)

theorem Mode.channels_pos (m : Mode) : 0 < m.channels := by cases m <;> decide

/-- Rows of a size, with pixels of a sort. -/
structure Filled {α : Type} (sort : α → Prop) (w h : Nat) (rows : List (List α)) : Prop where
  height : rows.length = h
  rows : ∀ row ∈ rows, row.length = w ∧ ∀ p ∈ row, sort p

theorem Filled.map {sort : α → Prop} {sort' : β → Prop} {rows : List (List α)}
    (hrows : Filled sort w h rows) {g : α → β} (hg : ∀ p, sort p → sort' (g p)) :
    Filled sort' w h (rows.map (·.map g)) := by
  refine ⟨(length_map _).trans hrows.height, fun row hrow => ?_⟩
  obtain ⟨row', hrow', rfl⟩ := mem_map.mp hrow
  obtain ⟨hwidth, hpixels⟩ := hrows.rows row' hrow'
  refine ⟨(length_map g).trans hwidth, fun p hp => ?_⟩
  obtain ⟨p', hp', rfl⟩ := mem_map.mp hp
  exact hg p' (hpixels p' hp')

namespace Frame.Full

variable {f : Frame}

theorem pixels (hf : f.Full) : (pieces f.mode.channels f.samples).length = f.width * f.height
    ∧ ∀ p ∈ pieces f.mode.channels f.samples, p.length = f.mode.channels :=
  pieces_full f.mode.channels_pos _ hf.samples

theorem rows (hf : f.Full) :
    Filled (fun p => p.length = f.mode.channels) f.width f.height f.rows := by
  have hline : f.samples.length = f.width * f.mode.channels * f.height := by
    rw [hf.samples, mul_comm f.width f.mode.channels, mul_assoc]
  obtain ⟨hcount, hlines⟩ := pieces_full (mul_pos hf.width f.mode.channels_pos) _ hline
  refine ⟨(length_map _).trans hcount, fun row hrow => ?_⟩
  obtain ⟨line, hmem, rfl⟩ := mem_map.mp hrow
  exact pieces_full f.mode.channels_pos _ ((hlines line hmem).trans (mul_comm _ _))

theorem lastChannel (hf : f.Full) : f.lastChannel.Full := by
  refine ⟨hf.width, hf.height, ?_⟩
  show (map _ _).length = 1 * (f.width * f.height)
  rw [length_map, hf.pixels.1, one_mul]

end Frame.Full

theorem length_weighted (p : List Nat) : (unweighted (weighted p)).length = p.length := by
  unfold weighted
  split <;> unfold unweighted <;> split <;> simp_all

theorem length_flatMap_range {g : Nat → List α} (hg : ∀ i < n, (g i).length = k) :
    ((range n).flatMap g).length = k * n := by
  have hlengths : (range n).map (fun i => (g i).length) = replicate n k := by
    refine eq_replicate_iff.mpr ⟨by simp, fun m hm => ?_⟩
    obtain ⟨i, hi, rfl⟩ := mem_map.mp hm
    exact hg i (mem_range.mp hi)
  rw [length_flatMap, hlengths, sum_replicate_nat, mul_comm]

variable {f : Frame}

theorem Frame.Full.resized (hf : f.Full) (hw : 0 < w) (hh : 0 < h) :
    (f.resized w h).Full ∧ (f.resized w h).width = w ∧ (f.resized w h).height = h := by
  unfold Frame.resized
  split
  · next hsame =>
      obtain ⟨rfl, rfl⟩ := hsame
      exact ⟨hf, rfl, rfl⟩
  · refine ⟨⟨hw, hh, ?_⟩, rfl, rfl⟩
    obtain ⟨hcount, hpixels⟩ := hf.pixels
    -- Every pixel is that of a place inside the frame, so none of its samples is missing.
    have hinside : ∀ y < h, ∀ x < w,
        y * f.height / h * f.width + x * f.width / w < f.width * f.height := by
      intro y hy x hx
      have hrow : y * f.height / h < f.height :=
        Nat.div_lt_of_lt_mul (Nat.mul_lt_mul_of_pos_right hy hf.height)
      have hcolumn : x * f.width / w < f.width :=
        Nat.div_lt_of_lt_mul (Nat.mul_lt_mul_of_pos_right hx hf.width)
      calc y * f.height / h * f.width + x * f.width / w
          < y * f.height / h * f.width + f.width := Nat.add_lt_add_left hcolumn _
        _ = (y * f.height / h + 1) * f.width := (succ_mul _ _).symm
        _ ≤ f.height * f.width := mul_le_mul_right _ hrow
        _ = f.width * f.height := mul_comm _ _
    have hpixel : ∀ i < f.width * f.height,
        ((((pieces f.mode.channels f.samples).map (unweighted ∘ weighted)).toArray).getD i []).length
          = f.mode.channels := by
      intro i hi
      have hsize : i < (pieces f.mode.channels f.samples).length := hcount ▸ hi
      simp only [Array.getD_eq_getD_getElem?, getElem?_toArray, getElem?_map,
        getElem?_eq_getElem hsize, Option.map_some, Option.getD_some, Function.comp_apply]
      rw [length_weighted]
      exact hpixels _ (getElem_mem hsize)
    dsimp only
    rw [length_flatMap_range fun y hy => length_flatMap_range fun x hx =>
      hpixel _ (hinside y hy x hx), mul_assoc]

/-! ### What frames are converted to -/

theorem takes_samples {m : Mode} (h : p.length = m.channels) :
    Format.Takes .grayscale (.samples (grayAlpha p)) ∧ Format.Takes .rgb (.samples (rgba p)) := by
  cases m
  · obtain ⟨l, rfl⟩ := length_eq_one_iff.mp h
    exact ⟨⟨l, 0xFF, rfl⟩, l, l, l, 0xFF, rfl⟩
  · obtain ⟨l, a, rfl⟩ := length_eq_two.mp h
    exact ⟨⟨l, a, rfl⟩, l, l, l, a, rfl⟩
  · obtain ⟨r, g, b, rfl⟩ := length_eq_three.mp h
    exact ⟨⟨_, _, rfl⟩, r, g, b, 0xFF, rfl⟩
  · obtain ⟨r, g, b, a, rfl⟩ := length_eq_four.mp h
    exact ⟨⟨_, _, rfl⟩, r, g, b, a, rfl⟩

theorem length_ditherRow (cells : List (Nat × Int)) (carry below corner : Int) :
    (ditherRow cells carry below corner).1.length = cells.length
      ∧ (ditherRow cells carry below corner).2.length = cells.length + 1 := by
  induction cells generalizing carry below corner with
  | nil => exact ⟨rfl, rfl⟩
  | cons cell cells ih =>
    obtain ⟨hps, herrors⟩ := ih _ _ _
    exact ⟨congrArg (· + 1) hps, congrArg (· + 1) herrors⟩

theorem Filled.ditherFrom {rows : List (List Nat)} {errors : List Int}
    (hrows : Filled (fun _ => True) w h rows) (herrors : errors.length = w + 1) :
    Filled (Format.Takes .binary) w h (ditherFrom errors rows) := by
  induction rows generalizing errors h with
  | nil => exact ⟨hrows.height, fun _ hrow => absurd hrow not_mem_nil⟩
  | cons row rows ih =>
    obtain ⟨⟨hrow, -⟩, hrest⟩ := forall_mem_cons.mp hrows.rows
    have hcells : (row.zip errors.tail).length = w := by
      rw [length_zip, length_tail, hrow, herrors]
      omega
    obtain ⟨hps, hnext⟩ := length_ditherRow (row.zip errors.tail) 0 0 0
    obtain ⟨hheight, hfilled⟩ := ih ⟨rfl, hrest⟩ (hnext.trans (congrArg (· + 1) hcells))
    refine ⟨(congrArg (· + 1) hheight).trans hrows.height, ?_⟩
    exact forall_mem_cons.mpr ⟨⟨hps.trans hcells, fun _ _ => trivial⟩, hfilled⟩

theorem Frame.Full.blackWhite (hf : f.Full) (dithered : Bool) :
    Filled (Format.Takes .binary) f.width f.height (f.blackWhite dithered) := by
  have hshades : Filled (fun _ => True) f.width f.height (f.rows.map (·.map shade)) :=
    hf.rows.map fun _ _ => trivial
  unfold Frame.blackWhite
  cases dithered with
  | false => exact hshades.map fun _ _ => trivial
  | true =>
    refine hshades.ditherFrom ?_
    -- The errors are as many as the first row has shades; a full frame has a first row.
    have hheight := hshades.height
    have hrows := hshades.rows
    generalize f.rows.map (·.map shade) = shades at hheight hrows ⊢
    cases shades with
    | nil => exact absurd hheight (Nat.ne_of_lt hf.height)
    | cons row rows => rw [length_replicate, headD_cons, (hrows row mem_cons_self).1]

/-- Two sessions differ in their log at most, which has only grown. -/
def Logs (s t : Session) : Prop := ∃ lines, t = { s with log := s.log ++ lines }

namespace Logs

theorem refl (s : Session) : Logs s s := ⟨[], by rw [append_nil]⟩

theorem trans {s t : Session} (h : Logs s t) (h' : Logs t u) : Logs s u := by
  obtain ⟨lines, rfl⟩ := h
  obtain ⟨lines', rfl⟩ := h'
  exact ⟨lines ++ lines', by rw [append_assoc]⟩

end Logs

/-- Two encoders differ in their transparency at most, and only for shades of grey. -/
def Encoder.Turned (e e' : Encoder) : Prop :=
  ∃ t, e' = { e with transparency := t } ∧ (e.format = .grayscale ∨ t = e.transparency)

theorem converted_on (hf : f.Full) (path : String) (dithered : Bool) (e : Encoder) (s : Session) :
    ∃ e' rows s', (converted path dithered e f).on s = (.ok (e', rows), s') ∧ Logs s s'
      ∧ e.Turned e' ∧ Filled e'.format.Takes f.width f.height rows := by
  unfold converted
  rcases e with ⟨format, transparency, inverted, bigEndian, data, alpha, index, bit⟩
  cases format with
  | binary =>
    refine ⟨_, _, s, rfl, Logs.refl s, ⟨_, rfl, .inr rfl⟩, ?_⟩
    by_cases halone : f.isAlphaOnly
    · rw [if_pos halone]
      exact hf.lastChannel.blackWhite dithered
    · rw [if_neg halone]
      exact hf.blackWhite dithered
  | grayscale =>
    dsimp only
    by_cases halone : f.isAlphaOnly
    · rw [if_pos halone]
      have hrows := hf.lastChannel.rows.map fun p hp => (takes_samples hp).1
      by_cases ht : transparency = .alphaChannel
      · rw [if_pos ht]
        exact ⟨_, _, s, rfl, Logs.refl s, ⟨_, rfl, .inl rfl⟩, hrows⟩
      · rw [if_neg ht]
        exact ⟨_, _, _, rfl, ⟨_, rfl⟩, ⟨.alphaChannel, rfl, .inl rfl⟩, hrows⟩
    · rw [if_neg halone]
      exact ⟨_, _, s, rfl, Logs.refl s, ⟨_, rfl, .inl rfl⟩,
        hf.rows.map fun p hp => (takes_samples hp).1⟩
  | rgb565 | rgb =>
    exact ⟨_, _, s, rfl, Logs.refl s, ⟨_, rfl, .inr rfl⟩,
      hf.rows.map fun p hp => (takes_samples hp).2⟩

/-! ## What frames take -/

namespace Encoder

variable {e e' : Encoder} {rows : List (List Pixel)}

def tail (e : Encoder) : Nat :=
  if e.format = .rgb565 ∧ e.transparency = .alphaChannel then e.alpha.size else 0

theorem Same.tail (h : e.Same e') : e'.tail = e.tail := by
  rw [Encoder.tail, h.format, h.transparency, h.alpha]
  rfl

namespace Turned

theorem rowSize_eq (h : e.Turned e') (w : Nat) : e'.rowSize w = e.rowSize w := by
  obtain ⟨t, rfl, hgray | rfl⟩ := h
  · unfold rowSize
    dsimp only
    rw [hgray]
    rfl
  · rfl

theorem lines (h : e.Turned e') (hroom : e.Lines w k) : e'.Lines w k := by
  have hstride := h.rowSize_eq w
  obtain ⟨t, rfl, -⟩ := h
  exact ⟨hroom.bit, hstride ▸ hroom.data, hroom.alpha⟩

theorem tail (h : e.Turned e') : e'.tail = e.tail := by
  obtain ⟨t, rfl, hgray | rfl⟩ := h
  · rw [Encoder.tail, Encoder.tail, hgray, if_neg nofun, if_neg nofun]
  · rfl

theorem data (h : e.Turned e') : e'.data = e.data := by
  obtain ⟨t, rfl, -⟩ := h
  rfl

theorem index (h : e.Turned e') : e'.index = e.index := by
  obtain ⟨t, rfl, -⟩ := h
  rfl

end Turned

/-- Rows have been written, and as many are left. -/
structure Past (e : Encoder) (w h k : Nat) (e' : Encoder) : Prop where
  index : e'.index = e.index + e.rowSize w * h
  rowSize : e'.rowSize w = e.rowSize w
  tail : e'.tail = e.tail
  lines : e'.Lines w k

theorem encodeFrame_past (hrows : Filled e.format.Takes w h rows) (hroom : e.Lines w (h + k)) :
    ∃ e', e.encodeFrame rows = .ok e' ∧ e'.data.size = e.data.size + e.tail ∧ e.Past w h k e' := by
  obtain ⟨rfl, hrows⟩ := hrows
  obtain ⟨e₁, hencode, hwrote⟩ := encodeRows_wrote hrows hroom
  have hpast : e.Past w rows.length k e₁ :=
    ⟨hwrote.index, hwrote.same.rowSize w, hwrote.same.tail, hroom.after hwrote⟩
  refine ⟨e₁.endFrame, by rw [encodeFrame, hencode]; rfl, ?_⟩
  rw [← hpast.tail, ← hwrote.same.data]
  unfold endFrame
  by_cases hkept : e₁.format = .rgb565 ∧ e₁.transparency = .alphaChannel
  · rw [if_pos hkept]
    have htail : e₁.tail = e₁.alpha.size := if_pos hkept
    refine ⟨htail ▸ Array.size_append, hpast.index, hpast.rowSize, hpast.tail, hpast.lines.bit, ?_,
      hpast.lines.alpha⟩
    show e₁.index + e₁.rowSize w * k ≤ _
    rw [Array.size_append]
    exact Nat.le_add_right_of_le hpast.lines.data
  · have htail : e₁.tail = 0 := if_neg hkept
    rw [if_neg hkept, htail]
    exact ⟨rfl, hpast⟩

end Encoder

theorem encodeFrames_on (hfull : ∀ f ∈ frames, f.Full) (hw : 0 < w)
    (hh : 0 < h) (path : String) (dithered : Bool) {e : Encoder}
    (hroom : e.Lines w (h * frames.length + k)) (s : Session) :
    ∃ e' s', (encodeFrames path dithered w h e frames).on s = (.ok e', s') ∧ Logs s s'
      ∧ e'.data.size = e.data.size + e.tail * frames.length
      ∧ e.Past w (h * frames.length) k e' := by
  induction frames generalizing e s with
  | nil =>
    rw [length_nil, mul_zero, zero_add] at hroom
    exact ⟨e, s, rfl, Logs.refl s, rfl, rfl, rfl, rfl, hroom⟩
  | cons f frames ih =>
    obtain ⟨hresized, hwidth, hheight⟩ := (hfull f mem_cons_self).resized hw hh
    obtain ⟨e₁, rows, s₁, hconverted, hlogs₁, hturned, hrows⟩ :=
      converted_on hresized path dithered e s
    rw [hwidth, hheight] at hrows
    rw [length_cons, mul_succ, Nat.add_comm _ h, Nat.add_assoc] at hroom
    obtain ⟨e₂, hencode, hsize₂, hpast₂⟩ :=
      Encoder.encodeFrame_past hrows (hturned.lines hroom)
    obtain ⟨e₃, s₂, hrest, hlogs₂, hsize₃, hpast₃⟩ := ih (forall_mem_cons.mp hfull).2 hpast₂.lines s₁
    have hrow : e₂.rowSize w = e.rowSize w := hpast₂.rowSize.trans (hturned.rowSize_eq w)
    have htail : e₂.tail = e.tail := hpast₂.tail.trans hturned.tail
    refine ⟨e₃, s₂, ?_, hlogs₁.trans hlogs₂, ?_, ?_, hpast₃.rowSize.trans hrow,
      hpast₃.tail.trans htail, hpast₃.lines⟩
    · rw [encodeFrames, if_neg (by omega)]
      refine (on_bind_ok _ hconverted).trans ?_
      dsimp only
      rw [hencode]
      exact hrest
    · rw [hsize₃, hsize₂, htail, hturned.tail, hturned.data, length_cons, mul_succ]
      omega
    · rw [hpast₃.index, hpast₂.index, hrow, hturned.rowSize_eq, hturned.index, length_cons, mul_succ, mul_add]
      omega

/-! ## Where rows are written -/

namespace Encoder

variable {e : Encoder} {row : List Pixel}

/-- A row is written into the bytes from `first` to `last`: every pixel inside of them, and at the end
    the encoder stands behind them. -/
structure FillsRow (e : Encoder) (row : List Pixel) (first last : Nat) : Prop where
  pixel : ∀ left p right, row = left ++ p :: right → ∃ e₁ e₂, left.foldlM encode e = .ok e₁
    ∧ e₁.encode p = .ok e₂ ∧ first ≤ e₁.index ∧ e₁.index < last ∧ e₂.index ≤ last
    ∧ ∀ i, i < first ∨ last ≤ i → e₂.data[i]? = e₁.data[i]?
  ends : ∃ e', e.encodeRow row = .ok e' ∧ e'.index = last

theorem pixelBits_pos (e : Encoder) : 0 < e.pixelBits := by
  unfold pixelBits pixelSize
  cases e.format with
  | rgb =>
    show 0 < 8 * (1 * if e.transparency = .alphaChannel then 4 else 3)
    split <;> decide
  | _ => exact Nat.succ_pos _

theorem fillsRow (hwidth : row.length = w) (hrow : ∀ p ∈ row, e.format.Takes p)
    (h : e.Lines w (1 + k)) : e.FillsRow row e.index (e.index + e.rowSize w) := by
  refine ⟨?_, ?_⟩
  · rintro left p right rfl
    have hcount : left.length + (1 + right.length) = w := by
      rw [← hwidth, length_append, length_cons, add_comm right.length]
    have hbits : e.pixelBits * (left.length + (1 + right.length)) ≤ 8 * e.rowSize w :=
      hcount ▸ (e.bits_of_row w).1
    have hstart : e.place = 8 * e.index := by rw [place, h.bit, add_zero]
    have hfits := h.fits
    rw [← hcount] at hfits
    obtain ⟨e₁, hleft, hwrote₁⟩ := encodeAll_wrote left
      (fun q hq => hrow q (mem_append_left _ hq)) hfits
    have hfits₁ := hfits.after hwrote₁
    obtain ⟨e₂, hencode, hwrote₂⟩ := encode_wrote
      (hwrote₁.same.format ▸ hrow p (mem_append_right _ mem_cons_self)) hfits₁
    have hpos := e.pixelBits_pos
    have hplace₁ := hwrote₁.place
    have hplace₂ := hwrote₂.place
    rw [hwrote₁.same.pixelBits, length_singleton, mul_one] at hplace₂
    rw [mul_add, mul_add, mul_one] at hbits
    have hbit₁ := hfits₁.aligned.1
    have hindex₁ : e₁.place = 8 * e₁.index + e₁.bit := rfl
    have hindex₂ : e₂.place = 8 * e₂.index + e₂.bit := rfl
    refine ⟨e₁, e₂, hleft, hencode, ?_, ?_, ?_, fun i hi => hwrote₂.beside i ?_⟩
    all_goals omega
  · obtain ⟨e', hencode, hwrote⟩ := encodeRow_wrote hwidth hrow h
    exact ⟨e', hencode, by rw [hwrote.index, length_singleton, mul_one]⟩

end Encoder

/-- Frames of pictures fill the buffer of an encoder exactly: row after row is written into bytes of
    its own, over all frames, and after the last one the encoder stands at the end of the buffer that
    it has from the start.  A picture without room for a pixel is refused before anything is
    written. -/
theorem encodeFrames_fills (hfull : ∀ f ∈ frames, f.Full) (format : Format) (t : Transparency)
    (inverted bigEndian : Bool) (w h : Nat) (path : String) (dithered : Bool) (s : Session) :
    (0 < w → 0 < h →
      (∃ e s', (encodeFrames path dithered w h
          (encoderOf format t inverted bigEndian w (h * frames.length)) frames).on s = (.ok e, s')
        ∧ e.index = (encoderOf format t inverted bigEndian w (h * frames.length)).data.size)
      ∧ ∀ before f after, frames = before ++ f :: after → ∃ e₁ s₁ e₂ rows s₂,
        (encodeFrames path dithered w h
          (encoderOf format t inverted bigEndian w (h * frames.length)) before).on s = (.ok e₁, s₁)
        ∧ (converted path dithered e₁ (f.resized w h)).on s₁ = (.ok (e₂, rows), s₂)
        ∧ rows.length = h
        ∧ ∀ above row below, rows = above ++ row :: below → row.length = w
          ∧ ∃ e₃, e₂.encodeRows above = .ok e₃
            ∧ e₃.FillsRow row (Encoder.stride format t w * (h * before.length + above.length))
              (Encoder.stride format t w * (h * before.length + above.length + 1)))
    ∧ (w = 0 ∨ h = 0 → frames ≠ [] → (encodeFrames path dithered w h
        (encoderOf format t inverted bigEndian w (h * frames.length)) frames).on s
      = (.error (.badValue "height and width must be > 0"), s)) := by
  have hroom := lines_encoderOf format t inverted bigEndian w (h * frames.length)
  refine ⟨fun hw hh => ⟨?_, ?_⟩, fun hempty hframes => ?_⟩
  · obtain ⟨e, s', hencoded, -, -, hpast⟩ := encodeFrames_on (k := 0) hfull hw hh path dithered hroom s
    refine ⟨e, s', hencoded, hpast.index.trans ?_⟩
    exact (zero_add _).trans Array.size_replicate.symm
  · rintro before f after rfl
    have hlength : h * (before ++ f :: after).length = h * before.length + (h + h * after.length) := by
      rw [length_append, length_cons, mul_add, mul_succ, add_comm (h * after.length)]
    obtain ⟨e₁, s₁, hbefore, -, -, hpast⟩ := encodeFrames_on
      (fun g hg => hfull g (mem_append_left _ hg)) hw hh path dithered (hlength ▸ hroom) s
    obtain ⟨hresized, hwidth, hheight⟩ := (hfull f (mem_append_right _ mem_cons_self)).resized hw hh
    obtain ⟨e₂, rows, s₂, hconverted, -, hturned, hrows⟩ :=
      converted_on hresized path dithered e₁ s₁
    rw [hwidth, hheight] at hrows
    refine ⟨e₁, s₁, e₂, rows, s₂, hlength ▸ hbefore, hconverted, hrows.height, ?_⟩
    rintro above row below rfl
    have hroom₂ := hturned.lines hpast.lines
    rw [← hrows.height, length_append, length_cons, add_assoc, add_comm below.length, add_assoc]
      at hroom₂
    obtain ⟨hwidth, hrow⟩ := hrows.rows row (mem_append_right _ mem_cons_self)
    obtain ⟨e₃, habove, hwrote⟩ := Encoder.encodeRows_wrote
      (fun r hr => hrows.rows r (mem_append_left _ hr)) hroom₂
    refine ⟨hwidth, e₃, habove, ?_⟩
    have hfills := Encoder.fillsRow hwidth (hwrote.same.format ▸ hrow) (hroom₂.after hwrote)
    have hstride : e₂.rowSize w = Encoder.stride format t w :=
      (hturned.rowSize_eq w).trans hpast.rowSize
    have hindex : e₃.index = Encoder.stride format t w * (h * before.length + above.length) := by
      rw [hwrote.index, hturned.index, hpast.index, hstride, mul_add]
      exact congrArg (· + _) (zero_add _)
    rwa [hwrote.same.rowSize, hstride, hindex, ← mul_succ] at hfills
  · obtain ⟨f, frames, rfl⟩ := exists_cons_of_ne_nil hframes
    rw [encodeFrames, if_pos hempty]
    rfl

def twoFrames : List Frame :=
  [⟨.rgba, 1, 1, [10, 20, 30, 40]⟩, ⟨.rgba, 1, 1, [50, 70, 90, 110]⟩]

theorem twoFrames_full : ∀ f ∈ twoFrames, f.Full := by
  intro f hf
  rcases mem_pair.mp hf with rfl | rfl <;> exact ⟨by decide, by decide, rfl⟩

theorem encodeFrames_fills_twoFrames : ∃ e s', (encodeFrames "a" false 1 1
      (encoderOf .rgb565 .alphaChannel false false 1 2) twoFrames).on {} = (.ok e, s')
    ∧ e.index = 4 :=
  ((encodeFrames_fills twoFrames_full .rgb565 .alphaChannel false false 1 1 "a" false {}).1
    (by decide) (by decide)).1

/-! ## The array of a picture -/

@[grind ←]
theorem sideOf_still : (sideOf v).Still := by
  unfold sideOf
  repeat' split
  all_goals grind

theorem boxOf_still : (boxOf v).Still := by
  unfold boxOf
  split <;> grind

theorem drawnSize_still : (drawnSize v).Still := by
  unfold drawnSize
  split <;> grind

variable {s t : Session} {o : Opened}

theorem drawn_eq_ok (h : (drawn resize frames).on s = (.ok o, t)) :
    o.frames = frames ∧ frames ≠ [] ∧ ∃ sizes, t = { s with rendered := sizes } := by
  unfold drawn at h
  extract_lets noted at h
  obtain ⟨size, hdrawn⟩ : ∃ size, (noted size).on s = (.ok o, t) := by
    by_cases hresize : resize.truthy
    · rw [if_pos hresize] at h
      obtain ⟨size, -, hdrawn⟩ := ((drawnSize_still resize).map some).on_bind_eq_ok h
      exact ⟨size, hdrawn⟩
    · rw [if_neg hresize] at h
      exact ⟨none, h⟩
  cases frames with
  | nil => cases hdrawn
  | cons f frames =>
    cases hdrawn
    exact ⟨rfl, cons_ne_nil f frames, _, rfl⟩

theorem read_eq_ok (h : (read path resize frames).on s = (.ok o, t)) :
    o.frames = frames ∧ frames ≠ [] ∧ t = s := by
  unfold read at h
  cases frames with
  | nil => cases h
  | cons f frames =>
    dsimp only at h
    by_cases hresize : resize.truthy
    · rw [if_pos hresize] at h
      obtain ⟨box, -, hread⟩ := (boxOf_still resize).on_bind_eq_ok h
      cases hread
      exact ⟨rfl, cons_ne_nil f frames, rfl⟩
    · rw [if_neg hresize] at h
      cases h
      exact ⟨rfl, cons_ne_nil f frames, rfl⟩

theorem opened_eq_ok (h : (opened path resize).on s = (.ok o, t)) :
    o.frames = framesAt s path ∧ framesAt s path ≠ []
      ∧ ∃ sizes, t = { s with rendered := sizes } := by
  unfold opened at h
  rw [on_bind_ok _ (on_get s)] at h
  split at h
  · cases h
  · next bytes _ =>
      rcases hread : (if isVector bytes then drawn resize (framesAt s path)
        else read path resize (framesAt s path)).on s with ⟨r, u⟩
      cases r with
      | error e =>
        -- What went wrong goes on as a failure, whether it is told in other words or not.
        rw [on_tryCatch_error _ hread] at h
        split at h <;> cases h
      | ok o' =>
        rw [on_tryCatch_ok _ hread] at h
        cases h
        by_cases hvector : isVector bytes
        · rw [if_pos hvector] at hread
          exact drawn_eq_ok hread
        · rw [if_neg hvector] at hread
          obtain ⟨hframes, hsome, rfl⟩ := read_eq_ok hread
          exact ⟨hframes, hsome, _, rfl⟩

theorem framesAt_full (hfull : ∀ p ∈ s.pictures, ∀ f ∈ p.2, f.Full) (path : String) :
    ∀ f ∈ framesAt s path, f.Full := by
  unfold framesAt
  intro f hf
  split at hf
  · next frames hfound => exact hfull _ (mem_of_find?_eq_some hfound) f hf
  · cases hf

/-- The picture of a configuration can be written: its file has been opened, its frames are full, and
    all that is looked up is there. -/
structure Writable (config : Value) (s t : Session) (o : Opened) (format : Format) (data : Ident) :
    Prop where
  frames : ∀ p ∈ s.pictures, ∀ f ∈ p.2, f.Full
  opens : ∃ file, config.get? "file" = some file
    ∧ (opened (Files.tidy file.show) ((config.get? "resize").getD .null)).on s = (.ok o, t)
  dither : ∃ dither, config.get? "dither" = some dither
  type : ∃ name, config.get? "type" = some name ∧ Format.ofName? name.show = some format
  inverted : ∃ inverted, config.get? "invert_alpha" = some inverted
  array : config.get? "raw_data_id" = some (.ident data)
  fresh : data.name ∉ s.names

def alphasOf (format : Format) (t : Transparency) (w h : Nat) : Nat :=
  if format = .rgb565 ∧ t = .alphaChannel then w * h else 0

def frameSize (format : Format) (t : Transparency) (w h : Nat) : Nat :=
  Encoder.stride format t w * h + alphasOf format t w h

/-- A run has ended well, and all it has written is an array of so many bytes. -/
def Emits (s : Session) (data : Ident) (size : Nat) (r : Except Failure Written × Session) : Prop :=
  ∃ bytes : List Nat, bytes.length = size ∧ ∃ written t, r = (.ok written, t)
    ∧ written.array = Expr.named data.text
    ∧ t.main = s.main ++ [Font.arrayLine data.typeText (data.text ++ "[] PROGMEM")
        (bytes.map fun (b : Nat) => Expr.hex b)]

theorem on_warned {c : Prop} [Decidable c] {text : String} {k : Unit → Check β}
    {P : Except Failure β × Session → Prop} (h : ∀ t, Logs s t → P ((k ()).on t)) :
    P ((if c then Code.logWarning text >>= k else k ()).on s) := by
  by_cases hc : c
  · rw [if_pos hc]
    exact h _ ⟨_, rfl⟩
  · rw [if_neg hc]
    exact h s (Logs.refl s)

section Writing

variable {config : Value} {s t : Session} {o : Opened} {format : Format} {data : Ident}

theorem write_on {P : Except Failure Written × Session → Prop}
    (h : Writable config s t o format data) (allFrames : Bool)
    (hrest : ∀ path dithered inverted u, Logs t u →
      P ((writeFrames config path o dithered format inverted
        (if allFrames then o.frames else o.frames.take 1)).on u)) :
    P ((write config allFrames).on s) := by
  obtain ⟨file, hfile, hopened⟩ := h.opens
  obtain ⟨dither, hdither⟩ := h.dither
  obtain ⟨name, hname, hformat⟩ := h.type
  obtain ⟨inverted, hinverted⟩ := h.inverted
  have hstored : ∀ u, (storedFormat name).on u = (.ok format, u) := fun u => by
    rw [storedFormat, hformat]
    rfl
  unfold write
  rw [required_eq hfile, pure_bind, on_bind_ok _ hopened]
  refine on_warned fun u hu => ?_
  rw [required_eq hdither, pure_bind, required_eq hname, pure_bind, required_eq hinverted,
    pure_bind]
  refine on_warned fun v hv => ?_
  rw [on_bind_ok _ (hstored v)]
  exact hrest _ _ _ v (hu.trans hv)

theorem size_encoderOf (format : Format) (t : Transparency) (inverted bigEndian : Bool)
    (w h n : Nat) :
    (encoderOf format t inverted bigEndian w (h * (n + 1))).data.size
      + (encoderOf format t inverted bigEndian w (h * (n + 1))).tail * (n + 1)
    = (n + 1) * frameSize format t w h + (n + 1) * n * alphasOf format t w h := by
  have hdata : (encoderOf format t inverted bigEndian w (h * (n + 1))).data.size
      = Encoder.stride format t w * (h * (n + 1)) := Array.size_replicate
  have htail : (encoderOf format t inverted bigEndian w (h * (n + 1))).tail
      = (n + 1) * alphasOf format t w h := by
    unfold alphasOf
    show (if format = .rgb565 ∧ t = .alphaChannel then _ else 0) = _
    by_cases hkept : format = .rgb565 ∧ t = .alphaChannel
    · rw [if_pos hkept, if_pos hkept]
      obtain ⟨rfl, -⟩ := hkept
      exact Array.size_replicate.trans (by ring)
    · rw [if_neg hkept, if_neg hkept, mul_zero]
  rw [hdata, htail, frameSize]
  ring

theorem writeFrames_on (h : Writable config s t o format data) (hw : 0 < o.width)
    (hh : 0 < o.height) (hframes : ∀ f ∈ frames, f.Full)
    (hn : frames.length = n + 1) (path : String) (dithered inverted : Bool)
    (hu : Logs t u) :
    Emits s data ((n + 1) * frameSize format (transparencyOf config) o.width o.height
        + (n + 1) * n * alphasOf format (transparencyOf config) o.width o.height)
      ((writeFrames config path o dithered format inverted frames).on u) := by
  obtain ⟨file, -, hopened⟩ := h.opens
  obtain ⟨-, -, sizes, rfl⟩ := opened_eq_ok hopened
  obtain ⟨e, v, hencoded, hv, hsize, -⟩ := encodeFrames_on (k := 0) hframes hw hh path dithered
    (lines_encoderOf format (transparencyOf config) inverted
      (Value.same ((config.get? "byte_order").getD .null) (.str "BIG_ENDIAN")) o.width
      (o.height * frames.length)) u
  obtain ⟨lines, rfl⟩ := hu.trans hv
  rw [hn, size_encoderOf] at hsize
  have hfresh : data.name ∉ ({ s with rendered := sizes, log := s.log ++ lines } : Session).names :=
    h.fresh
  have hbytes : (e.data.toList.map fun (b : Nat) => Value.cpp (.hex b))
      = (e.data.toList.map fun (b : Nat) => Expr.hex b).map Value.cpp := map_map.symm
  unfold writeFrames
  rw [on_bind_ok _ hencoded, on_bind_ok _ (Automation.identAt_on_iff.mpr ⟨h.array, rfl⟩),
    hbytes, on_bind_ok _ (Font.romArray_on _ hfresh)]
  exact ⟨e.data.toList, hsize, _, _, rfl, rfl, rfl⟩

theorem writeFrames_empty (h : o.width = 0 ∨ o.height = 0)
    (hframes : frames ≠ []) (path : String) (dithered inverted : Bool) (u : Session) :
    (writeFrames config path o dithered format inverted frames).on u
      = (.error (.badValue "height and width must be > 0"), u) := by
  obtain ⟨f, frames, rfl⟩ := exists_cons_of_ne_nil hframes
  refine on_bind_error _ ?_
  rw [encodeFrames, if_pos h]
  rfl

/-- A picture whose size is not empty is written, of its first frame or of all frames.  The first
    frame takes the bytes that a frame needs.  All frames take as many bytes for each of them; where
    the alphas are kept apart, though, the end of every frame adds the alphas of all frames, so that
    they are there once too often for every two frames.  An empty picture is not written. -/
theorem write_sizes (h : Writable config s t o format data) :
    0 < o.frames.length
    ∧ (0 < o.width → 0 < o.height →
        Emits s data (frameSize format (transparencyOf config) o.width o.height)
          ((write config false).on s)
        ∧ Emits s data
          (o.frames.length * frameSize format (transparencyOf config) o.width o.height
            + o.frames.length * (o.frames.length - 1)
              * alphasOf format (transparencyOf config) o.width o.height)
          ((write config true).on s))
    ∧ (o.width = 0 ∨ o.height = 0 → ∀ allFrames, ∃ u,
        (write config allFrames).on s = (.error (.badValue "height and width must be > 0"), u)) := by
  obtain ⟨file, -, hopened⟩ := h.opens
  obtain ⟨hframes, hsome, -⟩ := opened_eq_ok hopened
  have hfull := framesAt_full h.frames (Files.tidy file.show)
  rw [← hframes] at hsome hfull
  obtain ⟨n, hn⟩ : ∃ n, o.frames.length = n + 1 :=
    ⟨o.frames.length - 1, by have := length_pos_iff.mpr hsome; omega⟩
  have hone : (o.frames.take 1).length = 0 + 1 := by rw [length_take, hn]; omega
  refine ⟨by omega, fun hw hh => ⟨?_, ?_⟩, fun hempty allFrames => ?_⟩
  · refine write_on h false fun path dithered inverted u hu => ?_
    have hfirst := writeFrames_on h hw hh (fun f hf => hfull f (mem_of_mem_take hf)) hone path
      dithered inverted hu
    rwa [zero_add, one_mul, mul_zero, zero_mul, add_zero] at hfirst
  · refine write_on h true fun path dithered inverted u hu => ?_
    rw [hn, Nat.add_sub_cancel]
    exact writeFrames_on h hw hh hfull hn path dithered inverted hu
  · refine write_on (P := fun r => ∃ u, r = (_, u)) h allFrames fun path dithered inverted u _ => ?_
    refine ⟨u, writeFrames_empty hempty ?_ path dithered inverted u⟩
    cases allFrames
    · show o.frames.take 1 ≠ []
      exact ne_nil_of_length_pos (by omega)
    · exact hsome

end Writing

def framesSession : Session := { (default : Session) with
  folder := ""
  files := [("a", [])]
  pictures := [("/a", twoFrames)] }

def framesData : Ident := Ident.declaration (some "a_data") uint8

def framesConfig : Value := .dict
  [("file", .str "/a"), ("type", .str "RGB565"), ("transparency", .str "alpha_channel"),
    ("dither", .str "NONE"), ("invert_alpha", .bool false), ("raw_data_id", .ident framesData)]

theorem framesConfig_writable :
    Writable framesConfig framesSession framesSession ⟨twoFrames, 1, 1⟩ .rgb565 framesData where
  frames := by
    intro p hp f hf
    obtain rfl := mem_singleton.mp hp
    exact twoFrames_full f hf
  opens := ⟨.str "/a", rfl, rfl⟩
  dither := ⟨_, rfl⟩
  type := ⟨_, rfl, rfl⟩
  inverted := ⟨_, rfl⟩
  array := rfl
  fresh := by decide

theorem write_sizes_twoFrames :
    Writable framesConfig framesSession framesSession ⟨twoFrames, 1, 1⟩ .rgb565 framesData
    ∧ Emits framesSession framesData 3 ((write framesConfig false).on framesSession)
    ∧ Emits framesSession framesData 8 ((write framesConfig true).on framesSession) := by
  obtain ⟨-, hsizes, -⟩ := write_sizes framesConfig_writable
  exact ⟨framesConfig_writable, hsizes (by decide) (by decide)⟩

end Picture

end Panel
