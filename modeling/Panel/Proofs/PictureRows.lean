import Panel.Picture.Encoder

/-! # Rows of pictures — what an encoder writes, pixel by pixel

    An encoder has its whole buffer from the start and fills it from the front.  Black and white
    pixels are marked bit by bit, and every row begins with a new byte; the pixels of all other
    formats are written as whole bytes, one after the other. -/

namespace Panel.Picture

open List Nat

variable {w k n i : Nat} {p : Pixel} {row : List Pixel} {rows : List (List Pixel)}

/-! ## Bytes and bits -/

section Arrays

variable {xs : Array Nat} {ys : List Nat}

/-- An array with other items from an index on. -/
def splice (xs : Array Nat) (i : Nat) (ys : List Nat) : Array Nat :=
  xs.mapIdx fun j x => if i ≤ j then ys.getD (j - i) x else x

theorem size_splice (xs : Array Nat) (i : Nat) (ys : List Nat) : (splice xs i ys).size = xs.size :=
  Array.size_mapIdx

theorem getElem?_splice (xs : Array Nat) (i : Nat) (ys : List Nat) (j : Nat) :
    (splice xs i ys)[j]? = xs[j]?.map fun x => if i ≤ j then ys.getD (j - i) x else x :=
  Array.getElem?_mapIdx

theorem splice_beside {j : Nat} (h : j < i ∨ i + ys.length ≤ j) :
    (splice xs i ys)[j]? = xs[j]? := by
  rw [getElem?_splice]
  grind

theorem splice_nil (xs : Array Nat) (i : Nat) : splice xs i [] = xs := by
  refine Array.ext_getElem? fun j => ?_
  simp [getElem?_splice]

theorem splice_splice (xs : Array Nat) (i : Nat) (ys zs : List Nat) :
    splice (splice xs i ys) (i + ys.length) zs = splice xs i (ys ++ zs) := by
  refine Array.ext_getElem? fun j => ?_
  simp only [getElem?_splice, Option.map_map]
  congr 1
  funext x
  grind

theorem set_eq_splice (h : i < xs.size) (y : Nat) : xs.set i y h = splice xs i [y] := by
  refine Array.ext_getElem? fun j => ?_
  rw [getElem?_splice]
  grind

/-- Is the bit at a place of the data set? -/
def litAt (data : Array Nat) (i : Nat) : Bool := (data[i / 8]?.getD 0) &&& 0x80 >>> (i % 8) != 0

theorem litAt_set {j : Nat} (h : i < xs.size) (hj : j < 8) (k : Nat) :
    litAt (xs.set i (xs[i] ||| 0x80 >>> j) h) k = (litAt xs k || k == 8 * i + j) := by
  have hmask : ∀ k < 8, ∀ j < 8, (0x80 >>> j &&& 0x80 >>> k != 0) = (k == j) := by decide
  unfold litAt
  by_cases hk : k / 8 = i
  · have hbit : (k == 8 * i + j) = (k % 8 == j) := by grind
    rw [hk, Array.getElem?_set_self h, Array.getElem?_eq_getElem h, Option.getD_some,
      Option.getD_some, and_or_distrib_right, hbit, ← hmask (k % 8) (by omega) j hj]
    grind
  · have hbit : (k == 8 * i + j) = false := by grind
    rw [Array.getElem?_set_ne h (Ne.symm hk), hbit, Bool.or_false]

theorem length_flatMap_of_length {α β : Type} {f : α → List β} (hf : ∀ a, (f a).length = k)
    (xs : List α) : (xs.flatMap f).length = k * xs.length := by
  induction xs with
  | nil => rfl
  | cons x xs ih =>
    rw [flatMap_cons, length_append, hf, ih, length_cons, Nat.mul_succ, Nat.add_comm]

theorem getElem?_flatMap_of_length {α β : Type} {f : α → List β} (hf : ∀ a, (f a).length = k)
    (xs : List α) (i : Nat) {j : Nat} (hj : j < k) :
    (xs.flatMap f)[k * i + j]? = (xs[i]?).bind fun a => (f a)[j]? := by
  induction xs generalizing i with
  | nil => simp
  | cons x xs ih =>
    rw [flatMap_cons]
    cases i with
    | zero =>
      rw [Nat.mul_zero, Nat.zero_add, getElem?_append_left (by rw [hf]; exact hj)]
      rfl
    | succ i =>
      have hskip : k * (i + 1) + j = (f x).length + (k * i + j) := by rw [hf, Nat.mul_succ]; omega
      rw [hskip, getElem?_append_right (Nat.le_add_right _ _), Nat.add_sub_cancel_left, ih]
      rfl

end Arrays

/-! ## Writing bytes -/

def wordBytes (bigEndian : Bool) (word : Nat) : List Nat :=
  if bigEndian then [word >>> 8, word &&& 0xFF] else [word &&& 0xFF, word >>> 8]

theorem length_wordBytes (bigEndian : Bool) (word : Nat) : (wordBytes bigEndian word).length = 2 := by
  cases bigEndian <;> rfl

def Pixel.sample : Pixel → Nat → Nat
  | .samples ns, i => ns.getD i 0
  | .level _, _ => 0

/-- The pixels that can be encoded in a format. -/
def Format.Takes : Format → Pixel → Prop
  | .binary, _ => True
  | .grayscale, p => ∃ l a, p = .samples [l, a]
  | .rgb565, p => ∃ r g b a, p = .samples [r, g, b, a]
  | .rgb, p => ∃ r g b a, p = .samples [r, g, b, a]

namespace Encoder

variable {e e' e'' : Encoder} {bytes alphas : List Nat}

def storedAlpha (inverted : Bool) (alpha : Nat) : Nat := if inverted then alpha ^^^ 0xFF else alpha

/-- The word that stands for a pixel, as the transparency wants it. -/
def shownWord (t : Transparency) (inverted : Bool) (r g b alpha : Nat) : Nat :=
  let (r, g, b) := colours t (r >>> 3) (g >>> 2) (b >>> 3) (storedAlpha inverted alpha)
  r <<< 11 ||| g <<< 5 ||| b

/-- The bytes that stand for a pixel, but for its alpha. -/
def shownBytes (t : Transparency) (r g b alpha : Nat) : List Nat :=
  let (r, g, b) := colours t r g b alpha
  [b, g, r]

/-- The bytes that stand for a pixel of more than one bit. -/
def pixelBytes (e : Encoder) (p : Pixel) : List Nat :=
  match e.format with
  | .binary => []
  | .grayscale => [grayLevel e.transparency e.inverted (p.sample 0) (p.sample 1)]
  | .rgb565 => wordBytes e.bigEndian
      (shownWord e.transparency e.inverted (p.sample 0) (p.sample 1) (p.sample 2) (p.sample 3))
  | .rgb => shownBytes e.transparency (p.sample 0) (p.sample 1) (p.sample 2) (p.sample 3)
      ++ if e.transparency = .alphaChannel then [storedAlpha e.inverted (p.sample 3)] else []

/-- The alphas that are kept apart. -/
def pixelAlphas (e : Encoder) (p : Pixel) : List Nat :=
  if e.format = .rgb565 then [storedAlpha e.inverted (p.sample 3)] else []

def pixelSize (e : Encoder) : Nat := stride e.format e.transparency 1

theorem length_pixelBytes (h : e.format ≠ .binary) (p : Pixel) :
    (e.pixelBytes p).length = e.pixelSize := by
  unfold pixelBytes pixelSize stride
  rcases hformat : e.format with _ | _ | _ | _ <;> dsimp only
  · exact absurd hformat h
  · rfl
  · exact length_wordBytes _ _
  · rw [length_append]
    split <;> rfl

/-- The encoder after bytes have been written at its index, and alphas beside them. -/
def wrote (e : Encoder) (bytes alphas : List Nat) : Encoder :=
  { e with
    data := splice e.data e.index bytes
    alpha := splice e.alpha (e.index / 2) alphas
    index := e.index + bytes.length }

theorem wrote_nil (e : Encoder) : e.wrote [] [] = e := by
  rw [wrote, splice_nil, splice_nil]
  rfl

theorem wrote_wrote (e : Encoder) (bytes bytes' : List Nat) {alphas alphas' : List Nat}
    (h : alphas' = [] ∨ bytes.length = 2 * alphas.length) :
    (e.wrote bytes alphas).wrote bytes' alphas' = e.wrote (bytes ++ bytes') (alphas ++ alphas') := by
  have halphas : splice (e.wrote bytes alphas).alpha ((e.index + bytes.length) / 2) alphas'
      = splice e.alpha (e.index / 2) (alphas ++ alphas') := by
    rcases h with rfl | hlength
    · rw [splice_nil, append_nil]
      rfl
    · have hindex : (e.index + bytes.length) / 2 = e.index / 2 + alphas.length := by omega
      rw [hindex]
      exact splice_splice _ _ _ _
  unfold wrote at halphas ⊢
  rw [halphas]
  simp only [splice_splice, length_append, Nat.add_assoc]

theorem putAll_eq (bytes : List Nat) (h : e.index + bytes.length ≤ e.data.size) :
    bytes.foldlM put e = .ok (e.wrote bytes []) := by
  induction bytes generalizing e with
  | nil =>
    rw [wrote_nil]
    rfl
  | cons byte bytes ih =>
    rw [length_cons] at h
    have hput : e.put byte = .ok (e.wrote [byte] []) := by
      rw [put, dif_pos (by omega), set_eq_splice, wrote, splice_nil]
      rfl
    have hroom : (e.wrote [byte] []).index + bytes.length ≤ (e.wrote [byte] []).data.size := by
      rw [wrote, size_splice]
      show e.index + 1 + bytes.length ≤ _
      omega
    rw [foldlM_cons, hput]
    exact (ih hroom).trans (congrArg Except.ok (wrote_wrote e [byte] bytes (.inl rfl)))

theorem noteAlpha_eq (alpha : Nat) (h : e.index / 2 < e.alpha.size) :
    e.noteAlpha alpha = .ok (e.wrote [] [alpha]) := by
  rw [noteAlpha, dif_pos h, set_eq_splice, wrote, splice_nil]
  rfl

theorem putWord_eq (e : Encoder) (word : Nat) :
    e.putWord word = (wordBytes e.bigEndian word).foldlM put e := by
  unfold putWord wordBytes
  cases e.bigEndian with
  | true => simp
  | false => simp

theorem encode565_eq (e : Encoder) (r g b alpha : Nat) :
    e.encode565 r g b alpha = (e.noteAlpha (storedAlpha e.inverted alpha) >>= fun e' =>
      e'.putWord (shownWord e'.transparency e.inverted r g b alpha)) := rfl

theorem encodeColour_eq (e : Encoder) (r g b alpha : Nat) :
    e.encodeColour r g b alpha = ((shownBytes e.transparency r g b alpha).foldlM put e >>= fun e' =>
      (if e'.transparency = .alphaChannel then [storedAlpha e'.inverted alpha] else []).foldlM put e') := by
  unfold encodeColour shownBytes
  rcases colours e.transparency r g b alpha with ⟨r, g, b⟩
  simp only [foldlM_cons, foldlM_nil, bind_assoc, pure_bind]
  congr 1; funext e₁; congr 1; funext e₂; congr 1; funext e₃
  split <;> simp [storedAlpha]

/-- Outside of black and white, a pixel is written as its bytes. -/
theorem encode_bytes (hformat : e.format ≠ .binary) (hp : e.format.Takes p)
    (hdata : e.index + e.pixelSize ≤ e.data.size)
    (halpha : e.format = .rgb565 → e.index / 2 < e.alpha.size) :
    e.encode p = .ok (e.wrote (e.pixelBytes p) (e.pixelAlphas p)) := by
  rw [← length_pixelBytes hformat p] at hdata
  -- The alpha goes to an array of its own; the bytes go behind those before them.
  suffices hputs : e.encode p = (e.pixelBytes p).foldlM put (e.wrote [] (e.pixelAlphas p)) by
    have hroom : (e.wrote [] (e.pixelAlphas p)).index + (e.pixelBytes p).length
        ≤ (e.wrote [] (e.pixelAlphas p)).data.size := by
      rwa [wrote, size_splice]
    rw [hputs, putAll_eq _ hroom, wrote_wrote e _ _ (.inl rfl), append_nil, nil_append]
  unfold encode pixelBytes pixelAlphas
  rcases h : e.format with _ | _ | _ | _
  · exact absurd h hformat
  all_goals
    rw [h] at hp
    rw [h] at halpha
  · obtain ⟨l, a, rfl⟩ := hp
    rw [if_neg nofun, wrote_nil]
    exact (bind_pure _).symm
  · obtain ⟨r, g, b, a, rfl⟩ := hp
    show e.encode565 r g b a = _
    rw [encode565_eq, noteAlpha_eq _ (halpha rfl)]
    exact putWord_eq _ _
  · obtain ⟨r, g, b, a, rfl⟩ := hp
    rw [if_neg nofun, wrote_nil]
    rw [pixelBytes, h, length_append] at hdata
    have hshown := putAll_eq (e := e) (shownBytes e.transparency r g b a)
      (Nat.le_trans (Nat.add_le_add_left (Nat.le_add_right _ _) _) hdata)
    show e.encodeColour r g b a = (shownBytes e.transparency r g b a ++ _).foldlM put e
    rw [encodeColour_eq, foldlM_append, hshown]
    rfl

/-! ## Pixels of a row -/

/-- What writing leaves as it is: how pixels are written, and the sizes of the buffers. -/
structure Same (e e' : Encoder) : Prop where
  format : e'.format = e.format
  transparency : e'.transparency = e.transparency
  inverted : e'.inverted = e.inverted
  data : e'.data.size = e.data.size
  alpha : e'.alpha.size = e.alpha.size

theorem Same.refl (e : Encoder) : e.Same e := ⟨rfl, rfl, rfl, rfl, rfl⟩

theorem Same.trans (h : e.Same e') (h' : e'.Same e'') : e.Same e'' :=
  ⟨h'.format.trans h.format, h'.transparency.trans h.transparency, h'.inverted.trans h.inverted,
    h'.data.trans h.data, h'.alpha.trans h.alpha⟩

def place (e : Encoder) : Nat := 8 * e.index + e.bit

def pixelBits (e : Encoder) : Nat := if e.format = .binary then 1 else 8 * e.pixelSize

theorem Same.pixelBits (h : e.Same e') : e'.pixelBits = e.pixelBits := by
  rw [Encoder.pixelBits, Encoder.pixelSize, h.format, h.transparency]
  rfl

/-- Only bits are written from the middle of a byte. -/
def Aligned (e : Encoder) : Prop := e.bit < 8 ∧ (e.format ≠ .binary → e.bit = 0)

def shows (e : Encoder) (p : Pixel) : Bool := p.isLit != e.inverted

theorem Same.shows (h : e.Same e') : e'.shows = e.shows := by
  funext p
  rw [Encoder.shows, h.inverted]
  rfl

/-- The encoder after pixels of more than one bit. -/
def wroteAll (e : Encoder) (row : List Pixel) : Encoder :=
  e.wrote (row.flatMap e.pixelBytes) (row.flatMap e.pixelAlphas)

theorem wroteAll_wroteAll (hformat : e.format ≠ .binary) (row row' : List Pixel) :
    (e.wroteAll row).wroteAll row' = e.wroteAll (row ++ row') := by
  rw [wroteAll, wroteAll, wroteAll, flatMap_append, flatMap_append]
  refine wrote_wrote e _ _ ?_
  by_cases h565 : e.format = .rgb565
  · have hone : ∀ p, (e.pixelAlphas p).length = 1 := fun p => by rw [pixelAlphas, if_pos h565]; rfl
    right
    rw [length_flatMap_of_length (length_pixelBytes hformat), length_flatMap_of_length hone,
      pixelSize, h565, Nat.one_mul]
    rfl
  · exact .inl (flatMap_eq_nil_iff.mpr fun p _ => if_neg h565)

/-- Pixels have been written at their places, and nothing else. -/
structure Wrote (e : Encoder) (row : List Pixel) (e' : Encoder) : Prop where
  same : e.Same e'
  aligned : e'.Aligned
  place : e'.place = e.place + e.pixelBits * row.length
  beside : ∀ i, 8 * i + 8 ≤ e.place ∨ e'.place ≤ 8 * i → e'.data[i]? = e.data[i]?
  bits : e.format = .binary → ∀ i,
    litAt e'.data i = (litAt e.data i || decide (e.place ≤ i) && (row[i - e.place]?).any e.shows)
  bytes : e.format ≠ .binary → e' = e.wroteAll row

/-- There is room for as many pixels. -/
structure Fits (e : Encoder) (n : Nat) : Prop where
  aligned : e.Aligned
  data : e.place + e.pixelBits * n ≤ 8 * e.data.size
  alpha : e.format = .rgb565 → e.index / 2 + n ≤ e.alpha.size

theorem Fits.after (h : e.Fits (row.length + n)) (hrow : e.Wrote row e') : e'.Fits n := by
  have hdata := h.data
  have hplace := hrow.place
  rw [Nat.mul_add] at hdata
  refine ⟨hrow.aligned, ?_, fun hformat => ?_⟩
  · rw [hrow.same.pixelBits, hrow.same.data]
    omega
  · have hwords : e.format = .rgb565 := hrow.same.format.symm.trans hformat
    have hbits : e.pixelBits = 16 := by rw [pixelBits, pixelSize, hwords]; rfl
    have halpha := h.alpha hwords
    have hbit := h.aligned.2 (hwords ▸ nofun)
    have hbit' := hrow.aligned.2 (hformat ▸ nofun)
    rw [hbits, place, place] at hplace
    rw [hrow.same.alpha]
    omega

theorem Wrote.trans {row' : List Pixel} (h : e.Wrote row e') (h' : e'.Wrote row' e'') :
    e.Wrote (row ++ row') e'' := by
  have hplace := h.place
  have hplace' := h'.place
  rw [h.same.pixelBits] at hplace'
  refine ⟨h.same.trans h'.same, h'.aligned, ?_, fun i hi => ?_, fun hformat i => ?_, fun hformat => ?_⟩
  · rw [length_append, Nat.mul_add]
    omega
  · rw [h'.beside i (by omega), h.beside i (by omega)]
  · rw [pixelBits, if_pos hformat] at hplace
    rw [h'.bits (h.same.format.trans hformat), h.bits hformat, h.same.shows, Bool.or_assoc]
    by_cases hfirst : i < e'.place
    · rw [decide_eq_false (Nat.not_le.mpr hfirst), Bool.false_and, Bool.or_false]
      by_cases hi : e.place ≤ i
      · rw [getElem?_append_left (by omega)]
      · rw [decide_eq_false hi, Bool.false_and, Bool.false_and]
    · rw [getElem?_append_right (by omega), getElem?_eq_none (by omega), Nat.sub_sub,
        ← Nat.one_mul row.length, ← hplace, decide_eq_true (by omega : e'.place ≤ i),
        decide_eq_true (by omega : e.place ≤ i), Option.any_none, Bool.and_false, Bool.false_or]
  · rw [h'.bytes (h.same.format ▸ hformat), h.bytes hformat, wroteAll_wroteAll hformat]

/-- A bit is set in its byte if the pixel shows, and then the next bit is due. -/
theorem encode_bit (hformat : e.format = .binary) (p : Pixel) (h : e.Fits (n + 1)) :
    ∃ e', e.encode p = .ok e' ∧ e.Wrote [p] e' := by
  have hbit := h.aligned.1
  have hone : e.pixelBits = 1 := if_pos hformat
  have hplace : e.place = 8 * e.index + e.bit := rfl
  have hindex : e.index < e.data.size := by
    have hdata := h.data
    rw [hone] at hdata
    omega
  obtain ⟨data, hmark, hsize, hbeside, hlit⟩ : ∃ data : Array Nat,
      (if e.shows p then e.mark (0x80 >>> (e.bit % 8)) else .ok e) = .ok { e with data }
      ∧ data.size = e.data.size ∧ (∀ i ≠ e.index, data[i]? = e.data[i]?)
      ∧ ∀ i, litAt data i = (litAt e.data i || i == e.place && e.shows p) := by
    cases e.shows p with
    | true =>
      refine ⟨e.data.set e.index (e.data[e.index] ||| 0x80 >>> e.bit), ?_, Array.size_set hindex,
        fun i hi => Array.getElem?_set_ne hindex hi.symm, fun i => ?_⟩
      · rw [if_pos rfl, mark, dif_pos hindex, Nat.mod_eq_of_lt hbit]
      · rw [litAt_set hindex hbit, Bool.and_true]
        rfl
    | false => exact ⟨e.data, rfl, rfl, fun _ _ => rfl, fun i => by rw [Bool.and_false, Bool.or_false]⟩
  have hencode : e.encode p = ((if e.shows p then e.mark (0x80 >>> (e.bit % 8)) else .ok e)
      >>= fun e' => .ok e'.nextBit) := by
    rw [encode, hformat]
    show e.encodeBit p.isLit = _
    unfold encodeBit shows
    split <;> rfl
  -- After the last bit of a byte comes the first one of the next.
  obtain ⟨index, bit, hnext, hbit', hplace'⟩ : ∃ index bit,
      ({ e with data } : Encoder).nextBit = { e with data, index, bit } ∧ bit < 8
        ∧ 8 * index + bit = e.place + 1 := by
    unfold nextBit
    dsimp only
    split
    · exact ⟨e.index + 1, 0, rfl, by decide, by omega⟩
    · exact ⟨e.index, e.bit + 1, rfl, by omega, by omega⟩
  rw [hencode, hmark]
  refine ⟨_, congrArg Except.ok hnext, ⟨rfl, rfl, rfl, hsize, rfl⟩, ?_, ?_, fun i hi => hbeside i ?_, fun _ i => ?_, absurd hformat⟩
  · exact ⟨hbit', absurd hformat⟩
  · rw [hone]
    exact hplace'
  · have hi : 8 * i + 8 ≤ e.place ∨ 8 * index + bit ≤ 8 * i := hi
    omega
  · rw [hlit]
    grind

theorem encode_wrote (hp : e.format.Takes p) (h : e.Fits (1 + n)) :
    ∃ e', e.encode p = .ok e' ∧ e.Wrote [p] e' := by
  by_cases hformat : e.format = .binary
  · exact encode_bit hformat p (Nat.add_comm 1 n ▸ h)
  have hbit := h.aligned.2 hformat
  have hdata := h.data
  have hlength := length_pixelBytes hformat p
  rw [pixelBits, if_neg hformat, place, Nat.mul_assoc, Nat.mul_add, Nat.mul_one] at hdata
  have hencode := encode_bytes hformat hp (by omega) fun h565 => by
    have := h.alpha h565
    omega
  refine ⟨_, hencode, ⟨rfl, rfl, rfl, size_splice _ _ _, size_splice _ _ _⟩, h.aligned, ?_, fun i hi => splice_beside ?_,
    fun h => absurd h hformat, fun _ => ?_⟩
  · show 8 * (e.index + _) + e.bit = _
    rw [hlength, pixelBits, if_neg hformat, place, length_singleton]
    omega
  · rw [place, place] at hi
    have hi : 8 * i + 8 ≤ 8 * e.index + e.bit ∨ 8 * (e.index + (e.pixelBytes p).length) + e.bit ≤ 8 * i := hi
    omega
  · rw [wroteAll, flatMap_singleton, flatMap_singleton]

theorem encodeAll_wrote (row : List Pixel) (hrow : ∀ p ∈ row, e.format.Takes p)
    (h : e.Fits (row.length + n)) : ∃ e', row.foldlM encode e = .ok e' ∧ e.Wrote row e' := by
  induction row generalizing e with
  | nil =>
    exact ⟨e, rfl, Same.refl e, h.aligned, rfl, fun _ _ => rfl, fun _ i => by simp, fun _ => (wrote_nil e).symm⟩
  | cons p row ih =>
    rw [length_cons, Nat.add_comm row.length, Nat.add_assoc] at h
    obtain ⟨hp, hrest⟩ := forall_mem_cons.mp hrow
    obtain ⟨e₁, hfirst, h₁⟩ := encode_wrote hp h
    obtain ⟨e₂, hall, h₂⟩ := ih (h₁.same.format ▸ hrest) (h.after h₁)
    refine ⟨e₂, ?_, h₁.trans h₂⟩
    rw [foldlM_cons, hfirst]
    exact hall

/-! ## Rows -/

def rowSize (e : Encoder) (w : Nat) : Nat := stride e.format e.transparency w

theorem Same.rowSize (h : e.Same e') (w : Nat) : e'.rowSize w = e.rowSize w := by
  rw [Encoder.rowSize, h.format, h.transparency]
  rfl

theorem rowSize_eq (hformat : e.format ≠ .binary) (w : Nat) : e.rowSize w = e.pixelSize * w := by
  unfold rowSize pixelSize
  cases h : e.format with
  | binary => exact absurd h hformat
  | grayscale => exact (Nat.one_mul w).symm
  | rgb565 => exact Nat.mul_comm w 2
  | rgb => exact (Nat.mul_comm w _).trans (congrArg (· * w) (Nat.one_mul _).symm)

theorem bits_of_row (e : Encoder) (w : Nat) :
    e.pixelBits * w ≤ 8 * e.rowSize w ∧ 8 * e.rowSize w < e.pixelBits * w + 8 := by
  by_cases hformat : e.format = .binary
  · rw [pixelBits, if_pos hformat, rowSize, hformat, stride]
    omega
  · rw [pixelBits, if_neg hformat, rowSize_eq hformat, Nat.mul_assoc]
    omega

/-- Rows of a width have been written, each from a new byte on, and nothing else. -/
structure WroteRows (e : Encoder) (w : Nat) (rows : List (List Pixel)) (e' : Encoder) : Prop where
  same : e.Same e'
  bit : e'.bit = 0
  index : e'.index = e.index + e.rowSize w * rows.length
  beside : ∀ i, i < e.index ∨ e'.index ≤ i → e'.data[i]? = e.data[i]?
  bits : e.format = .binary → ∀ y < rows.length, ∀ x < 8 * e.rowSize w,
    litAt e'.data (8 * (e.index + e.rowSize w * y) + x)
      = (litAt e.data (8 * (e.index + e.rowSize w * y) + x) || (rows[y]?.bind (·[x]?)).any e.shows)
  bytes : e.format ≠ .binary → e' = e.wroteAll rows.flatten

/-- There is room for as many rows of a width, and a row begins. -/
structure Lines (e : Encoder) (w k : Nat) : Prop where
  bit : e.bit = 0
  data : e.index + e.rowSize w * k ≤ e.data.size
  alpha : e.format = .rgb565 → e.index / 2 + w * k ≤ e.alpha.size

theorem Lines.fits (h : e.Lines w (1 + k)) : e.Fits w := by
  have hdata := h.data
  have hbits := (e.bits_of_row w).1
  rw [Nat.mul_add, Nat.mul_one] at hdata
  refine ⟨⟨h.bit ▸ by decide, fun _ => h.bit⟩, by rw [place, h.bit]; omega, fun hformat => ?_⟩
  have halpha := h.alpha hformat
  rw [Nat.mul_add, Nat.mul_one] at halpha
  omega

theorem Lines.after (h : e.Lines w (rows.length + k)) (hrows : e.WroteRows w rows e') :
    e'.Lines w k := by
  have hindex := hrows.index
  have hdata := h.data
  rw [Nat.mul_add] at hdata
  refine ⟨hrows.bit, ?_, fun hformat => ?_⟩
  · rw [hrows.same.rowSize, hrows.same.data]
    omega
  · have hwords : e.format = .rgb565 := hrows.same.format.symm.trans hformat
    have halpha := h.alpha hwords
    rw [rowSize, hwords, stride, Nat.mul_right_comm] at hindex
    rw [Nat.mul_add] at halpha
    rw [hrows.same.alpha, hindex]
    omega

theorem endRow_eq (h : e.Aligned) : ∃ index, e.endRow = { e with bit := 0, index }
    ∧ e.place ≤ 8 * index ∧ 8 * index < e.place + 8 := by
  have hbit := h.1
  unfold endRow place
  split
  · exact ⟨e.index + 1, rfl, by omega, by omega⟩
  · next hclosed =>
      have hzero : e.bit = 0 := by
        by_cases hformat : e.format = .binary
        · exact Decidable.not_not.mp fun hne => hclosed ⟨hformat, hne⟩
        · exact h.2 hformat
      exact ⟨e.index, by rw [← hzero], by omega, by omega⟩

theorem encodeRow_wrote (hwidth : row.length = w) (hrow : ∀ p ∈ row, e.format.Takes p)
    (h : e.Lines w (1 + k)) : ∃ e', e.encodeRow row = .ok e' ∧ e.WroteRows w [row] e' := by
  subst hwidth
  obtain ⟨e₁, hall, hwrote⟩ := encodeAll_wrote (n := 0) row hrow h.fits
  obtain ⟨hsame, haligned, hplace, hbeside, hbits, hbytes⟩ := hwrote
  obtain ⟨index, hend, hle, hlt⟩ := endRow_eq haligned
  have hstart : e.place = 8 * e.index := by rw [place, h.bit, Nat.add_zero]
  have hindex : index = e.index + e.rowSize row.length := by
    have := e.bits_of_row row.length
    omega
  refine ⟨e₁.endRow, by rw [encodeRow, hall]; rfl, ?_⟩
  refine ⟨?_, by rw [hend], ?_, fun i hi => ?_, fun hformat y hy x hx => ?_, fun hformat => ?_⟩
  · rw [hend]
    exact ⟨hsame.1, hsame.2, hsame.3, hsame.4, hsame.5⟩
  · rw [hend, length_singleton, Nat.mul_one]
    exact hindex
  · rw [hend] at hi ⊢
    exact hbeside i (by dsimp only at hi; omega)
  · obtain rfl : y = 0 := by rw [length_singleton] at hy; omega
    rw [hend]
    refine (hbits hformat _).trans ?_
    rw [hstart, Nat.mul_zero, Nat.add_zero, Nat.add_sub_cancel_left, decide_eq_true (by omega)]
    rfl
  · rw [flatten_singleton, ← hbytes hformat]
    exact if_neg fun h => hformat (hsame.format.symm.trans h.1)

theorem WroteRows.trans {rows' : List (List Pixel)} (h : e.WroteRows w rows e')
    (h' : e'.WroteRows w rows' e'') : e.WroteRows w (rows ++ rows') e'' := by
  have hindex := h.index
  have hindex' := h'.index
  rw [h.same.rowSize] at hindex'
  refine ⟨h.same.trans h'.same, h'.bit, ?_, fun i hi => ?_, fun hformat y hy x hx => ?_,
    fun hformat => ?_⟩
  · rw [length_append, Nat.mul_add]
    omega
  · rw [h'.beside i (by omega), h.beside i (by omega)]
  · by_cases hy' : y < rows.length
    · have hbefore : e.rowSize w * (y + 1) ≤ e.rowSize w * rows.length := Nat.mul_le_mul_left _ hy'
      rw [Nat.mul_succ] at hbefore
      rw [litAt, h'.beside _ (.inl (by omega)), getElem?_append_left hy']
      exact h.bits hformat y hy' x hx
    · obtain ⟨z, rfl⟩ := Nat.exists_eq_add_of_le (Nat.not_lt.mp hy')
      have hlit := h'.bits (h.same.format.trans hformat) z (by rw [length_append] at hy; omega) x
      rw [h.same.rowSize, h.same.shows, hindex, Nat.add_assoc, ← Nat.mul_add] at hlit
      rw [hlit hx, getElem?_append_right (Nat.le_add_right _ _), Nat.add_sub_cancel_left, litAt,
        h.beside _ (.inr (by rw [Nat.mul_add (e.rowSize w)]; omega))]
      rfl
  · rw [h'.bytes (h.same.format ▸ hformat), h.bytes hformat, wroteAll_wroteAll hformat, flatten_append]

/-- Rows of pixels that a format takes are written one after the other. -/
theorem encodeRows_wrote (hrows : ∀ row ∈ rows, row.length = w ∧ ∀ p ∈ row, e.format.Takes p)
    (h : e.Lines w (rows.length + k)) :
    ∃ e', e.encodeRows rows = .ok e' ∧ e.WroteRows w rows e' := by
  induction rows generalizing e with
  | nil =>
    exact ⟨e, rfl, Same.refl e, h.bit, rfl, fun _ _ => rfl, fun _ y hy => absurd hy (Nat.not_lt_zero y),
      fun _ => (wrote_nil e).symm⟩
  | cons row rows ih =>
    rw [length_cons, Nat.add_comm rows.length, Nat.add_assoc] at h
    obtain ⟨⟨hwidth, hrow⟩, hrest⟩ := forall_mem_cons.mp hrows
    obtain ⟨e₁, hfirst, h₁⟩ := encodeRow_wrote hwidth hrow h
    obtain ⟨e₂, hall, h₂⟩ := ih (h₁.same.format ▸ hrest) (h.after h₁)
    refine ⟨e₂, ?_, h₁.trans h₂⟩
    rw [encodeRows, foldlM_cons, hfirst]
    exact hall

end Encoder

end Panel.Picture
