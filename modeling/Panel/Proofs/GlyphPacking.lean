import Panel.Proofs.GlyphTables
import Panel.Proofs.PictureRows

/-! # Packed glyphs — every pixel can be read back from the data of a glyph

    The bits of all pixels follow each other without a gap, so that a row may begin within a byte.  The
    bit at a place of the data is the bit at that place of the list that was packed, and a list of
    parts of one length is indexed by quotient and remainder. -/

namespace Panel.Font

open List

variable {bpp k : Nat} {α β : Type}

/-! ## Bits of packed data -/

/-- The bit at a place, the first of a byte most significant; there is none behind the data. -/
def bitAt (data : List Nat) (pos : Nat) : Bool := (data.getD (pos / 8) 0).testBit (7 - pos % 8)

/-- The number that `bpp` bits spell from a place on, the first most significant. -/
def readBits (bpp pos : Nat) (data : List Nat) : Nat :=
  Nat.ofBits fun i : Fin bpp => bitAt data (pos + (bpp - i - 1))

theorem byteOf_bits (bs : List Bool) (k : Nat) (h : bs.length ≤ k + 1) :
    byteOf bs (2 ^ k) < 2 ^ (k + 1)
      ∧ ∀ i ≤ k, (byteOf bs (2 ^ k)).testBit (k - i) = bs.getD i false := by
  induction bs generalizing k with
  | nil => exact ⟨Nat.two_pow_pos _, fun i _ => Nat.zero_testBit _⟩
  | cons b bs ih =>
    cases k with
    | zero =>
      obtain rfl := length_eq_zero_iff.mp (Nat.le_zero.mp (Nat.le_of_succ_le_succ h))
      cases b <;> decide
    | succ k =>
      obtain ⟨hlt, hbits⟩ := ih k (Nat.le_of_succ_le_succ h)
      have hhalf : 2 ^ (k + 1) / 2 = 2 ^ k := by omega
      rw [byteOf, hhalf]
      refine ⟨by split <;> omega, fun i hi => ?_⟩
      cases i with
      | zero =>
        have hclear := Nat.testBit_lt_two_pow hlt
        cases b with
        | false => simpa using hclear
        | true => simpa [Nat.testBit_two_pow_add_eq] using hclear
      | succ i =>
        have hi := Nat.le_of_succ_le_succ hi
        rw [Nat.succ_sub_succ, getD_cons_succ, ← hbits i hi]
        cases b with
        | false => simp
        | true => exact Nat.testBit_two_pow_add_gt (by omega) _

theorem packed_cons (b : Bool) (bs : List Bool) :
    packed (b :: bs) = byteOf (b :: bs.take 7) (2 ^ 7) :: packed (bs.drop 7) := by
  unfold packed
  rw [pieces]
  rfl

theorem packed_bits (bs : List Bool) : (packed bs).length = (bs.length + 7) / 8
    ∧ (∀ b ∈ packed bs, b ≤ 255) ∧ ∀ pos, bitAt (packed bs) pos = bs.getD pos false := by
  -- The induction follows the cutting: a byte takes the next eight bits.
  induction hn : bs.length using Nat.strongRecOn generalizing bs with
  | ind n ih =>
    subst hn
    cases bs with
    | nil =>
      have hnil : packed [] = [] := by unfold packed; rw [pieces]; rfl
      rw [hnil]
      exact ⟨rfl, fun b hb => absurd hb not_mem_nil, fun pos => Nat.zero_testBit _⟩
    | cons b bs =>
      have hless : (bs.drop 7).length < (b :: bs).length := by
        rw [length_drop, length_cons]
        omega
      obtain ⟨hlength, hbytes, hbits⟩ := ih _ hless (bs.drop 7) rfl
      have hhead : (b :: bs.take 7).length ≤ 7 + 1 := by
        rw [length_cons, length_take]
        omega
      obtain ⟨hlt, hbyte⟩ := byteOf_bits (b :: bs.take 7) 7 hhead
      rw [packed_cons]
      refine ⟨?_, forall_mem_cons.mpr ⟨Nat.le_of_lt_succ hlt, hbytes⟩, fun pos => ?_⟩
      · rw [length_cons, hlength, length_drop, length_cons]
        omega
      · by_cases hpos : pos < 8
        · have hfirst := hbyte pos (Nat.le_of_lt_succ hpos)
          unfold bitAt
          rw [Nat.div_eq_of_lt hpos, Nat.mod_eq_of_lt hpos, getD_cons_zero, hfirst]
          cases pos with
          | zero => rfl
          | succ i => simp [getD_eq_getElem?_getD, getElem?_take_of_lt (show i < 7 by omega)]
        · obtain ⟨i, rfl⟩ := Nat.exists_eq_add_of_le' (Nat.le_of_not_lt hpos)
          have hrest := hbits i
          unfold bitAt at hrest ⊢
          rw [Nat.add_div_right _ (by decide), Nat.add_mod_right, getD_cons_succ, hrest]
          simp [getD_eq_getElem?_getD, Nat.add_comm]

/-! ## Parts of one length -/

/-- What is spelled by the bits of numbers that were packed one after the other. -/
theorem readBits_packed {ps : List Nat} {j p : Nat} (hp : ps[j]? = some p) (hlt : p < 2 ^ bpp) :
    readBits bpp (j * bpp) (packed (ps.flatMap (bits bpp))) = p := by
  refine Nat.eq_of_testBit_eq fun i => ?_
  unfold readBits
  by_cases hi : i < bpp
  · have hbit : bpp - i - 1 < bpp := by omega
    rw [Nat.testBit_ofBits_lt _ _ hi, (packed_bits _).2.2, getD_eq_getElem?_getD, Nat.mul_comm,
      Picture.getElem?_flatMap_of_length (fun _ => by simp [bits]) _ _ hbit, hp]
    simp only [bits, Option.bind_some, getElem?_map, getElem?_range hbit, Option.map_some,
      Option.getD_some]
    congr 1
    omega
  · have hi := Nat.le_of_not_lt hi
    rw [Nat.testBit_ofBits_ge _ _ hi]
    exact (Nat.testBit_lt_two_pow (Nat.lt_of_lt_of_le hlt (Nat.pow_le_pow_right (by decide) hi))).symm

/-! ## Pixels -/

/-- The shade of a pixel in `bpp` bits, as the bitmap of the glyph has it. -/
def Glyph.shade (g : Glyph) (bpp x y : Nat) : Nat :=
  let b := g.buffer.getD (g.place x y).toNat 0
  if g.mono then if b.testBit (7 - x % 8) then 2 ^ bpp - 1 else 0 else b / 2 ^ (8 - bpp)

theorem Glyph.shade_lt {g : Glyph} (hbpp : bpp ≤ 8) (hbytes : ∀ b ∈ g.buffer, b < 256) (x y : Nat) :
    g.shade bpp x y < 2 ^ bpp := by
  have hpos := Nat.two_pow_pos bpp
  unfold shade
  dsimp only
  split
  · split <;> omega
  · refine Nat.div_lt_of_lt_mul ?_
    rw [← Nat.pow_add, Nat.sub_add_cancel hbpp, getD_eq_getElem?_getD]
    cases hb : g.buffer[(g.place x y).toNat]? with
    | none => decide
    | some b => exact hbytes b (mem_of_getElem? hb)

theorem Glyph.pixel_eq_shade {g : Glyph} {x y : Nat} (hbpp : bpp ≤ 8) (hpitch : 0 ≤ g.pitch)
    (hplace : g.place x y < g.buffer.length) : g.pixel bpp x y = .ok (g.shade bpp x y) := by
  have hnonneg : 0 ≤ g.place x y := Int.add_nonneg (Int.mul_nonneg (by omega) hpitch) (by omega)
  have hindex : (g.place x y).toNat < g.buffer.length := by omega
  have hbyte : byteAt g.buffer (g.place x y) = .ok (g.buffer.getD (g.place x y).toNat 0) := by
    unfold byteAt
    simp [Int.not_lt.mpr hnonneg, getElem?_eq_getElem hindex]
  have hscale : 256 >>> bpp = 2 ^ (8 - bpp) := by
    rw [Nat.shiftRight_eq_div_pow]
    show 2 ^ 8 / 2 ^ bpp = 2 ^ (8 - bpp)
    exact Nat.pow_div hbpp (by decide)
  rw [pixel_eq, hbyte, hscale, Nat.one_shiftLeft]
  unfold shade
  cases g.mono with
  | true => rfl
  | false => exact if_neg (Nat.ne_of_gt (Nat.two_pow_pos _))

theorem mapM_eq_map {f : α → Except Failure β} {v : α → β} {xs : List α}
    (h : ∀ x ∈ xs, f x = .ok (v x)) : xs.mapM f = .ok (xs.map v) := by
  induction xs with
  | nil => rfl
  | cons x xs ih =>
    rw [mapM_cons, h x mem_cons_self, ih fun y hy => h y (mem_cons_of_mem x hy)]
    rfl

/-- The data of a glyph keep its pixels: they are as many bytes as the bits of all pixels need, with
    nothing in the bits left over, and `bpp` bits at the place of a pixel spell its shade. -/
theorem Glyph.data_readBits {g : Glyph} (hbpp : bpp ∈ [1, 2, 4, 8]) (hpitch : 0 ≤ g.pitch)
    (hbytes : ∀ b ∈ g.buffer, b < 256)
    (hlarge : ∀ x < g.width.toNat, ∀ y < g.height.toNat, g.place x y < g.buffer.length) :
    ∃ data, g.data bpp = .ok data
      ∧ data.length = (g.width.toNat * g.height.toNat * bpp + 7) / 8
      ∧ (∀ b ∈ data, b ≤ 255)
      ∧ (∀ x < g.width.toNat, ∀ y < g.height.toNat,
        readBits bpp ((y * g.width.toNat + x) * bpp) data = g.shade bpp x y
          ∧ g.shade bpp x y < 2 ^ bpp)
      ∧ ∀ pos, g.width.toNat * g.height.toNat * bpp ≤ pos → bitAt data pos = false := by
  have hbpp : bpp ≤ 8 := by
    simp only [mem_cons, not_mem_nil, or_false] at hbpp
    omega
  let places := (range g.height.toNat).flatMap fun y => (range g.width.toNat).map fun x => (x, y)
  let ps := places.map fun p => g.shade bpp p.1 p.2
  have hpixels : g.pixelList bpp = .ok ps := by
    refine mapM_eq_map ?_
    rintro ⟨x, y⟩ hmem
    obtain ⟨y', hy, hmem⟩ := mem_flatMap.mp hmem
    obtain ⟨x', hx, heq⟩ := mem_map.mp hmem
    obtain ⟨rfl, rfl⟩ := Prod.mk.inj heq
    exact pixel_eq_shade hbpp hpitch (hlarge x' (mem_range.mp hx) y' (mem_range.mp hy))
  have hrow : ∀ y : Nat, ((range g.width.toNat).map fun x => (x, y)).length = g.width.toNat :=
    fun y => by rw [length_map, length_range]
  have hcount : (ps.flatMap (bits bpp)).length = g.width.toNat * g.height.toNat * bpp := by
    rw [Picture.length_flatMap_of_length (k := bpp) (fun _ => by simp [bits]), length_map,
      Picture.length_flatMap_of_length hrow, length_range, Nat.mul_comm]
  obtain ⟨hlength, hbyte, hbits⟩ := packed_bits (ps.flatMap (bits bpp))
  refine ⟨packed (ps.flatMap (bits bpp)), by unfold data; rw [hpixels]; rfl, hcount ▸ hlength, hbyte,
    fun x hx y hy => ?_, fun pos hpos => ?_⟩
  · have hlt := shade_lt hbpp hbytes x y
    refine ⟨readBits_packed ?_ hlt, hlt⟩
    rw [getElem?_map, Nat.mul_comm, Picture.getElem?_flatMap_of_length hrow _ _ hx,
      getElem?_range hy]
    simp [getElem?_range hx]
  · rw [hbits, getD_eq_getElem?_getD, getElem?_eq_none (hcount ▸ hpos)]
    rfl

/-- Three rows of three pixels: in two bits for each, the second row begins within the first byte. -/
def threeRows : Glyph := ⟨3, 3, 1, [0xA0, 0x40, 0xE0], true, 0, 0, 0⟩

theorem Glyph.data_readBits_threeRows : ∃ data, threeRows.data 2 = .ok data ∧ data.length = 3
    ∧ readBits 2 ((1 * 3 + 1) * 2) data = 3 ∧ bitAt data 18 = false := by
  obtain ⟨data, hdata, hlength, -, hread, hrest⟩ := @Glyph.data_readBits 2 threeRows
    (by decide) (by decide) (by decide) (by decide)
  exact ⟨data, hdata, hlength, (hread 1 (by decide) 1 (by decide)).1, hrest 18 (by decide)⟩

end Panel.Font
