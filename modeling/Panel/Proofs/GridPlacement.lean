import Mathlib.Data.List.Basic
import Mathlib.Tactic.Linarith
import Panel.Layout.Grid
import Panel.Proofs.Entries

/-! # Grid placement is first fit

    `Grid.arrange` walks over the children of a grid with a table of taken
    cells.  This file says what it computes without the table: each child has the
    place that it asks for, or the first cell that those before it leave free. -/

namespace Panel

open List Text

variable {bs rest : List Char}

namespace Grid

/-! ## The specification -/

/-- The rectangle of cells that a child takes. -/
structure Spot where
  row : Nat
  column : Nat
  rowSpan : Nat
  columnSpan : Nat
  deriving DecidableEq, Repr

def Spot.Covers (p : Spot) (r c : Nat) : Prop :=
  (p.row ≤ r ∧ r < p.row + p.rowSpan) ∧ (p.column ≤ c ∧ c < p.column + p.columnSpan)

instance (p : Spot) (r c : Nat) : Decidable (p.Covers r c) :=
  inferInstanceAs (Decidable (_ ∧ _))

def Covered (spots : List Spot) (r c : Nat) : Prop := ∃ q ∈ spots, q.Covers r c

instance (spots : List Spot) (r c : Nat) : Decidable (Covered spots r c) :=
  inferInstanceAs (Decidable (∃ q ∈ spots, q.Covers r c))

/-- A child of a grid: its kind and options, and what the options say about its
    place.  The rules of the options admit natural numbers only; a position may
    be left out, a span may not. -/
structure Child where
  kind : String
  options : Entries
  others : Entries := []
  row : Option Nat
  column : Option Nat
  rowSpan : Nat
  columnSpan : Nat
  has_row : Entries.has options rowKey = row.isSome
  has_column : Entries.has options columnKey = column.isSome
  row_read : ∀ n ∈ row, numberAt options rowKey = .ok (n : Int)
  column_read : ∀ n ∈ column, numberAt options columnKey = .ok (n : Int)
  rowSpan_read : numberAt options rowSpanKey = .ok (rowSpan : Int)
  columnSpan_read : numberAt options columnSpanKey = .ok (columnSpan : Int)

namespace Child

def value (ch : Child) : Value := .dict ((ch.kind, .dict ch.options) :: ch.others)

/-- The options with the place filled in, if the child left it open. -/
def filledOptions (ch : Child) (p : Spot) : Entries :=
  if ch.row.isSome then ch.options
  else Entries.put (Entries.put ch.options rowKey (.int p.row)) columnKey (.int p.column)

def filled (ch : Child) (p : Spot) : Value :=
  .dict ((ch.kind, .dict (ch.filledOptions p)) :: ch.others)

end Child

variable {taken : Cells} {earlier : List Spot} {g : Shape} {columns n rows : Nat} {p : Spot}
  {ch : Child} {config : Entries} {c number r : Nat} {key : String} {ds : List Char}
  {settled : Entries} {ws : List Value}

/-- The row-major-least cell of the grid that no rectangle covers. -/
structure FirstFree (g : Shape) (earlier : List Spot) (r c : Nat) : Prop where
  row_lt : r < g.rows
  column_lt : c < g.columns
  uncovered : ¬ Covered earlier r c
  least : ∀ r' c', r' < g.rows → c' < g.columns → (r' < r ∨ (r' = r ∧ c' < c)) →
    Covered earlier r' c'

/-- Where a child stands: at the position it gives, or at the first free cell if
    it gives none.  A child that gives half a position stands nowhere. -/
def Stands (g : Shape) (earlier : List Spot) (ch : Child) (r c : Nat) : Prop :=
  match ch.row, ch.column with
  | some r', some c' => r = r' ∧ c = c'
  | none, none => FirstFree g earlier r c
  | _, _ => False

/-- A rectangle that a child can take after earlier ones were taken. -/
structure Fits (g : Shape) (earlier : List Spot) (ch : Child) (p : Spot) : Prop where
  rowSpan_eq : p.rowSpan = ch.rowSpan
  columnSpan_eq : p.columnSpan = ch.columnSpan
  stands : Stands g earlier ch p.row p.column
  inside : ∀ r c, p.Covers r c → r < g.rows ∧ c < g.columns
  apart : ∀ r c, p.Covers r c → ¬ Covered earlier r c

/-- The children take the rectangles in order, after earlier ones were taken. -/
inductive FirstFit (g : Shape) : List Spot → List Child → List Spot → Prop where
  | nil (earlier : List Spot) : FirstFit g earlier [] []
  | cons {earlier : List Spot} {ch : Child} {p : Spot} {rest : List Child} {ps : List Spot} :
      Fits g earlier ch p → FirstFit g (earlier ++ [p]) rest ps →
      FirstFit g earlier (ch :: rest) (p :: ps)

/-- The child of number `k` is the first one for which there is no place. -/
def FirstToBreak (g : Shape) (earlier : List Spot) (children : List Child) (k : Nat) : Prop :=
  ∃ before ch after spots, children = before ++ ch :: after ∧ before.length = k ∧
    FirstFit g earlier before spots ∧ ∀ p, ¬ Fits g (earlier ++ spots) ch p

def Digits (n : Nat) (ds : List Char) : Prop :=
  ds ≠ [] ∧ (∀ c ∈ ds, (Text.digitValue? c).isSome = true) ∧
    Text.ofDigits (ds.filterMap Text.digitValue?) = n

def Blanks (bs : List Char) : Prop := ∀ c ∈ bs, Text.isBlank c = true

/-- A text `rows x columns`: two numbers and an `x`, with white space around them. -/
def SizeText (rows columns : Nat) (s : String) : Prop :=
  ∃ b₁ r b₂ b₃ c b₄, s.toList = b₁ ++ (r ++ (b₂ ++ 'x' :: (b₃ ++ (c ++ b₄)))) ∧
    Digits rows r ∧ Digits columns c ∧ Blanks b₁ ∧ Blanks b₂ ∧ Blanks b₃ ∧ Blanks b₄

/-- A configuration that asks for a grid in which every cell holds one widget: by
    its tracks, or by a text `rows x columns`, which stands for equal tracks.
    `settled` is the configuration with the tracks written out. -/
inductive AsksGrid (config : Entries) : Nat → Nat → Entries → Prop where
  | tracks {layout : Entries} {type : Value} {word : String} {rows columns : List Value} :
      Entries.get? config "layout" = some (.dict layout) →
      Entries.get? layout "type" = some type → type.text? = some word →
      Text.lower word = "grid" →
      Entries.get? layout "grid_rows" = some (.list rows) →
      Entries.get? layout "grid_columns" = some (.list columns) →
      ((Entries.get? layout "multiple_widgets_per_cell").getD (.bool false)).truthy = false →
      AsksGrid config rows.length columns.length config
  | size {v : Value} {text : String} {rows columns : Nat} :
      Entries.get? config "layout" = some v → v.text? = some text →
      SizeText rows columns text →
      AsksGrid config rows columns (Entries.put config "layout" (equalTracks rows columns))

/-! ## The table of taken cells -/

def Holds (taken : Cells) (earlier : List Spot) : Prop :=
  ∀ r c, (taken.at? r c).isSome = true ↔ Covered earlier r c

theorem holds_nil : Holds [] [] := by
  intro r c
  simp [Cells.at?, Covered]

theorem at?_cons (i j n : Nat) (taken : Cells) (r c : Nat) : Cells.at? (((i, j), n) :: taken) r c
      = if i = r ∧ j = c then some n else Cells.at? taken r c := by
  simp only [Cells.at?, find?_cons]
  grind

theorem Holds.not_covered_iff (h : Holds taken earlier) (r c : Nat) :
    taken.at? r c = none ↔ ¬ Covered earlier r c := by
  rw [← h r c]
  cases taken.at? r c <;> simp

theorem covered_append (earlier : List Spot) (p : Spot) (r c : Nat) :
    Covered (earlier ++ [p]) r c ↔ Covered earlier r c ∨ p.Covers r c := by
  simp only [Covered, mem_append, mem_singleton]
  constructor
  · rintro ⟨q, hq | rfl, hc⟩
    · exact Or.inl ⟨q, hq, hc⟩
    · exact Or.inr hc
  · rintro (⟨q, hq, hc⟩ | hc)
    · exact ⟨q, Or.inl hq, hc⟩
    · exact ⟨p, Or.inr rfl, hc⟩

/-! ## The first free cell -/

def Before (a b : Nat × Nat) : Prop := a.1 < b.1 ∨ (a.1 = b.1 ∧ a.2 < b.2)

theorem mem_cells (g : Shape) (r c : Nat) : (r, c) ∈ g.cells ↔ r < g.rows ∧ c < g.columns := by
  simp [Shape.cells]

theorem pairwise_block (rows columns row column : Nat) : ((range rows).flatMap fun i =>
    (range columns).map fun j => (row + i, column + j)).Pairwise Before := by
  rw [pairwise_flatMap]
  constructor
  · intro i _
    rw [pairwise_map]
    exact pairwise_lt_range.imp fun h => Or.inr ⟨rfl, by simpa using h⟩
  · refine pairwise_lt_range.imp ?_
    intro i i' h x hx y hy
    obtain ⟨j, -, rfl⟩ := mem_map.mp hx
    obtain ⟨j', -, rfl⟩ := mem_map.mp hy
    exact Or.inl (by simpa using h)

theorem firstFree?_eq_some (h : Holds taken earlier) (hf : firstFree? g taken = some (r, c)) :
    FirstFree g earlier r c := by
  rw [firstFree?, find?_eq_some_iff_append] at hf
  obtain ⟨hfree, front, back, hsplit, hfront⟩ := hf
  have hmem : (r, c) ∈ g.cells := by rw [hsplit]; simp
  have hin := (mem_cells g r c).mp hmem
  refine ⟨hin.1, hin.2, (h.not_covered_iff r c).mp (by simpa using hfree), ?_⟩
  intro r' c' hr' hc' hlt
  -- a cell before the one found stands in front of it, where nothing is free
  have hmem' : (r', c') ∈ front ++ (r, c) :: back := by
    rw [← hsplit]; exact (mem_cells g r' c').mpr ⟨hr', hc'⟩
  have hpair : (front ++ (r, c) :: back).Pairwise Before := by
    rw [← hsplit]
    simpa [Shape.cells] using pairwise_block g.rows g.columns 0 0
  rcases mem_append.mp hmem' with hf' | hb
  · have := hfront _ hf'
    exact (h r' c').mp (by simpa using this)
  · exfalso
    rcases mem_cons.mp hb with heq | hback
    · simp only [Prod.mk.injEq] at heq
      omega
    · have hafter := (pairwise_cons.mp (pairwise_append.mp hpair).2.1).1 _ hback
      simp only [Before] at hafter
      omega

theorem firstFree?_eq_none (h : Holds taken earlier) (hf : firstFree? g taken = none) (r c : Nat) :
    ¬ FirstFree g earlier r c := by
  intro hfree
  rw [firstFree?, find?_eq_none] at hf
  have hnot := hf (r, c) ((mem_cells g r c).mpr ⟨hfree.row_lt, hfree.column_lt⟩)
  refine hfree.uncovered ((h r c).mp (Option.isSome_iff_ne_none.mpr ?_))
  simpa using hnot

theorem FirstFree.unique {r' c' : Nat} (h : FirstFree g earlier r c)
    (h' : FirstFree g earlier r' c') : r = r' ∧ c = c' := by
  by_contra hne
  have htotal : (r < r' ∨ (r = r' ∧ c < c')) ∨ (r' < r ∨ (r' = r ∧ c' < c)) := by omega
  rcases htotal with hlt | hlt
  · exact h.uncovered (h'.least r c h.row_lt h.column_lt hlt)
  · exact h'.uncovered (h.least r' c' h'.row_lt h'.column_lt hlt)

/-! ## Taking cells -/

/-- The indices of a rectangle's cells, as far as they are looked at. -/
def looked (g : Shape) (p : Spot) : List (Nat × Nat) :=
  (List.range (min p.rowSpan (g.rows + p.row + 1))).flatMap fun i =>
    (List.range (min p.columnSpan (g.columns + p.column + 1))).map fun j =>
      (p.row + i, p.column + j)

theorem spanned_eq (g : Shape) (p : Spot) : spanned g p.row p.column p.rowSpan p.columnSpan
      = (looked g p).map fun (r, c) => ((r : Int), (c : Int)) := by
  simp [spanned, looked, map_flatMap, Function.comp_def]

theorem mem_looked (g : Shape) (p : Spot) (r c : Nat) : (r, c) ∈ looked g p ↔
      p.Covers r c ∧ r < g.rows + 2 * p.row + 1 ∧ c < g.columns + 2 * p.column + 1 := by
  simp only [looked, Spot.Covers, mem_flatMap, mem_map, mem_range, Prod.mk.injEq]
  constructor
  · rintro ⟨i, hi, j, hj, rfl, rfl⟩
    omega
  · rintro ⟨h, hr, hc⟩
    exact ⟨r - p.row, by omega, c - p.column, by omega, by omega, by omega⟩

theorem looked_nodup (g : Shape) (p : Spot) : (looked g p).Nodup := by
  refine (pairwise_block _ _ _ _).imp ?_
  rintro ⟨r, c⟩ ⟨r', c'⟩ h heq
  simp only [Before, Prod.mk.injEq] at h heq
  omega

def withCells (number : Nat) (cells : List (Nat × Nat)) (taken : Cells) : Cells :=
  cells.foldl (fun t x => (x, number) :: t) taken

theorem at?_withCells (number : Nat) (cells : List (Nat × Nat)) (taken : Cells) (r c : Nat) :
    ((withCells number cells taken).at? r c).isSome = true ↔
      (r, c) ∈ cells ∨ (taken.at? r c).isSome = true := by
  induction cells generalizing taken with
  | nil => simp [withCells]
  | cons x rest ih =>
    obtain ⟨i, j⟩ := x
    rw [show withCells number ((i, j) :: rest) taken
      = withCells number rest (((i, j), number) :: taken) from rfl, ih, at?_cons]
    grind

theorem index?_natCast {size : Nat} (h : n < size) : index? (n : Int) size = some n := by
  simp [index?, h]

/-- A cell inside the grid that is not taken. -/
def Free (g : Shape) (taken : Cells) (x : Nat × Nat) : Prop :=
  x.1 < g.rows ∧ x.2 < g.columns ∧ taken.at? x.1 x.2 = none

/-- The rectangle lies inside the grid, apart from those before it. -/
def Room (g : Shape) (earlier : List Spot) (p : Spot) : Prop :=
  ∀ r c, p.Covers r c → (r < g.rows ∧ c < g.columns) ∧ ¬ Covered earlier r c

section

variable (hshared : g.shared = false)

include hshared

theorem occupyFrom_cases (number : Nat) (outside : String) {cells : List (Nat × Nat)}
    (hnodup : cells.Nodup) (taken : Cells) :
    (∀ x ∈ cells, Free g taken x)
      ∧ occupyFrom g number outside (cells.map fun (r, c) => ((r : Int), (c : Int))) taken
        = .ok (withCells number cells taken)
    ∨ (¬ ∀ x ∈ cells, Free g taken x) ∧ ∃ message, occupyFrom g number outside
        (cells.map fun (r, c) => ((r : Int), (c : Int))) taken = .error (.invalid message) := by
  induction cells generalizing taken with
  | nil => exact .inl ⟨forall_mem_nil _, rfl⟩
  | cons x cells ih =>
    obtain ⟨hnew, hnodup⟩ := nodup_cons.mp hnodup
    rw [map_cons, occupyFrom, forall_mem_cons]
    have hout : ((g.rows : Int) ≤ x.1 || (g.columns : Int) ≤ x.2) = true
        ↔ ¬ (x.1 < g.rows ∧ x.2 < g.columns) := by
      simp only [Bool.or_eq_true, decide_eq_true_eq]
      omega
    by_cases hin : x.1 < g.rows ∧ x.2 < g.columns
    · rw [if_neg fun h => hout.mp h hin, index?_natCast hin.1, index?_natCast hin.2]
      simp only [Bool.false_eq_true, if_false, hshared]
      cases htaken : taken.at? x.1 x.2 with
      | some other => exact .inr ⟨fun h => absurd (htaken.symm.trans h.1.2.2) nofun, _, rfl⟩
      | none =>
        -- the other cells are as free as before
        have hsame : ∀ y ∈ cells, Free g ((x, number) :: taken) y ↔ Free g taken y := by
          intro y hy
          have hne : ¬ (x.1 = y.1 ∧ x.2 = y.2) := fun h => hnew (Prod.ext h.1 h.2 ▸ hy)
          rw [Free, at?_cons, if_neg hne, Free]
        rcases ih hnodup ((x, number) :: taken) with ⟨hall, h⟩ | ⟨hnot, message, h⟩
        · exact .inl ⟨⟨⟨hin.1, hin.2, htaken⟩, fun y hy => (hsame y hy).mp (hall y hy)⟩, h⟩
        · exact .inr ⟨fun hall => hnot fun y hy => (hsame y hy).mpr (hall.2 y hy), message, h⟩
    · rw [if_pos (hout.mpr hin)]
      exact .inr ⟨fun h => hin ⟨h.1.1, h.1.2.1⟩, outside, rfl⟩

/-! ## One rectangle against the table -/

omit hshared in
/-- Looking at a rectangle only as far as it can matter is enough to tell whether there is room. -/
theorem looked_free_iff (h : Holds taken earlier) (p : Spot) :
    (∀ x ∈ looked g p, Free g taken x) ↔ Room g earlier p := by
  constructor
  · intro hfree r c hcov
    obtain ⟨⟨hr, hr'⟩, hc, hc'⟩ := id hcov
    -- the cells next to the border of the grid are looked at, so they are covered too
    have hin : r < g.rows ∧ c < g.columns := by
      have hborder := hfree (min r (g.rows + p.row), min c (g.columns + p.column))
        ((mem_looked g p _ _).mpr ⟨⟨by omega, by omega⟩, by omega, by omega⟩)
      unfold Free at hborder
      omega
    have hmem : (r, c) ∈ looked g p := (mem_looked g p r c).mpr ⟨hcov, by omega, by omega⟩
    exact ⟨hin, (h.not_covered_iff r c).mp (hfree _ hmem).2.2⟩
  · rintro hroom ⟨r, c⟩ hmem
    obtain ⟨⟨hr, hc⟩, hnot⟩ := hroom r c ((mem_looked g p r c).mp hmem).1
    exact ⟨hr, hc, (h.not_covered_iff r c).mpr hnot⟩

theorem occupy_cases (h : Holds taken earlier) (number : Nat) (p : Spot) :
    Room g earlier p
      ∧ (∃ taken', occupy g number p.row p.column p.rowSpan p.columnSpan taken = .ok taken'
        ∧ Holds taken' (earlier ++ [p]))
    ∨ ¬ Room g earlier p ∧ ∃ message, occupy g number p.row p.column p.rowSpan p.columnSpan taken
        = .error (.invalid message) := by
  rw [occupy, spanned_eq, ← looked_free_iff h]
  refine (occupyFrom_cases hshared number _ (looked_nodup g p) taken).imp_left ?_
  rintro ⟨hfree, hrun⟩
  refine ⟨hfree, _, hrun, fun r c => ?_⟩
  rw [at?_withCells, h r c, covered_append, mem_looked, or_comm]
  refine or_congr_right ⟨fun hc => hc.1, fun hcov => ⟨hcov, ?_⟩⟩
  have hin := ((looked_free_iff h p).mp hfree r c hcov).1
  omega

end

/-! ## One child -/

theorem numberAt_put_ne (es : Entries) {key' : String} (v : Value) (h : key' ≠ key) :
    numberAt (es.put key v) key' = numberAt es key' := by
  rw [numberAt, numberAt, Entries.get?_put_ne es v h]

theorem Child.filledOptions_read (ch : Child) (p : Spot) (hrow : key ≠ rowKey)
    (hcolumn : key ≠ columnKey) : numberAt (ch.filledOptions p) key = numberAt ch.options key := by
  rw [Child.filledOptions]
  split
  · rfl
  · rw [numberAt_put_ne _ _ hcolumn, numberAt_put_ne _ _ hrow]

theorem Child.filledOptions_rowSpan (ch : Child) (p : Spot) :
    numberAt (ch.filledOptions p) rowSpanKey = .ok (ch.rowSpan : Int) :=
  (ch.filledOptions_read p (by decide) (by decide)).trans ch.rowSpan_read

theorem Child.filledOptions_columnSpan (ch : Child) (p : Spot) :
    numberAt (ch.filledOptions p) columnSpanKey = .ok (ch.columnSpan : Int) :=
  (ch.filledOptions_read p (by decide) (by decide)).trans ch.columnSpan_read

theorem settle_cases (hshared : g.shared = false) (h : Holds taken earlier) (number : Nat)
    (hrow : p.rowSpan = ch.rowSpan) (hcolumn : p.columnSpan = ch.columnSpan) :
    Room g earlier p
      ∧ (∃ taken', settle g number (ch.filledOptions p) p.row p.column taken
        = .ok (ch.filledOptions p, taken') ∧ Holds taken' (earlier ++ [p]))
    ∨ ¬ Room g earlier p ∧ ∃ message,
      settle g number (ch.filledOptions p) p.row p.column taken = .error (.invalid message) := by
  rw [settle, ch.filledOptions_rowSpan, ch.filledOptions_columnSpan, ← hrow, ← hcolumn]
  by_cases hzero : p.rowSpan = 0
  · -- a rectangle without rows covers nothing
    have hnone : ∀ r c, ¬ p.Covers r c := by
      rintro r c ⟨hr, -⟩
      omega
    refine .inl ⟨fun r c hcov => absurd hcov (hnone r c), taken, by rw [hzero]; rfl, fun r c => ?_⟩
    rw [covered_append, h r c]
    simp [hnone r c]
  · have hpos : ¬ ((p.rowSpan : Int) ≤ 0) := by omega
    simp only [bind, Except.bind, if_neg hpos]
    rcases occupy_cases hshared h number p with ⟨hroom, taken', hrun, hholds⟩ | ⟨hnot, message, hrun⟩
    · exact .inl ⟨hroom, taken', by rw [hrun]; rfl, hholds⟩
    · exact .inr ⟨hnot, message, by rw [hrun]⟩

theorem Stands.unique {r' c' : Nat} (h : Stands g earlier ch r c) (h' : Stands g earlier ch r' c') :
    r = r' ∧ c = c' := by
  unfold Stands at h h'
  cases hrow : ch.row <;> cases hcolumn : ch.column <;> rw [hrow, hcolumn] at h h'
  · exact FirstFree.unique h h'
  · exact h.elim
  · exact h.elim
  · exact ⟨h.1.trans h'.1.symm, h.2.trans h'.2.symm⟩

theorem place_eq_settle (ch : Child) (h : Holds taken earlier) (number : Nat) :
    (∃ r c, Stands g earlier ch r c ∧ place g number ch.options taken
      = settle g number (ch.filledOptions ⟨r, c, ch.rowSpan, ch.columnSpan⟩) r c taken)
    ∨ (∀ r c, ¬ Stands g earlier ch r c)
      ∧ ∃ message, place g number ch.options taken = .error (.invalid message) := by
  unfold Stands Child.filledOptions
  rw [place, ch.has_row, ch.has_column]
  cases hrow : ch.row with
  | some r =>
    cases hcolumn : ch.column with
    | some c =>
      rw [ch.row_read r hrow, ch.column_read c hcolumn]
      exact .inl ⟨r, c, ⟨rfl, rfl⟩, rfl⟩
    | none => exact .inr ⟨fun _ _ => id, _, rfl⟩
  | none =>
    cases hcolumn : ch.column with
    | some c => exact .inr ⟨fun _ _ => id, _, rfl⟩
    | none =>
      cases hf : firstFree? g taken with
      | none => exact .inr ⟨firstFree?_eq_none h hf, _, rfl⟩
      | some x => exact .inl ⟨x.1, x.2, firstFree?_eq_some h hf, rfl⟩

theorem fits_iff_room {r c : Nat} (hstands : Stands g earlier ch r c) : Fits g earlier ch p
    ↔ p = ⟨r, c, ch.rowSpan, ch.columnSpan⟩ ∧ Room g earlier p := by
  constructor
  · intro hfit
    obtain ⟨rfl, rfl⟩ := hstands.unique hfit.stands
    rw [← hfit.rowSpan_eq, ← hfit.columnSpan_eq]
    exact ⟨rfl, fun r c hcov => ⟨hfit.inside r c hcov, hfit.apart r c hcov⟩⟩
  · rintro ⟨rfl, hroom⟩
    exact ⟨rfl, rfl, hstands, fun r c hcov => (hroom r c hcov).1, fun r c hcov => (hroom r c hcov).2⟩

theorem place_cases (hshared : g.shared = false) (h : Holds taken earlier) (number : Nat) :
    (∃ p taken', (∀ p', Fits g earlier ch p' ↔ p' = p)
      ∧ place g number ch.options taken = .ok (ch.filledOptions p, taken')
      ∧ Holds taken' (earlier ++ [p]))
    ∨ (∀ p, ¬ Fits g earlier ch p)
      ∧ ∃ message, place g number ch.options taken = .error (.invalid message) := by
  rcases place_eq_settle ch h number with ⟨r, c, hstands, hplace⟩ | ⟨hnone, hrefused⟩
  · rw [hplace]
    simp only [fits_iff_room hstands]
    rcases settle_cases hshared h number (p := ⟨r, c, ch.rowSpan, ch.columnSpan⟩) rfl rfl
      with ⟨hroom, taken', hrun, hholds⟩ | ⟨hnot, hrefused⟩
    · exact .inl ⟨_, taken', fun p => and_iff_left_of_imp (· ▸ hroom), hrun, hholds⟩
    · exact .inr ⟨fun p hp => hnot (hp.1 ▸ hp.2), hrefused⟩
  · exact .inr ⟨fun p hfit => hnone _ _ hfit.stands, hrefused⟩

/-! ## All children -/

theorem placeAll_cons_ok {taken' : Cells} {es : Entries} (ws : List Value)
    (h : place g number ch.options taken = .ok (es, taken')) :
    placeAll g number (ch.value :: ws) taken
      = (placeAll g (number + 1) ws taken').map (.dict ((ch.kind, .dict es) :: ch.others) :: ·) := by
  rw [Child.value, placeAll, h]
  show (placeAll g (number + 1) ws taken' >>= fun placed => _) = _
  cases placeAll g (number + 1) ws taken' <;> rfl

theorem placeAll_cases (hshared : g.shared = false) (children : List Child) (number : Nat)
    (h : Holds taken earlier) :
    (∃ spots, (∀ spots', FirstFit g earlier children spots' ↔ spots' = spots)
      ∧ placeAll g number (children.map Child.value) taken
        = .ok (zipWith Child.filled children spots))
    ∨ (∀ spots, ¬ FirstFit g earlier children spots)
      ∧ ∃ k message, FirstToBreak g earlier children k
        ∧ placeAll g number (children.map Child.value) taken
          = .error (.invalidAt [.key "widgets", .index (number + k)] message) := by
  induction children generalizing earlier number taken with
  | nil =>
    refine .inl ⟨[], fun spots => ⟨fun hfit => ?_, fun hnil => hnil ▸ .nil earlier⟩, rfl⟩
    cases hfit
    rfl
  | cons ch rest ih =>
    rw [map_cons]
    rcases place_cases hshared h number with ⟨p, taken', hp, hplace, h'⟩ | ⟨hbad, message, hplace⟩
    · have hfit := (hp p).mpr rfl
      rw [placeAll_cons_ok _ hplace]
      rcases ih (number + 1) h' with ⟨spots, hspots, hrest⟩ | ⟨hnone, k, message, hbreak, hrest⟩
      · refine .inl ⟨p :: spots, fun spots' => ⟨fun hall => ?_, fun heq => ?_⟩, by rw [hrest]; rfl⟩
        · cases hall with
          | cons hhead htail =>
            obtain rfl := (hp _).mp hhead
            rw [(hspots _).mp htail]
        · exact heq ▸ .cons hfit ((hspots _).mpr rfl)
      · refine .inr ⟨fun spots hall => ?_, k + 1, message, ?_, ?_⟩
        · cases hall with
          | cons hhead htail =>
            obtain rfl := (hp _).mp hhead
            exact hnone _ htail
        · obtain ⟨before, bad, after, spots, rfl, rfl, hspots, hbad⟩ := hbreak
          refine ⟨ch :: before, bad, after, p :: spots, rfl, rfl, .cons hfit hspots, ?_⟩
          rwa [append_assoc] at hbad
        · rw [hrest, Nat.add_right_comm]
          rfl
    · refine .inr ⟨fun spots hall => ?_, 0, message, ⟨[], ch, rest, [], rfl, rfl, .nil _, ?_⟩, ?_⟩
      · cases hall with
        | cons hhead _ => exact hbad _ hhead
      · rwa [append_nil]
      · rw [Child.value, placeAll, hplace]
        rfl

/-! ## Size texts -/

theorem not_isBlank_of_digit {c : Char} (h : (digitValue? c).isSome = true) :
    isBlank c = false := by
  have hruns : (digitRuns.all fun start => (range 10).all fun k =>
      !isBlank (Char.ofNat (start + k))) = true := by decide +kernel
  rw [digitValue?, Option.isSome_map, find?_isSome] at h
  obtain ⟨start, hmem, hin⟩ := h
  simp only [Bool.and_eq_true, decide_eq_true_eq] at hin
  have hk := all_eq_true.mp (all_eq_true.mp hruns start hmem) (c.toNat - start)
    (mem_range.mpr (by omega))
  rwa [Nat.add_sub_cancel' hin.1, Char.ofNat_toNat, Bool.not_eq_true'] at hk

theorem dropWhile_blanks (hbs : Blanks bs) (hrest : ∀ c ∈ rest.head?, isBlank c = false) :
    (bs ++ rest).dropWhile isBlank = rest := by
  rw [dropWhile_append_of_pos hbs]
  cases rest with
  | nil => rfl
  | cons c cs => rw [dropWhile_cons_of_neg (by simp [hrest c rfl])]

theorem plainDigits_append (hds : Digits n ds) (hrest : ∀ c ∈ rest.head?, digitValue? c = none) :
    plainDigits (ds ++ rest) = (some n, rest) := by
  obtain ⟨hne, hall, rfl⟩ := hds
  have htake : (ds ++ rest).takeWhile (fun c => (digitValue? c).isSome) = ds := by
    rw [takeWhile_append_of_pos hall]
    cases rest with
    | nil => simp
    | cons c cs => rw [takeWhile_cons_of_neg (by simp [hrest c rfl]), append_nil]
  have hempty : ds.isEmpty = false := by
    cases ds with
    | nil => exact absurd rfl hne
    | cons c cs => rfl
  rw [plainDigits]
  simp only [htake, hempty, Bool.false_eq_true, if_false, drop_left]

theorem head?_digits_not_blank (hds : Digits n ds) (rest : List Char) :
    ∀ c ∈ (ds ++ rest).head?, isBlank c = false := by
  obtain ⟨hne, hall, -⟩ := hds
  cases ds with
  | nil => exact absurd rfl hne
  | cons d ds =>
    rintro c ⟨⟩
    exact not_isBlank_of_digit (hall d mem_cons_self)

theorem digitValue?_eq_none_of_blank {c : Char} (h : isBlank c = true) : digitValue? c = none := by
  cases hd : digitValue? c with
  | none => rfl
  | some n =>
    have := not_isBlank_of_digit (c := c) (by rw [hd]; rfl)
    rw [h] at this
    exact nomatch this

theorem head?_blanks_not_digit (hbs : Blanks bs) (hrest : ∀ c ∈ rest.head?, digitValue? c = none) :
    ∀ c ∈ (bs ++ rest).head?, digitValue? c = none := by
  cases bs with
  | nil => exact hrest
  | cons b bs =>
    rintro c ⟨⟩
    exact digitValue?_eq_none_of_blank (hbs b mem_cons_self)

theorem sizeOf?_of_sizeText {s : String} (h : SizeText rows columns s) :
    sizeOf? s = some (rows, columns) := by
  obtain ⟨b₁, r, b₂, b₃, c, b₄, hs, hr, hc, h₁, h₂, h₃, h₄⟩ := h
  have hx : ∀ cs : List Char, ∀ d ∈ ('x' :: cs).head?, isBlank d = false := by
    rintro cs d ⟨⟩
    decide
  have hx' : ∀ cs : List Char, ∀ d ∈ ('x' :: cs).head?, digitValue? d = none := by
    rintro cs d ⟨⟩
    decide
  have hend : b₄.dropWhile isBlank = [] := by
    have := @dropWhile_blanks b₄ [] h₄ (by simp)
    rwa [append_nil] at this
  have hend' : ∀ d ∈ b₄.head?, digitValue? d = none := by
    have := @head?_blanks_not_digit b₄ [] h₄ (by simp)
    rwa [append_nil] at this
  rw [sizeOf?, sizePair?, hs, dropWhile_blanks h₁ (head?_digits_not_blank hr _),
    plainDigits_append hr (head?_blanks_not_digit h₂ (hx' _))]
  simp only [dropWhile_blanks h₂ (hx _)]
  rw [dropWhile_blanks h₃ (head?_digits_not_blank hc _), plainDigits_append hc hend']
  simp [hend]
/-! ## The container -/

def trackOptions (rows columns : Nat) : Entries :=
  [("type", .str "grid"),
    ("grid_rows", .list (List.replicate rows (.str "LV_GRID_FR(1)"))),
    ("grid_columns", .list (List.replicate columns (.str "LV_GRID_FR(1)")))]

theorem layoutOf_size {v : Value} {text : String} (hl : config.get? "layout" = some v)
    (htext : v.text? = some text) (hsize : sizeOf? text = some (rows, columns)) :
    layoutOf config = .ok (config.put "layout" (equalTracks rows columns),
      trackOptions rows columns) := by
  rw [layoutOf, hl]
  cases v with
  | dict es => exact nomatch htext
  | _ => simp only [htext, hsize, equalTracks, trackOptions]

theorem arrange_tracks {layout : Entries} {type : Value} {word : String} {rows columns : List Value}
    (hlayout : layoutOf config = .ok (settled, layout))
    (htype : layout.get? "type" = some type) (hword : type.text? = some word)
    (hlower : lower word = "grid")
    (hrows : layout.get? "grid_rows" = some (.list rows))
    (hcolumns : layout.get? "grid_columns" = some (.list columns))
    (hshared : ((layout.get? "multiple_widgets_per_cell").getD (.bool false)).truthy
      = false) (hws : settled.get? "widgets" = some (.list ws)) :
    arrange config = (placeAll ⟨rows.length, columns.length, false⟩ 0 ws []).map fun placed =>
      settled.put "widgets" (.list placed) := by
  have hr : trackCount layout "grid_rows" = .ok rows.length := by rw [trackCount, hrows]; rfl
  have hc : trackCount layout "grid_columns" = .ok columns.length := by
    rw [trackCount, hcolumns]; rfl
  have hshape : shapeOf layout = .ok ⟨rows.length, columns.length, false⟩ := by
    simp only [shapeOf, bind, Except.bind, htype, Option.map_some, hword, hlower, hr, hc, hshared]
    rfl
  rw [arrange, hlayout]
  simp only [bind, Except.bind, hshape, placeWidgets, hws]

theorem arrange_eq (hgrid : AsksGrid config rows columns settled)
    (hws : config.get? "widgets" = some (.list ws)) :
    arrange config = (placeAll ⟨rows, columns, false⟩ 0 ws []).map fun placed =>
      settled.put "widgets" (.list placed) := by
  cases hgrid with
  | @tracks layout _ _ _ _ hl htype hword hlower hrows hcolumns hshared =>
    have hlayout : layoutOf config = .ok (config, layout) := by rw [layoutOf, hl]
    exact arrange_tracks hlayout htype hword hlower hrows hcolumns hshared hws
  | size hl htext hsize =>
    have hws' : Entries.get? (config.put "layout" (equalTracks rows columns)) "widgets"
        = some (.list ws) := by
      rw [Entries.get?_put_ne config _ (by decide), hws]
    have htype : Entries.get? (trackOptions rows columns) "type" = some (.str "grid") := rfl
    have h := arrange_tracks (layoutOf_size hl htext (sizeOf?_of_sizeText hsize)) htype rfl
      (by decide) rfl rfl rfl hws'
    rw [length_replicate, length_replicate] at h
    exact h

theorem arrange_cases (children : List Child) (hgrid : AsksGrid config rows columns settled)
    (hws : config.get? "widgets" = some (.list (children.map Child.value))) :
    (∃ spots, (∀ spots', FirstFit ⟨rows, columns, false⟩ [] children spots' ↔ spots' = spots)
      ∧ arrange config
        = .ok (settled.put "widgets" (.list (zipWith Child.filled children spots))))
    ∨ (∀ spots, ¬ FirstFit ⟨rows, columns, false⟩ [] children spots)
      ∧ ∃ k message, FirstToBreak ⟨rows, columns, false⟩ [] children k
        ∧ arrange config = .error (.invalidAt [.key "widgets", .index k] message) := by
  rw [arrange_eq hgrid hws]
  rcases placeAll_cases (g := ⟨rows, columns, false⟩) rfl children 0 holds_nil
    with ⟨spots, hspots, hplace⟩ | ⟨hnone, k, message, hbreak, hplace⟩ <;> rw [hplace]
  · exact .inl ⟨spots, hspots, rfl⟩
  · exact .inr ⟨hnone, k, message, hbreak, by rw [Nat.zero_add]; rfl⟩

/-- **First fit.**  The children of a grid that does not share cells get exactly
    the places of `FirstFit`, and nothing else changes but a size text, which is
    written out as tracks.  Without such places the container is refused at the
    first child that has none, and with no other failure. -/
theorem arrange_first_fit {config settled : Entries} {rows columns : Nat}
    (children : List Child) (hgrid : AsksGrid config rows columns settled)
    (hws : Entries.get? config "widgets" = some (.list (children.map Child.value))) :
    (∀ done, arrange config = .ok done ↔
      ∃ spots, FirstFit ⟨rows, columns, false⟩ [] children spots ∧
        done = Entries.put settled "widgets" (.list (List.zipWith Child.filled children spots))) ∧
    ((¬ ∃ spots, FirstFit ⟨rows, columns, false⟩ [] children spots) →
      ∃ k message, FirstToBreak ⟨rows, columns, false⟩ [] children k ∧
        arrange config = .error (.invalidAt [.key "widgets", .index k] message)) := by
  rcases arrange_cases children hgrid hws
    with ⟨spots, hspots, harrange⟩ | ⟨hnone, k, message, hbreak, harrange⟩ <;> rw [harrange]
  · have hfit := (hspots spots).mpr rfl
    refine ⟨fun done => ⟨fun hdone => ⟨spots, hfit, (Except.ok.inj hdone).symm⟩, ?_⟩,
      fun hnone => absurd ⟨spots, hfit⟩ hnone⟩
    rintro ⟨spots', hfit', rfl⟩
    rw [(hspots spots').mp hfit']
  · refine ⟨fun done => ⟨nofun, ?_⟩, fun _ => ⟨k, message, hbreak, rfl⟩⟩
    rintro ⟨spots, hfit, -⟩
    exact absurd hfit (hnone spots)

/-- A child that asks for two cells side by side, wherever there is room. -/
def wideChild : Child where
  kind := "button"
  options := [("grid_cell_row_span", .int 1), ("grid_cell_column_span", .int 2)]
  row := none
  column := none
  rowSpan := 1
  columnSpan := 2
  has_row := rfl
  has_column := rfl
  row_read := by simp
  column_read := by simp
  rowSpan_read := rfl
  columnSpan_read := rfl

def cornerChild : Child where
  kind := "label"
  options := [("grid_cell_row_pos", .int 0), ("grid_cell_column_pos", .int 0),
    ("grid_cell_row_span", .int 1), ("grid_cell_column_span", .int 1)]
  row := some 0
  column := some 0
  rowSpan := 1
  columnSpan := 1
  has_row := rfl
  has_column := rfl
  row_read := by simp [numberAt, Entries.get?, rowKey, Test.intOf?]
  column_read := by simp [numberAt, Entries.get?, columnKey, Test.intOf?]
  rowSpan_read := rfl
  columnSpan_read := rfl

/-- A grid of a size text: one child at the first cell, two that go where there is
    room, the second of them into the next row. -/
theorem arrange_first_fit_size_text :
    arrange [("layout", .str "2 x 3"),
        ("widgets", .list [cornerChild.value, wideChild.value, wideChild.value])]
      = .ok [("layout", equalTracks 2 3),
        ("widgets", .list [cornerChild.value, wideChild.filled ⟨0, 1, 1, 2⟩,
          wideChild.filled ⟨1, 0, 1, 2⟩])] := by
  have hgrid : AsksGrid [("layout", .str "2 x 3"),
      ("widgets", .list [cornerChild.value, wideChild.value, wideChild.value])] 2 3 _ :=
    .size rfl rfl ⟨[], ['2'], [' '], [' '], ['3'], [], rfl, by simp [Digits]; decide,
      by simp [Digits]; decide, by simp [Blanks], by simp [Blanks]; decide,
      by simp [Blanks]; decide, by simp [Blanks]⟩
  refine ((arrange_first_fit [cornerChild, wideChild, wideChild] hgrid rfl).1 _).mpr
    ⟨[⟨0, 0, 1, 1⟩, ⟨0, 1, 1, 2⟩, ⟨1, 0, 1, 2⟩], ?_, rfl⟩
  refine .cons ⟨rfl, rfl, ⟨rfl, rfl⟩, ?_, ?_⟩ (.cons ⟨rfl, rfl, ⟨?_, ?_, ?_, ?_⟩, ?_, ?_⟩
    (.cons ⟨rfl, rfl, ⟨?_, ?_, ?_, ?_⟩, ?_, ?_⟩ (.nil _)))
  all_goals simp [Covered, Spot.Covers]
  all_goals omega

end Grid

end Panel
