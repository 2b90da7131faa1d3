import Mathlib.Data.List.Forall2
import Panel.Proofs.GridPlacement

/-! # Cells of a grid — which accepted positions are cells of their own

    Whether a child lies inside the grid, on cells that no other child has, is looked at cell by
    cell.  A child without rows or without columns covers no cell, so nothing is looked at for it. -/

namespace Panel

open List

namespace Grid

/-! ## Rectangles -/

namespace Spot

variable {g : Shape} {p q : Spot}

def Solid (p : Spot) : Prop := 0 < p.rowSpan ∧ 0 < p.columnSpan

def OnCell (g : Shape) (p : Spot) : Prop := p.row < g.rows ∧ p.column < g.columns

def EndsInside (g : Shape) (p : Spot) : Prop :=
  p.row + p.rowSpan ≤ g.rows ∧ p.column + p.columnSpan ≤ g.columns

theorem Solid.covers_position (h : p.Solid) : p.Covers p.row p.column := by
  obtain ⟨hrow, hcolumn⟩ := h
  exact ⟨⟨Nat.le_refl _, by omega⟩, Nat.le_refl _, by omega⟩

theorem Solid.covers_end (h : p.Solid) :
    p.Covers (p.row + p.rowSpan - 1) (p.column + p.columnSpan - 1) := by
  obtain ⟨hrow, hcolumn⟩ := h
  exact ⟨⟨by omega, by omega⟩, by omega, by omega⟩

theorem Covers.solid {r c : Nat} (h : p.Covers r c) : p.Solid := by
  obtain ⟨⟨hrow, hrow'⟩, hcolumn, hcolumn'⟩ := h
  exact ⟨by omega, by omega⟩

def Apart (p q : Spot) : Prop := ∀ r c, p.Covers r c → ¬ q.Covers r c

theorem Apart.position_ne (h : p.Apart q) (hp : p.Solid) (hq : q.Solid) :
    (p.row, p.column) ≠ (q.row, q.column) := by
  intro heq
  obtain ⟨hrow, hcolumn⟩ := Prod.mk.inj heq
  refine h p.row p.column hp.covers_position ?_
  rw [hrow, hcolumn]
  exact hq.covers_position

theorem inside_iff :
    (∀ r c, p.Covers r c → r < g.rows ∧ c < g.columns) ↔ (p.Solid → p.EndsInside g) := by
  constructor
  · intro h hp
    obtain ⟨hrow, hcolumn⟩ := h _ _ hp.covers_end
    exact ⟨by omega, by omega⟩
  · intro h r c hc
    obtain ⟨hrow, hcolumn⟩ := h hc.solid
    obtain ⟨⟨-, hr⟩, -, hc⟩ := hc
    exact ⟨by omega, by omega⟩

end Spot

/-! ## Children -/

namespace Fits

variable {g : Shape} {earlier : List Spot} {ch : Child} {p : Spot}

section

variable (h : Fits g earlier ch p)

include h

theorem firstFree (hrow : ch.row = none) :
    FirstFree g earlier p.row p.column := by
  have hstands := h.stands
  rw [Stands, hrow] at hstands
  cases hcolumn : ch.column with
  | none =>
    rw [hcolumn] at hstands
    exact hstands
  | some c =>
    rw [hcolumn] at hstands
    exact hstands.elim

theorem onCell (hp : p.Solid ∨ ch.row = none) : p.OnCell g := by
  rcases hp with hp | hrow
  · exact h.inside _ _ hp.covers_position
  · exact ⟨(h.firstFree hrow).row_lt, (h.firstFree hrow).column_lt⟩

theorem reads : numberAt (ch.filledOptions p) rowKey = .ok (p.row : Int)
      ∧ numberAt (ch.filledOptions p) columnKey = .ok (p.column : Int) := by
  have hstands := h.stands
  cases hrow : ch.row with
  | none =>
    rw [Child.filledOptions, hrow]
    refine ⟨?_, ?_⟩
    · show numberAt (Entries.put _ columnKey _) rowKey = _
      rw [numberAt_put_ne _ _ (by decide), numberAt, Entries.get?_put_self]
      rfl
    · show numberAt (Entries.put _ columnKey _) columnKey = _
      rw [numberAt, Entries.get?_put_self]
      rfl
  | some r =>
    cases hcolumn : ch.column with
    | none =>
      rw [Stands, hrow, hcolumn] at hstands
      exact hstands.elim
    | some c =>
      rw [Stands, hrow, hcolumn] at hstands
      obtain ⟨rfl, rfl⟩ := hstands
      rw [Child.filledOptions, hrow]
      exact ⟨ch.row_read _ hrow, ch.column_read _ hcolumn⟩

end

theorem of_not_solid (hrow : ch.row = some p.row) (hcolumn : ch.column = some p.column)
    (hrowSpan : p.rowSpan = ch.rowSpan) (hcolumnSpan : p.columnSpan = ch.columnSpan)
    (hp : ¬ p.Solid) : Fits g earlier ch p where
  rowSpan_eq := hrowSpan
  columnSpan_eq := hcolumnSpan
  stands := by
    rw [Stands, hrow, hcolumn]
    exact ⟨rfl, rfl⟩
  inside r c hc := absurd hc.solid hp
  apart r c hc := absurd hc.solid hp

end Fits

variable {ch : Child} {p : Spot}

namespace FirstFit

variable {g : Shape} {earlier : List Spot} {children : List Child} {spots : List Spot}

section

variable (h : FirstFit g earlier children spots)

include h

theorem fits :
    List.Forall₂ (fun ch p => ∃ before, Fits g before ch p) children spots := by
  induction h with
  | nil earlier => exact .nil
  | cons hhead _ ih => exact .cons ⟨_, hhead⟩ ih

theorem concat (hp : ∀ before, Fits g before ch p) :
    FirstFit g earlier (children ++ [ch]) (spots ++ [p]) := by
  induction h with
  | nil earlier => exact .cons (hp earlier) (.nil _)
  | cons hhead _ ih => exact .cons hhead ih

theorem apart :
    (∀ p ∈ spots, ∀ q ∈ earlier, p.Apart q) ∧ spots.Pairwise Spot.Apart := by
  induction h with
  | nil earlier => exact ⟨forall_mem_nil _, .nil⟩
  | @cons earlier ch p rest ps hhead _ ih =>
    obtain ⟨hbefore, hamong⟩ := ih
    constructor
    · intro p' hp' q hq
      rcases mem_cons.mp hp' with rfl | hp'
      · exact fun r c hc hcovers => hhead.apart r c hc ⟨q, hq, hcovers⟩
      · exact hbefore p' hp' q (mem_append_left _ hq)
    · refine .cons (fun p' hp' r c hc hcovers => ?_) hamong
      exact hbefore p' hp' p (mem_append_right _ mem_cons_self) r c hcovers hc

end

end FirstFit

/-! ## Accepted grids -/

/-- A child with the place that its returned options tell.  It is on a cell of the grid and ends
    inside, unless it covers nothing and gave its position itself. -/
structure Settled (g : Shape) (ch : Child) (p : Spot) : Prop where
  row_read : numberAt (ch.filledOptions p) rowKey = .ok (p.row : Int)
  column_read : numberAt (ch.filledOptions p) columnKey = .ok (p.column : Int)
  rowSpan_read : numberAt (ch.filledOptions p) rowSpanKey = .ok (p.rowSpan : Int)
  columnSpan_read : numberAt (ch.filledOptions p) columnSpanKey = .ok (p.columnSpan : Int)
  onCell : p.Solid ∨ ch.row = none → p.OnCell g
  endsInside : p.Solid → p.EndsInside g

theorem Fits.settled {g : Shape} {earlier : List Spot} (h : Fits g earlier ch p) : Settled g ch p where
  row_read := h.reads.1
  column_read := h.reads.2
  rowSpan_read := by rw [h.rowSpan_eq, ch.filledOptions_rowSpan]
  columnSpan_read := by rw [h.columnSpan_eq, ch.filledOptions_columnSpan]
  onCell := h.onCell
  endsInside := Spot.inside_iff.mp h.inside

variable {children : List Child} {settled config : Entries} {columns rows : Nat}

theorem arrange_places {done : Entries} (hgrid : AsksGrid config rows columns settled)
    (hws : config.get? "widgets" = some (.list (children.map Child.value)))
    (hdone : arrange config = .ok done) :
    ∃ spots, FirstFit ⟨rows, columns, false⟩ [] children spots := by
  rcases arrange_cases children hgrid hws with ⟨spots, hspots, -⟩ | ⟨-, k, message, -, h⟩
  · exact ⟨spots, (hspots spots).mpr rfl⟩
  · rw [h] at hdone
    cases hdone

theorem arrange_of_firstFit {spots : List Spot} (hgrid : AsksGrid config rows columns settled)
    (hws : config.get? "widgets" = some (.list (children.map Child.value)))
    (hfit : FirstFit ⟨rows, columns, false⟩ [] children spots) :
    arrange config = .ok (settled.put "widgets" (.list (zipWith Child.filled children spots))) := by
  rcases arrange_cases children hgrid hws with ⟨spots', hspots, h⟩ | ⟨hnone, -⟩
  · rw [h, (hspots spots).mp hfit]
  · exact absurd hfit (hnone spots)

/-- In an accepted grid that does not share cells, every child that covers a cell stands on a cell
    of the grid and ends inside, and no two of them have a cell in common, so no two have the same
    position.  A child that covers nothing stands on a cell if it left its position open.  If it
    gave one, it changes nothing: behind the same children it is accepted at any position. -/
theorem arrange_cells {config settled done : Entries} {rows columns : Nat}
    (children : List Child) (hgrid : AsksGrid config rows columns settled)
    (hws : Entries.get? config "widgets" = some (.list (children.map Child.value)))
    (hdone : arrange config = .ok done) :
    ∃ spots, done = Entries.put settled "widgets" (.list (List.zipWith Child.filled children spots))
      ∧ List.Forall₂ (Settled ⟨rows, columns, false⟩) children spots
      ∧ (spots.Pairwise fun p q =>
          p.Apart q ∧ (p.Solid → q.Solid → (p.row, p.column) ≠ (q.row, q.column)))
      ∧ ∀ (ch : Child) (p : Spot) (config' settled' : Entries), ch.row = some p.row →
          ch.column = some p.column → p.rowSpan = ch.rowSpan → p.columnSpan = ch.columnSpan →
          ¬ p.Solid → AsksGrid config' rows columns settled' →
          Entries.get? config' "widgets" = some (.list ((children ++ [ch]).map Child.value)) →
          arrange config' = .ok (Entries.put settled' "widgets"
            (.list (List.zipWith Child.filled (children ++ [ch]) (spots ++ [p])))) := by
  obtain ⟨spots, hfit⟩ := arrange_places hgrid hws hdone
  rw [arrange_of_firstFit hgrid hws hfit] at hdone
  refine ⟨spots, (Except.ok.inj hdone).symm, ?_, ?_, ?_⟩
  · exact hfit.fits.imp fun ch p ⟨before, h⟩ => h.settled
  · exact hfit.apart.2.imp fun h => ⟨h, h.position_ne⟩
  · intro ch p config' settled' hrow hcolumn hrowSpan hcolumnSpan hp hgrid' hws'
    exact arrange_of_firstFit hgrid' hws'
      (hfit.concat fun before => Fits.of_not_solid hrow hcolumn hrowSpan hcolumnSpan hp)

def flatChild : Child where
  kind := "label"
  options := [("grid_cell_row_pos", .int 5), ("grid_cell_column_pos", .int 5),
    ("grid_cell_row_span", .int 0), ("grid_cell_column_span", .int 1)]
  row := some 5
  column := some 5
  rowSpan := 0
  columnSpan := 1
  has_row := rfl
  has_column := rfl
  row_read := by simp [numberAt, Entries.get?, rowKey, Test.intOf?]
  column_read := by simp [numberAt, Entries.get?, columnKey, Test.intOf?]
  rowSpan_read := rfl
  columnSpan_read := rfl

/-- A grid of one cell takes a child at that cell, and behind it one that stands in row 5. -/
theorem arrange_cells_flat :
    arrange [("layout", .str "1x1"), ("widgets", .list [cornerChild.value, flatChild.value])]
      = .ok [("layout", equalTracks 1 1),
        ("widgets", .list [cornerChild.value, flatChild.value])]
    ∧ ¬ Spot.OnCell ⟨1, 1, false⟩ ⟨5, 5, 0, 1⟩ := by
  have hsize : SizeText 1 1 "1x1" := ⟨[], ['1'], [], [], ['1'], [], rfl, by simp [Digits]; decide,
    by simp [Digits]; decide, by simp [Blanks], by simp [Blanks], by simp [Blanks],
    by simp [Blanks]⟩
  have hone : FirstFit ⟨1, 1, false⟩ [] [cornerChild] [⟨0, 0, 1, 1⟩] := by
    refine .cons ⟨rfl, rfl, ⟨rfl, rfl⟩, ?_, ?_⟩ (.nil _)
    · simp [Spot.Covers]
    · simp [Covered]
  have hgrid : AsksGrid [("layout", .str "1x1"), ("widgets", .list [cornerChild.value])] 1 1 _ :=
    .size rfl rfl hsize
  obtain ⟨spots, hdone, hsettled, -, hflat⟩ := arrange_cells [cornerChild] hgrid rfl
    (arrange_of_firstFit hgrid rfl hone)
  refine ⟨?_, by simp [Spot.OnCell]⟩
  obtain ⟨spot, rfl⟩ : ∃ spot, spots = [spot] := length_eq_one_iff.mp hsettled.length_eq.symm
  refine (hflat flatChild ⟨5, 5, 0, 1⟩ _ _ rfl rfl rfl rfl (by simp [Spot.Solid])
    (.size rfl rfl hsize) rfl).trans ?_
  rfl

end Grid

end Panel
