import Panel.Proofs.GridPlacement

/-! # Arranging a grid twice

    The first run fills in the positions that children leave open and writes a size text out as
    tracks, so the second run meets neither.  It takes the branch for given positions at every
    child, and its table of taken cells is that of the first run at every step. -/

namespace Panel

open List

variable {column row : Int} {placed ws : List Value} {config layout : Entries}

theorem Except.of_bind_eq_ok {ε α β : Type} {x : Except ε α} {f : α → Except ε β} {b : β}
    (h : (x >>= f) = .ok b) : ∃ a, x = .ok a ∧ f a = .ok b := by
  cases x with
  | error e => cases h
  | ok a => exact ⟨a, rfl, h⟩

namespace Grid

variable {g : Shape} {number : Nat} {taken taken' : Cells} {es es' : Entries}

/-! ## One child -/

/-- Options that give both positions, as numbers. -/
structure GivesPlace (es : Entries) (row column : Int) : Prop where
  row_read : numberAt es rowKey = .ok row
  column_read : numberAt es columnKey = .ok column

theorem has_of_numberAt {key : String} {n : Int} (h : numberAt es key = .ok n) :
    es.has key = true := by
  rw [numberAt] at h
  rw [Entries.has_eq_isSome]
  cases hget : es.get? key with
  | none =>
    rw [hget] at h
    cases h
  | some v => rfl

theorem GivesPlace.place_eq (h : GivesPlace es row column) :
    place g number es taken = settle g number es row column taken := by
  rw [place, has_of_numberAt h.row_read, has_of_numberAt h.column_read, h.row_read, h.column_read]
  rfl

theorem givesPlace_put (es : Entries) (row column : Nat) :
    GivesPlace (Entries.put (es.put rowKey (.int row)) columnKey (.int column)) row
      column where
  row_read := by
    rw [numberAt_put_ne _ _ (by decide), numberAt, Entries.get?_put_self]
    rfl
  column_read := by
    rw [numberAt, Entries.get?_put_self]
    rfl

theorem settle_keeps (h : settle g number es row column taken = .ok (es', taken')) : es' = es := by
  rw [settle] at h
  obtain ⟨rowSpan, -, h⟩ := Except.of_bind_eq_ok h
  split at h
  · cases h
    rfl
  · obtain ⟨columnSpan, -, h⟩ := Except.of_bind_eq_ok h
    obtain ⟨cells, -, h⟩ := Except.of_bind_eq_ok h
    cases h
    rfl

section

variable (h : place g number es taken = .ok (es', taken'))

include h

/-- What placing a child gives: options with a place, and the table with that place taken. -/
theorem place_eq_ok :
    ∃ row column, GivesPlace es' row column
      ∧ settle g number es' row column taken = .ok (es', taken') := by
  have hfilled : ∃ filled row column, GivesPlace filled row column
      ∧ settle g number filled row column taken = .ok (es', taken') := by
    rw [place] at h
    split at h
    · cases h
    · cases hrow : es.has rowKey with
      | true =>
        rw [hrow] at h
        obtain ⟨row, hr, h⟩ := Except.of_bind_eq_ok h
        obtain ⟨column, hc, hsettle⟩ := Except.of_bind_eq_ok h
        exact ⟨es, row, column, ⟨hr, hc⟩, hsettle⟩
      | false =>
        rw [hrow] at h
        cases hfree : firstFree? g taken with
        | none =>
          rw [hfree] at h
          cases h
        | some cell =>
          obtain ⟨r, c⟩ := cell
          rw [hfree] at h
          exact ⟨_, r, c, givesPlace_put es r c, h⟩
  -- taking the cells leaves the options as they are
  obtain ⟨filled, row, column, hgives, hsettle⟩ := hfilled
  obtain rfl := settle_keeps hsettle
  exact ⟨row, column, hgives, hsettle⟩

/-- The step: a child with its place is placed there again, and takes the same cells. -/
theorem place_again :
    place g number es' taken = .ok (es', taken') := by
  obtain ⟨row, column, hgives, hsettle⟩ := place_eq_ok h
  rw [hgives.place_eq, hsettle]

end

/-! ## All children -/

theorem placeAll_cons_eq_ok {w : Value} (h : placeAll g number (w :: ws) taken = .ok placed) :
    ∃ kind es others es' taken' rest, w = .dict ((kind, .dict es) :: others)
      ∧ place g number es taken = .ok (es', taken')
      ∧ placeAll g (number + 1) ws taken' = .ok rest
      ∧ placed = .dict ((kind, .dict es') :: others) :: rest := by
  cases w with
  | dict entry =>
    cases entry with
    | nil => cases h
    | cons first others =>
      obtain ⟨kind, v⟩ := first
      cases v with
      | dict es =>
        rw [placeAll] at h
        cases hplace : place g number es taken with
        | error e =>
          rw [hplace] at h
          cases h
        | ok r =>
          obtain ⟨es', taken'⟩ := r
          rw [hplace] at h
          obtain ⟨_, hpair, h⟩ := Except.of_bind_eq_ok h
          cases hpair
          obtain ⟨rest, hrest, h⟩ := Except.of_bind_eq_ok h
          cases h
          exact ⟨kind, es, others, es', taken', rest, rfl, hplace, hrest, rfl⟩
      | _ => cases h
  | _ => cases h

/-- A child that gives both its positions. -/
def Placed (w : Value) : Prop :=
  ∃ kind es others row column, w = .dict ((kind, .dict es) :: others) ∧ GivesPlace es row column

/-- The run: by induction on the children, with the table of the first run in both. -/
theorem placeAll_again (h : placeAll g number ws taken = .ok placed) :
    placeAll g number placed taken = .ok placed ∧ ∀ w ∈ placed, Placed w := by
  induction ws generalizing number taken placed with
  | nil =>
    cases h
    exact ⟨rfl, forall_mem_nil _⟩
  | cons w ws ih =>
    obtain ⟨kind, es, others, es', taken', rest, rfl, hplace, hrest, rfl⟩ := placeAll_cons_eq_ok h
    obtain ⟨hagain, hplaced⟩ := ih hrest
    refine ⟨?_, ?_⟩
    · rw [placeAll, place_again hplace]
      simp only [bind, Except.bind, hagain]
      rfl
    obtain ⟨row, column, hgives, -⟩ := place_eq_ok hplace
    exact forall_mem_cons.mpr ⟨⟨kind, es', others, row, column, rfl, hgives⟩, hplaced⟩

/-! ## The container -/

theorem layoutOf_of_tracks (h : config.get? "layout" = some (.dict layout)) :
    layoutOf config = .ok (config, layout) := by
  rw [layoutOf, h]

theorem layoutOf_gives {settled : Entries} (h : layoutOf config = .ok (settled, layout)) :
    settled.get? "layout" = some (.dict layout)
      ∧ ∀ key, key ≠ "layout" → settled.get? key = config.get? key := by
  cases hl : config.get? "layout" with
  | none =>
    rw [layoutOf, hl] at h
    cases h
  | some v =>
    cases htext : v.text? with
    | none =>
      cases v with
      | dict es =>
        rw [layoutOf_of_tracks hl] at h
        cases h
        exact ⟨hl, fun _ _ => rfl⟩
      | _ =>
        simp only [layoutOf, hl, htext] at h
        cases h
    | some text =>
      cases hsize : sizeOf? text with
      | none =>
        rw [layoutOf, hl] at h
        cases v with
        | dict es => cases htext
        | _ =>
          simp only [htext, hsize] at h
          cases h
      | some size =>
        obtain ⟨rows, columns⟩ := size
        rw [layoutOf_size hl htext hsize] at h
        cases h
        exact ⟨Entries.get?_put_self _ _ _, fun _ hkey => Entries.get?_put_ne config _ hkey⟩

theorem placeWidgets_again {done : Entries} (h : placeWidgets g config = .ok done) :
    placeWidgets g done = .ok done ∧ (∀ key, key ≠ "widgets" → done.get? key = config.get? key)
      ∧ ∀ ws, done.get? "widgets" = some (.list ws) → ∀ w ∈ ws, Placed w := by
  rw [placeWidgets] at h
  cases hws : config.get? "widgets" with
  | none =>
    rw [hws] at h
    cases h
    refine ⟨by rw [placeWidgets, hws], fun _ _ => rfl, fun ws hlist => ?_⟩
    rw [hws] at hlist
    cases hlist
  | some v =>
    rw [hws] at h
    cases v with
    | list ws =>
      simp only at h
      cases hplace : placeAll g 0 ws [] with
      | error e =>
        rw [hplace] at h
        cases h
      | ok placed =>
        rw [hplace] at h
        cases h
        obtain ⟨hagain, hplaced⟩ := placeAll_again hplace
        have hget := Entries.get?_put_self config "widgets" (.list placed)
        refine ⟨?_, fun _ hkey => Entries.get?_put_ne config _ hkey, fun ws hlist => ?_⟩
        · simp only [placeWidgets, hget, hagain]
          exact congrArg Except.ok (Entries.put_of_get? hget)
        · rw [hget] at hlist
          cases hlist
          exact hplaced
    | _ => cases h

/-- A container whose layout is a dictionary and whose children all give their positions. -/
structure WrittenOut (config : Entries) : Prop where
  layout : ∃ layout, Entries.get? config "layout" = some (.dict layout)
  placed : ∀ ws, Entries.get? config "widgets" = some (.list ws) → ∀ w ∈ ws, Placed w

/-- **Arranging is idempotent.**  Whatever grid is accepted, by its tracks or by a size text, with
    cells shared or not: in the container that is returned, the layout is a dictionary and every
    child gives its position, and arranging that container accepts it and changes nothing. -/
theorem arrange_idempotent {config done : Entries} (h : arrange config = .ok done) :
    WrittenOut done ∧ arrange done = .ok done := by
  rw [arrange] at h
  obtain ⟨⟨settled, layout⟩, hlayout, h⟩ := Except.of_bind_eq_ok h
  obtain ⟨g, hshape, hplace⟩ := Except.of_bind_eq_ok h
  obtain ⟨hagain, hkept, hplaced⟩ := placeWidgets_again hplace
  have hdone : done.get? "layout" = some (.dict layout) :=
    (hkept "layout" (by decide)).trans (layoutOf_gives hlayout).1
  refine ⟨⟨⟨layout, hdone⟩, hplaced⟩, ?_⟩
  rw [arrange, layoutOf_of_tracks hdone]
  show (shapeOf layout >>= fun g => placeWidgets g done) = _
  rw [hshape]
  exact hagain

/-- A column of two cells, which may hold several children: two at the first cell, and one that
    covers nothing. -/
def sharedColumn (position : Entries) : Entries :=
  [("layout", .dict [("type", .str "GRID"), ("grid_rows", .list [.int 20, .str "LV_GRID_CONTENT"]),
      ("grid_columns", .list [.str "LV_GRID_FR(1)"]), ("multiple_widgets_per_cell", .bool true)]),
    ("widgets", .list [cornerChild.value, cornerChild.value, .dict [("obj", .dict
      ([("grid_cell_row_span", .int 0), ("grid_cell_column_span", .int 1)] ++ position))]])]

/-- The child that leaves its position open is put on the second cell, and stays there. -/
theorem arrange_idempotent_sharedColumn :
    arrange (sharedColumn [])
      = .ok (sharedColumn [("grid_cell_row_pos", .int 1), ("grid_cell_column_pos", .int 0)])
    ∧ arrange (sharedColumn [("grid_cell_row_pos", .int 1), ("grid_cell_column_pos", .int 0)])
      = .ok (sharedColumn [("grid_cell_row_pos", .int 1), ("grid_cell_column_pos", .int 0)]) := by
  have hfirst : arrange (sharedColumn [])
      = .ok (sharedColumn [("grid_cell_row_pos", .int 1), ("grid_cell_column_pos", .int 0)]) := rfl
  exact ⟨hfirst, (arrange_idempotent hfirst).2⟩

end Grid

end Panel
