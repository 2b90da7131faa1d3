import Panel.Proofs.PictureRules
import Panel.Proofs.StyleValues

/-! # Descriptors of grids — what the arrays of a grid hold

    The rows and the columns of a grid are written as the initialisers of two arrays.  What was
    accepted for a track is printed as it is, which is the expression of the library for every size
    but a share of the parent. -/

namespace Panel

open Check Cpp List Test Layout

variable {v : Value} {test : Test} {key : String}

namespace Grid

/-- What is accepted for a row or a column: pixels, a share of the parent, parts of the free space
    and the size of the content; and beyond sizes truth values, lambdas and lists of choices. -/
inductive IsTrack : Value → Prop where
  | pixels (n : Int) : IsTrack (.int n)
  | share (x : Float) : IsTrack (.float x)
  | free (parts : Int) : IsTrack (.str ("LV_GRID_FR(" ++ toString parts ++ ")"))
  | content : IsTrack (.str "LV_GRID_CONTENT")
  | sizeContent : IsTrack (.str "LV_SIZE_CONTENT")
  | truth (b : Bool) : IsTrack (.bool b)
  | computed (body : String) : IsTrack (.lambda body)
  | choices (xs : List Value) : IsTrack (.list xs)

/-- The expression of the library for a track that is a size. -/
def code? : Value → Option String
  | .int n => some (toString n)
  | .float x => some ("lv_pct(" ++ toString ((Text.truncate? (x * 100)).getD 0) ++ ")")
  | .str s => some s
  | _ => none

/-- The initialiser for tracks.  Without tracks its first member is empty. -/
def initialiser (members : List String) : String :=
  "\x7b" ++ String.intercalate "," ((if members.isEmpty then [""] else members)
    ++ [" LV_GRID_TEMPLATE_LAST"]) ++ "\x7d"

theorem tracksText_eq (tracks : List Value) :
    Widget.tracksText (.list tracks) = pure (initialiser (tracks.map Value.show)) := by
  rw [Widget.tracksText, initialiser]
  cases tracks.map Value.show with
  | nil => rfl
  | cons member members =>
    show _ = pure ("\x7b" ++ String.intercalate "," ((member :: members)
      ++ [" LV_GRID_TEMPLATE_LAST"]) ++ "\x7d")
    rw [String.intercalate_append_of_ne_nil (cons_ne_nil _ _) (cons_ne_nil _ _),
      String.intercalate_singleton]
    simp only [String.append_assoc]
    rfl

/-! ## Accepted tracks -/

theorem isTrack_sizes : Property.HasSizes IsTrack := ⟨.pixels, .truth, .share, .sizeContent⟩

theorem validate_tracks (h : (test v).Yields IsTrack) :
    (Property.validateWith none test v).Yields IsTrack := by
  intro s t w hw
  have hrun : (if v.isLambda then returningLambda v else test v : Check Value).on s
      = (.ok w, t) := hw
  split at hrun
  · obtain ⟨body, rfl⟩ := Style.returningLambda_gives ⟨v, s, t, hrun⟩
    exact .computed body
  · exact h s t w hrun

theorem acceptSize_tracks (v : Value) : (Property.acceptSize v).Yields IsTrack := by
  cases hv : Property.asksChoices v with
  | true =>
    rw [Property.acceptSize, hv, if_pos rfl]
    exact .of_pure (.choices _)
  | false => exact Property.acceptSize_yields isTrack_sizes hv

theorem content_tracks (v : Value) : (gridContent.accept v).Yields IsTrack := by
  have hword : ∀ form options (stem : String), (∀ word ∈ options, stem ++ word = "LV_GRID_CONTENT") →
      (do return .str (stem ++ (← wordOf form options v)) : Check Value).Yields IsTrack := by
    intro form options stem hoptions s t x hx
    obtain ⟨got, u, hgot, hx⟩ := on_bind_eq_ok hx
    cases hx
    rw [hoptions got (wordOf_eq_ok hgot).1]
    exact .content
  have hbare := hword { upper := true } gridContent.words gridContent.stem (by decide)
  rw [Constant.accept]
  split
  · exact .of_pure (.choices _)
  · dsimp only
    split
    · split
      · exact hword _ _ "" (by decide)
      · exact hbare
    · exact hbare

theorem freeSpace_tracks (v : Value) : (freeSpace v).Yields IsTrack := by
  rw [freeSpace]
  split
  · have hwhole : ∀ text, (natural (.str text)).Yields fun x => ∃ n, x = .int n := by
      refine fun text => Property.ranged_yields (.bind fun _ => .bind fun _ => ?_) _ _
      dsimp only
      split
      · exact .of_pure ⟨_, rfl⟩
      · exact .of_throw _
    refine .bind_of (hwhole _) ?_
    rintro _ ⟨n, rfl⟩
    exact .of_pure (.free n)
  · exact .of_throw _

theorem track_tracks (v : Value) : (track v).Yields IsTrack := by
  refine Property.anyOfFrom_yields _ (fun test htest => ?_) none
  rcases mem_cons.mp htest with rfl | htest
  · exact validate_tracks (acceptSize_tracks v)
  · rcases mem_pair.mp htest with rfl | rfl
    · exact validate_tracks (content_tracks v)
    · exact freeSpace_tracks v

theorem itemsFrom_sort {P : Value → Prop} (h : ∀ v, (test v).Yields P) {vs : List Value} :
    ∀ {i : Nat} {done ys : List Value} {issues : List Issue} {s u : Session}, (∀ y ∈ done, P y) →
      (itemsFrom test i vs done issues).on s = (.ok ys, u) → ∀ y ∈ ys, P y := by
  induction vs with
  | nil =>
    intro i done ys issues s u hdone hys
    cases issues with
    | nil =>
      cases hys
      exact fun y hy => hdone y (mem_reverse.mp hy)
    | cons issue issues => cases hys
  | cons v vs ih =>
    intro i done ys issues s u hdone hys
    rw [itemsFrom, on_bind_ok _ (on_attempt (guarded test v) s)] at hys
    rcases hv : (guarded test v).on s with ⟨result, u'⟩
    rw [hv] at hys
    cases result with
    | ok w => exact ih (forall_mem_cons.mpr ⟨h v s u' w (guarded_eq_ok hv), hdone⟩) hys
    | error e =>
      cases e with
      | refused found =>
        dsimp only [Failure.within] at hys
        split at hys
        · cases hys
        · exact ih hdone hys
      | _ => cases hys

variable {layout written : Entries} {s t : Session}

section

variable (h : ((Record.of gridFields).run (.dict written)).on s = (.ok (.dict layout), t))

include h

/-- An option that must be there is an answer of its test. -/
theorem accepted_required
    (hfield : (Record.of gridFields).field? key = some (.required key test)) :
    ∃ w, layout.get? key = some w ∧ test.Gives w := by
  obtain ⟨_, es, -, hes, haccepted⟩ := Record.run_accepted (forall_mem_nil _) h
  cases hes
  exact haccepted.there (f := .required key test) hfield (.inr rfl)

theorem accepted_tracks (hkey : key ∈ ["grid_rows", "grid_columns"]) :
    ∃ tracks, layout.get? key = some (.list tracks) ∧ ∀ v ∈ tracks, IsTrack v := by
  have hfield : (Record.of gridFields).field? key = some (.required key (listOf track)) := by
    rcases mem_pair.mp hkey with rfl | rfl <;> rfl
  obtain ⟨w, hw, v, s', t', hgives⟩ := accepted_required h hfield
  cases v with
  | list vs =>
    obtain ⟨ys, u, hys, hdone⟩ := on_bind_eq_ok hgives
    cases hdone
    exact ⟨ys, hw, itemsFrom_sort track_tracks (forall_mem_nil _) hys⟩
  | _ => cases hgives

theorem accepted_type :
    layout.get? "type" = some (.str "grid") := by
  obtain ⟨w, hw, v, s', t', hgives⟩ := accepted_required h
    (show (Record.of gridFields).field? "type" = _ from rfl)
  obtain ⟨got, u, hgot, hdone⟩ := on_bind_eq_ok hgives
  cases hdone
  rw [hw, mem_singleton.mp (wordOf_eq_ok hgot).1]

end

/-! ## Descriptors -/

/-- Writes the array that describes the rows or the columns of a grid, and has a widget use it. -/
def describe (w : Widget) (id : Value) (direction : String) (members : List String) : Check Unit := do
  let array ← Code.constantArray (id.show ++ "_" ++ direction ++ "_dsc")
    (CppType.plain "lv_coord_t") (.cpp (.raw (initialiser members)))
  w.setStyle ("grid_" ++ direction ++ "_dsc_array") (.cpp array) Widget.defaultState

theorem applyTracks_eq {option : String} {tracks : List Value}
    (h : layout.get? option = some (.list tracks)) (w : Widget) (id : Value)
    (direction : String) : w.applyTracks id (.dict layout) option direction
      = describe w id direction (tracks.map Value.show) := by
  rw [Widget.applyTracks, required_of_get? h, pure_bind, tracksText_eq, pure_bind]
  rfl

/-- **Descriptors of grids.**  Whatever layout of a grid is accepted, its rows and columns are lists
    of tracks, and a widget with that layout describes them by two arrays whose members are, in
    order, the tracks as they are printed and the mark of the end.  A track that is printed is the
    expression of the library for it unless it is a share, which is printed as a number. -/
theorem applyLayout_descriptors
    (haccepts : ((Record.of Layout.gridFields).run (.dict written)).on s = (.ok (.dict layout), t)) :
    ∃ rows columns, Entries.get? layout "grid_rows" = some (.list rows)
      ∧ Entries.get? layout "grid_columns" = some (.list columns)
      ∧ (∀ v ∈ rows ++ columns, IsTrack v
        ∧ ((∀ x, v ≠ .float x) → ∀ text, code? v = some text → v.show = text))
      ∧ ∀ (w : Widget) (es : Entries) (id : Value), Entries.get? es "id" = some id →
        w.applyLayout (.dict es) (.dict layout) = (do
          noteUses ["grid"]
          Code.run "lv_obj_set_layout" [.cpp w.obj, .literal "LV_LAYOUT_GRID"]
          w.setStyle "pad_row" ((Entries.get? layout "pad_row").getD .null) Widget.defaultState
          w.setStyle "pad_column" ((Entries.get? layout "pad_column").getD .null) Widget.defaultState
          describe w id "row" (rows.map Value.show)
          describe w id "column" (columns.map Value.show)
          w.setStyle "grid_column_align" (Widget.codeAt (.dict layout) "grid_column_align")
            Widget.defaultState
          w.setStyle "grid_row_align" (Widget.codeAt (.dict layout) "grid_row_align")
            Widget.defaultState) := by
  obtain ⟨rows, hrows, hrow⟩ := accepted_tracks haccepts (mem_pair.mpr (.inl rfl))
  obtain ⟨columns, hcolumns, hcolumn⟩ := accepted_tracks haccepts (mem_pair.mpr (.inr rfl))
  refine ⟨rows, columns, hrows, hcolumns, fun v hv => ?_, fun w es id hid => ?_⟩
  · have htrack := (mem_append.mp hv).elim (hrow v) (hcolumn v)
    refine ⟨htrack, ?_⟩
    intro hshare text htext
    cases htrack with
    | share x => exact absurd rfl (hshare x)
    | truth | computed | choices => cases htext
    | _ => exact Option.some.inj htext
  · rw [Widget.applyLayout, required_of_get? (accepted_type haccepts), pure_bind]
    dsimp only [Value.text?]
    rw [Widget.applyGrid, required_of_get? hid, pure_bind, applyTracks_eq hrows,
      applyTracks_eq hcolumns]
    have hflex : ("grid" == "flex") = false := by decide
    simp only [beq_self_eq_true, hflex, if_true, Bool.false_eq_true, if_false, bind_assoc,
      bind_pure_unit]
    rfl

/-- A grid of two rows, with a column that takes half of its parent. -/
def halfWritten : Entries :=
  [("type", .str "GRID"), ("grid_rows", .list [.int 20, .str "Content"]),
    ("grid_columns", .list [.str "50%"])]

def halfLayout : Entries :=
  [("type", .str "grid"), ("grid_rows", .list [.int 20, .str "LV_GRID_CONTENT"]),
    ("grid_columns", .list [.float (50.0 / 100.0)]), ("multiple_widgets_per_cell", .bool false)]

set_option maxRecDepth 4000 in
theorem halfLayout_accepted : ((Record.of gridFields).run (.dict halfWritten)).on {}
    = (.ok (.dict halfLayout), {}) := rfl

/-- The share stands in the array as a number. -/
theorem applyLayout_descriptors_half :
    ∃ columns, Entries.get? halfLayout "grid_columns" = some (.list columns)
      ∧ (∀ v ∈ columns, IsTrack v) ∧ columns.map Value.show = [Text.floatText (50.0 / 100.0)] := by
  obtain ⟨rows, columns, -, hcolumns, htracks, -⟩ := applyLayout_descriptors halfLayout_accepted
  refine ⟨columns, hcolumns, fun v hv => (htracks v (mem_append_right _ hv)).1, ?_⟩
  obtain rfl := Value.list.inj (Option.some.inj hcolumns)
  rfl

end Grid

end Panel
