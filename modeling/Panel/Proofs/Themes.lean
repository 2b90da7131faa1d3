import Panel.Proofs.CreationOrder
import Panel.Proofs.StyleLevels
import Panel.Style.Theme

/-! # Themes — which widgets the entries of a theme style

    An entry of a theme has the name of a kind of widget.  Its sheets are kept under that name, but
    a widget looks for sheets under a name made from the type of its variable.  For most kinds both
    are the same. -/

namespace Panel

open Cpp List Widget

namespace Style

variable {theme : Entries}

/-! ## The sheets of a theme -/

def partNames (parts : List (String × List (String × Entries))) : List (String × List String) :=
  parts.map fun (part, states) => (part, states.map (·.1))

/-- The parts that a configuration gives properties for, each with its states. -/
def partsOf (style : Value) : List (String × List String) :=
  match ((collectParts style).on {}).1 with
  | .ok parts => partNames parts
  | .error _ => []

theorem collectParts_eq_ok {style : Value} {s t : Session}
    {parts : List (String × List (String × Entries))}
    (h : (collectParts style).on s = (.ok parts, t)) : partNames parts = partsOf style ∧ t = s := by
  obtain ⟨r, hr⟩ := collectParts_still style
  obtain ⟨rfl, rfl⟩ := Prod.mk.inj ((hr s).symm.trans h)
  unfold partsOf
  rw [hr]
  exact ⟨rfl, rfl⟩

def sheetName (entry part state : String) : String :=
  "_lv_theme_style_" ++ entry ++ "_" ++ part ++ "_" ++ state

def sheetsOf (entry : String) (parts : List (String × List String)) :
    List (String × List (String × Expr)) :=
  parts.map fun (part, states) =>
    (part, states.map fun state => (state, Expr.pointer (sheetName entry part state)))

/-- What the entries of a theme add to an object of a kind: those with the name that the kind looks
    under add the sheet of every part and state, the others nothing. -/
def themeLines (theme : Entries) (kind : Kind) (obj : Expr) : List Item :=
  theme.flatMap fun (entry, style) =>
    if entry = kind.typeStem then
      (partsOf style).flatMap fun (part, states) => states.map fun state =>
        Widget.styling obj (.pointer (sheetName entry part state)) part state
    else []

def Gives {α : Type} (b : Build α) (a : α) : Prop :=
  ∀ s, (b s).Ends (Session.Quiet []) fun result t => s.Quiet [] t ∧ ∀ x, result = .ok x → x = a

namespace Gives

variable {α β : Type} {b : Build α} {f : α → Build β} {y : β}

theorem bind {x : α} (hb : Gives b x) (hf : Gives (f x) y) : Gives (b >>= f) y := by
  intro s
  refine (hb s).bind ?_ fun e t ⟨ht, _⟩ => ⟨ht, nofun⟩
  rintro a t ⟨ht, hok⟩
  obtain rfl := hok a rfl
  exact (hf t).mono fun _ u ⟨hu, hy⟩ => ⟨ht.trans hu, hy⟩

theorem of_pure (a : α) : Gives (pure a : Build α) a :=
  fun _ => ⟨.of_traced rfl, fun _ h => (Except.ok.inj h).symm⟩

theorem after (hb : b.Heeds (Quietness.strict.of []))
    (hf : ∀ a, Gives (f a) y) : Gives (b >>= f) y := by
  intro s
  refine (hb.ends s).bind ?_ fun e t ht => ⟨ht, nofun⟩
  exact fun a t ht => (hf a t).mono fun _ u ⟨hu, hy⟩ => ⟨ht.trans hu, hy⟩

end Gives

theorem create_gives (name : String) (style : Value) :
    Gives (create name style) (.pointer name) := by
  let id := Ident.declaration (some name) lvStyle
  have hnew : Gives (liftM (Code.newObject id []) : Build Expr) (.pointer name) := by
    intro s
    rcases hrun : (Code.newObject id []).on s with ⟨result, t⟩
    have hlift : (liftM (Code.newObject id []) : Build Expr) s = .done result t :=
      Build.ofCheck_eq hrun
    have hquiet : (Habit.quiet []).keeps s ((Code.newObject id []).on s).2 :=
      (Code.newObject_keeps id []).on s
    rw [hlift]
    refine ⟨by rwa [hrun] at hquiet, ?_⟩
    rintro e rfl
    exact (Code.newObject_makes id _ hrun).1
  refine hnew.bind (.after (.of_lift (Code.run_quiet _ _)) fun _ => ?_)
  split
  · exact .after (apply_quiet _ style) fun _ => .of_pure _
  · exact .of_pure _

theorem stateSheets_gives (stem : String) (states : List (String × Entries)) :
    Gives (stateSheets stem states)
      (states.map fun (state, _) => (state, Expr.pointer (stem ++ "_" ++ state))) := by
  induction states with
  | nil => exact .of_pure _
  | cons state states ih =>
    exact (create_gives _ _).bind (ih.bind (.of_pure _))

theorem partSheets_gives (entry : String) (parts : List (String × List (String × Entries))) :
    Gives (partSheets ("_lv_theme_style_" ++ entry) parts) (sheetsOf entry (partNames parts)) := by
  induction parts with
  | nil => exact .of_pure _
  | cons part parts ih =>
    refine (stateSheets_gives _ part.2).bind (ih.bind ?_)
    have hstates : (part.2.map fun (state, _) =>
        (state, Expr.pointer ("_lv_theme_style_" ++ entry ++ "_" ++ part.1 ++ "_" ++ state)))
        = (part.2.map (·.1)).map fun state =>
          (state, Expr.pointer (sheetName entry part.1 state)) := by
      rw [map_map]
      rfl
    rw [hstates]
    exact .of_pure _

/-- The sheets that are there after those of a theme have been put among them. -/
def putSheets (table : Theme) : Entries → Theme
  | [] => table
  | (entry, style) :: rest => putSheets (putNamed table entry (sheetsOf entry (partsOf style))) rest

theorem putSheets_new :
    ∀ {table : Theme}, (theme.map (·.1)).Nodup → (∀ e ∈ theme, ∀ x ∈ table, x.1 ≠ e.1) →
      putSheets table theme = table ++ theme.map fun e => (e.1, sheetsOf e.1 (partsOf e.2)) := by
  induction theme with
  | nil => exact fun _ _ => (append_nil _).symm
  | cons e rest ih =>
    intro table hnodup hnew
    obtain ⟨entry, style⟩ := e
    obtain ⟨hentry, hrest⟩ := nodup_cons.mp hnodup
    rw [putSheets, putNamed_of_not_mem _ (hnew _ mem_cons_self), ih hrest, append_assoc]
    · rfl
    · intro e he x hx
      rcases mem_append.mp hx with hx | hx
      · exact hnew e (mem_cons_of_mem _ he) x hx
      · rw [mem_singleton.mp hx]
        exact fun hsame => hentry (mem_map.mpr ⟨e, he, hsame.symm⟩)

theorem themeSheets_ends (theme : Entries) (s : Session) :
    (themeSheets theme s).Ends (Session.Quiet []) fun result t =>
      ∀ a, result = .ok a → t.themes = putSheets s.themes theme := by
  induction theme generalizing s with
  | nil => exact fun _ _ => rfl
  | cons e rest ih =>
    obtain ⟨entry, style⟩ := e
    unfold themeSheets
    rcases hcollect : (collectParts style).on s with ⟨result, t⟩
    have hlift : (liftM (collectParts style) : Build _) s = .done result t :=
      Build.ofCheck_eq hcollect
    cases result with
    | error e =>
      rw [Build.bind_error _ hlift]
      exact nofun
    | ok parts =>
      obtain ⟨hparts, rfl⟩ := collectParts_eq_ok hcollect
      rw [Build.bind_ok _ hlift]
      refine (partSheets_gives entry _ t).bind ?_ fun e _ _ => nofun
      rintro sheets u ⟨hquiet, hsheets⟩
      obtain rfl := hsheets sheets rfl
      refine (ih _).mono fun result v hv a ha => ?_
      rw [hv a ha, putSheets, ← hparts, ← hquiet.themes]

/-! ## Widgets -/

theorem dressing_sheets (hnodup : (theme.map (·.1)).Nodup) (kind : Kind) (obj : Expr) :
    dressing (theme.map fun e => (e.1, sheetsOf e.1 (partsOf e.2))) kind obj
      = themeLines theme kind obj := by
  unfold dressing
  induction theme with
  | nil => rfl
  | cons e rest ih =>
    obtain ⟨entry, style⟩ := e
    obtain ⟨hentry, hrest⟩ := nodup_cons.mp hnodup
    rw [map_cons, find?_cons, themeLines, flatMap_cons]
    by_cases hstem : entry = kind.typeStem
    · have hothers : themeLines rest kind obj = [] := by
        refine flatMap_eq_nil_iff.mpr fun e he => ?_
        have hother : e.1 ≠ kind.typeStem := fun h =>
          hentry (mem_map.mpr ⟨e, he, h.trans hstem.symm⟩)
        exact if_neg hother
      rw [show (entry == kind.typeStem) = true from beq_iff_eq.mpr hstem]
      dsimp only
      rw [if_pos hstem, show flatMap _ rest = [] from hothers, append_nil, sheetsOf, flatMap_map]
      refine congrArg (flatMap · (partsOf style)) (funext fun part => ?_)
      dsimp only
      rw [map_map]
      rfl
    · rw [show (entry == kind.typeStem) = false from beq_eq_false_iff_ne.mpr hstem]
      dsimp only
      rw [if_neg hstem, nil_append]
      exact ih hrest

/-- The kinds whose widgets look for sheets under a name that is not the name of the kind. -/
def misnamed : List Kind :=
  [.page, .image, .buttonmatrix, .matrixButton, .calendar, .line, .container, .dropdown, .keyboard,
    .meter, .qrcode, .roller, .svg, .tex3d, .tile]

theorem filter_typeStem : Kind.all.filter (fun k => k.typeStem ≠ k.name) = misnamed := by
  decide +kernel

theorem typeStem_eq_name_iff {k : Kind} (hk : k ∈ Kind.all) :
    k.typeStem = k.name ↔ k ∉ misnamed := by
  rw [← filter_typeStem, mem_filter, decide_eq_true_iff]
  exact ⟨fun h hboth => hboth.2 h, fun h => by_contra fun hne => h ⟨hk, hne⟩⟩

/-- Once a theme is built, a widget gets the sheets of the entry with the name that its kind looks
    under, for the parts and states that the entry gives properties for, and of no other entry.  In
    a tree of widgets each gets them when it has been created and before those inside it are.  Only
    kinds that are not misnamed look under their own name.  Panels share the table of themes, so no
    other panel may have filled it before. -/
theorem theme_styles_tree {theme : Entries} (hnodup : (theme.map (·.1)).Nodup) {s : Session}
    (hs : s.themes = []) :
    (∀ k ∈ Kind.all, k.typeStem = k.name ↔ k ∉ misnamed)
    ∧ (themeSheets theme s).Ends (Session.Quiet []) fun result t => ∀ a, result = .ok a →
      ∀ u : Session, u.themes = t.themes → u.InProgram →
        (∀ w : Widget, ∃ xs : List Stmt, xs.map Stmt.inner = themeLines theme w.kind w.obj
          ∧ w.applyTheme.on u = (.ok (), { u with main := u.main ++ xs }))
        ∧ ∀ (depth : Nat) (w : Widget) (config : Value) (walk : List Creation),
          Widget.preorder w.obj (Kinds.itemsAt config "widgets") = walk →
          (∀ c ∈ walk, c.key ≠ "") →
          (w.addChildren (Generator.ofDepth depth) config u).Ends (Session.Quiet [])
            fun result v => ∀ a, result = .ok a → u.Creates walk v
              ∧ (walk.flatMap fun c => c.item :: themeLines theme c.kind c.object).Sublist
                (u.since v) := by
  refine ⟨fun k => typeStem_eq_name_iff, (themeSheets_ends theme s).mono ?_⟩
  intro result t ht a ha u hu hprogram
  have hnone : ∀ e ∈ theme, ∀ x ∈ ([] : Theme), x.1 ≠ e.1 := fun _ _ _ hx => nomatch hx
  have htheme : u.themes = theme.map fun e => (e.1, sheetsOf e.1 (partsOf e.2)) := by
    rw [hu, ht a ha, hs, putSheets_new hnodup hnone, nil_append]
  have hlines : ∀ kind obj, dressing u.themes kind obj = themeLines theme kind obj := by
    intro kind obj
    rw [htheme, dressing_sheets hnodup]
  constructor
  · intro w
    obtain ⟨xs, hxs, hadd⟩ := Code.addItems_inProgram (dressing u.themes w.kind w.obj) hprogram
    exact ⟨xs, hxs.trans (hlines _ _), (applyTheme_on w u).trans hadd⟩
  · intro depth w config walk hwalk hnamed
    refine (addChildren_dresses depth w config hwalk hnamed u hprogram).mono ?_
    rintro result v ⟨-, hok⟩ a ha
    obtain ⟨hmade, -, hsublist⟩ := hok a ha
    refine ⟨hmade, ?_⟩
    unfold Creation.dressed at hsublist
    simpa only [hlines] using hsublist

/-- A theme for dropdowns and for plain objects, which also has a colour for when they are
    pressed. -/
@[irreducible]
def twoEntries : Entries :=
  [("dropdown", .dict [("bg_color", .int 255)]),
    ("obj", .dict [("bg_color", .int 255), ("pressed", .dict [("bg_color", .int 0)])])]

/-- They say nothing to a dropdown, which does not look under its own name, and a container is
    styled like a plain object. -/
theorem themeLines_twoEntries (obj : Expr) : themeLines twoEntries .dropdown obj = []
    ∧ themeLines twoEntries .container obj
      = [styling obj (.pointer "_lv_theme_style_obj_main_default") "main" "default",
          styling obj (.pointer "_lv_theme_style_obj_main_pressed") "main" "pressed"] := by
  have hparts : partsOf (.dict [("bg_color", .int 255), ("pressed", .dict [("bg_color", .int 0)])])
      = [("main", ["default", "pressed"])] := by
    decide +kernel
  unfold twoEntries themeLines
  simp only [flatMap_cons, flatMap_nil]
  constructor
  · rw [if_neg (by decide), if_neg (by decide)]
    rfl
  · rw [if_neg (by decide), if_pos (by decide), hparts]
    rfl

@[irreducible]
def nestedChoice : Value :=
  .dict [("widgets", .list [.dict [("container", .dict
    [("id", .ident (.declaration (some "box") Kind.container.traits.type)),
      ("widgets", .list [.dict [("dropdown", .dict
        [("id", .ident (.declaration (some "choice") Kind.dropdown.traits.type)),
          ("options", .list [.str "a"])])]])])]])]

def nestedChoiceWalk (parent : Expr) : List Creation :=
  [⟨"box", .container, parent⟩, ⟨"choice", .dropdown, .pointer "box"⟩]

def nestedChoiceSetup : Session :=
  { contexts := [Code.Context.setup], current := some 0, declared := ["box", "choice"] }

theorem preorder_nestedChoice (parent : Expr) :
    preorder parent (Kinds.itemsAt nestedChoice "widgets") = nestedChoiceWalk parent := by
  unfold nestedChoice
  show preorder parent [.dict [("container", _)]] = _
  rw [preorder_node rfl rfl]
  show _ :: (preorder _ [.dict [("dropdown", _)]] ++ _) = _
  rw [preorder_node rfl rfl]
  show _ :: ((_ :: (preorder _ [] ++ preorder _ [])) ++ preorder _ []) = _
  simp only [preorder_nil]
  rfl

def themedSetup : Session := (Build.now (themeSheets twoEntries) nestedChoiceSetup).2

theorem twoEntries_end :
    (Build.now (themeSheets twoEntries) nestedChoiceSetup).1.toBool = true := by
  decide +kernel

theorem nestedChoice_ends :
    (Build.now (labelledLineParent.addChildren (Generator.ofDepth 3) nestedChoice)
      themedSetup).1.toBool = true := by
  decide +kernel

theorem inProgram_themedSetup : themedSetup.InProgram := by
  have hform : (Code.currentContext? themedSetup).map (·.form) = some .setup := by
    decide +kernel
  obtain ⟨c, hc, hsetup⟩ := Option.map_eq_some_iff.mp hform
  exact ⟨c, hc, by rw [hsetup]; decide⟩

theorem theme_styles_tree_nestedChoice :
    ∃ v, themeSheets twoEntries nestedChoiceSetup = .done (.ok ()) themedSetup
      ∧ Widget.labelledLineParent.addChildren (Generator.ofDepth 3) nestedChoice themedSetup
        = .done (.ok ()) v
      ∧ ((nestedChoiceWalk (.pointer "page")).flatMap fun c =>
          c.item :: themeLines twoEntries c.kind c.object).Sublist (themedSetup.since v)
      ∧ ∀ obj, themeLines twoEntries .dropdown obj = [] := by
  have hbuilt := Build.eq_done_of_now twoEntries_end
  have htree := Build.eq_done_of_now nestedChoice_ends
  have hnodup : (twoEntries.map (·.1)).Nodup := by
    unfold twoEntries
    decide
  have hnamed : ∀ c ∈ nestedChoiceWalk (.pointer "page"), c.key ≠ "" := by
    simp [nestedChoiceWalk]
  have hstyles := And.right (theme_styles_tree hnodup (rfl : nestedChoiceSetup.themes = []))
  have hdressed := And.right (hstyles.of_done hbuilt () rfl _ rfl inProgram_themedSetup) 3
    labelledLineParent nestedChoice _ (preorder_nestedChoice (.pointer "page")) hnamed
  exact ⟨_, hbuilt, htree, And.right (hdressed.of_done htree () rfl),
    fun obj => (themeLines_twoEntries obj).1⟩

end Style

end Panel
