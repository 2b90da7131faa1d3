import Panel.Proofs.QuietKinds

/-! # The order of creation — widgets are created before what is inside them

    Widgets form trees: the options of a widget can list further widgets.  Every widget gets its
    variable and one statement that creates its object inside that of its parent. -/

namespace Panel

open Cpp List Code

variable {name : String} {rest : List Value} {id : Ident} {keys : List String} {more : Entries}
  {i : Item} {c : Creation} {s : Session} {walk walk' : List Creation} {α : Type} (w : Widget)

/-! ## Creations -/

/-- The creation of a widget. -/
structure Creation where
  /-- The name of the variable. -/
  key : String
  kind : Kind
  /-- The object that the new one stands in. -/
  parent : Expr

namespace Creation

def call (c : Creation) : Expr :=
  .object (.call (.raw ("lv_" ++ c.kind.traits.libraryName ++ "_create")) [] [c.parent]) .bare

/-- The statement that gives the variable its object: an assignment, or for a compound kind a call
    that sets the object of what the variable points to. -/
def item (c : Creation) : Item :=
  if c.kind.traits.isCompound then .expr ((Expr.pointer c.key).method "set_obj" [c.call])
  else .expr (.define "" "" c.key c.call)

/-- The object of the widget: the variable, or for a compound kind a member of what it points
    to. -/
def object (c : Creation) : Expr :=
  if c.kind.traits.isCompound then Expr.named (c.key ++ "->obj") else Expr.pointer c.key

theorem target?_item (c : Creation) : c.item.target? = some c.key := by
  unfold item
  split
  · exact Item.target?_setObject c.key _
  · simp [Item.target?]

end Creation

def Cpp.Item.isFor (keys : List String) (i : Item) : Bool :=
  match i.target? with
  | some v => keys.contains v
  | none => false

/-- The kind of a name, if its widgets are built by the common steps. -/
def Kind.standard? (name : String) : Option Kind :=
  (ofName? name).filter fun k => k.design.create?.isNone

namespace Widget

variable {parent : Expr} {config : Value} {kind : Kind}

theorem sizeOf_itemsAt_le (config : Value) (key : String) :
    sizeOf (Kinds.itemsAt config key) ≤ sizeOf config := by
  unfold Kinds.itemsAt
  split
  · next items hitems =>
      cases config with
      | dict es =>
        obtain ⟨e, he, hvalue⟩ := Option.map_eq_some_iff.mp hitems
        have hmem := sizeOf_lt_of_mem (mem_of_find?_eq_some he)
        obtain ⟨name, v⟩ := e
        obtain rfl : v = .list items := hvalue
        simp only [Prod.mk.sizeOf_spec, Value.list.sizeOf_spec, Value.dict.sizeOf_spec] at hmem ⊢
        omega
      | _ => exact nomatch hitems
  · cases config <;> simp <;> omega

theorem sizeOf_inside_lt (name : String) (config : Value) (more : Entries) (rest : List Value) :
    sizeOf (Kinds.itemsAt config "widgets")
      < sizeOf (Value.dict ((name, config) :: more) :: rest) := by
  have hsize := sizeOf_itemsAt_le config "widgets"
  simp only [cons.sizeOf_spec, Value.dict.sizeOf_spec, Prod.mk.sizeOf_spec]
  omega

theorem sizeOf_rest_lt (v : Value) (rest : List Value) : sizeOf rest < sizeOf (v :: rest) := by
  rw [cons.sizeOf_spec]
  omega

/-- The creations of the widgets of a list and of those inside them, each before what is inside. -/
def preorder (parent : Expr) : List Value → List Creation
  | [] => []
  | .dict ((name, config) :: _) :: rest =>
    match Kind.standard? name, config.get? "id" with
    | some kind, some (.ident id) =>
      let c : Creation := ⟨id.text, kind, parent⟩
      c :: preorder c.object (Kinds.itemsAt config "widgets") ++ preorder parent rest
    | _, _ => preorder parent rest
  | _ :: rest => preorder parent rest
termination_by items => sizeOf items
decreasing_by
  · exact sizeOf_inside_lt name config _ rest
  all_goals exact sizeOf_rest_lt _ rest

theorem preorder_nil (parent : Expr) : preorder parent [] = [] := by
  unfold preorder
  rfl

theorem preorder_node (hkind : Kind.standard? name = some kind)
    (hid : config.get? "id" = some (.ident id)) :
    preorder parent (.dict ((name, config) :: more) :: rest)
      = ⟨id.text, kind, parent⟩ :: (preorder (Creation.object ⟨id.text, kind, parent⟩)
          (Kinds.itemsAt config "widgets") ++ preorder parent rest) := by
  rw [preorder, hkind, hid]
  rfl

end Widget

/-! ### Parents -/

/-- Every widget of a list stands in a given object, or in that of a widget before it. -/
def Creation.Placed (parent : Expr) (made : List Creation) : Prop :=
  ∀ before c after, made = before ++ c :: after →
    c.parent = parent ∨ ∃ p ∈ before, c.parent = p.object

namespace Creation.Placed

variable {parent : Expr} {made made' : List Creation}

theorem nil : Placed parent [] := by
  intro before c after h
  cases before <;> cases h

theorem append (h : Placed parent made) (h' : Placed parent made') :
    Placed parent (made ++ made') := by
  intro before c after hsplit
  rcases append_eq_append_iff.mp hsplit with ⟨more, rfl, hmade'⟩ | ⟨more, rfl, hmore⟩
  · refine (h' more c after hmade').imp_right fun ⟨p, hp, hc⟩ => ?_
    exact ⟨p, mem_append_right _ hp, hc⟩
  · cases more with
    | nil => exact (h' [] c after hmore.symm).imp_right fun ⟨p, hp, _⟩ => nomatch hp
    | cons d more =>
      obtain ⟨rfl, -⟩ := cons.inj hmore
      exact h before c more rfl

theorem cons {c : Creation} (hc : c.parent = parent) (h : Placed c.object made) :
    Placed parent (c :: made) := by
  intro before d after hsplit
  cases before with
  | nil =>
    obtain ⟨rfl, -⟩ := cons.inj hsplit
    exact .inl hc
  | cons b before =>
    obtain ⟨rfl, hmade⟩ := cons.inj hsplit
    right
    rcases h before d after hmade with hd | ⟨p, hp, hd⟩
    · exact ⟨c, mem_cons_self, hd⟩
    · exact ⟨p, mem_cons_of_mem _ hp, hd⟩

end Creation.Placed

theorem Widget.preorder_placed (parent : Expr) (items : List Value) :
    Creation.Placed parent (preorder parent items) := by
  fun_induction preorder parent items with
  | case1 => exact .nil
  | case2 _ _ _ _ _ _ _ _ _ c ihinner ihrest => exact (ihinner.cons rfl).append ihrest
  | case3 _ _ _ _ _ _ ih => exact ih
  | case4 _ _ _ _ ih => exact ih

/-! ## Work that creates widgets -/

/-- Statements go to the program, not to a block that becomes a closure. -/
def Session.InProgram (s : Session) : Prop :=
  ∃ c, Code.currentContext? s = some c ∧ c.form ≠ .lambda

/-- The program has grown by the creations of a list, in their order: all variables are new, and of
    all statements that give one of them its object these are the only ones. -/
structure Session.Creates (made : List Creation) (s t : Session) : Prop where
  quiet : Session.Quiet [] s t
  distinct : (made.map (·.key)).Nodup
  fresh : ∀ key ∈ made.map (·.key), key ≠ "" ∧ some key ∉ s.names ∧ some key ∈ t.names
  items : (s.since t).filter (·.isFor (made.map (·.key))) = made.map (·.item)

theorem Cpp.Item.isFor_iff : i.isFor keys = true ↔ ∃ v ∈ keys, i.target? = some v := by
  unfold isFor
  split
  · next v hv => simp [hv]
  · next hnone => simp [hnone]

theorem Cpp.Item.isFor_append {keys' : List String} :
    i.isFor (keys ++ keys') = (i.isFor keys || i.isFor keys') := by
  unfold isFor
  split
  · exact contains_append ..
  · rfl

namespace Session

variable {s t u : Session}

theorem InProgram.quiet {free : List String} (h : s.InProgram) (hst : Quiet free s t) :
    t.InProgram := by
  obtain ⟨c, hc, hform⟩ := h
  obtain ⟨i, hi, hthere⟩ := Option.bind_eq_some_iff.mp hc
  have hblock : s.blocks[i]? = some (c.form, c.previous) := by
    rw [Session.blocks, getElem?_map, hthere]
    rfl
  have hblock' : t.blocks[i]? = some (c.form, c.previous) := by
    obtain ⟨more, hmore⟩ := hst.blocks
    rw [← hmore, List.getElem?_append_left (List.getElem?_eq_some_iff.mp hblock).1, hblock]
  rw [Session.blocks, getElem?_map] at hblock'
  obtain ⟨d, hd, hsame⟩ := Option.map_eq_some_iff.mp hblock'
  have hform' : d.form = c.form := congrArg Prod.fst hsame
  refine ⟨d, ?_, hform' ▸ hform⟩
  rw [currentContext?, hst.current, hi]
  exact hd

theorem Quiet.not_isFor (h : Quiet [] s t)
    (hkeys : ∀ key ∈ keys, key ≠ "" ∧ (some key ∈ s.names ∨ some key ∉ t.names)) :
    ∀ i ∈ s.since t, i.isFor keys = false := by
  intro i hi
  rw [← Bool.not_eq_true, Item.isFor_iff]
  rintro ⟨v, hv, htarget⟩
  obtain ⟨hempty, hother⟩ := hkeys v hv
  rcases h.targets i hi v htarget hempty with hfree | ⟨hnew, hthere⟩
  · exact nomatch hfree
  · exact hother.elim hnew (· hthere)

theorem Creates.of_quiet (h : Quiet [] s t) : Creates [] s t where
  quiet := h
  distinct := nodup_nil
  fresh _ hkey := nomatch hkey
  items := by
    have hnone : ∀ i ∈ s.since t, i.isFor [] = false := h.not_isFor nofun
    rw [map_nil, map_nil, filter_eq_nil_iff]
    intro i hi
    rw [hnone i hi]
    exact Bool.false_ne_true

theorem Creates.append {made made' : List Creation} (hst : Creates made s t)
    (htu : Creates made' t u) : Creates (made ++ made') s u where
  quiet := hst.quiet.trans htu.quiet
  distinct := by
    rw [map_append, nodup_append]
    refine ⟨hst.distinct, htu.distinct, fun key hkey key' hkey' hsame => ?_⟩
    exact (htu.fresh key' hkey').2.1 (hsame ▸ (hst.fresh key hkey).2.2)
  fresh := by
    intro key hkey
    rw [map_append] at hkey
    rcases mem_append.mp hkey with hkey | hkey
    · obtain ⟨hempty, hnew, hthere⟩ := hst.fresh key hkey
      exact ⟨hempty, hnew, htu.quiet.names hthere⟩
    · obtain ⟨hempty, hnew, hthere⟩ := htu.fresh key hkey
      exact ⟨hempty, fun hold => hnew (hst.quiet.names hold), hthere⟩
  items := by
    have hearly := hst.quiet.not_isFor fun key hkey =>
      ⟨(htu.fresh key hkey).1, .inr (htu.fresh key hkey).2.1⟩
    have hlate := htu.quiet.not_isFor fun key hkey =>
      ⟨(hst.fresh key hkey).1, .inl (hst.fresh key hkey).2.2⟩
    rw [since_append hst.quiet.main htu.quiet.main, filter_append, map_append,
      map_append, ← hst.items, ← htu.items]
    congr 1
    · refine filter_congr fun i hi => ?_
      rw [Item.isFor_append, hearly i hi, Bool.or_false]
    · refine filter_congr fun i hi => ?_
      rw [Item.isFor_append, hlate i hi, Bool.false_or]

theorem Creates.single {x : Stmt} (hst : Quiet [] s t) (hid : s.Registers id t)
    (hkey : id.text = c.key) (hnamed : c.key ≠ "") (hx : x.inner = c.item) :
    Creates [c] s { t with main := t.main ++ [x] } := by
  have hname : id.name = some c.key := hkey ▸ Ident.name_eq_of_text (hkey ▸ hnamed)
  have hadded : Quiet [id.text] t { t with main := t.main ++ [x] } := .of_stmt t fun v hv => by
    rw [hx, Creation.target?_item] at hv
    exact mem_singleton.mpr ((Option.some.inj hv).symm.trans hkey.symm)
  refine ⟨hst.made hid hadded, pairwise_singleton _ _, fun key hkey => ?_, ?_⟩
  · obtain rfl := mem_singleton.mp hkey
    exact ⟨hnamed, hname ▸ hid.new, hname ▸ hid.there⟩
  · have hbefore : (s.since t).filter (·.isFor [c.key]) = [] := by
      rw [filter_eq_nil_iff]
      intro i hi
      rw [Item.isFor, hid.targets i hi]
      exact Bool.false_ne_true
    have hitem : c.item.isFor [c.key] = true :=
      Item.isFor_iff.mpr ⟨c.key, mem_singleton_self _, c.target?_item⟩
    rw [map_singleton, since_append hst.main (prefix_append _ _), filter_append,
      hbefore, since_eq (s := t) rfl, map_singleton, hx, filter_cons_of_pos hitem]
    rfl

end Session

theorem Code.addItem_inProgram (i : Item) (h : s.InProgram) :
    ∃ x : Stmt, x.inner = i ∧ (addItem i).on s = (.ok (), { s with main := s.main ++ [x] }) := by
  obtain ⟨c, hc, hform⟩ := h
  unfold addItem
  rw [Check.on_bind_ok _ (Check.on_get s), hc]
  dsimp only
  split
  · exact ⟨.item i, rfl, rfl⟩
  · exact ⟨.indented c.level i, rfl, rfl⟩
  · next hlambda => exact absurd hlambda hform

/-- What has been done to a session by work that creates widgets: their creations are written in
    order, some keys are known, and some lines, which depend on the theme, are among the code. -/
structure Session.Emits (walk : List Creation) (known : List String) (lines : Theme → List Item)
    (s t : Session) : Prop where
  creates : s.Creates walk t
  known : ∀ key ∈ known, t.Knows key
  lines : (lines s.themes).Sublist (s.since t)

/-- Work that, if it ends well, has written the creations of a list in their order and some lines
    among other code, and made some keys known. -/
def Build.Emits {α : Type} (walk : List Creation) (known : List String)
    (lines : Theme → List Item) (b : Build α) : Prop :=
  ∀ s : Session, s.InProgram → (b s).Ends (Session.Quiet []) fun result t =>
    s.Quiet [] t ∧ ∀ a, result = .ok a → s.Emits walk known lines t

theorem Session.Emits.append {known known' : List String} {lines lines' : Theme → List Item}
    {t u : Session} (hknown : ∀ key ∈ known, key ≠ "") (hst : s.Emits walk known lines t)
    (htu : t.Emits walk' known' lines' u) :
    s.Emits (walk ++ walk') (known ++ known') (fun theme => lines theme ++ lines' theme) u where
  creates := hst.creates.append htu.creates
  known := by
    intro key hkey
    -- what was known before is not forgotten
    rcases mem_append.mp hkey with hkey | hkey
    · exact htu.creates.quiet.widgets key (hknown key hkey) (hst.known key hkey)
    · exact htu.known key hkey
  lines := by
    rw [since_append hst.creates.quiet.main htu.creates.quiet.main, ← hst.creates.quiet.themes]
    exact (hst.creates.quiet.themes ▸ hst.lines).append htu.lines

namespace Build.Emits

variable {α β : Type} {walk walk' : List Creation} {known known' : List String}
  {lines lines' : Theme → List Item}

variable {b : Build α}

theorem of_quiet (h : b.Heeds (Quietness.strict.of [])) : b.Emits [] [] fun _ => [] := by
  intro s _
  refine (h.ends s).mono fun _ t ht => ?_
  exact ⟨ht, fun _ _ => ⟨.of_quiet ht, nofun, nil_sublist _⟩⟩

theorem of_throw (e : Failure) : (throw e : Build α).Emits walk known lines :=
  fun _ _ => ⟨.of_traced rfl, nofun⟩

variable {f : α → Build β}

theorem bind (hknown : ∀ key ∈ known, key ≠ "")
    (hb : b.Emits walk known lines) (hf : ∀ a, (f a).Emits walk' known' lines') :
    (b >>= f).Emits (walk ++ walk') (known ++ known') fun theme => lines theme ++ lines' theme := by
  intro s hs
  refine (hb s hs).bind ?_ fun e t ⟨ht, _⟩ => ⟨ht, nofun⟩
  rintro a t ⟨ht, hok⟩
  refine (hf a t (hs.quiet ht)).mono ?_
  rintro result u ⟨hu, hok'⟩
  exact ⟨ht.trans hu, fun b hb => (hok a rfl).append hknown (hok' b hb)⟩

theorem after (hb : b.Heeds (Quietness.strict.of []))
    (hf : ∀ a, (f a).Emits walk known lines) : (b >>= f).Emits walk known lines := by
  have hnone : ∀ key ∈ ([] : List String), key ≠ "" := nofun
  exact bind hnone (of_quiet hb) hf

theorem before (hknown : ∀ key ∈ known, key ≠ "")
    (hb : b.Emits walk known lines) (hf : ∀ a, (f a).Heeds (Quietness.strict.of [])) :
    (b >>= f).Emits walk known lines := by
  have h := bind hknown hb fun a => of_quiet (hf a)
  simp only [append_nil] at h
  exact h

theorem read {c : Check α} {a : α} (hc : ∀ s, c.on s = (.ok a, s))
    (hf : (f a).Emits walk known lines) : (liftM c >>= f : Build β).Emits walk known lines := by
  intro s hs
  have hlift : (liftM c : Build α) s = .done (.ok a) s := Build.ofCheck_eq (hc s)
  rw [Build.bind_ok _ hlift]
  exact hf s hs

theorem made {make : Check Expr} {give : Expr → Check Unit} {rest : Expr → Build α}
    (hmake : make.Heeds (Quietness.strict.of [])) (hmakes : make.Makes id) (hkey : id.text = c.key)
    (hnamed : c.key ≠ "") (hgive : give (.pointer id.text) = addItem c.item)
    (hrest : (rest (.pointer id.text)).Emits walk known lines) :
    (do let e ← make; give e; rest e : Build α).Emits (c :: walk) known
      fun theme => c.item :: lines theme := by
  intro s hs
  have hquiet := hmake.on s
  rcases hrun : make.on s with ⟨result, t⟩
  have hlift : (liftM make : Build Expr) s = .done result t := Build.ofCheck_eq hrun
  replace hquiet : Session.Quiet [] s t := by rwa [hrun] at hquiet
  cases result with
  | error e =>
    rw [Build.bind_error _ hlift]
    exact ⟨hquiet, nofun⟩
  | ok e =>
    obtain ⟨rfl, hid⟩ := hmakes hrun
    obtain ⟨x, hx, hadd⟩ := addItem_inProgram c.item (hs.quiet hquiet)
    have hwrite : (liftM (addItem c.item) : Build Unit) t = .done (.ok ()) _ :=
      Build.ofCheck_eq hadd
    rw [Build.bind_ok _ hlift, hgive, Build.bind_ok _ hwrite]
    have hcreates := Session.Creates.single hquiet hid hkey hnamed hx
    have hmade : s.Emits [c] [] (fun _ => [c.item]) { t with main := t.main ++ [x] } := by
      refine ⟨hcreates, nofun, ?_⟩
      rw [Session.since_append hquiet.main (prefix_append _ _), Session.since_eq (s := t) rfl,
        map_singleton, hx]
      exact sublist_append_right _ _
    refine (hrest _ (hs.quiet hcreates.quiet)).mono ?_
    rintro result u ⟨hu, hok⟩
    refine ⟨hcreates.quiet.trans hu, fun a ha => hmade.append ?_ (hok a ha)⟩
    exact nofun

end Build.Emits

/-! ## Widgets -/

namespace Widget

/-- The statement that adds a style sheet to an object for a state of a part. -/
def styling (obj sheet : Expr) (part state : String) : Item :=
  .expr (.object (.call (.raw "lv_obj_add_style") []
    [obj, Expr.named sheet.render,
      Expr.named ("(lv_state_t)(" ++ (selector part state).show ++ ")")]) .bare)

/-- The statements that add the style sheets of a theme to an object of a kind. -/
@[irreducible]
def dressing (theme : Theme) (kind : Kind) (obj : Expr) : List Item :=
  match theme.find? (·.1 == kind.typeStem) with
  | none => []
  | some (_, parts) =>
    parts.flatMap fun (part, states) => states.map fun (state, sheet) =>
      styling obj sheet part state

end Widget

/-- The statements that create widgets, each followed by those that add the styles of a theme. -/
def Creation.dressed (made : List Creation) (theme : Theme) : List Item :=
  made.flatMap fun c => c.item :: Widget.dressing theme c.kind c.object

/-- Work that creates the widgets of a list, gives each the styles of the theme, and makes all of
    them known. -/
def Build.Dresses {α : Type} (walk : List Creation) (b : Build α) : Prop :=
  b.Emits walk (walk.map (·.key)) (Creation.dressed walk)

theorem Build.Dresses.append {β : Type} {b : Build α} {f : α → Build β}
    (hnamed : ∀ key ∈ walk.map (·.key), key ≠ "") (hb : b.Dresses walk)
    (hf : ∀ a, (f a).Dresses walk') : (b >>= f).Dresses (walk ++ walk') := by
  have h := Emits.bind hnamed hb hf
  unfold Dresses Creation.dressed
  rw [map_append]
  simp only [flatMap_append]
  exact h

namespace Widget

theorem addStyle_selector (sheet : Expr) (part state : String) :
    w.addStyle (.cpp sheet) (selector part state) = addItem (styling w.obj sheet part state) := by
  have hjoined : joined "lv_state_t" (selector part state)
      = pure (.literal ("(lv_state_t)(" ++ (selector part state).show ++ ")")) := by
    unfold selector
    dsimp only
    repeat' split
    all_goals rfl
  unfold addStyle
  rw [hjoined, pure_bind, run_eq rfl]
  rfl

theorem applyTheme_on (s : Session) :
    w.applyTheme.on s = ((dressing s.themes w.kind w.obj).forM addItem).on s := by
  unfold applyTheme dressing
  rw [Check.on_bind_ok _ (Check.on_get s)]
  cases s.themes.find? (·.1 == w.kind.typeStem) with
  | none => rfl
  | some entry =>
    dsimp only
    refine congrArg (Check.on · s) (Eq.symm ?_)
    refine (forM_flatMap addItem _ entry.2).trans ?_
    refine congrArg (forM entry.2) (funext fun part => ?_)
    refine forM_map.trans ?_
    exact congrArg (forM part.2) (funext fun state => (addStyle_selector w _ _ _).symm)

end Widget

theorem Code.addItems_inProgram (items : List Item) (h : s.InProgram) :
    ∃ xs : List Stmt, xs.map Stmt.inner = items
      ∧ (items.forM addItem).on s = (.ok (), { s with main := s.main ++ xs }) := by
  induction items generalizing s with
  | nil => exact ⟨[], rfl, by rw [append_nil]; rfl⟩
  | cons i items ih =>
    obtain ⟨x, hx, hadd⟩ := addItem_inProgram i h
    obtain ⟨xs, hxs, hrest⟩ := ih (s := { s with main := s.main ++ [x] }) h
    refine ⟨x :: xs, by rw [map_cons, hx, hxs], ?_⟩
    refine (Check.on_bind_ok _ hadd).trans (hrest.trans ?_)
    rw [append_assoc]
    rfl

namespace Widget

variable {g : Generator} {design : Design} {kind : Kind} {config : Value} {parent : Expr}
  {walk : List Creation} {known : List String} {lines : Theme → List Item}

theorem applyTheme_emits :
    (liftM w.applyTheme : Build Unit).Emits [] [] fun theme => dressing theme w.kind w.obj := by
  intro s hs
  obtain ⟨xs, hxs, hadd⟩ := addItems_inProgram (dressing s.themes w.kind w.obj) hs
  have hlift : (liftM w.applyTheme : Build Unit) s = .done (.ok ()) _ :=
    Build.ofCheck_eq ((applyTheme_on w s).trans hadd)
  have hquiet : s.Quiet [] _ := hadd ▸ (applyTheme_on w s) ▸ (applyTheme_quiet (q := .strict)).on s
  rw [hlift]
  refine ⟨hquiet, fun _ _ => ⟨.of_quiet hquiet, nofun, ?_⟩⟩
  rw [Session.since_eq (s := s) rfl]
  exact hxs ▸ List.Sublist.refl _

theorem note_emits (key : String) (kind : Kind) (config : Value) :
    (liftM (fresh key (.pointer key) kind config).note : Build Unit).Emits [] [key]
      fun _ => [] := by
  intro s _
  let w := fresh key (.pointer key) kind config
  have hquiet : s.Quiet [] { s with widgets := putAmong s.widgets w } := .of_note (.inr rfl) s
  refine ⟨hquiet, fun _ _ => ⟨.of_quiet hquiet, fun name hname => ?_, nil_sublist _⟩⟩
  obtain rfl := mem_singleton.mp hname
  refine ⟨fresh name (.pointer name) kind config, ?_, rfl⟩
  show (putAmong s.widgets _).find? (·.key == name) = _
  rw [find?_putAmong]
  exact if_pos rfl

theorem creatorOf_eq (hcreator : design.creator = none) (key : String) :
    creatorOf design g kind config parent = pure (Creation.call ⟨key, kind, parent⟩) := by
  unfold creatorOf
  rw [hcreator]
  rfl

theorem declareVariable_bind_emits {rest : Expr → Build α} (hdesign : design.Quiet .strict)
    (hg : g.Quiet .strict) (hnamed : id.text ≠ "")
    (hrest : (rest (.pointer id.text)).Emits walk known lines) :
    (declareVariable g design kind config id (Creation.call ⟨id.text, kind, parent⟩) >>= rest).Emits
      (⟨id.text, kind, parent⟩ :: walk) known
      fun theme => Creation.item ⟨id.text, kind, parent⟩ :: lines theme := by
  have hafter : ∀ e, (design.created g e config >>= fun _ => rest (.pointer id.text)).Emits
      walk known lines := fun e => .after (hdesign.created hg e config) fun _ => hrest
  unfold declareVariable
  split
  · next hcompound =>
      simp only [bind_assoc, pure_bind]
      refine .made (newObject_keeps id []) (newObject_makes id []) rfl hnamed ?_ (hafter _)
      rw [Creation.item, if_pos hcompound]
      rfl
  · next hplain =>
      simp only [bind_assoc, pure_bind]
      refine .made (globalPointer_keeps _ id) (globalPointer_makes _ id) rfl hnamed ?_ (hafter _)
      rw [Creation.item, if_neg hplain]
      rfl

theorem addChildren_emits {w : Widget}
    (h : (createChildren g w.obj (Kinds.itemsAt config "widgets")).Emits walk known lines) :
    (w.addChildren g config).Emits walk known lines := by
  unfold addChildren
  unfold Kinds.itemsAt at h
  split
  · next hnone =>
      rw [hnone] at h
      exact h
  · next items hitems =>
      rw [hitems] at h
      exact h
  · exact .of_throw _

theorem createCommon_emits (hdesign : design.Quiet .strict) (hcreator : design.creator = none)
    (hg : g.Quiet .strict) (hid : config.get? "id" = some (.ident id)) (hnamed : id.text ≠ "")
    (hnames : ∀ key ∈ walk.map (·.key), key ≠ "")
    (hwalk : (createChildren g (Creation.object ⟨id.text, kind, parent⟩)
      (Kinds.itemsAt config "widgets")).Dresses walk) :
    (createCommon design g kind config parent).Dresses (⟨id.text, kind, parent⟩ :: walk) := by
  have hident : ∀ s, (identAt config "id").on s = (.ok id, s) := fun s => by
    rw [identAt, required_eq hid]
    rfl
  have hname : ∀ key ∈ [id.text], key ≠ "" := fun key hkey => mem_singleton.mp hkey ▸ hnamed
  have hnone : ∀ key ∈ ([] : List String), key ≠ "" := nofun
  have hinside : ∀ w : Widget, w.obj = Creation.object ⟨id.text, kind, parent⟩ → (do
      w.applyCommon config
      w.addChildren g config
      design.options g w config
      w.latest : Build Widget).Dresses walk := by
    intro w hw
    refine .after (applyCommon_quiet config) fun _ => ?_
    refine .before hnames (addChildren_emits (hw ▸ hwalk)) fun _ => ?_
    exact .bind (hdesign.options hg w config) fun _ => .of_lift latest_quiet
  unfold createCommon
  rw [creatorOf_eq hcreator id.text, pure_bind]
  refine .after (.of_lift (noteUses_keeps _)) fun _ => .read hident ?_
  refine .after (.of_lift (addLineMarks_quiet _)) fun _ => ?_
  refine declareVariable_bind_emits hdesign hg hnamed ?_
  refine .bind hname (note_emits id.text kind config) fun _ => ?_
  exact .bind hnone (applyTheme_emits (fresh id.text (.pointer id.text) kind config)) fun _ =>
    hinside _ rfl

end Widget

/-- Generators that create a widget of a standard kind before those inside it. -/
def Generator.Ordered (g : Generator) : Prop :=
  ∀ {name : String} {kind : Kind} {config : Value} {parent : Expr} {id : Ident} {c : Creation}
    {walk : List Creation}, Kind.standard? name = some kind →
    config.get? "id" = some (.ident id) → c = ⟨id.text, kind, parent⟩ →
    walk = Widget.preorder c.object (Kinds.itemsAt config "widgets") →
    (∀ key ∈ (c :: walk).map (·.key), key ≠ "") →
    (g.widget kind config parent).Dresses (c :: walk)

namespace Widget

variable {g : Generator} {parent : Expr}

theorem preorder_other {config : Value}
    (h : ∀ kind id, Kind.standard? name = some kind → config.get? "id" ≠ some (.ident id)) :
    preorder parent (.dict ((name, config) :: more) :: rest) = preorder parent rest := by
  rw [preorder]
  split
  · next kind id hkind hid => exact absurd hid (h kind id hkind)
  · rfl

theorem createChildren_emits (hquiet : g.Quiet .strict) (hg : g.Ordered) (parent : Expr)
    (items : List Value) (hnamed : ∀ key ∈ (preorder parent items).map (·.key), key ≠ "") :
    (createChildren g parent items).Dresses (preorder parent items) := by
  fun_induction createChildren g parent items with
  | case1 =>
    rw [preorder_nil]
    exact .of_quiet (.of_pure _)
  | case2 name config more rest hfound kind hkind ih =>
    by_cases hnode : ∃ kind' id, Kind.standard? name = some kind'
        ∧ config.get? "id" = some (.ident id)
    · obtain ⟨kind', id, hstandard, hid⟩ := hnode
      obtain rfl : kind' = kind :=
        Option.some.inj ((Option.filter_eq_some_iff.mp hstandard).1.symm.trans hkind)
      rw [preorder_node hstandard hid] at hnamed ⊢
      rw [← cons_append, map_append] at hnamed
      rw [← cons_append]
      refine .append (fun key hkey => hnamed key (mem_append_left _ hkey)) ?_ fun _ =>
        ih fun key hkey => hnamed key (mem_append_right _ hkey)
      exact hg hstandard hid rfl rfl fun key hkey => hnamed key (mem_append_left _ hkey)
    · have hother : preorder parent (.dict ((name, config) :: more) :: rest)
          = preorder parent rest :=
        preorder_other fun kind' id hkind' hid => hnode ⟨kind', id, hkind', hid⟩
      rw [hother] at hnamed ⊢
      exact .after (hquiet kind config parent) fun _ => ih hnamed
  | case3 => exact .of_throw _
  | case4 => exact .of_throw _
  | case5 => exact .of_throw _

end Widget

/-- The kinds that a configuration can name are created by the function of the library for the
    kind. -/
theorem Kind.creator_eq_none : ∀ k ∈ Kind.all, k.design.creator = none := by
  intro k hk
  cases k with
  | footerButton => exact absurd hk (by simp [all])
  | headerButton => exact absurd hk (by simp [all])
  | _ => rfl

theorem Generator.ordered_ofDepth (n : Nat) : (Generator.ofDepth n).Ordered := by
  induction n with
  | zero => exact fun _ _ _ _ _ => .of_throw _
  | succ n ih =>
    intro name kind config parent id c walk hstandard hid hc hwalk hnamed
    subst hc hwalk
    obtain ⟨hfound, hcreate⟩ := Option.filter_eq_some_iff.mp hstandard
    have hcreator := Kind.creator_eq_none kind (mem_of_find?_eq_some hfound)
    have hinner := Widget.createChildren_emits (Generator.quiet_ofDepth .strict n) ih
      (Creation.object ⟨id.text, kind, parent⟩) (Kinds.itemsAt config "widgets")
      (forall_mem_cons.mp hnamed).2
    have hcommon := Widget.createCommon_emits (kind.quiet_design .strict) hcreator
      (Generator.quiet_ofDepth .strict n) hid (hnamed _ mem_cons_self)
      (forall_mem_cons.mp hnamed).2 hinner
    show (Widget.create kind.design (Generator.ofDepth n) kind config parent).Dresses _
    unfold Widget.create
    rw [Option.isNone_iff_eq_none.mp hcreate]
    exact .before hnamed hcommon fun _ => .of_pure _

namespace Widget

theorem addChildren_dresses (depth : Nat) (w : Widget) (config : Value)
    (hwalk : preorder w.obj (Kinds.itemsAt config "widgets") = walk)
    (hnamed : ∀ c ∈ walk, c.key ≠ "") :
    (w.addChildren (Generator.ofDepth depth) config).Dresses walk := by
  subst hwalk
  refine addChildren_emits (createChildren_emits (Generator.quiet_ofDepth .strict depth)
    (Generator.ordered_ofDepth depth) w.obj _ fun key hkey => ?_)
  obtain ⟨c, hc, rfl⟩ := mem_map.mp hkey
  exact hnamed c hc

/-- Building the widgets of a configuration writes their creations in pre-order, each once and in
    the object of its parent, so that a parent has its object before another is created in it; in
    the end all widgets are known under the names of their variables.  Work that fails gives no
    object to a variable that there was before. -/
theorem addChildren_preorder (depth : Nat) (w : Widget) (config : Value) {s : Session}
    (hs : s.InProgram) {walk : List Creation}
    (hwalk : preorder w.obj (Kinds.itemsAt config "widgets") = walk)
    (hnamed : ∀ c ∈ walk, c.key ≠ "") :
    (w.addChildren (Generator.ofDepth depth) config s).Ends (Session.Quiet []) fun result t =>
      s.Quiet [] t ∧ ∀ a, result = .ok a →
        s.Creates walk t ∧ Creation.Placed w.obj walk ∧ ∀ c ∈ walk, t.Knows c.key := by
  refine (addChildren_dresses depth w config hwalk hnamed s hs).mono ?_
  rintro result t ⟨hquiet, hok⟩
  refine ⟨hquiet, fun a ha => ?_⟩
  obtain ⟨hmade, hknown, -⟩ := hok a ha
  refine ⟨hmade, hwalk ▸ preorder_placed w.obj _, fun c hc => ?_⟩
  exact hknown c.key (mem_map.mpr ⟨c, hc, rfl⟩)

/-- A label in a line in an object, and a bar beside the object. -/
@[irreducible]
def labelledLine : Value :=
  .dict [("widgets", .list
    [.dict [("obj", .dict
        [("id", .ident (.declaration (some "box") lvObj)),
          ("widgets", .list [.dict [("line", .dict
            [("id", .ident (.declaration (some "curve") Kind.line.traits.type)),
              ("points", .list []),
              ("widgets", .list [.dict [("label", .dict
                [("id", .ident (.declaration (some "title") Kind.label.traits.type))])]])])]])])],
      .dict [("bar", .dict
        [("id", .ident (.declaration (some "level") Kind.bar.traits.type)),
          ("animated", .str "LV_ANIM_ON")])]])]

/-- Their creations: the label stands in the object of the line, which is a member of what the
    variable of the line points to. -/
def labelledLineWalk (parent : Expr) : List Creation :=
  [⟨"box", .obj, parent⟩, ⟨"curve", .line, .pointer "box"⟩, ⟨"title", .label, .named "curve->obj"⟩,
    ⟨"level", .bar, parent⟩]

def labelledLineSetup : Session :=
  { contexts := [Code.Context.setup], current := some 0
    declared := ["box", "curve", "title", "level"] }

def labelledLineParent : Widget := .fresh "page" (.pointer "page") .obj .null

theorem preorder_labelledLine (parent : Expr) :
    preorder parent (Kinds.itemsAt labelledLine "widgets") = labelledLineWalk parent := by
  unfold labelledLine
  show preorder parent [.dict [("obj", _)], .dict [("bar", _)]] = _
  rw [preorder_node rfl rfl, preorder_node rfl rfl]
  show _ :: (preorder _ [.dict [("line", _)]] ++ _) = _
  rw [preorder_node rfl rfl]
  show _ :: ((_ :: (preorder _ [.dict [("label", _)]] ++ _)) ++ _) = _
  rw [preorder_node rfl rfl]
  show _ :: (_ :: (_ :: (preorder _ [] ++ preorder _ []) ++ preorder _ [])
    ++ _ :: (preorder _ [] ++ preorder _ [])) = _
  simp only [preorder_nil]
  rfl

theorem labelledLine_ends : (Build.now (labelledLineParent.addChildren (Generator.ofDepth 4)
    labelledLine) labelledLineSetup).1.toBool = true := by
  decide +kernel

theorem addChildren_preorder_labelledLine :
    ∃ t, labelledLineParent.addChildren (Generator.ofDepth 4) labelledLine labelledLineSetup
        = .done (.ok ()) t
      ∧ labelledLineSetup.Creates (labelledLineWalk (.pointer "page")) t
      ∧ t.Knows "title" := by
  have hnamed : ∀ c ∈ labelledLineWalk (.pointer "page"), c.key ≠ "" := by
    simp [labelledLineWalk]
  have hprogram : labelledLineSetup.InProgram := ⟨Code.Context.setup, rfl, by decide⟩
  have hdone := Build.eq_done_of_now labelledLine_ends
  obtain ⟨hmade, -, hknown⟩ := And.right (Job.Ends.of_done
    (addChildren_preorder 4 labelledLineParent labelledLine hprogram
      (preorder_labelledLine (.pointer "page")) hnamed) hdone) () rfl
  exact ⟨_, hdone, hmade, hknown ⟨"title", .label, .named "curve->obj"⟩ (by simp [labelledLineWalk])⟩

end Widget

end Panel
