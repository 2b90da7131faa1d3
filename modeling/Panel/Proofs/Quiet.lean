import Panel.Proofs.Emission

/-! # Quiet work — no variable is given its object but one that is made meanwhile

    A variable gets its object by an assignment, or by a call that sets the object of what it points
    to.  Work is quiet if all variables that it gives their objects are new: they have been
    registered since it began. -/

namespace Panel

open Cpp List Code

variable (name : String) {s t u : Session}

variable {free' : List String} {key : String} {id : Ident} {α : Type}

/-! ## Targets -/

/-- The variable that an item gives its object: it is assigned, or the object is set of what it
    points to. -/
def Cpp.Item.target? : Item → Option String
  | .expr (.define type _ v _) => if type = "" then some v else none
  | .expr (.object (.call (.raw f) _ _) .dot) =>
    if Text.hasSuffix "->set_obj" f then some (Text.removeSuffix "->set_obj" f) else none
  | _ => none

theorem Cpp.Item.Plain.target? {i : Item} (h : i.Plain) : i.target? = none := by
  unfold Item.Plain at h
  split at h
  · rfl
  · exact if_neg h
  · rfl
  · rfl
  · exact h.elim

def Session.since (s t : Session) : List Item := (t.main.drop s.main.length).map Stmt.inner

theorem Session.since_append (hst : s.main <+: t.main) (htu : t.main <+: u.main) :
    s.since u = s.since t ++ t.since u := by
  obtain ⟨more, hmore⟩ := hst
  obtain ⟨more', hmore'⟩ := htu
  unfold since
  rw [← hmore', ← hmore, append_assoc, drop_left, drop_left, ← append_assoc, drop_left, map_append]

theorem Session.since_eq {more : List Stmt} (h : t.main = s.main ++ more) :
    s.since t = more.map Stmt.inner := by
  unfold since
  rw [h, drop_left]

/-! ## Quiet work -/

def Session.Knows (s : Session) (key : String) : Prop :=
  ∃ w, Widget.find? s key = some w ∧ w.var.render = key

def Session.blocks (s : Session) : List (ContextForm × Option Nat) :=
  s.contexts.map fun c => (c.form, c.previous)

/-- What quiet work does to a session.  It comes back to the block that it was begun in, forgets no
    name and no widget, leaves the theme as it is, and adds to the program; a variable that it gives
    its object is new, or one of those that are free to it. -/
structure Session.Quiet (free : List String) (s t : Session) : Prop where
  names : s.names ⊆ t.names
  current : t.current = s.current
  blocks : s.blocks <+: t.blocks
  main : s.main <+: t.main
  targets : ∀ i ∈ s.since t, ∀ v, i.target? = some v → v ≠ "" →
    v ∈ free ∨ some v ∉ s.names ∧ some v ∈ t.names
  widgets : ∀ key, key ≠ "" → s.Knows key → t.Knows key
  themes : t.themes = s.themes

namespace Session.Quiet

variable {free : List String} {s t u : Session}

theorem of_main (hnames : s.names ⊆ t.names) (hcurrent : t.current = s.current)
    (hblocks : s.blocks <+: t.blocks) (hmain : t.main = s.main)
    (hwidgets : ∀ key, key ≠ "" → s.Knows key → t.Knows key) (hthemes : t.themes = s.themes) :
    Quiet free s t := by
  refine ⟨hnames, hcurrent, hblocks, hmain ▸ prefix_refl _, fun i hi => ?_, hwidgets, hthemes⟩
  rw [since_eq (hmain.trans (append_nil _).symm)] at hi
  exact nomatch hi

theorem of_traced (h : t.traced = s.traced) : Quiet free s t := by
  obtain ⟨hmain, hcontexts, hcurrent, hobjects, hwidgets, hthemes, -⟩ := traced_eq_iff.mp h
  have hnames : t.names = s.names := congrArg (map fun v : Variable => v.id.name) hobjects
  have hblocks : t.blocks = s.blocks := by rw [Session.blocks, Session.blocks, hcontexts]
  refine of_main (hnames ▸ List.Subset.refl _) hcurrent (hblocks ▸ prefix_refl _) hmain
    (fun key _ hkey => ?_) hthemes
  unfold Knows Widget.find? at hkey ⊢
  rwa [hwidgets]

theorem trans (hst : Quiet free s t) (htu : Quiet free t u) : Quiet free s u := by
  refine ⟨fun n hn => htu.names (hst.names hn), htu.current.trans hst.current,
    hst.blocks.trans htu.blocks, hst.main.trans htu.main, fun i hi v hv hempty => ?_,
    fun key hkey hknown => htu.widgets key hkey (hst.widgets key hkey hknown),
    htu.themes.trans hst.themes⟩
  rw [since_append hst.main htu.main] at hi
  rcases mem_append.mp hi with hi | hi
  · exact (hst.targets i hi v hv hempty).imp_right fun ⟨hnew, hthere⟩ => ⟨hnew, htu.names hthere⟩
  · exact (htu.targets i hi v hv hempty).imp_right fun ⟨hnew, hthere⟩ =>
      ⟨fun hold => hnew (hst.names hold), hthere⟩

theorem mono (h : Quiet free s t) (hfree : free ⊆ free') : Quiet free' s t :=
  { h with targets := fun i hi v hv hempty => (h.targets i hi v hv hempty).imp_left (hfree ·) }

theorem of_modifyContext {f : Context → Context} (s : Session)
    (hf : ∀ c, ((f c).form, (f c).previous) = (c.form, c.previous)) :
    Quiet free s (modifyContext f s) := by
  unfold modifyContext
  split
  · next i _ =>
      refine of_main (List.Subset.refl _) rfl ?_ rfl (fun _ _ h => h) rfl
      have hmodify : (s.contexts.modify i f).map (fun c => (c.form, c.previous)) = s.blocks := by
        refine ext_getElem? fun j => ?_
        rw [Session.blocks, getElem?_map, getElem?_map, getElem?_modify]
        cases s.contexts[j]? with
        | none => rfl
        | some c =>
          by_cases hij : i = j
          · simpa [hij] using hf c
          · simp [hij]
      exact hmodify ▸ prefix_refl _
  · exact of_traced rfl

theorem of_stmt {x : Stmt} (s : Session) (h : ∀ v, x.inner.target? = some v → v ∈ free) :
    Quiet free s { s with main := s.main ++ [x] } := by
  refine ⟨List.Subset.refl _, rfl, prefix_refl _, prefix_append _ _, fun i hi v hv _ => ?_,
    fun _ _ h => h, rfl⟩
  rw [since_eq (s := s) rfl, map_singleton, mem_singleton] at hi
  exact .inl (h v (hi ▸ hv))

end Session.Quiet

namespace Widget

theorem putAmong_eq (w : Widget) (ws : List Widget) : putAmong ws w = putBy (·.key) ws w := by
  induction ws with
  | nil => rfl
  | cons v ws ih => grind [putAmong, putBy]

theorem find?_putAmong (w : Widget) (ws : List Widget) (key : String) :
    (putAmong ws w).find? (·.key == key)
      = if w.key = key then some w else ws.find? (·.key == key) :=
  putAmong_eq w ws ▸ find?_putBy _ ws w key

end Widget

theorem Session.Knows.put {w : Widget} (hw : w.key = "" ∨ w.var.render = w.key) (hkey : key ≠ "")
    (h : s.Knows key) :
    ({ s with widgets := Widget.putAmong s.widgets w } : Session).Knows key := by
  obtain ⟨v, hv, hrender⟩ := h
  unfold Knows
  show ∃ w', (Widget.putAmong s.widgets w).find? (·.key == key) = some w' ∧ _
  rw [Widget.find?_putAmong]
  by_cases hsame : w.key = key
  · rw [if_pos hsame]
    exact ⟨w, rfl, (hw.resolve_left fun h => hkey (hsame.symm.trans h)).trans hsame⟩
  · rw [if_neg hsame]
    exact ⟨v, hv, hrender⟩

theorem Session.Quiet.of_note {w : Widget} {free : List String}
    (hw : w.key = "" ∨ w.var.render = w.key) (s : Session) :
    Quiet free s { s with widgets := Widget.putAmong s.widgets w } :=
  .of_main (List.Subset.refl _) rfl (prefix_refl _) rfl (fun _ => .put hw) rfl

theorem Session.Knows.change {f : Widget → Widget} (hf : ∀ w, (f w).Alike w) (h : s.Knows key) :
    ({ s with widgets := s.widgets.map fun w => if w.key == name then f w else w } :
      Session).Knows key := by
  obtain ⟨v, hv, hrender⟩ := h
  have hkeys : ∀ w : Widget, (if w.key == name then f w else w).key = w.key
      ∧ (if w.key == name then f w else w).var = w.var := by
    intro w
    split
    · exact (hf w).1
    · exact ⟨rfl, rfl⟩
  refine ⟨if v.key == name then f v else v, ?_, (hkeys v).2 ▸ hrender⟩
  have hcomp : ((fun w : Widget => w.key == key) ∘ fun w : Widget =>
      if w.key == name then f w else w) = fun w : Widget => w.key == key :=
    funext fun w => by rw [Function.comp_apply, (hkeys w).1]
  show (s.widgets.map _).find? (fun w : Widget => w.key == key) = _
  rw [find?_map, hcomp]
  exact congrArg (Option.map _) hv

theorem Session.length_blocks (s : Session) : s.blocks.length = s.contexts.length := length_map _

theorem Session.current_leave {c : Context} (h : ((enter c).on s).2.blocks <+: t.blocks) :
    ((leave s.contexts.length).on t).2.current = s.current := by
  have hentered : ((enter c).on s).2.blocks = s.blocks ++ [(c.form, s.current)] := map_append
  obtain ⟨rest, hrest⟩ := h
  have hthere : t.blocks[s.contexts.length]? = some (c.form, s.current) := by
    rw [← hrest, hentered, ← length_blocks, append_assoc,
      getElem?_append_right (Nat.le_refl _), Nat.sub_self]
    rfl
  rw [Session.blocks, getElem?_map] at hthere
  obtain ⟨b, hb, hprevious⟩ := Option.map_eq_some_iff.mp hthere
  show (t.contexts[s.contexts.length]?).bind (·.previous) = s.current
  rw [hb]
  exact congrArg Prod.snd hprevious

/-- Quiet work, with some variables left free to it.  Others are quiet too while it waits. -/
def Habit.quiet (free : List String) : Habit where
  amid := Session.Quiet []
  keeps := Session.Quiet free
  allows i := ∀ v, i.target? = some v → v ∈ free
  amid_keeps h := h.mono (List.nil_subset _)
  trans := Session.Quiet.trans
  aside := Session.Quiet.of_traced
  plain h v hv := by
    rw [h.target?] at hv
    cases hv
  item {i} s h := Code.addItem_cases (P := fun x => s.Quiet free x.2) i s (.of_traced rfl)
    (fun _ hx => .of_stmt s (hx ▸ h)) (.of_modifyContext s fun _ => rfl)
  main s h := .of_stmt s h
  shift levels s := .of_modifyContext s fun _ => rfl
  object {s id} e _ := by
    refine .of_main (fun n hn => ?_) rfl (List.prefix_refl _) rfl (fun _ _ h => h) rfl
    obtain ⟨v, hv, rfl⟩ := List.mem_map.mp hn
    exact List.mem_map.mpr ⟨v, List.mem_append_left _ hv, rfl⟩
  style _ _ := .of_main (List.Subset.refl _) rfl (List.prefix_refl _) rfl (fun _ _ h => h) rfl
  block {s t c} _ h :=
    { h with
      current := Session.current_leave h.blocks
      blocks := (List.map_append ▸ List.prefix_append _ _).trans h.blocks }

/-- The variable of an identifier has been made, and none was given its object meanwhile. -/
structure Session.Registers (id : Ident) (s t : Session) : Prop where
  new : id.name ∉ s.names
  there : id.name ∈ t.names
  targets : ∀ i ∈ s.since t, i.target? = none

theorem Ident.name_eq_of_text (h : id.text ≠ "") : id.name = some id.text := by
  unfold text at h ⊢
  cases hname : id.name with
  | none => exact absurd (by rw [hname]; rfl) h
  | some name => rfl

theorem Session.Quiet.made {free : List String} (hst : Quiet free s t) (hid : s.Registers id t)
    (htu : Quiet (id.text :: free) t u) : Quiet free s u := by
  have hsu := (hst.mono (subset_cons_self _ _)).trans htu
  refine { hsu with targets := fun i hi v hv hempty => ?_ }
  rcases hsu.targets i hi v hv hempty with hfree | hv
  · rcases mem_cons.mp hfree with rfl | hfree
    · have hname := Ident.name_eq_of_text hempty
      exact .inr ⟨hname ▸ hid.new, hname ▸ htu.names hid.there⟩
    · exact .inl hfree
  · exact .inr hv

/-! ## Notions of quiet

    How widgets are built is gone through once, for every habit that lets work write all that gives
    no variable its object, and lets it give a new variable its object. -/

/-- What counts as quiet: a habit for every list of variables that are free to work. -/
structure Quietness where
  of : List String → Habit
  amid : ∀ {free free' s t}, (of free').amid s t → (of free).amid s t
  mono : ∀ {free free' s t}, free ⊆ free' → (of free).keeps s t → (of free').keeps s t
  allows : ∀ {free i}, (∀ v, i.target? = some v → v ∈ free) → (of free).allows i
  made : ∀ {free s t u} {id : Ident}, (of free).keeps s t → s.Registers id t →
    (of (id.text :: free)).keeps t u → (of free).keeps s u

/-- Widgets may be changed, but neither become known by other names nor get other options. -/
class Quietness.Changes (q : Quietness) : Prop where
  change : ∀ {free} {f : Widget → Widget} (key : String) (s : Session),
    (∀ w, (f w).Alike w) → (q.of free).keeps s
      { s with widgets := s.widgets.map fun w => if w.key == key then f w else w }

/-- Widgets may be noted that are known by the names of new variables, or cannot be referred to. -/
class Quietness.Notes (q : Quietness) : Prop extends q.Changes where
  note : ∀ {free} {w : Widget}, w.key = "" ∨ w.key ∈ free ∧ w.var.render = w.key → ∀ s : Session,
    (q.of free).keeps s { s with widgets := Widget.putAmong s.widgets w }

@[reducible]
def Quietness.strict : Quietness where
  of := Habit.quiet
  amid h := h
  mono hfree h := h.mono hfree
  allows h := h
  made := Session.Quiet.made

instance : Quietness.strict.Notes where
  note h s := .of_note (h.imp_right And.right) s
  change name _ h :=
    .of_main (List.Subset.refl _) rfl (List.prefix_refl _) rfl (fun _ _ => .change name h) rfl

/-- A habit that is about objects, widgets and macros: all code may be written. -/
@[reducible]
def Habit.beside (amid keeps : Session → Session → Prop) (hamid : ∀ {s t}, amid s t → keeps s t)
    (htrans : ∀ {s t u}, keeps s t → keeps t u → keeps s u)
    (haside : ∀ {s t : Session}, t.objects = s.objects → t.widgets = s.widgets →
      t.macros = s.macros → keeps s t)
    (hobject : ∀ {s : Session} {id : Ident} (e : Expr), id.name ∉ s.names →
      keeps s { s with objects := s.objects ++ [⟨id, e⟩] }) : Habit where
  amid := amid
  keeps := keeps
  allows _ := True
  amid_keeps := hamid
  trans := htrans
  aside h :=
    have ⟨_, _, _, hobjects, hwidgets, _, hmacros, _⟩ := Session.traced_eq_iff.mp h
    haside hobjects hwidgets hmacros
  plain _ := trivial
  item {i} s _ := Code.addItem_cases (P := fun x => keeps s x.2) i s (haside rfl rfl rfl)
    (fun _ _ => haside rfl rfl rfl) (by unfold modifyContext; split <;> exact haside rfl rfl rfl)
  main _ _ := haside rfl rfl rfl
  shift _ s := by unfold modifyContext; split <;> exact haside rfl rfl rfl
  object := hobject
  style _ _ := haside rfl rfl rfl
  block {s t c} _ h := by
    have hentered : keeps s ((Code.enter c).on s).2 := haside rfl rfl rfl
    exact htrans hentered (htrans h (haside rfl rfl rfl))

@[reducible]
def Quietness.all (r : Habit) (h : ∀ i, r.allows i) : Quietness where
  of _ := r
  amid h := h
  mono _ h := h
  allows _ := h _
  made hst _ htu := r.trans hst htu

/-! ## Quiet code -/

section

variable {q : Quietness} {free : List String} (v : Value)

theorem Build.Heeds.quiet_mono {b : Build α} (h : b.Heeds (q.of free)) (hfree : free ⊆ free') :
    b.Heeds (q.of free') :=
  ⟨fun s => ((h.ends s).mono fun _ _ ht => q.mono hfree ht).narrow q.amid⟩

theorem Quietness.calls (function : String) : (q.of free).Calls function :=
  fun _ => q.allows nofun

theorem Quietness.methods {name : String} (hfront : Text.hasPrefix "P" name = false)
    (hbar : Text.hasPrefix "_" name = false) {c : Char} (hlast : name.toList.getLast? = some c)
    (hc : c ≠ 'j') (e : Expr) : (q.of free).Methods e name := by
  have hmember : ∃ start, e.member name = .object (.raw (start ++ name)) .dot := by
    refine ⟨e.render ++ e.access.text, ?_⟩
    unfold Expr.member Text.removePrefix
    rw [hfront]
    simp only [Bool.false_and, Bool.false_eq_true, if_false, hbar]
  obtain ⟨start, hstart⟩ := hmember
  refine fun args => q.allows fun v hv => ?_
  rw [Expr.method, hstart] at hv
  have hsuffix : Text.hasSuffix "->set_obj" (start ++ name) = false := by
    unfold Text.hasSuffix
    obtain ⟨front, hname⟩ := getLast?_eq_some_iff.mp hlast
    rw [String.toList_append, hname, reverse_append, reverse_append]
    exact Bool.and_eq_false_iff.mpr (.inl (beq_eq_false_iff_ne.mpr fun h => hc h.symm))
  have hnone : (Item.expr ((Expr.object (.raw (start ++ name)) .dot).invoke args)).target?
      = none := if_neg (by rw [hsuffix]; exact Bool.false_ne_true)
  rw [hnone] at hv
  cases hv

namespace Code

@[simp, grind ←]
theorem run_quiet (args : List Value) : (run name args).Heeds (q.of free) :=
  run_keeps (Quietness.calls name) args

@[simp, grind ←]
theorem call_quiet (args : List Value) : (call name args).Heeds (q.of free) :=
  call_keeps (Quietness.calls name) args

@[simp, grind ←]
theorem addLine_quiet (line : String) : (addLine line).Heeds (q.of free) :=
  addItem_keeps (q.allows nofun)

@[simp, grind ←]
theorem addRaw_quiet (text : String) : (add (.raw text)).Heeds (q.of free) :=
  addItem_keeps (q.allows nofun)

@[simp, grind ←]
theorem addLineMarks_quiet : (addLineMarks v).Heeds (q.of free) := by
  unfold addLineMarks
  split
  · refine .bind .of_get fun s => ?_
    split <;> simp
  · exact .forM fun line _ => addLine_quiet line

@[grind ←]
theorem closureOf_quiet (params : List Param) (result : CppType) {work : Build Unit}
    (hwork : work.Heeds (q.of free)) :
    (Automation.closureOf params result work).Heeds (q.of free) :=
  .bind (inBlock_keeps rfl fun i => hwork.bind fun _ => .of_pure i) fun i => blockLambda_keeps i

theorem assign_quiet {target : Expr} (h : target.render ∈ free) (v : Value) :
    (assign target v).Heeds (q.of free) := by
  refine .bind (express_still v).keeps fun e => addItem_keeps (q.allows fun x hx => ?_)
  have htarget : (Item.expr (.define "" "" target.render e)).target? = some target.render := by
    simp [Item.target?]
  rw [htarget] at hx
  exact Option.some.inj hx ▸ h

end Code

/-! ### New variables -/

/-- Work that makes the variable of an identifier, if it ends well. -/
def Check.Makes (id : Ident) (c : Check Expr) : Prop :=
  ∀ {e : Expr} {s t : Session}, c.on s = (.ok e, t) → e = .pointer id.text ∧ s.Registers id t

namespace Code

theorem register_eq_ok {e : Expr} (h : (register id e).on s = (.ok (), t)) :
    id.name ∉ s.names ∧ id.name ∈ t.names ∧ t.main = s.main := by
  by_cases hname : id.name ∈ s.names
  · rw [register_taken e hname] at h
    cases h
  · rw [register_free e hname] at h
    obtain rfl := congrArg Prod.snd h
    refine ⟨hname, mem_map.mpr ⟨⟨id, e⟩, ?_, rfl⟩, rfl⟩
    exact mem_append_right _ (mem_singleton.mpr rfl)

theorem globalPointer_makes (type : String) (id : Ident) : (globalPointer type id).Makes id := by
  intro e s t h
  obtain ⟨_, u, hglobal, hrest⟩ := Check.on_bind_eq_ok h
  obtain ⟨_, t', hregister, hpure⟩ := Check.on_bind_eq_ok hrest
  obtain ⟨hnew, hthere, hmain⟩ := register_eq_ok hregister
  cases hglobal
  cases hpure
  have hsame : t.main = s.main ++ [] := hmain.trans (append_nil _).symm
  refine ⟨rfl, hnew, hthere, fun i hi => ?_⟩
  rw [Session.since_eq hsame] at hi
  exact nomatch hi

theorem pointerTo_makes (id : Ident) (rhs : Expr) : (pointerTo id rhs).Makes id := by
  intro e s t h
  obtain ⟨_, u, hglobal, hafter⟩ := Check.on_bind_eq_ok h
  obtain ⟨_, u', hadded, hrest⟩ := Check.on_bind_eq_ok hafter
  obtain ⟨_, t', hregister, hpure⟩ := Check.on_bind_eq_ok hrest
  obtain ⟨hnew, hthere, hmain⟩ := register_eq_ok hregister
  cases hglobal
  cases hadded
  cases hpure
  have hgrown : t.main = s.main ++ [.item (.expr (.assign (.raw id.text) rhs))] := hmain
  refine ⟨rfl, hnew, hthere, fun i hi => ?_⟩
  rw [Session.since_eq hgrown, map_singleton, mem_singleton] at hi
  exact hi ▸ rfl

theorem newObject_makes (id : Ident) (args : List Value) : (newObject id args).Makes id := by
  intro e s t h
  obtain ⟨rhs, u, hobject, hpointer⟩ := Check.on_bind_eq_ok h
  obtain ⟨r, hr⟩ := (arguments_still args).map fun es =>
    Expr.object (.call (.raw ("new " ++ id.typeText)) [] es) .arrow
  obtain ⟨-, rfl⟩ := Prod.mk.inj ((hr s).symm.trans hobject)
  exact pointerTo_makes id _ hpointer

theorem newVariable_registers {rhs : Value} {e : Expr} (h : (newVariable id rhs).on s = (.ok e, t)) :
    s.Registers id t := by
  obtain ⟨rhs, u, hexpress, hrest⟩ := Check.on_bind_eq_ok h
  obtain ⟨r, hr⟩ := express_still _
  obtain ⟨-, rfl⟩ := Prod.mk.inj ((hr s).symm.trans hexpress)
  obtain ⟨_, _, hglobal, hrest⟩ := Check.on_bind_eq_ok hrest
  obtain ⟨_, _, hmain, hrest⟩ := Check.on_bind_eq_ok hrest
  obtain ⟨_, _, hregister, hpure⟩ := Check.on_bind_eq_ok hrest
  obtain ⟨hnew, hthere, hmade⟩ := register_eq_ok hregister
  cases hglobal
  cases hmain
  cases hpure
  have hgrown : t.main = s.main ++ [.item (.expr (.assign (.raw id.text) rhs))] := hmade
  refine ⟨hnew, hthere, fun i hi => ?_⟩
  rw [Session.since_eq hgrown, map_singleton, mem_singleton] at hi
  exact hi ▸ rfl

end Code

variable {rest : Expr → Build α}

theorem Build.Heeds.quiet_made {c : Check Expr} (hc : c.Heeds (q.of free)) (hmakes : c.Makes id)
    (hrest : (rest (.pointer id.text)).Heeds (q.of (id.text :: free))) :
    (liftM c >>= rest : Build α).Heeds (q.of free) := by
  refine ⟨fun s => ?_⟩
  have hquiet := hc.on s
  rcases hrun : c.on s with ⟨result, t⟩
  rw [hrun] at hquiet
  have hlift : (liftM c : Build Expr) s = .done result t := Build.ofCheck_eq hrun
  cases result with
  | ok e =>
    obtain ⟨rfl, hid⟩ := hmakes hrun
    rw [Build.bind_ok rest hlift]
    exact ((hrest.ends t).mono fun _ u hu => q.made hquiet hid hu).narrow q.amid
  | error e =>
    rw [Build.bind_error rest hlift]
    exact hquiet

/-! ## Widgets -/

theorem Cpp.Item.target?_setObject (args : List Expr) :
    (Item.expr ((Expr.pointer name).method "set_obj" args)).target? = some name := by
  have hmember : (Expr.pointer name).member "set_obj"
      = .object (.raw (name ++ "->" ++ "set_obj")) .dot := by
    have hname : Text.removePrefix "_" "set_obj" = "set_obj" := by decide
    unfold Expr.member
    rw [show Text.hasPrefix "P" "set_obj" = false by decide]
    simp only [Bool.false_and, Bool.false_eq_true, if_false, hname]
    rfl
  have htext : name ++ "->" ++ "set_obj" = name ++ "->set_obj" := by
    rw [String.append_assoc]
    rfl
  have hsuffix : Text.hasSuffix "->set_obj" (name ++ "->set_obj") = true := by
    unfold Text.hasSuffix
    rw [String.toList_append, reverse_append]
    exact isPrefixOf_iff_prefix.mpr (prefix_append _ _)
  have hremoved : Text.removeSuffix "->set_obj" (name ++ "->set_obj") = name := by
    unfold Text.removeSuffix Text.dropEnd
    dsimp only
    rw [hsuffix, if_pos (by decide), String.toList_append, length_append,
      show "->set_obj".toList.length = "->set_obj".length from rfl, Nat.add_sub_cancel,
      take_left, String.ofList_toList]
  rw [Expr.method, hmember, htext]
  show (if Text.hasSuffix "->set_obj" (name ++ "->set_obj") = true then _ else none) = _
  rw [if_pos hsuffix, hremoved]

def Generator.Quiet (g : Generator) (q : Quietness) : Prop :=
  ∀ kind config parent, (g.widget kind config parent).Heeds (q.of [])

/-- Designs whose code is quiet. -/
structure Design.Quiet (d : Design) (q : Quietness) : Prop where
  creator : ∀ {f}, d.creator = some f → ∀ g parent config, (f g parent config).Heeds (q.of [])
  created : ∀ {g : Generator}, g.Quiet q → ∀ e config, (d.created g e config).Heeds (q.of [])
  options : ∀ {g : Generator}, g.Quiet q → ∀ w config, (d.options g w config).Heeds (q.of [])
  create? : ∀ {f}, d.create? = some f → ∀ {g : Generator}, g.Quiet q → ∀ config parent,
    (f g config parent).Heeds (q.of [])

namespace Widget

variable {w : Widget} {g : Generator}

@[simp, grind ←]
theorem setStyle_quiet (state : Value) : (w.setStyle name v state).Heeds (q.of free) :=
  setStyle_keeps (Quietness.calls _) v state

@[simp, grind ←]
theorem addStyle_quiet (style state : Value) : (w.addStyle style state).Heeds (q.of free) :=
  addStyle_keeps (Quietness.calls _) style state

@[simp, grind ←]
theorem setValue_quiet (manner : Manner) : (w.setValue name v manner).Heeds (q.of free) :=
  setValue_keeps (Quietness.calls _) v

@[simp, grind ←]
theorem setProperty_quiet (manner : Manner) : (w.setProperty name v manner).Heeds (q.of free) :=
  setProperty_keeps (Quietness.calls _) v

@[grind ←]
theorem applyCommon_quietly {names : Option String → Prop} {config : Value}
    (h : config.OptionsCovered names) : (w.applyCommon config).Writes (q.of free) names :=
  applyCommon_writes (fun f _ => Quietness.calls f) h

@[simp, grind ←]
theorem applyCommon_quiet (config : Value) : (w.applyCommon config).Heeds (q.of free) :=
  applyCommon_keeps (fun f _ => Quietness.calls f) config

@[simp, grind ←]
theorem latest_quiet : w.latest.Heeds (q.of free) := .bind .of_get fun _ => .of_pure _

@[simp, grind ←]
theorem applyTheme_quiet : w.applyTheme.Heeds (q.of free) := by
  refine .bind .of_get fun s => ?_
  split
  · exact .of_pure _
  · exact .forM fun _ _ => .forM fun _ _ => addStyle_quiet _ _

@[simp, grind ←]
theorem note_fresh_quiet [hq : q.Notes] (key : String) (kind : Kind) (config : Value) :
    (fresh key (.pointer key) kind config).note.Heeds (q.of (key :: free)) :=
  note_keeps (hq.note (.inr ⟨mem_cons_self, rfl⟩))

theorem createChildren_quiet (hg : g.Quiet q) (parent : Expr) (items : List Value) :
    (createChildren g parent items).Heeds (q.of free) := by
  have hwidget : ∀ kind config, (g.widget kind config parent).Heeds (q.of free) :=
    fun kind config => (hg kind config parent).quiet_mono (nil_subset _)
  fun_induction createChildren g parent items with
  | case1 => exact .of_pure _
  | case2 name config _ rest _ kind _ ih => exact (hwidget kind config).bind fun _ => ih
  | case3 => exact .of_throw _
  | case4 => exact .of_throw _
  | case5 => exact .of_throw _

theorem addChildren_quiet (hg : g.Quiet q) (config : Value) :
    (w.addChildren g config).Heeds (q.of free) := by
  unfold addChildren
  split
  · exact .of_pure _
  · exact createChildren_quiet hg _ _
  · exact .of_throw _

variable {design : Design}

section

variable (hdesign : design.Quiet q)

include hdesign

theorem creatorOf_quiet (kind : Kind) (config : Value) (parent : Expr) :
    (creatorOf design g kind config parent).Heeds (q.of []) := by
  unfold creatorOf
  split
  · next f hf => exact hdesign.creator hf g parent config
  · exact .of_lift (callOf_still _ _).keeps

theorem declareVariable_bind_quiet (hg : g.Quiet q) (kind : Kind) (config : Value) (creator : Expr)
    (hrest : (rest (.pointer id.text)).Heeds (q.of [id.text])) :
    (declareVariable g design kind config id creator >>= rest).Heeds (q.of []) := by
  have hafter : ∀ e, (design.created g e config >>= fun _ => rest (.pointer id.text)).Heeds
      (q.of [id.text]) := fun e =>
    ((hdesign.created hg e config).quiet_mono (nil_subset _)).bind fun _ => hrest
  unfold declareVariable
  split
  · have hset : (q.of [id.text]).Methods (.pointer id.text) "set_obj" := by
      refine fun args => q.allows fun v hv => ?_
      rw [Item.target?_setObject] at hv
      exact mem_singleton.mpr (Option.some.inj hv).symm
    rw [bind_assoc]
    refine .quiet_made (newObject_keeps id []) (newObject_makes id []) ?_
    simp only [bind_assoc, pure_bind]
    exact .first (runMethod_keeps hset _) fun _ => hafter _
  · have hassign : (assign (.pointer id.text) (.cpp creator)).Heeds (q.of [id.text]) :=
      assign_quiet (show (Expr.pointer id.text).render ∈ [id.text] from .head _) _
    rw [bind_assoc]
    refine .quiet_made (globalPointer_keeps _ id) (globalPointer_makes _ id) ?_
    simp only [bind_assoc, pure_bind]
    exact .first hassign fun _ => hafter _

theorem createCommon_quiet [q.Notes] (hg : g.Quiet q) (kind : Kind) (config : Value)
    (parent : Expr) : (createCommon design g kind config parent).Heeds (q.of []) := by
  refine .bind (creatorOf_quiet hdesign kind config parent) fun creator => ?_
  refine .first (noteUses_keeps _) fun _ => ?_
  refine .ask (identAt_still _ _) fun id => ?_
  refine .first (addLineMarks_quiet _) fun _ => ?_
  refine declareVariable_bind_quiet hdesign hg kind config creator ?_
  exact .first (note_fresh_quiet id.text kind config) fun _ =>
    .first applyTheme_quiet fun _ => .bind (applyCommon_quiet config) fun _ =>
      .bind (addChildren_quiet hg config) fun _ =>
        .bind ((hdesign.options hg _ config).quiet_mono (nil_subset _)) fun _ => .of_lift latest_quiet

theorem create_quiet [q.Notes] (hg : g.Quiet q) (kind : Kind) (config : Value)
    (parent : Expr) : (create design g kind config parent).Heeds (q.of []) := by
  unfold create
  split
  · next f hf => exact (hdesign.create? hf hg config parent).bind fun _ => .of_pure _
  · exact (createCommon_quiet hdesign hg kind config parent).bind fun _ => .of_pure _

end

end Widget

end

end Panel
