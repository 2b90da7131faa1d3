import Panel.Proofs.Questions
import Panel.Proofs.Runs
import Panel.Widget.Design

/-! # Habits — what work may do to a session, and what others may do meanwhile

    Many facts about generated code have one shape: from the start of a piece of work to its end
    only such things happened to the session, if only such things are done while it waits. -/

namespace Panel

open Cpp List

variable (names : List String) (id : Ident) {t : Session} {v : Value} {key : String}

variable {e : Expr} {name type : String}

/-! ## Ends -/

/-- However a job ends, the result and the session are as asked, if others keep to what they may do
    while it waits. -/
def Job.Ends {α : Type} (amid : Session → Session → Prop)
    (post : Except Failure α → Session → Prop) : Job α → Prop
  | .done r t => post r t
  | .waiting t ready resume => ∀ u, amid t u → ready u = true → (resume u).Ends amid post

namespace Job

variable {α β : Type} {amid : Session → Session → Prop} {post' : Except Failure α → Session → Prop}

variable {post : Except Failure α → Session → Prop} {j : Job α}

theorem Ends.mono (h : j.Ends amid post)
    (himp : ∀ r t, post r t → post' r t) : j.Ends amid post' := by
  induction j with
  | done r t => exact himp r t h
  | waiting t ready resume ih => exact fun u hu hready => ih u (h u hu hready)

theorem Ends.narrow {amid' : Session → Session → Prop}
    (h : j.Ends amid post) (himp : ∀ {s t}, amid' s t → amid s t) :
    j.Ends amid' post := by
  induction j with
  | done r t => exact h
  | waiting t ready resume ih => exact fun u hu hready => ih u (h u (himp hu) hready)

theorem Ends.of_done {r : Except Failure α} (h : j.Ends amid post)
    (hdone : j = .done r t) : post r t := by
  subst hdone
  exact h

theorem Ends.bind {post' : Except Failure β → Session → Prop} {f : α → Session → Job β}
    (h : j.Ends amid post) (hok : ∀ a t, post (.ok a) t → (f a t).Ends amid post')
    (herror : ∀ e t, post (.error e) t → post' (.error e) t) : (j.bind f).Ends amid post' := by
  induction j with
  | done r t =>
    cases r with
    | ok a => exact hok a t h
    | error e => exact herror e t h
  | waiting t ready resume ih => exact fun u hu hready => ih u (h u hu hready)

theorem Ends.recover {f : Failure → Session → Job α} (h : j.Ends amid post)
    (hok : ∀ a t, post (.ok a) t → post' (.ok a) t)
    (herror : ∀ e t, post (.error e) t → (f e t).Ends amid post') :
    (j.recover f).Ends amid post' := by
  induction j with
  | done r t =>
    cases r with
    | ok a => exact hok a t h
    | error e => exact herror e t h
  | waiting t ready resume ih => exact fun u hu hready => ih u (h u hu hready)

end Job

/-! ## Habits -/

/-- Items that declare or assign, and lines that open or close scopes. -/
def Cpp.Item.Plain : Item → Prop
  | .expr (.assign _ _) => True
  | .expr (.define type _ _ _) => type ≠ ""
  | .expr (.declare _ _ _) => True
  | .raw line => Text.hasSuffix ");" line = false
  | _ => False

/-- The style sheets of a theme, by type of widget, part and state. -/
abbrev Theme : Type := List (String × List (String × List (String × Expr)))

def Session.traced (s : Session) : List Stmt × List Context × Option Nat × List Variable
    × List Widget × Theme × List (String × String) × Bool × List String :=
  (s.main, s.contexts, s.current, s.objects, s.widgets, s.themes, s.macros, s.completed,
    s.stylesUsed)

theorem Session.traced_eq_iff {s : Session} : t.traced = s.traced ↔ t.main = s.main
    ∧ t.contexts = s.contexts ∧ t.current = s.current ∧ t.objects = s.objects
    ∧ t.widgets = s.widgets ∧ t.themes = s.themes ∧ t.macros = s.macros
    ∧ t.completed = s.completed ∧ t.stylesUsed = s.stylesUsed := by
  simp only [traced, Prod.mk.injEq]

/-- What work may do to a session. -/
structure Habit where
  /-- What others may do while work waits. -/
  amid : Session → Session → Prop
  /-- What work may do from its start to its end. -/
  keeps : Session → Session → Prop
  /-- The items that work may write. -/
  allows : Item → Prop
  amid_keeps : ∀ {s t}, amid s t → keeps s t
  trans : ∀ {s t u}, keeps s t → keeps t u → keeps s u
  /-- Nothing else of the session counts. -/
  aside : ∀ {s t}, t.traced = s.traced → keeps s t
  plain : ∀ {i : Item}, i.Plain → allows i
  item : ∀ {i : Item} (s : Session), allows i → keeps s ((Code.addItem i).on s).2
  main : ∀ {i : Item} (s : Session), allows i → keeps s { s with main := s.main ++ [.item i] }
  shift : ∀ (levels : Int) (s : Session),
    keeps s (Code.modifyContext (fun c => { c with level := c.level + levels }) s)
  object : ∀ {s : Session} {id : Ident} (e : Expr), id.name ∉ s.names →
    keeps s { s with objects := s.objects ++ [⟨id, e⟩] }
  /-- The use of a style property is noted. -/
  style : ∀ (name : String) (s : Session),
    keeps s { s with stylesUsed := addTo s.stylesUsed name }
  /-- A new block is left for the one that was current before. -/
  block : ∀ {s t : Session} {c : Context}, c.code = [] → keeps ((Code.enter c).on s).2 t →
    keeps s ((Code.leave s.contexts.length).on t).2

namespace Habit

variable (r : Habit)

theorem refl (s : Session) : r.keeps s s := r.aside rfl

def Calls (function : String) : Prop :=
  ∀ args, r.allows (.expr (.object (.call (.raw function) [] args) .bare))

def Methods (e : Expr) (name : String) : Prop := ∀ args, r.allows (.expr (e.method name args))

end Habit

/-! ## Work that keeps to a habit -/

/-- Work that may fail and keeps to a habit. -/
structure Check.Heeds {α : Type} (r : Habit) (c : Check α) : Prop where
  on : ∀ s, r.keeps s (c.on s).2

/-- Work that may wait and keeps to a habit. -/
structure Build.Heeds {α : Type} (r : Habit) (b : Build α) : Prop where
  ends : ∀ s, (b s).Ends r.amid fun _ t => r.keeps s t

namespace Check.Heeds

variable {α β : Type} {r : Habit} {c : Check α} {f : α → Check β} {xs : List α}

@[simp, grind ←]
theorem of_pure (a : α) : Heeds r (pure a : Check α) := ⟨r.refl⟩

@[simp, grind ←]
theorem of_throw (e : Failure) : Heeds r (throw e : Check α) := ⟨r.refl⟩

@[simp, grind ←]
theorem of_get : Heeds r (get : Check Session) := ⟨r.refl⟩

theorem of_modify {f : Session → Session} (h : ∀ s, (f s).traced = s.traced) :
    Heeds r (modify f : Check Unit) := ⟨fun s => r.aside (h s)⟩

@[simp, grind ←]
theorem bind (hc : Heeds r c) (hf : ∀ a, Heeds r (f a)) :
    Heeds r (c >>= f) := ⟨on_bind_trans r.trans hc.on fun a => (hf a).on⟩

@[simp, grind ←]
theorem map (f : α → β) (hc : Heeds r c) : Heeds r (f <$> c) := by
  rw [map_eq_pure_bind]
  exact hc.bind fun a => of_pure (f a)

theorem forM {f : α → Check PUnit} (h : ∀ x ∈ xs, Heeds r (f x)) : Heeds r (xs.forM f) := by
  induction xs with
  | nil => exact of_pure _
  | cons x xs ih =>
    exact bind (h x mem_cons_self) fun _ => ih (forall_mem_cons.mp h).2

theorem mapM (h : ∀ x ∈ xs, Heeds r (f x)) : Heeds r (xs.mapM f) := by
  induction xs with
  | nil => exact of_pure _
  | cons x xs ih =>
    rw [mapM_cons]
    exact bind (h x mem_cons_self) fun _ => bind (ih (forall_mem_cons.mp h).2) fun _ => of_pure _

end Check.Heeds

namespace Build.Heeds

variable {α β : Type} {r : Habit} {xs : List α}

variable {c : Check α}

theorem of_check (h : c.Heeds r) : Heeds r (ofCheck c) := ⟨h.on⟩

@[simp, grind ←]
theorem of_lift (h : c.Heeds r) : Heeds r (liftM c : Build α) := ⟨h.on⟩

@[simp, grind ←]
theorem of_pure (a : α) : Heeds r (pure a : Build α) := ⟨r.refl⟩

@[simp, grind ←]
theorem of_throw (e : Failure) : Heeds r (throw e : Build α) := ⟨r.refl⟩

@[simp, grind ←]
theorem of_get : Heeds r (get : Build Session) := ⟨r.refl⟩

variable {x : Build α} {f : α → Build β}

@[simp, grind ←]
theorem bind (hx : Heeds r x) (hf : ∀ a, Heeds r (f a)) :
    Heeds r (x >>= f) where
  ends s :=
    (hx.ends s).bind (fun a t ht => ((hf a).ends t).mono fun _ _ => r.trans ht) fun _ _ h => h

theorem first (hc : c.Heeds r) (hf : ∀ a, Heeds r (f a)) :
    Heeds r ((liftM c : Build α) >>= f) :=
  (of_lift hc).bind hf

theorem lift_bind (hc : c.Heeds r) (hf : ∀ {a s t}, c.on s = (.ok a, t) → Heeds r (f a)) :
    Heeds r ((liftM c : Build α) >>= f) := by
  refine ⟨fun s => ?_⟩
  have hfirst := hc.on s
  rcases hrun : c.on s with ⟨result, t⟩
  rw [hrun] at hfirst
  have hlift : (liftM c : Build α) s = .done result t := ofCheck_eq hrun
  cases result with
  | ok a =>
    rw [bind_ok f hlift]
    exact ((hf hrun).ends t).mono fun _ _ => r.trans hfirst
  | error e =>
    rw [bind_error f hlift]
    exact hfirst

theorem perhaps {c : Prop} [Decidable c] {y : Build β} (hx : Heeds r x)
    (hy : Heeds r y) : Heeds r (if c then x >>= fun _ => y else y) := by
  split
  · exact hx.bind fun _ => hy
  · exact hy

@[simp, grind ←]
theorem map (f : α → β) (hx : Heeds r x) : Heeds r (f <$> x) := by
  rw [map_eq_pure_bind]
  exact hx.bind fun a => of_pure (f a)

@[simp, grind ←]
theorem tryCatch {f : Failure → Build α} (hx : Heeds r x)
    (hf : ∀ e, Heeds r (f e)) : Heeds r (tryCatch x f) where
  ends s :=
    (hx.ends s).recover (fun _ _ h => h) fun e t ht => ((hf e).ends t).mono fun _ _ => r.trans ht

@[simp, grind ←]
theorem waitFor (answer : Session → Option (Except Failure α)) : Heeds r (waitFor answer) := by
  refine ⟨fun s => ?_⟩
  unfold Build.waitFor
  split
  · exact r.refl s
  · intro u hu _
    dsimp only
    split
    · exact r.amid_keeps hu
    · exact r.amid_keeps hu

theorem mapM (h : ∀ x ∈ xs, Heeds r (f x)) : Heeds r (xs.mapM f) := by
  induction xs with
  | nil => exact of_pure _
  | cons x xs ih =>
    rw [mapM_cons]
    exact bind (h x mem_cons_self) fun _ => bind (ih (forall_mem_cons.mp h).2) fun _ => of_pure _

theorem forM {f : α → Build PUnit} (h : ∀ x ∈ xs, Heeds r (f x)) : Heeds r (ForM.forM xs f) := by
  induction xs with
  | nil => exact of_pure _
  | cons x xs ih =>
    rw [forM_cons]
    exact bind (h x mem_cons_self) fun _ => ih (forall_mem_cons.mp h).2

@[grind ←]
theorem forItems {work : α → Build Unit} (h : ∀ x ∈ xs, Heeds r (work x)) :
    Heeds r (Kinds.forItems work xs) := by
  induction xs with
  | nil => exact of_pure _
  | cons x xs ih =>
    exact bind (h x mem_cons_self) fun _ => ih (forall_mem_cons.mp h).2

end Build.Heeds

/-! ## Questions

    Work that only asks keeps to every habit. -/

variable {α : Type} {r : Habit} {c : Check α}

@[grind ←]
theorem Check.Reads.keeps (h : c.Reads) : c.Heeds r := by
  refine ⟨fun s => ?_⟩
  rw [h.leaves]
  exact r.refl s

@[simp, grind ←]
theorem Check.Still.keeps (h : c.Still) : c.Heeds r :=
  h.reads.keeps

theorem Build.Heeds.ask {β : Type} {f : α → Build β} (hc : c.Still)
    (hf : ∀ a, (f a).Heeds r) : Heeds r ((liftM c : Build α) >>= f) :=
  first hc.keeps hf

theorem Check.Heeds.required {f : Value → Check α}
    (hf : ∀ x, (f x).Heeds r) : Heeds r (required v key >>= f) :=
  bind (required_still v key).keeps hf

theorem Build.Heeds.required {f : Value → Build α}
    (hf : ∀ x, (f x).Heeds r) : Heeds r ((liftM (required v key) : Build Value) >>= f) :=
  ask (required_still v key) hf

theorem Build.Asks.keeps {names : Option String → Prop} {b : Build α}
    (h : b.Asks names) : b.Heeds r := by
  induction h with
  | of_check hc => exact .of_check hc.keeps
  | of_await _ => exact .waitFor _
  | bind _ _ hx hf => exact .bind hx hf

/-! ## Code writers -/

variable {r : Habit}

@[simp, grind ←]
theorem noteUses_keeps : (noteUses names).Heeds r := .of_modify fun _ => rfl

@[simp, grind ←]
theorem needComponents_keeps : (needComponents names).Heeds r := .of_modify fun _ => rfl

namespace Code

variable {α : Type} {work : Build α}

theorem addItem_keeps {i : Item} (h : r.allows i) : (addItem i).Heeds r := ⟨fun s => r.item s h⟩

theorem addToMain_keeps (h : r.allows (.expr e)) : (addToMain e).Heeds r := ⟨fun s => r.main s h⟩

@[simp, grind ←]
theorem addGlobal_keeps (e : Expr) : (addGlobal e).Heeds r := .of_modify fun _ => rfl

theorem call_keeps (h : r.Calls name) (args : List Value) : (call name args).Heeds r := by
  simp only [call, callOf, bind_assoc, pure_bind]
  exact .bind (arguments_still args).keeps fun es =>
    .bind (addItem_keeps (h es)) fun _ => .of_pure _

theorem run_keeps (h : r.Calls name) (args : List Value) : (run name args).Heeds r :=
  .bind (call_keeps h args) fun _ => .of_pure _

theorem runMethod_keeps (h : r.Methods e name) (args : List Value) :
    (runMethod e name args).Heeds r := by
  unfold runMethod methodOf
  rw [bind_assoc]
  exact .bind (arguments_still args).keeps fun es => addItem_keeps (h es)

@[simp, grind ←]
theorem register_keeps (e : Expr) : (register id e).Heeds r := by
  refine ⟨fun s => ?_⟩
  by_cases h : id.name ∈ s.names
  · rw [register_taken e h]
    exact r.refl s
  · rw [register_free e h]
    exact r.object e h

@[simp, grind ←]
theorem pointerTo_keeps (rhs : Expr) : (pointerTo id rhs).Heeds r :=
  .bind (addGlobal_keeps _) fun _ => .bind (addToMain_keeps (r.plain trivial)) fun _ =>
    .bind (register_keeps id _) fun _ => .of_pure _

@[simp, grind ←]
theorem newOf_keeps (type : String) (args : List Value) : (newOf type args).Heeds r := by
  simp [newOf]

@[simp, grind ←]
theorem newObject_keeps (args : List Value) : (newObject id args).Heeds r := by
  simp [newObject]

@[simp, grind ←]
theorem globalPointer_keeps (type : String) (id : Ident) : (globalPointer type id).Heeds r := by
  simp [globalPointer]

@[simp, grind ←]
theorem newVariable_keeps (rhs : Value) : (newVariable id rhs).Heeds r :=
  .bind (express_still rhs).keeps fun _ => .bind (addGlobal_keeps _) fun _ =>
    .bind (addToMain_keeps (r.plain trivial)) fun _ => .bind (register_keeps id _) fun _ =>
      .of_pure _

theorem append_ne_empty {a b : String} (h : a ≠ "") : a ++ b ≠ "" := fun hab =>
  h (String.append_eq_empty_iff.mp hab).1

@[simp, grind ←]
theorem constantArray_keeps (name : String) (type : CppType) (rhs : Value) :
    (constantArray name type rhs).Heeds r :=
  .bind (express_still rhs).keeps fun _ =>
    .bind (addToMain_keeps (r.plain (append_ne_empty (by decide)))) fun _ =>
      .bind (register_keeps _ _) fun _ => .of_pure _

@[simp, grind ←]
theorem romArray_keeps (rhs : Value) : (romArray id rhs).Heeds r :=
  .bind (express_still rhs).keeps fun _ =>
    .bind (addToMain_keeps (r.plain (append_ne_empty (by decide)))) fun _ =>
      .bind (register_keeps _ _) fun _ => .of_pure _

@[simp, grind ←]
theorem addFlag_keeps (flag : String) : (addFlag flag).Heeds r := .of_modify fun _ => rfl

/-! ### Scopes -/

@[simp, grind ←]
theorem shift_keeps (levels : Int) : (shift levels).Heeds r := by
  refine .bind .of_get fun s => ?_
  split
  · simp
  · exact ⟨fun s => r.shift levels s⟩

theorem addLine_keeps {line : String} (h : Text.hasSuffix ");" line = false) :
    (addLine line).Heeds r := addItem_keeps (r.plain h)

@[simp, grind ←]
theorem openScope_keeps : openScope.Heeds r :=
  .bind (addLine_keeps (by decide)) fun _ => shift_keeps 1

@[simp, grind ←]
theorem closeScope_keeps : closeScope.Heeds r :=
  .bind (shift_keeps (-1)) fun _ => addLine_keeps (by decide)

@[simp, grind ←]
theorem openIf_keeps (condition : String) : (openIf condition).Heeds r := by
  refine .bind (addLine_keeps ?_) fun _ => shift_keeps 1
  unfold Text.hasSuffix
  rw [String.toList_append, reverse_append]
  rfl

@[simp, grind ←]
theorem otherwise_keeps : otherwise.Heeds r :=
  .bind (shift_keeps (-1)) fun _ => .bind (addLine_keeps (by decide)) fun _ => shift_keeps 1

theorem andFinally_keeps {last : Build Unit} (hwork : work.Heeds r)
    (hlast : last.Heeds r) : (andFinally work last).Heeds r := by
  unfold andFinally
  refine .bind (.tryCatch (hwork.map _) fun e => .of_pure _) fun outcome => ?_
  refine .bind hlast fun _ => ?_
  split <;> simp

theorem guardedBy_keeps (condition : Option Expr) (hwork : work.Heeds r) :
    (guardedBy condition work).Heeds r := by
  unfold guardedBy
  split
  · exact hwork
  · exact .first (openIf_keeps _) fun _ =>
      andFinally_keeps hwork (.of_lift closeScope_keeps)

theorem openLocal_keeps (htype : type ≠ "") (name : String) (rhs : Option Value)
    (modifier : String) :
    (openLocal name type rhs modifier).Heeds r := by
  refine .bind openScope_keeps fun _ => ?_
  split
  · exact .bind (express_still _).keeps fun _ => .bind (addItem_keeps (r.plain htype)) fun _ => .of_pure _
  · exact .bind (addItem_keeps (r.plain trivial)) fun _ => .of_pure _

@[grind ←]
theorem withLocal_keeps (htype : type ≠ "") (name : String) (rhs : Option Value) (modifier : String)
    {work : Expr → Build α} (hwork : ∀ e, (work e).Heeds r) :
    (withLocal name type rhs modifier work).Heeds r :=
  .first (openLocal_keeps htype name rhs modifier) fun e =>
    andFinally_keeps (hwork e) (.of_lift closeScope_keeps)

/-! ### Blocks and closures -/

theorem inBlock_keeps {c : Context} (hcode : c.code = []) {work : Nat → Build α}
    (hwork : ∀ i, (work i).Heeds r) : (inBlock c work).Heeds r := by
  refine ⟨fun s => ?_⟩
  -- the habit is kept from where the block is entered; leaving it brings back the former block
  have hinner : Job.Ends r.amid
      (fun result t => r.keeps ((enter c).on s).2 t ∧ ∃ outcome, result = .ok outcome)
      ((tryCatch (.ok <$> work s.contexts.length) fun e => pure (.error e) :
        Build (Except Failure α)) ((enter c).on s).2) :=
    (((hwork _).map Except.ok).ends _).recover (fun outcome _ ht => ⟨ht, outcome, rfl⟩)
      fun e _ ht => ⟨ht, .error e, rfl⟩
  refine hinner.bind (fun outcome t ht => ?_) fun e t ⟨_, outcome, he⟩ => nomatch he
  have hleft : r.keeps s ((leave s.contexts.length).on t).2 := r.block hcode ht.1
  cases outcome with
  | ok a => exact hleft
  | error e => exact hleft

@[simp, grind ←]
theorem resolve_keeps : (resolve id).Heeds r :=
  (resolve_asks trivial : (resolve id).Asks fun _ => True).keeps

@[simp, grind ←]
theorem closure_keeps (body : String) (params : List Param) (capture : String)
    (result : Option CppType) : (closure body params capture result).Heeds r :=
  (closure_asks (fun _ _ => trivial) params capture result : Build.Asks (fun _ => True) _).keeps

@[simp, grind ←]
theorem context_keeps (i : Nat) : (context i).Heeds r := by
  refine .bind .of_get fun s => ?_
  split <;> simp

@[simp, grind ←]
theorem blockLambda_keeps (i : Nat) : (blockLambda i).Heeds r :=
  .first (context_keeps i) fun _ => closure_keeps _ _ _ _

end Code

end Panel
