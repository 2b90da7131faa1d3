import Panel.Proofs.Entries
import Panel.Proofs.Habits

/-! # Writers — code that waits for nothing but what its values refer to

    Much of the code that is written is asked for two things: that it keeps to a habit, and that it
    is written without a pause where all is there that its values refer to.  It is gone through once
    for both. -/

namespace Panel

open Cpp List

variable {config v x : Value} {key : String} {r : Habit} {α : Type} {names : Option String → Prop}
  {b : Build α}

/-! ## Values and names -/

namespace Value

variable {names : Option String → Prop}

def Covered (names : Option String → Prop) (v : Value) : Prop := ∀ n ∈ v.asked, names n

/-- Everything that options wait for is among the names, but for the widgets that they are for. -/
def OptionsCovered (names : Option String → Prop) (config : Value) : Prop :=
  ∀ key v, key ≠ "id" → config.get? key = some v → v.Covered names

def AnyName (_ : Option String) : Prop := True

@[grind ←]
theorem covered_any (v : Value) : v.Covered AnyName := fun _ _ => trivial

@[grind ←]
theorem optionsCovered_any (config : Value) : config.OptionsCovered AnyName :=
  fun _ v _ _ => v.covered_any

@[grind →]
theorem Covered.get? (h : v.Covered names) (hx : v.get? key = some x) : x.Covered names :=
  fun n hn => h n (asked_of_get? hx hn)

@[grind →]
theorem Covered.options (h : v.Covered names) : v.OptionsCovered names := fun _ _ _ hx => h.get? hx

section

variable (h : config.OptionsCovered names)

include h

@[grind →]
theorem OptionsCovered.get? (hkey : key ≠ "id")
    (hv : config.get? key = some v) : v.Covered names := h key v hkey hv

/-- An option refers to an object, other than the widgets that the configuration is for. -/
def Refers (config : Value) (n : Option String) : Prop :=
  ∃ e ∈ config.entries?.getD [], e.1 ≠ "id" ∧ n ∈ e.2.asked

omit h in
theorem optionsCovered_of_entries
    (h : ∀ e ∈ config.entries?.getD [], e.1 ≠ "id" → e.2.Covered names) :
    config.OptionsCovered names := by
  intro key v hkey hv
  cases config with
  | dict es => exact h (key, v) (Entries.mem_of_get? hv) hkey
  | _ => exact nomatch hv

omit h in
theorem optionsCovered_refers (config : Value) : config.OptionsCovered config.Refers :=
  optionsCovered_of_entries fun e he hkey _ hn => ⟨e, he, hkey, hn⟩

@[grind →]
theorem OptionsCovered.given? (hkey : key ≠ "id")
    (hv : config.given? key = some v) : v.Covered names := by
  refine h key v hkey ?_
  unfold Value.given? at hv
  split at hv
  next es =>
    unfold Entries.given? at hv
    split at hv
    · exact nomatch hv
    · exact hv
  next => exact nomatch hv

@[grind →]
theorem OptionsCovered.setAt? (hkey : key ≠ "id")
    (hv : Kinds.setAt? config key = some v) : v.Covered names := by
  unfold Kinds.setAt? at hv
  split at hv
  next x hx =>
    split at hv
    · exact Option.some.inj hv ▸ h key x hkey hx
    · exact nomatch hv
  next => exact nomatch hv

omit h in
theorem covered_of_mem {xs : List Value} (h : (Value.list xs).Covered names) (hx : x ∈ xs) :
    x.Covered names := by
  intro n hn
  refine h n ?_
  rw [asked]
  clear h
  induction xs with
  | nil => cases hx
  | cons y ys ih =>
    rw [askedItems]
    rcases mem_cons.mp hx with rfl | hx
    · exact mem_append_left _ hn
    · exact mem_append_right _ (ih hx)

@[grind →]
theorem OptionsCovered.itemsAt (hkey : key ≠ "id")
    (hx : x ∈ Kinds.itemsAt config key) : x.Covered names := by
  unfold Kinds.itemsAt at hx
  split at hx
  next xs hxs => exact covered_of_mem (h key _ hkey hxs) hx
  next => exact nomatch hx

@[grind ←]
theorem OptionsCovered.getD {fallback : Value} (hkey : key ≠ "id")
    (hfallback : fallback.Covered names) : ((config.get? key).getD fallback).Covered names := by
  cases hx : config.get? key with
  | some x => exact h key x hkey hx
  | none => exact hfallback

@[grind ←]
theorem OptionsCovered.at? (hkey : key ≠ "id") :
    (Kinds.at? config key).Covered names :=
  h.getD hkey nofun

end

@[simp, grind ←]
theorem covered_null : Value.null.Covered names := nofun

@[simp, grind ←]
theorem covered_int (n : Int) : (Value.int n).Covered names := nofun

@[simp, grind ←]
theorem covered_words (words : List String) : (Value.list (words.map .str)).Covered names := by
  intro n hn
  rw [asked] at hn
  induction words with
  | nil => cases hn
  | cons word words ih =>
    rw [map_cons, askedItems] at hn
    exact ih hn

end Value

/-! ## Writers -/

/-- Work that keeps to a habit, and that waits for nothing where all widgets are there and the
    objects of the given names. -/
inductive Build.Writes (r : Habit) (names : Option String → Prop) : {α : Type} → Build α → Prop
  | of_check {α : Type} {c : Check α} : c.Heeds r → Writes r names (Build.ofCheck c)
  | waitFor {α : Type} {answer : Session → Option (Except Failure α)} :
      (∀ s, s.completed = true → (∀ n, names n → n ∈ s.names) → (answer s).isSome) →
      Writes r names (Build.waitFor answer)
  | lift_bind {α β : Type} {c : Check α} {f : α → Build β} : c.Heeds r →
      (∀ {a s t}, c.on s = (.ok a, t) → Writes r names (f a)) →
      Writes r names ((liftM c : Build α) >>= f)
  | bind {α β : Type} {x : Build α} {f : α → Build β} :
      Writes r names x → (∀ a, Writes r names (f a)) → Writes r names (x >>= f)
  | tryCatch {α : Type} {x : Build α} {f : Failure → Build α} :
      Writes r names x → (∀ e, Writes r names (f e)) → Writes r names (tryCatch x f)

namespace Build.Writes

variable {α β : Type} {r : Habit} {names : Option String → Prop} {c : Check α} {f : α → Build β}
  {xs : List α}

attribute [grind ←] Build.Writes.bind

@[simp, grind ←]
theorem of_lift (h : c.Heeds r) : Writes r names (liftM c : Build α) := .of_check h

theorem first (hc : c.Heeds r) (hf : ∀ a, Writes r names (f a)) :
    Writes r names ((liftM c : Build α) >>= f) :=
  .bind (of_lift hc) hf

theorem ask (hc : c.Still) (hf : ∀ a, Writes r names (f a)) :
    Writes r names ((liftM c : Build α) >>= f) :=
  first hc.keeps hf

@[simp, grind ←]
theorem of_pure (a : α) : Writes r names (pure a : Build α) := .of_check (.of_pure a)

@[simp, grind ←]
theorem of_throw (e : Failure) : Writes r names (throw e : Build α) := .of_check (.of_throw e)

@[simp, grind ←]
theorem of_get : Writes r names (get : Build Session) := .of_check .of_get

@[simp, grind ←]
theorem map {x : Build α} (f : α → β) (hx : Writes r names x) : Writes r names (f <$> x) := by
  rw [map_eq_pure_bind]
  exact hx.bind fun a => of_pure (f a)

@[grind ←]
theorem required_bind {f : Value → Build α} (h : ∀ x, v.get? key = some x → Writes r names (f x)) :
    Writes r names ((liftM (required v key) : Build Value) >>= f) :=
  .lift_bind (required_still v key).keeps fun hrun => h _ (required_on_iff.mp hrun).1

theorem missing_bind (h : v.get? key = none) (f : Value → Build α) :
    Writes r names ((liftM (required v key) : Build Value) >>= f) :=
  required_bind fun _ hx => nomatch h.symm.trans hx

theorem forM {f : α → Build PUnit} (h : ∀ x ∈ xs, Writes r names (f x)) :
    Writes r names (xs.forM f) := by
  induction xs with
  | nil => exact of_pure _
  | cons x xs ih =>
    exact .bind (h x mem_cons_self) fun _ => ih (forall_mem_cons.mp h).2

@[grind ←]
theorem forItems {work : α → Build Unit} (h : ∀ x ∈ xs, Writes r names (work x)) :
    Writes r names (Kinds.forItems work xs) := by
  induction xs with
  | nil => exact of_pure _
  | cons x xs ih =>
    exact .bind (h x mem_cons_self) fun _ => ih (forall_mem_cons.mp h).2

theorem keeps (h : Writes r names b) : b.Heeds r := by
  induction h with
  | of_check hc => exact .of_check hc
  | waitFor _ => exact .waitFor _
  | lift_bind hc _ hf => exact .lift_bind hc hf
  | bind _ _ hx hf => exact .bind hx hf
  | tryCatch _ _ hx hf => exact .tryCatch hx hf

end Build.Writes

@[grind ←]
theorem Build.Heeds.of_writes (h : b.Writes r Value.AnyName) : b.Heeds r := h.keeps

theorem Code.registered?_isSome {s : Session} {name : Option String} (h : name ∈ s.names) :
    (registered? s name).isSome := by
  obtain ⟨v, hv, hid⟩ := mem_map.mp h
  rw [registered?, find?_isSome]
  exact ⟨v, hv, beq_iff_eq.mpr hid⟩

@[grind ←]
theorem Build.Asks.writes (h : b.Asks names) : b.Writes r names := by
  induction h with
  | of_check hc => exact .of_check hc.keeps
  | @of_await name hname =>
    refine .waitFor fun s _ hnames => ?_
    obtain ⟨v, hv⟩ := Option.isSome_iff_exists.mp (Code.registered?_isSome (hnames name hname))
    rw [hv]
    rfl
  | bind _ _ hx hf => exact .bind hx hf

@[grind ←]
theorem Property.Asks.writes {p : Property} (h : p.Asks)
    (hv : v.Covered names) : (p.emit v).Writes r names :=
  (h.emit hv).writes

namespace Code

variable {r : Habit} {names : Option String → Prop} {α : Type} {work : Build α}

theorem andFinally_writes {last : Build Unit} (hwork : work.Writes r names)
    (hlast : last.Writes r names) : (andFinally work last).Writes r names := by
  unfold andFinally
  refine .bind (.tryCatch (hwork.map _) fun e => .of_pure _) fun outcome => ?_
  refine .bind hlast fun _ => ?_
  split <;> simp

@[grind ←]
theorem guardedBy_writes (condition : Option Expr) (hwork : work.Writes r names) :
    (guardedBy condition work).Writes r names := by
  unfold guardedBy
  split
  · exact hwork
  · exact .first (openIf_keeps _) fun _ =>
      andFinally_writes hwork (.of_lift closeScope_keeps)

@[grind ←]
theorem withLocal_writes {type : String} (htype : type ≠ "") (name : String) (rhs : Option Value)
    (modifier : String) {work : Expr → Build α} (hwork : ∀ e, (work e).Writes r names) :
    (withLocal name type rhs modifier work).Writes r names :=
  .first (openLocal_keeps htype name rhs modifier) fun e =>
    andFinally_writes (hwork e) (.of_lift closeScope_keeps)

end Code

end Panel
