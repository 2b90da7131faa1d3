import Mathlib
import Panel.Code.Block
import Panel.Proofs.Work

/-! # Balanced blocks — what nested scopes leave behind

    A routine nests blocks, local variables and conditions around plain statements.  Running it
    restores the current block, and every scope that it opens it closes in the same block, at the
    same indentation, also when a statement fails.  The one exception is a local variable whose
    value is no expression: its scope is open by the time the value is looked at, and stays open. -/

namespace Panel.Code

open Cpp List Option Check Build

variable {base : Int} {b : Nat → Nat} {e : Ending}

/-! ## Depth -/

def opens : Item → Bool
  | .raw line => (Text.trim line).toList.getLast? == some '\x7b'
  | _ => false

def closes : Item → Bool
  | .raw line => (Text.trim line).toList.head? == some '\x7d'
  | _ => false

/-- The depth after a statement, if it closes no more than is open and is indented by the depth at
    which it stands; `base` is the indentation at depth zero. -/
def depthAfter (base : Int) (depth : Nat) : Stmt → Option Nat
  | .item _ => none
  | .indented level i =>
    let outer := depth - (closes i).toNat
    if (closes i).toNat ≤ depth ∧ level = base + outer then some (outer + (opens i).toNat)
    else none

def depthFrom (base : Int) (depth : Nat) (code : List Stmt) : Option Nat :=
  code.foldlM (depthAfter base) depth

theorem depthFrom_append (base : Int) (depth : Nat) (xs ys : List Stmt) :
    depthFrom base depth (xs ++ ys) = (depthFrom base depth xs).bind fun d => depthFrom base d ys :=
  foldlM_append

theorem depthFrom_singleton (base : Int) (depth : Nat) (x : Stmt) :
    depthFrom base depth [x] = depthAfter base depth x := by
  unfold depthFrom
  rw [foldlM_cons]
  cases depthAfter base depth x <;> rfl

theorem depthAfter_add {d e : Nat} {x : Stmt} (k : Nat)
    (h : depthAfter (base + k) d x = some e) : depthAfter base (d + k) x = some (e + k) := by
  cases x with
  | item i => exact absurd h (by simp [depthAfter])
  | indented level i =>
    simp only [depthAfter, ite_none_right_eq_some, some.injEq] at h ⊢
    omega

theorem depthFrom_add {code : List Stmt} (k : Nat) :
    ∀ {d e : Nat}, depthFrom (base + k) d code = some e →
      depthFrom base (d + k) code = some (e + k) := by
  induction code with
  | nil =>
    intro d e h
    cases h
    rfl
  | cons x code ih =>
    intro d e h
    obtain ⟨f, hx, hcode⟩ := bind_eq_some_iff.mp h
    exact bind_eq_some_iff.mpr ⟨f + k, depthAfter_add k hx, ih hcode⟩

/-! ## Routines -/

def PlainItem := { i : Item // opens i = false ∧ closes i = false }

/-- Work that writes code: plain statements, or failures in their place, inside blocks and scopes.  A
    mark of a line is a plain statement. -/
inductive Routine where
  | skip
  | seq (first second : Routine)
  | statement (s : Except Failure PlainItem)
  | block (params : List Param) (result : Option CppType) (capture : String) (body : Routine)
  | binding (name type : String) (rhs : Option Value) (modifier : String) (body : Routine)
  | branch (condition : Option Expr) (body : Routine)
  | choice (condition : Option Expr) (body other : Routine)

/-- Goes over to the other branch of a condition; there must be one. -/
def elseOf (condition : Option Expr) : Check Unit :=
  match condition with
  | none => throw .brokenPromise
  | some _ => otherwise

def Routine.run : Routine → Build Unit
  | .skip => pure ()
  | .seq a b => do
    a.run
    b.run
  | .statement (.ok i) => addItem i.val
  | .statement (.error e) => throw e
  | .block params result capture body =>
    inBlock (Context.fresh .lambda params result capture) fun _ => body.run
  | .binding name type rhs modifier body => withLocal name type rhs modifier fun _ => body.run
  | .branch condition body => guardedBy condition body.run
  | .choice condition body other =>
    guardedBy condition do
      body.run
      elseOf condition
      other.run

/-- How a routine ends: well, with a failure, or with a failure between the opening of the scope of
    a local variable and the variable itself. -/
inductive Ending where
  | fine
  | failed (e : Failure)
  | slipped (e : Failure)

def Ending.andThen : Ending → Ending → Ending
  | .fine, next => next
  | other, _ => other

def Ending.outcome : Ending → Except Failure Unit
  | .fine => .ok ()
  | .failed e => .error e
  | .slipped e => .error e

def entry : Option Value → Ending
  | none => .fine
  | some v =>
    match express? v with
    | .ok _ => .fine
    | .error e => .slipped e

def Routine.ending : Routine → Ending
  | .skip => .fine
  | .seq a b => a.ending.andThen b.ending
  | .statement (.ok _) => .fine
  | .statement (.error e) => .failed e
  | .block _ _ _ body => body.ending
  | .binding _ _ rhs _ body => (entry rhs).andThen body.ending
  | .branch _ body => body.ending
  | .choice none body _ => body.ending.andThen (.failed .brokenPromise)
  | .choice (some _) body other => body.ending.andThen other.ending

/-- Between two sessions nothing changes but blocks: those there before go from depth `a` to depth
    `b` by statements at their end, and new ones start at depth zero. -/
structure Wrote (s t : Session) (a b : Nat → Nat) : Prop where
  rest : t = { s with contexts := t.contexts }
  longer : s.contexts.length ≤ t.contexts.length
  kept : ∀ i c, s.contexts[i]? = some c → ∃ added,
    t.contexts[i]? = some { c with level := c.level - a i + b i, code := c.code ++ added }
      ∧ depthFrom (c.level - a i) (a i) added = some (b i)
  made : ∀ i c, s.contexts.length ≤ i → t.contexts[i]? = some c →
    c.level = b i ∧ depthFrom 0 0 c.code = some (b i)

namespace Wrote

variable {s t u : Session} {a b c : Nat → Nat}

theorem refl (s : Session) (a : Nat → Nat) : Wrote s s a a where
  rest := rfl
  longer := Nat.le_refl _
  kept i c h := by
    refine ⟨[], ?_, rfl⟩
    rw [h, append_nil, Int.sub_add_cancel]
  made i c hi h := by
    rw [getElem?_eq_none hi] at h
    cases h

theorem trans (hst : Wrote s t a b) (htu : Wrote t u b c) : Wrote s u a c where
  rest := htu.rest.trans (congrArg (fun v => { v with contexts := u.contexts }) hst.rest)
  longer := Nat.le_trans hst.longer htu.longer
  kept i x h := by
    obtain ⟨first, ht, hfirst⟩ := hst.kept i x h
    obtain ⟨second, hu, hsecond⟩ := htu.kept i _ ht
    have hbase : x.level - (a i : Int) + b i - b i = x.level - a i := by omega
    dsimp only at hu hsecond
    rw [hbase] at hu hsecond
    refine ⟨first ++ second, ?_, ?_⟩
    · rw [hu, append_assoc]
    · rw [depthFrom_append, hfirst]
      exact hsecond
  made i x hi h := by
    by_cases hlt : i < t.contexts.length
    · -- a block that the first part made and the second went on with
      obtain ⟨hlevel, hcode⟩ := hst.made i _ hi (getElem?_eq_getElem hlt)
      obtain ⟨second, hu, hsecond⟩ := htu.kept i _ (getElem?_eq_getElem hlt)
      rw [hlevel, Int.sub_self] at hu hsecond
      obtain rfl := some.inj (h.symm.trans hu)
      refine ⟨Int.zero_add _, ?_⟩
      rw [depthFrom_append, hcode]
      exact hsecond
    · exact htu.made i x (Nat.le_of_not_lt hlt) h

theorem below (h : Wrote s t a b) (k : Nat → Nat) (hk : ∀ i, s.contexts.length ≤ i → k i = 0) :
    Wrote s t (a + k) (b + k) where
  rest := h.rest
  longer := h.longer
  kept i x hx := by
    obtain ⟨added, ht, hadded⟩ := h.kept i x hx
    have hlevel : x.level - ((a + k) i : Nat) + ((b + k) i : Nat) = x.level - a i + b i := by
      simp only [Pi.add_apply]
      omega
    refine ⟨added, by rw [hlevel]; exact ht, ?_⟩
    have hbase : x.level - (a i : Int) = x.level - ((a + k) i : Nat) + (k i : Nat) := by
      simp only [Pi.add_apply]
      omega
    rw [hbase] at hadded
    exact depthFrom_add (k i) hadded
  made i x hi hx := by
    have hki : (b + k) i = b i := by rw [Pi.add_apply, hk i hi, Nat.add_zero]
    rw [hki]
    exact h.made i x hi hx

end Wrote

/-! ## Lines of the current block -/

/-- A block with one more line, its indentation moved before the line and after it. -/
def withLine (before after : Int) (i : Item) (c : Context) : Context :=
  { c with
    level := c.level + before + after
    code := c.code ++ [.indented (c.level + before) i] }

/-- The current block is the one of a number, and it becomes a lambda. -/
def InLambda (s : Session) (k : Nat) : Prop :=
  s.current = some k ∧ ∃ c, s.contexts[k]? = some c ∧ c.form = .lambda

variable {s t : Session} {k : Nat} {a : Nat → Nat}

theorem InLambda.current (h : InLambda s k) :
    ∃ c, currentContext? s = some c ∧ c.form = .lambda := by
  obtain ⟨hk, c, hc, hform⟩ := h
  refine ⟨c, ?_, hform⟩
  rw [currentContext?, hk]
  exact hc

theorem Wrote.inLambda (h : Wrote s t a b) (hs : InLambda s k) : InLambda t k := by
  obtain ⟨hk, c, hc, hform⟩ := hs
  obtain ⟨added, ht, -⟩ := h.kept k c hc
  refine ⟨?_, _, ht, hform⟩
  rw [h.rest]
  exact hk

theorem modifyContext_eq (hk : s.current = some k) (f : Context → Context) :
    modifyContext f s = { s with contexts := s.contexts.modify k f } := by
  rw [modifyContext, hk]

theorem Wrote.line (a : Nat → Nat) (i : Item) (hs : InLambda s k) :
    Wrote s (modifyContext (withLine (-(closes i).toNat) (opens i).toNat i) s)
      (a + Pi.single k (closes i).toNat) (a + Pi.single k (opens i).toNat) := by
  rw [modifyContext_eq hs.1]
  refine ⟨rfl, ?_, ?_, ?_⟩
  · exact Nat.le_of_eq (length_modify _ _ _).symm
  · intro j c hc
    show ∃ added, (s.contexts.modify k _)[j]? = _ ∧ _
    simp only [Pi.add_apply]
    by_cases hj : k = j
    · subst hj
      refine ⟨[.indented (c.level + -(closes i).toNat) i], ?_, ?_⟩
      · rw [getElem?_modify_eq, hc]
        simp only [Option.map_eq_map, Option.map_some, withLine, Option.some.injEq,
          Context.mk.injEq, true_and, and_true, Pi.single_eq_same]
        omega
      · rw [depthFrom_singleton, depthAfter]
        simp only [ite_none_right_eq_some, Pi.single_eq_same, some.injEq]
        omega
    · refine ⟨[], ?_, ?_⟩
      · rw [getElem?_modify_ne _ _ hj, hc, Pi.single_eq_of_ne (Ne.symm hj),
          Pi.single_eq_of_ne (Ne.symm hj), append_nil, Int.sub_add_cancel]
      · rw [Pi.single_eq_of_ne (Ne.symm hj), Pi.single_eq_of_ne (Ne.symm hj)]
        rfl
  · intro j c hj hc
    rw [getElem?_eq_none (by rw [length_modify]; exact hj)] at hc
    cases hc

def shifted (levels : Int) (c : Context) : Context := { c with level := c.level + levels }

section Lines

variable {s : Session} {k : Nat}

section

variable (h : InLambda s k)

include h

theorem InLambda.modify (f : Context → Context)
    (hf : ∀ c, (f c).form = c.form) : InLambda (modifyContext f s) k := by
  obtain ⟨hk, c, hc, hform⟩ := h
  rw [modifyContext_eq hk]
  refine ⟨hk, f c, ?_, (hf c).trans hform⟩
  show (s.contexts.modify k f)[k]? = _
  rw [getElem?_modify_eq, hc]
  rfl

omit h in
theorem modifyContext_modifyContext (h : s.current = some k) (f g : Context → Context) :
    modifyContext g (modifyContext f s) = modifyContext (g ∘ f) s := by
  have hf : (modifyContext f s).current = some k := by
    rw [modifyContext_eq h]
    exact h
  rw [modifyContext_eq hf, modifyContext_eq h, modifyContext_eq h]
  dsimp only
  rw [modify_modify_eq]

theorem addItem_on (i : Item) :
    (addItem i).on s = (.ok (), modifyContext (withLine 0 0 i) s) := by
  obtain ⟨c, hc, hform⟩ := h.current
  have hrun : (addItem i).on s = (.ok (), modifyContext
      (fun c => { c with code := c.code ++ [.indented c.level i] }) s) := by
    rw [addItem, on_bind_ok _ (on_get s), hc]
    dsimp only
    rw [hform]
    rfl
  rw [hrun]
  congr 2
  funext c
  rw [withLine, Int.add_zero, Int.add_zero]

theorem shift_on (levels : Int) :
    (shift levels).on s = (.ok (), modifyContext (shifted levels) s) := by
  obtain ⟨c, hc, -⟩ := h.current
  rw [shift, on_bind_ok _ (on_get s), hc]
  rfl

theorem lineThenShift_on (line : String) :
    (do addLine line; shift 1 : Check Unit).on s
      = (.ok (), modifyContext (withLine 0 1 (.raw line)) s) := by
  have hline : (addLine line).on s = _ := addItem_on h (.raw line)
  rw [on_bind_ok _ hline, shift_on (h.modify (withLine 0 0 _) fun _ => rfl),
    modifyContext_modifyContext h.1]
  congr 2
  funext c
  simp only [Function.comp, shifted, withLine, Int.add_zero]

theorem closeScope_on :
    closeScope.on s = (.ok (), modifyContext (withLine (-1) 0 (.raw "\x7d")) s) := by
  unfold closeScope
  rw [on_bind_ok _ (shift_on h _)]
  show (addItem _).on _ = _
  rw [addItem_on (h.modify (shifted (-1)) fun _ => rfl), modifyContext_modifyContext h.1]
  congr 2
  funext c
  simp only [Function.comp, shifted, withLine, Int.add_zero]

theorem Wrote.plain (i : PlainItem) (a : Nat → Nat) :
    Wrote s (modifyContext (withLine 0 0 i.val) s) a a := by
  have hline := Wrote.line a i.val h
  rw [i.property.1, i.property.2, Bool.toNat_false, Pi.single_zero, add_zero] at hline
  exact hline

theorem Wrote.opening {line : String}
    (hline : opens (.raw line) = true ∧ closes (.raw line) = false) :
    Wrote s (modifyContext (withLine 0 1 (.raw line)) s) 0 (Pi.single k 1) := by
  have hwrote := Wrote.line 0 (.raw line) h
  rw [hline.1, hline.2, Bool.toNat_false, Pi.single_zero, add_zero, zero_add] at hwrote
  exact hwrote

theorem Wrote.closing (a : Nat → Nat) :
    Wrote s (modifyContext (withLine (-1) 0 (.raw "\x7d")) s) (a + Pi.single k 1) a := by
  have hbrackets : opens (.raw "\x7d") = false ∧ closes (.raw "\x7d") = true := by decide
  have hwrote := Wrote.line a (.raw "\x7d") h
  rw [hbrackets.1, hbrackets.2, Bool.toNat_false, Pi.single_zero, add_zero] at hwrote
  exact hwrote

end

end Lines

/-! ## How work settles -/

/-- What an ending leaves open: nothing, or after a slip one scope of one block. -/
def Ending.Leaves (left : Nat → Nat) (t : Session) : Ending → Prop
  | .slipped _ => ∃ i, i < t.contexts.length ∧ left = Pi.single i 1
  | _ => left = 0

theorem Ending.Leaves.mono {left : Nat → Nat} (h : e.Leaves left s)
    (hst : s.contexts.length ≤ t.contexts.length) : e.Leaves left t := by
  cases e with
  | slipped e => exact h.imp fun i hi => ⟨Nat.lt_of_lt_of_le hi.1 hst, hi.2⟩
  | _ => exact h

/-- Work at depth `a` ends as said, and is back at its depth but for what the ending leaves open. -/
def Settles (a : Nat → Nat) (work : Build Unit) (e : Ending) (s : Session) : Prop :=
  ∃ t left, work s = .done e.outcome t ∧ Wrote s t a (left + a) ∧ e.Leaves left t

section Settles

variable {s s₁ t : Session} {a : Nat → Nat} {k : Nat} {work next : Build Unit} {e f : Ending}
  {α : Type} {r : Except Failure α}

theorem Settles.andThen (hwork : Settles a work e s)
    (hnext : ∀ t, Wrote s t a a → Settles a next f t) :
    Settles a (do work; next) (e.andThen f) s := by
  obtain ⟨t, left, hrun, hwrote, hleaves⟩ := hwork
  cases e with
  | fine =>
    obtain rfl : left = 0 := hleaves
    rw [zero_add] at hwrote
    obtain ⟨u, left, hrun', hwrote', hleaves'⟩ := hnext t hwrote
    refine ⟨u, left, ?_, hwrote.trans hwrote', hleaves'⟩
    rw [bind_ok _ hrun]
    exact hrun'
  | failed e => exact ⟨t, left, bind_error _ hrun, hwrote, hleaves⟩
  | slipped e => exact ⟨t, left, bind_error _ hrun, hwrote, hleaves⟩

theorem Settles.below (h : Settles 0 work e s) (hk : k < s.contexts.length) :
    Settles (Pi.single k 1) work e s := by
  obtain ⟨t, left, hrun, hwrote, hleaves⟩ := h
  refine ⟨t, left, hrun, ?_, hleaves⟩
  have hbelow := hwrote.below (Pi.single k 1) fun i hi =>
    Pi.single_eq_of_ne (Nat.ne_of_gt (Nat.lt_of_lt_of_le hk hi)) 1
  rw [zero_add, add_zero] at hbelow
  exact hbelow

theorem andFinally_eq {work : Build α} {last : Build Unit} {u : Session}
    (hwork : work s = .done r t) (hlast : last t = .done (.ok ()) u) :
    andFinally work last s = .done r u := by
  have houtcome : (tryCatch (Except.ok <$> work) fun e => pure (Except.error e) :
      Build (Except Failure α)) s = .done (.ok r) t := by
    show ((work s).bind _).recover _ = _
    rw [hwork]
    cases r <;> rfl
  unfold andFinally
  rw [bind_ok _ houtcome, bind_ok _ hlast]
  cases r <;> rfl

section

variable (hs : InLambda s k)

include hs

theorem Settles.closed (hopen : Wrote s s₁ 0 (Pi.single k 1))
    (h : Settles (Pi.single k 1) work e s₁) :
    ∃ t left, andFinally work closeScope s₁ = .done e.outcome t
      ∧ Wrote s t 0 (left + 0) ∧ e.Leaves left t := by
  obtain ⟨t, left, hrun, hwrote, hleaves⟩ := h
  have hclose := Wrote.closing (hwrote.inLambda (hopen.inLambda hs)) left
  refine ⟨_, left,
    andFinally_eq hrun (ofCheck_eq (closeScope_on (hwrote.inLambda (hopen.inLambda hs)))),
    ?_, hleaves.mono hclose.longer⟩
  rw [add_zero]
  exact hopen.trans (hwrote.trans hclose)

/-! ## Blocks, local variables and conditions -/

end

def entered (c : Context) (s : Session) : Session :=
  { s with
    contexts := s.contexts ++ [{ c with previous := s.current }]
    current := some s.contexts.length }

variable {c : Context}

theorem inLambda_entered (s : Session) (hc : c.form = .lambda) :
    InLambda (entered c s) s.contexts.length :=
  ⟨rfl, { c with previous := s.current }, getElem?_concat_length, hc⟩

theorem inBlock_eq {work : Nat → Build α}
    (h : work s.contexts.length (entered c s) = .done r t) : inBlock c work s
      = .done r { t with current := (t.contexts[s.contexts.length]?).bind (·.previous) } := by
  have henter : (ofCheck (enter c)) s = .done (.ok s.contexts.length) (entered c s) := rfl
  have hleave : (ofCheck (leave s.contexts.length)) t = .done (.ok ())
      { t with current := (t.contexts[s.contexts.length]?).bind (·.previous) } := rfl
  exact (bind_ok _ henter).trans (andFinally_eq h hleave)

end Settles

/-! ## Routines, all of them -/

/-- Nothing is left open: the current block is the one before, every block has its indentation
    back, and the statements added to each block close every scope that they open, none too early,
    each indented by its depth. -/
structure Tidy (s t : Session) : Prop where
  current : t.current = s.current
  kept : ∀ (i : Nat) (c : Context), s.contexts[i]? = some c → ∃ added,
    t.contexts[i]? = some { c with code := c.code ++ added } ∧ depthFrom c.level 0 added = some 0
  made : ∀ (i : Nat) (c : Context), s.contexts.length ≤ i → t.contexts[i]? = some c →
    c.level = 0 ∧ depthFrom 0 0 c.code = some 0

theorem Wrote.current (h : Wrote s t a b) : t.current = s.current := by
  rw [h.rest]

theorem Wrote.tidy (h : Wrote s t 0 0) : Tidy s t where
  current := h.current
  kept i c hc := by
    obtain ⟨added, ht, hadded⟩ := h.kept i c hc
    have hbase : c.level - ((0 : Nat → Nat) i : Int) = c.level := Int.sub_zero _
    rw [Int.sub_add_cancel] at ht
    rw [hbase] at hadded
    exact ⟨added, ht, hadded⟩
  made := h.made

end Panel.Code
