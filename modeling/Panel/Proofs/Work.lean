import Panel.Code.Block

/-! # Laws of work — chaining what may fail and what may wait -/

namespace Panel

open Cpp List

variable {e : Failure} {α β : Type}

theorem forM_flatMap {m : Type → Type} [Monad m] [LawfulMonad m] (f : β → m PUnit) (g : α → List β)
    (xs : List α) : forM (xs.flatMap g) f = forM xs fun x => forM (g x) f := by
  induction xs with
  | nil => rfl
  | cons x xs ih =>
    rw [flatMap_cons, forM_append, forM_cons, ih]

/-! ## Texts in parts -/

namespace Text

variable {front back s : String}

theorem hasPrefix_append (start rest : String) : hasPrefix start (start ++ rest) = true := by
  unfold hasPrefix
  rw [String.toList_append]
  exact isPrefixOf_iff_prefix.mpr (prefix_append _ _)

theorem removePrefix_append (start rest : String) :
    removePrefix start (start ++ rest) = rest := by
  rw [removePrefix, if_pos (hasPrefix_append start rest), drop, String.toList_append,
    ← String.length_toList, drop_left, String.ofList_toList]

theorem hasPrefix_iff : hasPrefix front s = true ↔ ∃ rest, s = front ++ rest := by
  constructor
  · intro h
    obtain ⟨rest, hrest⟩ := isPrefixOf_iff_prefix.mp h
    refine ⟨String.ofList rest, String.toList_injective ?_⟩
    rw [String.toList_append, String.toList_ofList, hrest]
  · rintro ⟨rest, rfl⟩
    exact hasPrefix_append front rest

theorem hasSuffix_iff : hasSuffix back s = true ↔ ∃ rest, s = rest ++ back := by
  unfold hasSuffix
  rw [ isPrefixOf_iff_prefix, reverse_prefix]
  constructor
  · rintro ⟨rest, hrest⟩
    refine ⟨String.ofList rest, String.toList_injective ?_⟩
    rw [String.toList_append, String.toList_ofList, hrest]
  · rintro ⟨rest, rfl⟩
    exact ⟨rest.toList, String.toList_append.symm⟩

theorem between_append (front rest : String) (c : Char) :
    dropEnd 1 (drop front.length (front ++ rest ++ String.singleton c)) = rest := by
  have hrest : drop front.length (front ++ rest ++ String.singleton c)
      = String.ofList (rest.toList ++ [c]) := by
    unfold drop
    rw [String.toList_append, String.toList_append, append_assoc, ← String.length_toList, drop_left,
      String.toList_singleton]
  rw [hrest, dropEnd, String.toList_ofList, length_append, length_singleton, Nat.add_sub_cancel,
    take_left, String.ofList_toList]

end Text

/-! ## Work that may fail -/

namespace Check

variable {α β : Type} {c : Check α} {s t : Session} {f : α → Check β}

theorem on_get (s : Session) : (get : Check Session).on s = (.ok s, s) := rfl

theorem on_bind_ok {a : α} (f : α → Check β) (h : c.on s = (.ok a, t)) :
    (c >>= f).on s = (f a).on t := by
  have hc : c.run.run s = _ := h
  show ((c >>= f).run.run s : Id _) = _
  rw [ExceptT.run_bind, StateT.run_bind, hc]
  rfl

theorem on_bind_error (f : α → Check β) (h : c.on s = (.error e, t)) :
    (c >>= f).on s = (.error e, t) := by
  have hc : c.run.run s = _ := h
  show ((c >>= f).run.run s : Id _) = _
  rw [ExceptT.run_bind, StateT.run_bind, hc]
  rfl

theorem on_bind_eq_ok {b : β} (h : (c >>= f).on s = (.ok b, t)) :
    ∃ a u, c.on s = (.ok a, u) ∧ (f a).on u = (.ok b, t) := by
  rcases hc : c.on s with ⟨r, u⟩
  cases r with
  | ok a =>
    rw [on_bind_ok f hc] at h
    exact ⟨a, u, rfl, h⟩
  | error e =>
    rw [on_bind_error f hc] at h
    cases h

/-- An outcome that no failure can be is a value. -/
theorem exists_on_ok {P : Except Failure α → Prop} (h : P (c.on s).1)
    (herror : ∀ e, ¬ P (.error e)) : ∃ a t, c.on s = (.ok a, t) ∧ P (.ok a) := by
  rcases hc : c.on s with ⟨r, t⟩
  rw [hc] at h
  cases r with
  | ok a => exact ⟨a, t, rfl, h⟩
  | error e => exact absurd h (herror e)

theorem on_bind_trans {R : Session → Session → Prop} (htrans : ∀ {s t u}, R s t → R t u → R s u)
    (hc : ∀ s, R s (c.on s).2) (hf : ∀ a s, R s ((f a).on s).2)
    (s : Session) : R s ((c >>= f).on s).2 := by
  have hfirst := hc s
  rcases hrun : c.on s with ⟨r, t⟩
  rw [hrun] at hfirst
  cases r with
  | ok a =>
    rw [on_bind_ok f hrun]
    exact htrans hfirst (hf a t)
  | error e =>
    rw [on_bind_error f hrun]
    exact hfirst

theorem on_tryCatch_ok {a : α} (f : Failure → Check α) (h : c.on s = (.ok a, t)) :
    (tryCatch c f).on s = (.ok a, t) := by
  have hc : c.run.run s = _ := h
  show ((tryCatch c f).run.run s : Id _) = _
  rw [ExceptT.run_tryCatch, StateT.run_bind, hc]
  rfl

theorem on_tryCatch_error (f : Failure → Check α) (h : c.on s = (.error e, t)) :
    (tryCatch c f).on s = (f e).on t := by
  have hc : c.run.run s = _ := h
  show ((tryCatch c f).run.run s : Id _) = _
  rw [ExceptT.run_tryCatch, StateT.run_bind, hc]
  rfl

end Check

def Cpp.Stmt.inner : Stmt → Item
  | .item i => i
  | .indented _ i => i

/-- An item is written nowhere, to the program or to the current block. -/
theorem Code.addItem_cases {P : Except Failure Unit × Session → Prop} (i : Item) (s : Session)
    (hnone : P (.ok (), s))
    (hmain : ∀ x : Stmt, x.inner = i → P (.ok (), { s with main := s.main ++ [x] }))
    (hline : P (.ok (), modifyContext
      (fun c => { c with code := c.code ++ [.indented c.level i] }) s)) : P ((addItem i).on s) := by
  unfold addItem
  rw [Check.on_bind_ok _ (Check.on_get s)]
  split
  · exact hnone
  · split
    · exact hmain _ rfl
    · exact hmain _ rfl
    · exact hline

theorem Code.run_eq {name : String} {args : List Value} {es : List Expr}
    (h : arguments? args = .ok es) :
    run name args = add (.object (.call (.raw name) [] es) .bare) := by
  have hargs : arguments args = pure es := by rw [arguments, h]
  unfold run call callOf
  rw [hargs]
  simp only [pure_bind, bind_assoc, bind_pure_unit]

/-! ## Work that may wait -/

theorem Job.bind_done (j : Job α) : j.bind (fun a s => .done (.ok a) s) = j := by
  induction j with
  | done r s => cases r <;> rfl
  | waiting s ready resume ih =>
    show Job.waiting s ready _ = _
    congr 1
    funext t
    exact ih t

theorem Job.bind_assoc {γ : Type} (j : Job α) (f : α → Session → Job β) (g : β → Session → Job γ) :
    (j.bind f).bind g = j.bind fun a s => (f a s).bind g := by
  induction j with
  | done r s => cases r <;> rfl
  | waiting s ready resume ih =>
    show Job.waiting s ready _ = Job.waiting s ready _
    congr 1
    funext t
    exact ih t

namespace Build

instance : LawfulMonad Build :=
  LawfulMonad.mk' Build
    (fun x => funext fun s => Job.bind_done (x s))
    (fun _ _ => rfl)
    (fun x f g => funext fun s => Job.bind_assoc (x s) f g)

variable {α β : Type} {x : Build α} {s t : Session} {c : Check α}

theorem lift_bind_eq {a : α} (h : ∀ s, c.on s = (.ok a, s)) (f : α → Build β) :
    (ofCheck c >>= f) = f a := by
  funext s
  show (ofCheck c s).bind f = _
  unfold ofCheck
  rw [h s]
  rfl

theorem lift_bind_eq_throw (h : ∀ s, c.on s = (.error e, s))
    (f : α → Build β) : (ofCheck c >>= f) = throw e := by
  funext s
  show (ofCheck c s).bind f = _
  unfold ofCheck
  rw [h s]
  rfl

theorem bind_ok {a : α} (f : α → Build β) (h : x s = .done (.ok a) t) : (x >>= f) s = f a t := by
  show (x s).bind f = _
  rw [h]
  rfl

theorem bind_error (f : α → Build β) (h : x s = .done (.error e) t) :
    (x >>= f) s = .done (.error e) t := by
  show (x s).bind f = _
  rw [h]
  rfl

theorem ofCheck_eq {r : Except Failure α} (h : c.on s = (r, t)) : ofCheck c s = .done r t := by
  unfold ofCheck
  rw [h]

theorem ofCheck_bind (c : Check α) (f : α → Check β) :
    ofCheck (c >>= f) = (ofCheck c >>= fun a => ofCheck (f a)) := by
  funext s
  rcases hc : c.on s with ⟨r, t⟩
  cases r with
  | ok a =>
    rw [bind_ok _ (ofCheck_eq hc)]
    exact congrArg (fun o => Job.done o.1 o.2) (Check.on_bind_ok f hc)
  | error e =>
    rw [bind_error _ (ofCheck_eq hc)]
    exact congrArg (fun o => Job.done o.1 o.2) (Check.on_bind_error f hc)

theorem eq_done_of_now {b : Build Unit} (h : (now b s).1.toBool = true) :
    b s = .done (.ok ()) (now b s).2 := by
  unfold now at h ⊢
  split at h
  · next r t hb =>
      rw [hb]
      cases r with
      | ok a => rfl
      | error e => cases h
  · cases h

end Build

end Panel
