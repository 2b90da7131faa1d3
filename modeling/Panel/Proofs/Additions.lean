import Panel.Proofs.SideBySide

/-! # Additions — what work adds to the current block, however often it waits

    A lambda is written after the objects it names are there, so work may wait before every line.
    Its outcome is still fixed by the values it was given: the lines it adds are those of the values
    that their processing offers. -/

namespace Panel

open Cpp Code Build

variable {es : List Expr} {test : Test} {type : CppType} {v : Value}

variable {α β : Type} {name : String} {args : List Value}

/-! ## Offers -/

/-- A result that a job may end with, whatever others do while it waits. -/
def Job.Offers (r : Except Failure α) : Job α → Prop
  | .done r' _ => r' = r
  | .waiting _ ready resume => ∃ u, ready u = true ∧ (resume u).Offers r

def Build.Offers (b : Build α) (r : Except Failure α) : Prop := ∃ s, (b s).Offers r

variable {j : Job α}

theorem Job.Ends.offers {amid : Session → Session → Prop} {post : Except Failure α → Session → Prop}
    (h : j.Ends amid post) :
    j.Ends amid fun r t => post r t ∧ j.Offers r := by
  induction j with
  | done r t => exact ⟨h, rfl⟩
  | waiting t ready resume ih =>
    exact fun u hu hready => (ih u (h u hu hready)).mono fun r v hv => ⟨hv.1, u, hready, hv.2⟩

theorem Job.offers_bind {f : α → Session → Job β} {c : β} (h : (j.bind f).Offers (.ok c)) :
    ∃ a t, (f a t).Offers (.ok c) := by
  induction j with
  | done r t =>
    cases r with
    | ok a => exact ⟨a, t, h⟩
    | error e => cases h
  | waiting t ready resume ih =>
    obtain ⟨u, -, hu⟩ := h
    exact ih u hu

variable {b : Build α} {f : α → Build β}

theorem Build.offers_bind {c : β} (h : (b >>= f).Offers (.ok c)) : ∃ a, (f a).Offers (.ok c) := by
  obtain ⟨s, hs⟩ := h
  obtain ⟨a, t, ht⟩ := Job.offers_bind hs
  exact ⟨a, t, ht⟩

theorem Build.offers_pure {a : α} {r : Except Failure α} (h : (pure a : Build α).Offers r) :
    r = .ok a := by
  obtain ⟨s, hs⟩ := h
  exact hs.symm

/-! ## Work that adds -/

/-- A call of a function by name. -/
def Cpp.Expr.called (name : String) (xs : List Expr) : Expr := .object (.call (.raw name) [] xs) .bare

/-- Others leave the current block as it is. -/
def Session.SameBlock (s t : Session) : Prop := t.block? = s.block?

/-- Work that adds lines to the current block, as asked for its result, or fails as asked. -/
def Build.Adds (fails : Failure → Prop) (post : α → List Item → Prop) (b : Build α) : Prop :=
  ∀ s, (b s).Ends Session.SameBlock fun r t =>
    (∀ a, r = .ok a → ∃ ls, t.block? = s.block?.map (· ++ ls) ∧ post a ls)
    ∧ ∀ e, r = .error e → fails e

namespace Build.Adds

variable {fails : Failure → Prop} {post post' : α → List Item → Prop}
  {last : β → List Item → Prop}

theorem mono (h : b.Adds fails post) (himp : ∀ a ls, post a ls → post' a ls) :
    b.Adds fails post' := fun s => (h s).mono fun _ _ ht =>
  ⟨fun a ha => (ht.1 a ha).imp fun ls hls => ⟨hls.1, himp a ls hls.2⟩, ht.2⟩

theorem bind (hb : b.Adds fails post)
    (hf : ∀ a ls, post a ls → (f a).Adds fails fun c ls' => last c (ls ++ ls')) :
    (b >>= f).Adds fails last := by
  intro s
  refine Job.Ends.bind (hb s) (fun a t ht => ?_) fun e t ht => ?_
  · obtain ⟨ls, hblock, hpost⟩ := ht.1 a rfl
    refine (hf a ls hpost t).mono fun r u hu => ⟨fun c hc => ?_, hu.2⟩
    obtain ⟨ls', hblock', hlast⟩ := hu.1 c hc
    refine ⟨ls ++ ls', ?_, hlast⟩
    rw [hblock', hblock, Option.map_map]
    congr 1
    funext xs
    exact List.append_assoc xs ls ls'
  · refine ⟨fun c hc => (by cases hc), fun e' he => ht.2 e' ?_⟩
    cases he
    rfl

theorem of_pure {a : α} (h : post a []) : (pure a : Build α).Adds fails post := by
  refine fun s => ⟨fun a' ha => ⟨[], ?_, Except.ok.inj ha ▸ h⟩, fun e he => (by cases he)⟩
  simp only [List.append_nil, Option.map_id']

/-- Questions add nothing and give what they offer. -/
theorem of_asks {names : Option String → Prop} (h : b.Asks names)
    (hfails : ∀ e, b.Offers (.error e) → fails e) :
    b.Adds fails fun a ls => ls = [] ∧ b.Offers (.ok a) := by
  have hsame : ∀ s, (b s).Ends Session.SameBlock fun _ t => t.block? = s.block? := by
    clear hfails
    induction h with
    | of_check hc =>
      intro s
      rw [ofCheck_eq (hc.on_eq s)]
      rfl
    | @of_await name _ =>
      intro s
      unfold awaitVariable waitFor
      dsimp only
      cases (registered? s name).map Except.ok with
      | some r => rfl
      | none =>
        intro u hu _
        dsimp only
        cases (registered? u name).map Except.ok <;> exact hu
    | bind _ _ hx hf =>
      intro s
      refine Job.Ends.bind (hx s) (fun a t ht => ?_) fun e t ht => ht
      exact (hf a t).mono fun r u hu => hu.trans ht
  intro s
  refine (hsame s).offers.mono fun r t ht => ⟨fun a ha => ⟨[], ?_, rfl, s, ha ▸ ht.2⟩,
    fun e he => hfails e ⟨s, he ▸ ht.2⟩⟩
  simp only [ht.1, List.append_nil, Option.map_id']

theorem of_check {c : Check α} {f : α → Check β}
    (h : (ofCheck c >>= fun a => ofCheck (f a)).Adds fails last) :
    (ofCheck (c >>= f)).Adds fails last := ofCheck_bind c f ▸ h

theorem of_addItem (i : Item) : (ofCheck (addItem i)).Adds fails fun _ ls => ls = [i] := by
  intro s
  obtain ⟨t, ht, -, hblock⟩ := addItem_block? i s
  rw [ofCheck_eq ht]
  exact ⟨fun _ _ => ⟨[i], hblock, rfl⟩, fun e he => (by cases he)⟩

theorem of_call (h : arguments? args = .ok es) : (ofCheck (call name args)).Adds fails
      fun e ls => e = .called name es ∧ ls = [.expr (.called name es)] := by
  have hcall : call name args = (do add (.called name es); pure (.called name es)) := by
    unfold call callOf arguments
    rw [h]
    rfl
  rw [hcall]
  refine .of_check (.bind (.of_addItem _) ?_)
  rintro _ _ rfl
  exact .of_pure ⟨rfl, rfl⟩

theorem of_run (h : arguments? args = .ok es) :
    (ofCheck (run name args)).Adds fails fun _ ls => ls = [.expr (.called name es)] := by
  rw [run_eq h]
  exact of_addItem _

end Build.Adds

/-! ## Processed values -/

namespace Property

theorem plain_offers {needs : Option String} {x : Value}
    (hv : v ≠ .null) (h : ((plain test type needs).emit v).Offers (.ok x)) : ∃ e, x = .cpp e := by
  have hlast : ∀ {b : Build Expr},
      (b >>= fun e => pure (Value.cpp e)).Offers (.ok x) → ∃ e, x = .cpp e := by
    intro b hb
    obtain ⟨e, he⟩ := offers_bind hb
    exact ⟨e, Except.ok.inj (offers_pure he)⟩
  have hwhole : ∀ {b : Build Value}, (do
      let v ← b
      let v ← if type == int then Value.int <$> (Test.convertInt v : Check Int) else pure v
      return .cpp (← express v) : Build Value).Offers (.ok x) → ∃ e, x = .cpp e := by
    intro b h
    obtain ⟨y, h⟩ := offers_bind h
    dsimp only at h
    split at h
    all_goals
      obtain ⟨z, h⟩ := offers_bind h
      exact hlast h
  cases v with
  | null => exact absurd rfl hv
  | lambda body => exact hlast h
  | ident id => exact hlast h
  | list xs =>
    obtain ⟨ys, h⟩ := offers_bind h
    exact hwhole (b := pure (.list ys)) h
  | _ => exact hwhole h

theorem integer_adds {fails : Failure → Prop}
    (hfails : ∀ e, (integer.emit v).Offers (.error e) → fails e) :
    (integer.emit v).Adds fails fun x ls => ls = [] ∧ (integer.emit v).Offers (.ok x)
      ∧ (v = .null ∧ x = .null ∨ ∃ e, x = .cpp e) := by
  have hasks : (integer.emit v).Asks fun _ => True := integer_asks.emit fun _ _ => trivial
  refine (Build.Adds.of_asks hasks hfails).mono fun x ls h => ⟨h.1, h.2, ?_⟩
  by_cases hv : v = .null
  · subst hv
    exact .inl ⟨rfl, Except.ok.inj (offers_pure h.2)⟩
  · exact .inr (plain_offers hv h.2)

end Property

end Panel
