import Panel.Proofs.Emission

/-! # Side by side — two pieces of work that set the same -/

namespace Panel

open Cpp List Code Option Session

variable {s : Session} {ps : List (String × String)} {name : String} {args : List Value}

/-! ## Jobs side by side -/

/-- Two jobs that wait together and end together, with ends as asked, if what others do while they
    wait is as `amid` says. -/
def Job.Twin {α β : Type} (amid : Session → Session → Session → Session → Prop)
    (post : Except Failure α → Session → Except Failure β → Session → Prop) : Job α → Job β → Prop
  | .done r t, .done r' t' => post r t r' t'
  | .waiting t ready resume, .waiting t' ready' resume' => ∀ u u', amid t t' u u' →
      ready u = ready' u' ∧ (ready u = true → (resume u).Twin amid post (resume' u'))
  | _, _ => False

namespace Job

variable {α β γ δ : Type} {amid : Session → Session → Session → Session → Prop}
  {post : Except Failure α → Session → Except Failure β → Session → Prop}

variable {j : Job α} {j' : Job β}

/-- Twins stay so under what goes on only from their ends. -/
theorem Twin.lift {post' : Except Failure γ → Session → Except Failure δ → Session → Prop}
    {f : Job α → Job γ} {g : Job β → Job δ}
    (hf : ∀ t ready resume, f (.waiting t ready resume) = .waiting t ready fun u => f (resume u))
    (hg : ∀ t ready resume, g (.waiting t ready resume) = .waiting t ready fun u => g (resume u))
    (h : j.Twin amid post j')
    (hdone : ∀ r t r' t', post r t r' t' → (f (.done r t)).Twin amid post' (g (.done r' t'))) :
    (f j).Twin amid post' (g j') := by
  induction j generalizing j' with
  | done r t =>
    cases j' with
    | done r' t' => exact hdone r t r' t' h
    | waiting => exact h.elim
  | waiting t ready resume ih =>
    cases j' with
    | done => exact h.elim
    | waiting t' ready' resume' =>
      rw [hf, hg]
      exact fun u u' hu => ⟨(h u u' hu).1, fun hready => ih u ((h u u' hu).2 hready)⟩

theorem Twin.mono {post' : Except Failure α → Session → Except Failure β → Session → Prop}
    (h : j.Twin amid post j')
    (himp : ∀ r t r' t', post r t r' t' → post' r t r' t') : j.Twin amid post' j' :=
  h.lift (f := id) (g := id) (fun _ _ _ => rfl) (fun _ _ _ => rfl) himp

theorem Twin.bind_right {post' : Except Failure α → Session → Except Failure δ → Session → Prop}
    {b : Build β} {f : β → Build δ} {s : Session} (h : j.Twin amid post (b s))
    (hok : ∀ r t a t', post r t (.ok a) t' → (done r t).Twin amid post' (f a t'))
    (herror : ∀ r t e t', post r t (.error e) t' → post' r t (.error e) t') :
    j.Twin amid post' ((b >>= f) s) := by
  refine h.lift (f := id) (g := (·.bind f)) (fun _ _ _ => rfl) (fun _ _ _ => rfl)
    fun r t r' t' h => ?_
  cases r' with
  | ok a => exact hok r t a t' h
  | error e => exact herror r t e t' h

theorem Twin.bind {post' : Except Failure γ → Session → Except Failure δ → Session → Prop}
    {f : α → Session → Job γ} {f' : β → Session → Job δ}
    (h : j.Twin amid post j')
    (hok : ∀ a t r' t', post (.ok a) t r' t' →
      ∃ a', r' = .ok a' ∧ (f a t).Twin amid post' (f' a' t'))
    (herror : ∀ e t r' t', post (.error e) t r' t' →
      ∃ e', r' = .error e' ∧ post' (.error e) t (.error e') t') :
    (j.bind f).Twin amid post' (j'.bind f') := by
  refine h.lift (f := (·.bind f)) (g := (·.bind f')) (fun _ _ _ => rfl) (fun _ _ _ => rfl)
    fun r t r' t' h => ?_
  cases r with
  | ok a =>
    obtain ⟨a', rfl, hf⟩ := hok a t r' t' h
    exact hf
  | error e =>
    obtain ⟨e', rfl, he⟩ := herror e t r' t' h
    exact he

theorem Twin.and_ends {good : Except Failure α → Session → Prop}
    (h : j.Twin amid post j') (hgood : j.Ends (fun _ _ => True) good) :
    j.Twin amid (fun r t r' t' => post r t r' t' ∧ good r t) j' := by
  induction j generalizing j' with
  | done r t =>
    cases j' with
    | done r' t' => exact ⟨h, hgood⟩
    | waiting => exact h
  | waiting t ready resume ih =>
    cases j' with
    | done => exact h
    | waiting t' ready' resume' =>
      exact fun u u' hu => ⟨(h u u' hu).1, fun hready =>
        ih u ((h u u' hu).2 hready) (hgood u trivial hready)⟩

end Job

/-- What others do while two jobs wait: the same in both as far as can be asked about, and nothing to
    what is watched of either. -/
structure Session.Meanwhile {γ δ : Type} (left : Session → γ) (right : Session → δ)
    (s s' t t' : Session) : Prop where
  seen : t.seen = t'.seen
  left : left t = left s
  right : right t' = right s'

theorem Build.Asks.twin {α γ δ : Type} {names : Option String → Prop} {b : Build α}
    (h : b.Asks names) (left : Session → γ) (right : Session → δ) {s' : Session}
    (hseen : s.seen = s'.seen) :
    (b s).Twin (Session.Meanwhile left right)
      (fun r t r' t' => r' = r ∧ Session.Meanwhile left right s s' t t') (b s') := by
  induction h generalizing s s' with
  | of_check hc =>
    rw [Build.ofCheck_eq (hc.on_eq s), Build.ofCheck_eq (hc.on_eq s')]
    exact ⟨(hc.answer hseen).symm, hseen, rfl, rfl⟩
  | @of_await name _ =>
    have hanswer : ∀ {u u' : Session}, u.seen = u'.seen →
        registered? u name = registered? u' name := by
      intro u u' hu
      have hobjects : u.objects = u'.objects := congrArg (·.1) hu
      unfold registered?
      rw [hobjects]
    unfold awaitVariable Build.waitFor
    dsimp only
    rw [← hanswer hseen]
    cases registered? s name with
    | some v => exact ⟨rfl, hseen, rfl, rfl⟩
    | none =>
      intro u u' hu
      dsimp only
      rw [← hanswer hu.seen]
      refine ⟨rfl, fun hready => ?_⟩
      cases hv : registered? u name with
      | some v => exact ⟨rfl, hu⟩
      | none =>
        rw [hv] at hready
        cases hready
  | bind _ _ hx hf =>
    refine (hx hseen).bind (fun a t r' t' ht => ⟨a, ht.1, ?_⟩) fun e t r' t' ht => ⟨e, ht.1, rfl, ht.2⟩
    refine (hf a ht.2.seen).mono fun r u r' u' hu => ⟨hu.1, hu.2.seen, ?_, ?_⟩
    · exact hu.2.left.trans ht.2.left
    · exact hu.2.right.trans ht.2.right

/-! ## Settings -/

/-- The lines of a block: a lambda keeps its own, the others are lines of the program. -/
def Session.linesOf (s : Session) (c : Context) : List Item :=
  (if c.form = .lambda then c.code else s.main).map Stmt.inner

def Session.block? (s : Session) : Option (List Item) :=
  (Code.currentContext? s).map s.linesOf

/-- What the lines of the current block set, for a way to read one line. -/
def Session.settings (read : Item → Option (String × String)) (s : Session) :
    Option (List (String × String)) :=
  s.block?.map (·.filterMap read)

namespace Code

theorem currentContext?_modify {c : Context} (h : currentContext? s = some c)
    (f : Context → Context) : currentContext? (modifyContext f s) = some (f c) := by
  unfold currentContext? at h
  obtain ⟨k, hk, hc⟩ := bind_eq_some_iff.mp h
  unfold currentContext? modifyContext
  rw [hk]
  show (s.contexts.modify k f)[k]? = _
  rw [getElem?_modify_eq, hc]
  rfl

theorem modifyContext_seen {f : Context → Context}
    (hf : ∀ c, (f c).form = c.form ∧ (f c).params = c.params) (s : Session) :
    (modifyContext f s).seen = s.seen := by
  have hparams : automationParams (modifyContext f s) = automationParams s := by
    cases hc : currentContext? s with
    | some c =>
      unfold automationParams
      rw [currentContext?_modify hc, hc]
      dsimp only
      rw [(hf c).1, (hf c).2]
    | none =>
      have hsame : currentContext? (modifyContext f s) = none := by
        unfold currentContext? at hc ⊢
        unfold modifyContext
        cases hk : s.current with
        | none => simp only [hk, bind_none]
        | some k =>
          rw [hk] at hc
          show (s.contexts.modify k f)[k]? = none
          rw [getElem?_modify_eq]
          exact congrArg (Option.map f) hc
      unfold automationParams
      rw [hsame, hc]
  have hrest : (modifyContext f s).objects = s.objects ∧ (modifyContext f s).config = s.config := by
    unfold modifyContext
    split <;> exact ⟨rfl, rfl⟩
  unfold seen
  rw [hparams, hrest.1, hrest.2]

theorem addItem_block? (i : Item) (s : Session) :
    ∃ t, (addItem i).on s = (.ok (), t) ∧ t.seen = s.seen ∧ t.block? = s.block?.map (· ++ [i]) := by
  have hget : (get : Check Session).on s = (.ok s, s) := rfl
  unfold addItem
  rw [Check.on_bind_ok _ hget]
  cases hc : currentContext? s with
  | none =>
    refine ⟨s, rfl, rfl, ?_⟩
    unfold block?
    rw [hc]
    rfl
  | some c =>
    have hmain : ∀ x : Stmt, x.inner = i → c.form ≠ .lambda →
        ({ s with main := s.main ++ [x] } : Session).block? = s.block?.map (· ++ [i]) := by
      intro x hx hform
      have hcurrent : currentContext? { s with main := s.main ++ [x] } = some c := hc
      unfold block? linesOf
      rw [hcurrent, hc, map_some, map_some, map_some, if_neg hform,
        if_neg hform, map_append, map_singleton, hx]
    dsimp only
    cases hform : c.form with
    | setup => exact ⟨_, rfl, rfl, hmain (.item i) rfl (by rw [hform]; decide)⟩
    | main => exact ⟨_, rfl, rfl, hmain (.indented c.level i) rfl (by rw [hform]; decide)⟩
    | lambda =>
      have hcurrent := currentContext?_modify hc
        fun c => { c with code := c.code ++ [.indented c.level i] }
      refine ⟨_, rfl, ?_, ?_⟩
      · refine modifyContext_seen (fun c => ?_) s
        exact ⟨rfl, rfl⟩
      · unfold block? linesOf
        rw [hcurrent, hc, map_some, map_some, map_some, if_pos hform, if_pos hform, map_append]
        rfl

end Code

/-! ## Work that sets -/

section Sets

variable {α β : Type} (read : Item → Option (String × String)) {qs : List (String × String)}
  {e : Failure}

/-- Work with a fixed result that sets properties, by the lines it adds to the current block. -/
def Check.Sets (c : Check α) (r : Except Failure α) (ps : List (String × String)) : Prop :=
  ∀ s, ∃ t, c.on s = (r, t) ∧ t.seen = s.seen
    ∧ t.settings read = (s.settings read).map (· ++ ps)

/-- Work with a fixed result that does not wait and sets properties. -/
def Build.Sets (b : Build α) (r : Except Failure α) (ps : List (String × String)) : Prop :=
  ∀ s, ∃ t, b s = .done r t ∧ t.seen = s.seen ∧ t.settings read = (s.settings read).map (· ++ ps)

variable {read}

theorem Session.settings_append {t u : Session}
    (ht : t.settings read = (s.settings read).map (· ++ ps))
    (hu : u.settings read = (t.settings read).map (· ++ qs)) :
    u.settings read = (s.settings read).map (· ++ (ps ++ qs)) := by
  rw [hu, ht, Option.map_map]
  congr 1
  funext xs
  exact append_assoc xs ps qs

namespace Check.Sets

variable {c : Check α} {r : Except Failure β} {f : α → Check β} {es : List Expr} {a : α}

theorem of_same {r : Except Failure α}
    (h : ∀ s, ∃ t, c.on s = (r, t) ∧ t.seen = s.seen ∧ t.block? = s.block?) :
    c.Sets read r [] := by
  intro s
  obtain ⟨t, ht, hseen, hblock⟩ := h s
  refine ⟨t, ht, hseen, ?_⟩
  unfold settings
  rw [hblock, Option.map_map]
  congr 1
  funext xs
  exact (append_nil _).symm

theorem of_pure (a : α) : (pure a : Check α).Sets read (.ok a) [] :=
  of_same fun s => ⟨s, rfl, rfl, rfl⟩

theorem of_throw (e : Failure) : (throw e : Check α).Sets read (.error e) [] :=
  of_same fun s => ⟨s, rfl, rfl, rfl⟩

theorem bind (hc : c.Sets read (.ok a) ps) (hf : (f a).Sets read r qs) :
    (c >>= f).Sets read r (ps ++ qs) := by
  intro s
  obtain ⟨t, ht, hseen, hset⟩ := hc s
  obtain ⟨u, hu, hseen', hset'⟩ := hf t
  refine ⟨u, (on_bind_ok f ht).trans hu, hseen'.trans hseen, ?_⟩
  exact settings_append hset hset'

theorem after (hc : c.Sets read (.ok a) []) (hf : (f a).Sets read r ps) :
    (c >>= f).Sets read r ps := hc.bind hf

theorem of_addItem (i : Item) : (addItem i).Sets read (.ok ()) (read i).toList := by
  intro s
  obtain ⟨t, ht, hseen, hblock⟩ := addItem_block? i s
  refine ⟨t, ht, hseen, ?_⟩
  unfold settings
  rw [hblock, Option.map_map, Option.map_map]
  congr 1
  funext xs
  show (xs ++ [i]).filterMap read = xs.filterMap read ++ (read i).toList
  rw [filterMap_append]
  cases hi : read i <;> simp [hi]

theorem of_run {setting : Option (String × String)} (h : arguments? args = .ok es)
    (hread : read (.expr (.object (.call (.raw name) [] es) .bare)) = setting) :
    (run name args).Sets read (.ok ()) setting.toList := by
  rw [run_eq h, ← hread]
  exact of_addItem _

theorem of_run_other (h : arguments? args = .ok es)
    (hread : read (.expr (.object (.call (.raw name) [] es) .bare)) = none) :
    (run name args).Sets read (.ok ()) [] := of_run h hread

theorem of_run_error (h : arguments? args = .error e) :
    (run name args).Sets read (.error e) [] := by
  have hthrow : run name args = throw e := by
    unfold run call callOf arguments
    rw [h]
    rfl
  rw [hthrow]
  exact of_throw e

theorem of_currentProperty (name : String) :
    (currentProperty name).Sets read (.ok (renamed name)) [] := by
  refine of_same fun s => ?_
  unfold currentProperty renamed
  cases renamedProperties.find? (·.1 == name) with
  | none => exact ⟨s, rfl, rfl, rfl⟩
  | some e => exact ⟨_, rfl, rfl, rfl⟩

end Check.Sets

namespace Build.Sets

theorem of_lift {c : Check α} {r : Except Failure α} (h : c.Sets read r ps) :
    (liftM c : Build α).Sets read r ps := by
  intro s
  obtain ⟨t, ht, hrest⟩ := h s
  exact ⟨t, ofCheck_eq ht, hrest⟩

theorem of_pure (a : α) : (pure a : Build α).Sets read (.ok a) [] := of_lift (Check.Sets.of_pure a)

variable {f : α → Build β} {b : Build α}

theorem bind {a : α} {r : Except Failure β} (hb : b.Sets read (.ok a) ps)
    (hf : (f a).Sets read r qs) :
    (b >>= f).Sets read r (ps ++ qs) := by
  intro s
  obtain ⟨t, ht, hseen, hset⟩ := hb s
  obtain ⟨u, hu, hseen', hset'⟩ := hf t
  refine ⟨u, (bind_ok f ht).trans hu, hseen'.trans hseen, ?_⟩
  exact settings_append hset hset'

theorem bind_error (hb : b.Sets read (.error e) ps) : (b >>= f).Sets read (.error e) ps := by
  intro s
  obtain ⟨t, ht, hrest⟩ := hb s
  exact ⟨t, Build.bind_error f ht, hrest⟩

end Build.Sets

end Sets

end Panel
