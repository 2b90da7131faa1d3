import Panel.Proofs.Prompt
import Panel.Schedule

/-! # Blocks of actions — an action is written in one go

    An action on widgets is written into a block of its own.  Before it enters the block it waits
    for all widgets and for what the lambdas among its options refer to; so if nothing else is
    missing, it leaves the block again before anything else is done. -/

namespace Panel

open Cpp List

variable {es : Entries} {ts : List Task}

/-! ## Pauses -/

/-- What others may have done while work waited: they forget no object, and widgets that were all
    there are so still. -/
structure Session.Follows (s u : Session) : Prop where
  names : s.names ⊆ u.names
  completed : s.completed = true → u.completed = true

/-- What work does that stays clear of the blocks of others: it forgets nothing, the current block
    is as it was, and so are all blocks that were there. -/
structure Session.Beside (s t : Session) : Prop extends s.Apart t, s.Follows t

namespace Session

variable {s t u : Session}

theorem Follows.refl (s : Session) : s.Follows s := ⟨List.Subset.refl _, id⟩

theorem Follows.trans (hst : s.Follows t) (htu : t.Follows u) : s.Follows u :=
  ⟨fun _ hn => htu.names (hst.names hn), fun hs => htu.completed (hst.completed hs)⟩

theorem Beside.of_same (hcurrent : t.current = s.current) (hcontexts : t.contexts = s.contexts)
    (hobjects : t.objects = s.objects) (hcompleted : t.completed = s.completed) : s.Beside t where
  current := hcurrent
  contexts := hcontexts ▸ prefix_refl _
  names := by
    rw [Session.names, Session.names, hobjects]
    exact List.Subset.refl _
  completed := hcompleted.trans

theorem Beside.refl (s : Session) : s.Beside s := .of_same rfl rfl rfl rfl

theorem Beside.trans (hst : s.Beside t) (htu : t.Beside u) : s.Beside u :=
  ⟨hst.toApart.trans htu.toApart, hst.toFollows.trans htu.toFollows⟩

theorem Noted.trans (hst : s.Noted t) (htu : t.Noted u) : s.Noted u := by
  obtain ⟨_, rfl⟩ := hst
  obtain ⟨olds, rfl⟩ := htu
  exact ⟨olds, rfl⟩

theorem Noted.beside (h : s.Noted t) : s.Beside t := by
  obtain ⟨_, rfl⟩ := h
  exact .of_same rfl rfl rfl rfl

end Session

/-- A job that has written nothing whenever it pauses, however often, until it goes on as asked. -/
inductive Job.Until {α : Type} (goal : Session → Job α → Prop) : Session → Job α → Prop
  | now {s : Session} {j : Job α} : goal s j → Until goal s j
  | later {s t : Session} {ready : Session → Bool} {resume : Session → Job α} : s.Noted t →
      (∀ u, t.Follows u → Until goal u (resume u)) →
      Until goal s (.waiting t ready resume)

/-- A job that stays clear of the blocks of others each time that it goes on, whatever they have
    done meanwhile. -/
def Job.Clear {α : Type} : Session → Job α → Prop
  | s, .done _ t => s.Beside t
  | s, .waiting t _ resume => s.Beside t ∧ ∀ u, t.Follows u → (resume u).Clear u

def Job.Rests {α : Type} (post : α → Session → Prop) (s : Session) (j : Job α) : Prop :=
  ∃ r t, j = .done r t ∧ s.Noted t ∧ ∀ a, r = .ok a → post a t

namespace Job

variable {α β : Type} {s t : Session} {f : α → Session → Job β}

variable {goal : Session → Job α → Prop} {j : Job α}

theorem Until.mono {goal' : Session → Job α → Prop} (h : j.Until goal s)
    (himp : ∀ u k, goal u k → goal' u k) : j.Until goal' s := by
  induction h with
  | now h => exact .now (himp _ _ h)
  | later hnoted _ ih => exact .later hnoted ih

theorem Until.of_noted (hgoal : ∀ {u v k}, u.Noted v → goal v k → goal u k) (hnoted : s.Noted t)
    (h : j.Until goal t) : j.Until goal s := by
  cases h with
  | now h => exact .now (hgoal hnoted h)
  | later htu h => exact .later (hnoted.trans htu) h

variable {post : α → Session → Prop}

theorem Until.bind {goal : Session → Job β → Prop}
    (hgoal : ∀ {u v k}, u.Noted v → goal v k → goal u k) (h : j.Until (Rests post) s)
    (hok : ∀ a u, post a u → (f a u).Until goal u)
    (herror : ∀ e u, goal u (.done (.error e) u)) : (j.bind f).Until goal s := by
  -- The induction is on the pauses of `j`; those of `f` come after the last of them.
  induction h with
  | now h =>
    obtain ⟨r, t, rfl, hnoted, hpost⟩ := h
    cases r with
    | ok a => exact .of_noted hgoal hnoted (hok a t (hpost a rfl))
    | error e => exact .now (hgoal hnoted (herror e t))
  | later hnoted _ ih => exact .later hnoted ih

theorem Rests.of_noted (hnoted : s.Noted t) (h : j.Rests post t) : j.Rests post s := by
  obtain ⟨r, u, hdone, htu, hpost⟩ := h
  exact ⟨r, u, hdone, hnoted.trans htu, hpost⟩

theorem Rests.imp {post' : α → Session → Prop} (h : j.Rests post s)
    (himp : ∀ a u, post a u → post' a u) : j.Rests post' s := by
  obtain ⟨r, u, hdone, hnoted, hpost⟩ := h
  exact ⟨r, u, hdone, hnoted, fun a ha => himp a u (hpost a ha)⟩

theorem rests_error (e : Failure) (s : Session) :
    (Job.done (.error e) s).Rests post s := ⟨_, s, rfl, .refl s, nofun⟩

theorem Clear.trans (hst : s.Beside t) (h : j.Clear t) : j.Clear s := by
  cases j with
  | done r u => exact Session.Beside.trans hst h
  | waiting u ready resume => exact ⟨hst.trans h.1, h.2⟩

theorem Clear.bind (h : j.Clear s) (hf : ∀ a t, (f a t).Clear t) : (j.bind f).Clear s := by
  induction j generalizing s with
  | done r t =>
    cases r with
    | ok a => exact (hf a t).trans h
    | error e => exact h
  | waiting t ready resume ih => exact ⟨h.1, fun u hu => ih u (h.2 u hu)⟩

theorem Until.clear (h : j.Until goal s)
    (hgoal : ∀ u k, s.Follows u → goal u k → k.Clear u) : j.Clear s := by
  induction h with
  | now h => exact hgoal _ _ (.refl _) h
  | later hnoted _ ih =>
    refine ⟨hnoted.beside, fun u htu => ih u htu fun v k huv hk => hgoal v k ?_ hk⟩
    exact (hnoted.beside.toFollows.trans htu).trans huv

end Job

def Check.Clear {α : Type} (c : Check α) : Prop := ∀ s : Session, s.Beside (c.on s).2

namespace Check.Clear

variable {α β : Type} {c : Check α}

theorem of_leaves (h : ∀ s, (c.on s).2 = s) : c.Clear := fun s => by
  rw [h s]
  exact .refl s

theorem bind {f : α → Check β} (hc : c.Clear) (hf : ∀ a, (f a).Clear) :
    (c >>= f).Clear := on_bind_trans .trans hc hf

end Check.Clear

namespace Build

variable {α β : Type} {b : Build α}

theorem waitFor_until (answer : Session → Option (Except Failure α)) (s : Session) :
    (waitFor answer s).Until (Job.Rests fun a u => s.Follows u ∧ answer u = some (.ok a)) s := by
  unfold waitFor
  split
  next r hr =>
    refine .now ⟨r, s, rfl, .refl s, fun a ha => ⟨.refl s, ?_⟩⟩
    rw [hr, ha]
  next =>
    refine .later (.refl s) fun u hfollows => ?_
    split
    next r hr =>
      refine .now ⟨r, u, rfl, .refl u, fun a ha => ⟨hfollows, ?_⟩⟩
      rw [hr, ha]
    next => exact .now (Job.rests_error _ u)

theorem Readies.until {p : α → Prop} (h : b.Readies p) (s : Session) :
    (b s).Until (Job.Rests fun a _ => p a) s := by
  induction h generalizing s with
  | of_check hnoted hp => exact .now ⟨_, _, rfl, hnoted s, fun a ha => hp (Prod.ext ha rfl)⟩
  | waitFor answer =>
    exact (waitFor_until answer s).mono fun _ _ h => h.imp fun _ _ _ => trivial
  | bind _ _ hx hf => exact (hx s).bind Job.Rests.of_noted (fun a u ha => hf a ha u) Job.rests_error

/-- Work that stays clear of all blocks but those that it enters itself. -/
def Clear (b : Build α) : Prop := ∀ s, (b s).Clear s

theorem Clear.of_check {c : Check α} (h : c.Clear) : Clear (liftM c : Build α) := h

theorem Clear.bind {x : Build α} {f : α → Build β} (hx : Clear x) (hf : ∀ a, Clear (f a)) :
    Clear (x >>= f) := fun s => (hx s).bind hf

theorem Clear.waitFor (answer : Session → Option (Except Failure α)) :
    Clear (Build.waitFor answer) := by
  intro s
  unfold Build.waitFor
  split
  · exact .refl s
  · refine ⟨.refl s, fun u _ => ?_⟩
    dsimp only
    split
    · exact Session.Beside.refl u
    · exact Session.Beside.refl u

theorem Asks.clear {names : Option String → Prop} (h : b.Asks names) : b.Clear := by
  induction h with
  | of_check hc => exact Clear.of_check (.of_leaves hc.leaves)
  | of_await _ => exact .waitFor _
  | bind _ _ hx hf => exact .bind hx hf

end Build

/-! ## Blocks -/

namespace Build

variable {α : Type} {s t u : Session}

theorem attempt_done {x : Build α} {r : Except Failure α} (h : x s = .done r t) :
    (tryCatch (Except.ok <$> x) fun e => pure (.error e) : Build (Except Failure α)) s
      = .done (.ok r) t := by
  show ((x s).bind _).recover _ = _
  rw [h]
  cases r <;> rfl

end Build

namespace Code

variable {names : Option String → Prop} {u : Session}

/-- Prompt work in a block of its own is over when the block is left, and leaves all others as they
    were. -/
theorem inBlock_at_once {α : Type} {work : Nat → Build α} (hwork : ∀ i, (work i).Prompt names)
    (hcompleted : u.completed = true) (hnames : ∀ n, names n → n ∈ u.names) (c : Context) :
    ∃ r t, inBlock c work u = .done r t ∧ u.Beside t := by
  -- Entering adds a block and nothing else, so what is there before is there inside.
  obtain ⟨r, t, hdone, hwithin⟩ :=
    (hwork u.contexts.length).ends ((enter c).on u).2 hcompleted hnames
  refine ⟨r, ((leave u.contexts.length).on t).2, ?_, hwithin.apart, hwithin.names,
    hwithin.completed.trans⟩
  have henter : (liftM (enter c) : Build Nat) u
      = .done (.ok u.contexts.length) ((enter c).on u).2 := rfl
  unfold inBlock
  rw [Build.bind_ok _ henter, Build.bind_ok _ (Build.attempt_done hdone)]
  cases r <;> rfl

theorem newTemplate_clear (id : Ident) (template : List CppType) (args : List Value) :
    (newTemplate id template args).Clear := by
  have hregister : ∀ id e, (register id e).Clear := by
    intro id e s
    by_cases hname : id.name ∈ s.names
    · rw [register_taken e hname]
      exact .refl s
    · rw [register_free e hname]
      refine ⟨⟨rfl, prefix_refl _⟩, fun n hn => ?_, fun h => h⟩
      obtain ⟨v, hv, rfl⟩ := mem_map.mp hn
      exact mem_map.mpr ⟨v, mem_append_left _ hv, rfl⟩
  have hnew : ∀ type, (newOf type args).Clear := fun type =>
    .bind (.of_leaves (arguments_still args).reads.leaves) fun _ => .of_leaves fun _ => rfl
  refine .bind (hnew _) fun _ => ?_
  exact .bind (fun _ => .of_same rfl rfl rfl rfl) fun _ =>
    .bind (fun _ => .of_same rfl rfl rfl rfl) fun _ =>
      .bind (hregister _ _) fun _ => .of_leaves fun _ => rfl

theorem blockLambda_clear (i : Nat) : (blockLambda i).Clear := by
  have hcontext : (context i).Clear := by
    refine .bind (.of_leaves fun _ => rfl) fun s => ?_
    split
    · exact .of_leaves fun _ => rfl
    · exact .of_leaves fun _ => rfl
  refine .bind (.of_check hcontext) fun c => ?_
  exact (closure_asks (fun _ _ => trivial) _ _ _ : Build.Asks (fun _ => True) _).clear

end Code

namespace Automation

variable {names : Option String → Prop} {s : Session} {b : Build Expr}

theorem mem_names_of_registered? {name : Option String} {v : Variable}
    (h : Code.registered? s name = some v) : name ∈ s.names :=
  mem_map.mpr ⟨v, mem_of_find?_eq_some h,
    beq_iff_eq.mp (find?_some (p := fun x : Variable => x.id.name == name) h)⟩

theorem awaitNames_until (ns : List String) (s : Session) : (awaitNames ns s).Until
      (Job.Rests fun _ u => s.Follows u ∧ ∀ n ∈ ns, some n ∈ u.names) s := by
  induction ns generalizing s with
  | nil => exact .now ⟨_, s, rfl, .refl s, fun _ _ => ⟨.refl s, nofun⟩⟩
  | cons n ns ih =>
    refine (Build.waitFor_until _ s).bind Job.Rests.of_noted (fun v u hu => ?_) Job.rests_error
    obtain ⟨hsu, hv⟩ := hu
    have hn : some n ∈ u.names := by
      obtain ⟨x, hx, -⟩ := Option.map_eq_some_iff.mp hv
      exact mem_names_of_registered? hx
    -- The first name is still there when the last one is: no object is forgotten.
    refine (ih u).mono fun _ _ h => h.imp fun _ t hpost => ?_
    obtain ⟨hut, hall⟩ := hpost
    exact ⟨hsu.trans hut, forall_mem_cons.mpr ⟨hut.names hn, hall⟩⟩

def AwaitedBy (es : Entries) (n : Option String) : Prop :=
  ∃ key body, (key, .lambda body) ∈ es ∧ ∃ m ∈ Code.references body, some m = n

theorem awaitLambdas_until (es : Entries) (s : Session) : (awaitLambdas es s).Until
      (Job.Rests fun _ u => s.Follows u ∧ ∀ n, AwaitedBy es n → n ∈ u.names) s := by
  fun_induction awaitLambdas es generalizing s with
  | case1 =>
    refine .now ⟨_, s, rfl, .refl s, fun _ _ => ⟨.refl s, fun n hn => ?_⟩⟩
    obtain ⟨_, _, hmem, -⟩ := hn
    cases hmem
  | case2 key body es ih =>
    refine (awaitNames_until _ s).bind Job.Rests.of_noted (fun _ u hu => ?_) Job.rests_error
    obtain ⟨hsu, hbody⟩ := hu
    refine (ih u).mono fun _ _ h => h.imp fun _ t hpost => ?_
    obtain ⟨hut, hall⟩ := hpost
    refine ⟨hsu.trans hut, fun n hn => ?_⟩
    obtain ⟨key', body', hmem, m, hm, rfl⟩ := hn
    rcases mem_cons.mp hmem with heq | hmem
    · obtain rfl : body' = body := Value.lambda.inj (Prod.mk.inj heq).2
      exact hut.names (hbody m hm)
    · exact hall _ ⟨key', body', hmem, m, hm, rfl⟩
  | case3 e es hlambda ih =>
    refine (ih s).mono fun _ _ h => h.imp fun _ t hpost => ?_
    obtain ⟨hst, hall⟩ := hpost
    refine ⟨hst, fun n hn => ?_⟩
    obtain ⟨key, body, hmem, hm⟩ := hn
    rcases mem_cons.mp hmem with heq | hmem
    · exact absurd heq.symm (hlambda key body)
    · exact hall n ⟨key, body, hmem, hm⟩

/-- How an action goes on once nothing is waited for any more before its block: it stays clear of
    all other blocks, unless an object is missing of which its code needs it. -/
def GoesOn (names : Option String → Prop) (es : Entries) (u : Session) (j : Job Expr) : Prop :=
  j.Clear u
    ∨ (u.completed = true ∧ (∀ n, AwaitedBy es n → n ∈ u.names) ∧ ∃ n, names n ∧ n ∉ u.names)

theorem GoesOn.of_noted {t u : Session} {j : Job Expr} (hnoted : t.Noted u)
    (h : GoesOn names es u j) : GoesOn names es t j := by
  rcases h with hclear | hmissing
  · exact .inl (hclear.trans hnoted.beside)
  · obtain ⟨_, rfl⟩ := hnoted
    exact .inr hmissing

theorem goesOn_error (e : Failure) (u : Session) :
    GoesOn names es u (.done (.error e) u) := .inl ((Session.Beside.refl u))

/-- An action that writes nothing before it has all that is waited for before its block; from then
    on it stays clear of all other blocks, unless an object of these names is missing. -/
def PausesOutside (names : Option String → Prop) (es : Entries) (b : Build Expr) : Prop :=
  ∀ s, (b s).Until (GoesOn names es) s

theorem ownBlock_outside {work : Build Unit} (hwork : work.Writes (Quietness.within.of []) names)
    (id : Ident) (params : List Param) (es : Entries) :
    PausesOutside names es (do
      awaitLambdas es
      Widget.awaitAll
      let c ← closureOf params void work
      newEntry id params [.cpp (.closure c)]) := by
  intro s
  refine (awaitLambdas_until es s).bind GoesOn.of_noted (fun _ t ht => ?_) goesOn_error
  obtain ⟨-, hlambdas⟩ := ht
  refine (Build.waitFor_until _ t).bind GoesOn.of_noted (fun _ u hu => ?_) goesOn_error
  obtain ⟨htu, hthere⟩ := hu
  -- The answer that was waited for is there only when all widgets are.
  have hcompleted : u.completed = true := by
    by_cases hcompleted : u.completed = true
    · exact hcompleted
    · rw [if_neg hcompleted] at hthere
      exact nomatch hthere
  refine .now ?_
  by_cases hnames : ∀ n, names n → n ∈ u.names
  · -- Nothing is missing: the block is left before anything is waited for.
    left
    have hinner : ∀ i : Nat, Build.Prompt names (do work; return i : Build Nat) := fun i =>
      (hwork.bind fun _ => .of_pure i).prompt
    obtain ⟨r, v, hdone, hbeside⟩ := Code.inBlock_at_once hinner hcompleted hnames
      (Code.Context.fresh .lambda params (some void) "")
    have hrest : ∀ i, Build.Clear (do
        let c ← Code.blockLambda i
        newEntry id params [.cpp (.closure c)] : Build Expr) := fun i =>
      .bind (Code.blockLambda_clear i) fun c => .of_check (Code.newTemplate_clear _ _ _)
    unfold closureOf
    rw [bind_assoc]
    cases r with
    | ok i =>
      rw [Build.bind_ok _ hdone]
      exact (hrest i v).trans hbeside
    | error e =>
      rw [Build.bind_error _ hdone]
      exact hbeside
  · obtain ⟨n, hn⟩ := Classical.not_forall.mp hnames
    exact .inr ⟨hcompleted, fun m hm => htu.names (hlambdas m hm), n, Classical.not_imp.mp hn⟩

theorem Acts.outside (h : Acts Quietness.within names es b) : PausesOutside names es b := by
  induction h with
  | inBlock id params hwork => exact ownBlock_outside hwork id params es
  | bind hx _ hf =>
    exact fun s => (hx.until s).bind GoesOn.of_noted (fun a u ha => hf a ha u) goesOn_error

/-- An action stays clear of all other blocks if everything is there that its code needs, or is
    waited for before. -/
theorem PausesOutside.clear (h : PausesOutside names es b)
    (hmet : ∀ n, names n → n ∈ s.names ∨ AwaitedBy es n) : (b s).Clear s := by
  refine (h s).clear fun u j hsu hgoes => ?_
  rcases hgoes with hclear | ⟨-, hlambdas, n, hn, hmissing⟩
  · exact hclear
  · rcases hmet n hn with hthere | hawaited
    · exact absurd (hsu.names hthere) hmissing
    · exact absurd (hlambdas n hawaited) hmissing

end Automation

/-! ## Runs -/

/-- A task that stays clear of the blocks of others whenever it goes on from now. -/
def Task.Clear (t : Task) (s : Session) : Prop := ∀ u, s.Follows u → (t.resume u).Clear u

namespace Schedule

variable {s : Session} {t : Task}

theorem mem_insert {u : Task} : u ∈ insert t ts ↔ u = t ∨ u ∈ ts := by
  induction ts with
  | nil => exact mem_cons
  | cons v ts ih =>
    unfold insert
    split
    · exact mem_cons
    · rw [mem_cons, ih, mem_cons]
      exact or_left_comm

theorem clear_insert (ht : t.Clear s) (hts : ∀ u ∈ ts, u.Clear s) :
    ∀ u ∈ insert t ts, u.Clear s := by
  intro u hu
  rcases mem_insert.mp hu with rfl | hu
  · exact ht
  · exact hts u hu

/-- How a run goes on, if it does: by a step that stays clear of all blocks, with tasks that do so
    too. -/
theorem runWithin_succ (hts : ∀ t ∈ ts, t.Clear s) :
    (∃ r s', s.Beside s' ∧ ∀ n, runWithin (n + 1) ts s = (r, s'))
    ∨ ∃ ts' s', s.Beside s' ∧ (∀ t ∈ ts', t.Clear s') ∧
        ∀ n, runWithin (n + 1) ts s = runWithin n ts' s' := by
  cases ts with
  | nil => exact .inl ⟨.ok (), s, .refl s, fun _ => rfl⟩
  | cons t ts =>
    obtain ⟨ht, hts⟩ := forall_mem_cons.mp hts
    have hlater : ∀ {s' : Session}, s.Beside s' → ∀ u ∈ ts, u.Clear s' := fun hs u hu v hv =>
      hts u hu v (hs.toFollows.trans hv)
    by_cases hstuck : (t :: ts).all (fun u => !u.ready s) = true
    · -- No task can go on, and the run ends.
      refine .inl ⟨.error stuck, s, .refl s, fun n => ?_⟩
      rw [runWithin, if_pos hstuck]
    by_cases hready : (!t.ready s) = true
    · -- The first task has to wait, and others come before it.
      refine .inr ⟨_, s, .refl s,
        clear_insert (t := { t with priority := t.priority - 1 }) ht hts, fun n => ?_⟩
      rw [runWithin, if_neg hstuck, if_pos hready]
    -- The first task goes on, to its end or to what it waits for next.
    have hbegun : s.Beside { s with source := t.source } := .of_same rfl rfl rfl rfl
    have hjob := ht { s with source := t.source } hbegun.toFollows
    cases hresume : t.resume { s with source := t.source } with
    | done r s' =>
      rw [hresume] at hjob
      have hs' := hbegun.trans hjob
      cases r with
      | ok _ =>
        refine .inr ⟨ts, s', hs', hlater hs', fun n => ?_⟩
        rw [runWithin, if_neg hstuck, if_neg hready, hresume]
      | error e =>
        refine .inl ⟨.error (reported e), s', hs', fun n => ?_⟩
        rw [runWithin, if_neg hstuck, if_neg hready, hresume]
    | waiting s' ready resume =>
      rw [hresume] at hjob
      have hs' := hbegun.trans hjob.1
      refine .inr ⟨_, s', hs', clear_insert (t := { t with
        priority := t.priority - 1, ready := ready, resume := resume, source := s'.source })
        hjob.2 (hlater hs'), fun n => ?_⟩
      rw [runWithin, if_neg hstuck, if_neg hready, hresume]

theorem runWithin_zero (ts : List Task) (s : Session) : (runWithin 0 ts s).2 = s := by
  cases ts <;> rfl

theorem beside_runWithin (n : Nat) (hts : ∀ t ∈ ts, t.Clear s) : s.Beside (runWithin n ts s).2 := by
  induction n generalizing ts s with
  | zero =>
    rw [runWithin_zero]
    exact .refl s
  | succ n ih =>
    rcases runWithin_succ hts with ⟨r, s', hs, hend⟩ | ⟨ts', s', hs, hts', hstep⟩
    · rw [hend n]
      exact hs
    · rw [hstep n]
      exact hs.trans (ih hts')

/-- Along a run of tasks that stay clear of each other's blocks, the current block stays the same
    between the steps, and no block changes once it is there. -/
theorem runWithin_beside (m k : Nat) (hts : ∀ t ∈ ts, t.Clear s) :
    (runWithin m ts s).2.Beside (runWithin (m + k) ts s).2 := by
  -- Both runs take the same first step, so the induction is on the shorter one.
  induction m generalizing ts s with
  | zero =>
    rw [runWithin_zero]
    exact beside_runWithin _ hts
  | succ m ih =>
    rw [Nat.succ_add]
    rcases runWithin_succ hts with ⟨r, s', -, hend⟩ | ⟨ts', s', -, hts', hstep⟩
    · rw [hend m, hend (m + k)]
      exact .refl s'
    · rw [hstep m, hstep (m + k)]
      exact ih hts'

end Schedule

end Panel
