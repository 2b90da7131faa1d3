import Mathlib.Data.List.Flatten
import Panel.Proofs.BlockBalance
import Panel.Proofs.Panels
import Panel.Proofs.WiringPlan

/-! # Wired automations — one trigger and one handler for each

    The work for all widgets carries out their plans one after the other.  A wiring makes a trigger
    under the name of its automation and adds one handler, which fires it.  A name can be taken only
    once, so no two wirings of a run that ends well share a trigger.  Widgets are known by the names
    of objects, so what the actions of one widget build takes no other widget's place. -/

namespace Panel

open Cpp List Code Build Job

variable {id : Ident} {s t : Session} {α : Type} {x : Wiring} {w : Widget}

/-! ## Frames as a habit -/

namespace Frame

variable {free : List String}

/-- A widget that is noted under a free name, or without a name. -/
theorem of_note (hs : s.Rooted) (hfree : ∀ key ∈ free, key ≠ "" → some key ∈ s.names)
    (hw : w.key = "" ∨ w.key ∈ free) :
    Frame free s { s with widgets := Widget.putAmong s.widgets w } := by
  have hput : Widget.putAmong s.widgets w = putBy (·.key) s.widgets w := w.putAmong_eq s.widgets
  refine ⟨?_, fun {i v} hv hkey hnot => ⟨v, ?_, by grind⟩, prefix_refl _,
    fun n => Nat.le_max_right _ _, fun v hv hkey => ?_⟩
  · show s.widgets.map (·.key) <+: (Widget.putAmong s.widgets w).map (·.key)
    rw [hput, keys_putBy]
    split
    · exact prefix_refl _
    · exact prefix_append _ _
  · have hne : v.key ≠ w.key := by grind
    show (Widget.putAmong s.widgets w)[i]? = some v
    rw [hput]
    exact getElem?_putBy _ hv hne
  · have hv : v ∈ putBy (·.key) s.widgets w := hput ▸ hv
    rcases mem_putBy _ hv with rfl | hv
    · exact hfree _ (hw.resolve_left hkey) hkey
    · exact hs v hv hkey

theorem of_change (hs : s.Rooted) {f : Widget → Widget} (key : String) (hf : ∀ w, (f w).Alike w) :
    Frame free s { s with widgets := s.widgets.map fun w => if w.key == key then f w else w } := by
  have hsame : ∀ w : Widget, (if w.key == key then f w else w).Alike w := by grind
  refine ⟨?_, fun {i v} hv _ _ => ⟨_, ?_, hsame v⟩, prefix_refl _, fun n => Nat.le_max_right _ _,
    fun v hv hkey => ?_⟩
  · show s.keys <+: (s.widgets.map _).map _
    rw [map_map, show s.keys = s.widgets.map _ from map_congr_left fun w _ => (hsame w).1.1.symm]
    exact prefix_refl _
  · show (s.widgets.map _)[i]? = _
    rw [getElem?_map, hv]
    rfl
  · obtain ⟨w, hw, rfl⟩ := mem_map.mp hv
    rw [(hsame w).1.1] at hkey ⊢
    exact hs w hw hkey

end Frame

/-- Work that keeps the frame of a session in which every name is that of an object. -/
@[reducible]
def Habit.framed (free : List String) : Habit :=
  .beside (Frame []) (fun s t => s.Rooted → (∀ key ∈ free, key ≠ "" → some key ∈ s.names) →
      Frame free s t) (fun h _ _ => h.mono (nil_subset _))
    (fun hst htu hs hfree => (hst hs hfree).trans (htu (hst hs hfree).rooted fun key hkey hne =>
      (hst hs hfree).mem_names (hfree key hkey hne)))
    (fun hobjects hwidgets _ hs _ => .of_eq hs hwidgets hobjects) fun e h hs _ => register_frame e hs h

def Quietness.framed : Quietness where
  of := Habit.framed
  amid h := h
  mono hsub h hs hfree := (h hs fun key hkey => hfree key (hsub hkey)).mono hsub
  allows _ := trivial
  made {free s t u id} hst hid htu hs hfree := by
    have hframe := hst hs hfree
    have hrest := htu hframe.rooted fun key hkey hne => by
      rcases mem_cons.mp hkey with rfl | hkey
      · exact Ident.name_eq_of_text hne ▸ hid.there
      · exact hframe.mem_names (hfree key hkey hne)
    refine ⟨hframe.keys.trans hrest.keys, fun {i w} hw hkey hnot => ?_,
      hframe.names.trans hrest.names, fun n => ?_, hrest.rooted⟩
    · obtain ⟨v, hv, halike⟩ := hframe.widgets hw hkey hnot
      -- The name of the new variable was free, so no widget had it.
      have hnew : w.key ≠ id.text := fun heq =>
        hid.new (Ident.name_eq_of_text (heq ▸ hkey) ▸ heq ▸ hs w (mem_of_getElem? hw) hkey)
      obtain ⟨v', hv', halike'⟩ := hrest.widgets hv (by grind) (by grind)
      exact ⟨v', hv', by grind⟩
    · exact (hrest.once n).trans (Nat.max_le.mpr ⟨Nat.le_max_left _ _, hframe.once n⟩)

instance : Quietness.framed.Total where
  allows _ _ := trivial
  change key _ hf hs _ := .of_change hs key hf
  note hw _ hs hfree := .of_note hs hfree (hw.imp_right And.left)
  themes _ _ hs _ := .of_eq hs rfl rfl

theorem Job.Ends.runs {j : Job α} {post : Session → Prop} {r : Except Failure α}
    (h : j.Ends (Frame []) fun _ t => post t) (hrun : j.Runs r t) : post t := by
  induction hrun with
  | done r t => exact h
  | resumed hframe hready _ ih => exact ih (h _ hframe hready)

theorem Build.Heeds.frame {b : Build α} {r : Except Failure α}
    (h : b.Heeds (Quietness.framed.of [])) (hs : s.Rooted) (hrun : (b s).Runs r t) : Frame [] s t :=
  (h.ends s).runs hrun hs nofun

namespace Automation

/-! ## One wiring -/

/-- A session with a trigger that was not known before: declared, made and registered. -/
def withTrigger (id : Ident) (s : Session) : Session :=
  { s with
    globals := s.globals ++ [.item (.expr (.declare id.typeText "*" id.text))]
    main := s.main ++ [.item (.expr (.assign (.raw id.text)
      (.object (.call (.raw ("new " ++ id.typeText)) [] []) .arrow)))]
    objects := s.objects ++ [⟨id, Expr.pointer id.text⟩] }

theorem newObject_on_iff {e : Expr} :
    (newObject id []).on s = (.ok e, t) ↔
      id.name ∉ s.names ∧ e = Expr.pointer id.text ∧ t = withTrigger id s := by
  let declared : Session := { withTrigger id s with objects := s.objects }
  have hnew : (newObject id []).on s = (do
      register id (Expr.pointer id.text)
      return Expr.pointer id.text : Check Expr).on declared := rfl
  by_cases h : id.name ∈ s.names
  · have htaken := register_taken (s := declared) (Expr.pointer id.text) h
    rw [hnew, Check.on_bind_error _ htaken]
    simp [h]
  · have hfree := register_free (s := declared) (Expr.pointer id.text) h
    rw [hnew, Check.on_bind_ok _ hfree]
    show (_, _) = (_, _) ↔ _
    rw [Prod.mk.injEq, Except.ok.injEq, eq_comm, eq_comm (b := t)]
    exact ⟨fun ⟨he, ht⟩ => ⟨h, he, ht⟩, fun ⟨_, he, ht⟩ => ⟨he, ht⟩⟩

theorem identAt_on_iff {v : Value} {key : String} :
    (identAt v key).on s = (.ok id, t) ↔ v.get? key = some (.ident id) ∧ t = s := by
  constructor
  · intro h
    obtain ⟨x, u, hx, hid⟩ := Check.on_bind_eq_ok h
    obtain ⟨hv, rfl⟩ := required_on_iff.mp hx
    unfold identOf at hid
    split at hid
    · obtain ⟨hok, hs⟩ := Prod.mk.inj hid
      obtain rfl := Except.ok.inj hok
      exact ⟨hv, hs.symm⟩
    · cases hid
  · rintro ⟨hv, rfl⟩
    rw [identAt, required_eq hv]
    rfl

def firing (call : Expr) : Option Expr → List Stmt
  | none => [.indented 0 (.expr call)]
  | some c =>
    [.indented 0 (.raw ("if (" ++ c.render ++ ") \x7b")), .indented 1 (.expr call),
      .indented 0 (.raw "\x7d")]

def firingBlock (call : Expr) (selected : Option Expr) (previous : Option Nat) : Context :=
  { Code.Context.fresh .lambda [Code.eventParam] (some void) "" with
    previous := previous
    code := firing call selected }

def firingText (call : Expr) (selected : Option Expr) : String :=
  String.intercalate "\n" (Code.Context.lines (firingBlock call selected none)) ++ "\n"

def writeFiring (call : Expr) : Option Expr → Context → Context
  | none => Code.withLine 0 0 (.expr call)
  | some c =>
    Code.withLine (-1) 0 (.raw "\x7d") ∘ Code.withLine 0 0 (.expr call)
      ∘ Code.withLine 0 1 (.raw ("if (" ++ c.render ++ ") \x7b"))

theorem guardedBy_add {k : Nat} (hs : Code.InLambda s k) (call : Expr) (selected : Option Expr) :
    guardedBy selected (ofCheck (add call)) s
      = .done (.ok ()) (modifyContext (writeFiring call selected) s) := by
  cases selected with
  | none => exact ofCheck_eq (addItem_on hs _)
  | some c =>
    have hopened := hs.modify (withLine 0 1 (.raw ("if (" ++ c.render ++ ") \x7b"))) fun _ => rfl
    have hcalled := hopened.modify (withLine 0 0 (.expr call)) fun _ => rfl
    have hopen := ofCheck_eq (lineThenShift_on hs ("if (" ++ c.render ++ ") \x7b"))
    have hcall := ofCheck_eq (addItem_on hopened (.expr call))
    have hclose := ofCheck_eq (closeScope_on hcalled)
    rw [writeFiring, ← modifyContext_modifyContext hs.1, Function.comp_def,
      ← Function.comp_def, ← modifyContext_modifyContext hs.1]
    exact (bind_ok _ hopen).trans (andFinally_eq hcall hclose)

def withBlock (b : Context) (s : Session) : Session :=
  { s with contexts := s.contexts ++ [b] }

theorem modify_concat (xs : List α) (x : α) (f : α → α) :
    (xs ++ [x]).modify xs.length f = xs ++ [f x] := by
  induction xs with
  | nil => rfl
  | cons y ys ih => simp [ih]

theorem fireTrigger_eq (trigger : Expr) (args : List Expr) (selected : Option Expr) (s : Session) :
    fireTrigger trigger args selected s
      = closure (firingText (trigger.method "trigger" args) selected) [eventParam] ""
          (some void)
          (withBlock (firingBlock (trigger.method "trigger" args) selected s.current) s) := by
  let c : Context := Code.Context.fresh .lambda [eventParam] (some void) ""
  let call := trigger.method "trigger" args
  let block := firingBlock call selected s.current
  -- The block is named by its place, the length before it was added: nothing else is added.
  have hblock : writeFiring call selected { c with previous := s.current } = block := by
    cases selected <;> rfl
  have hwritten : modifyContext (writeFiring call selected) (entered c s)
      = { entered c s with contexts := s.contexts ++ [block] } := by
    rw [modifyContext_eq rfl, ← hblock, ← modify_concat]
    rfl
  have hwork := guardedBy_add (inLambda_entered (c := c) s rfl) call selected
  rw [hwritten] at hwork
  have hreturn : (do
      guardedBy selected (ofCheck (add call))
      return s.contexts.length : Build Nat) (entered c s)
        = .done (.ok s.contexts.length)
          { entered c s with contexts := s.contexts ++ [block] } := bind_ok _ hwork
  have hdone : inBlock c (fun i => do
      guardedBy selected (ofCheck (add call))
      return i) s = .done (.ok s.contexts.length) (withBlock block s) := by
    refine (inBlock_eq hreturn).trans ?_
    dsimp only
    rw [getElem?_concat_length]
    rfl
  have hcontext : ofCheck (context s.contexts.length) (withBlock block s)
      = .done (.ok block) (withBlock block s) := by
    refine ofCheck_eq ?_
    rw [context, Check.on_bind_ok _ (Check.on_get _)]
    dsimp only [withBlock]
    rw [getElem?_concat_length]
    rfl
  refine (bind_ok _ hdone).trans ((bind_ok _ hcontext).trans ?_)
  rfl

def callback (obj : Expr) (handler : Closure) (c : Occasion) : Expr :=
  .call (.raw "LvglComponent::add_event_cb") []
    (obj :: .closure handler :: c.names.map Expr.named)

theorem onEvents_eq (obj : Expr) (handler : Closure) (c : Occasion) :
    onEvents obj handler (c.names.map .literal) = add (callback obj handler c) := by
  cases c <;> rfl

/-- From one session to another an automation is wired: the widget is made to notice the occasion,
    a trigger is made under a name that was free, the automation is built for it, and one handler is
    added, which fires the trigger and does nothing else. -/
def Wired (g : Generator) (w : Widget) (x : Wiring) (s t : Session) : Prop :=
  ∃ id values obj handler s₁ s₂ s₃ u,
    (x.occasion.prepare w s).Runs (.ok ()) s₁ ∧
    x.triggerId? = some id ∧ id.name ∉ s₁.names ∧
    w.values.on (withTrigger id s₁) = (.ok values, s₂) ∧
    (generate g (Expr.pointer id.text) (w.kind.traits.params ++ [⟨eventPointer, "event"⟩])
      x.automation s₂).Runs (.ok obj) s₃ ∧
    (let call := (Expr.pointer id.text).method "trigger" (values ++ [.raw "event"])
     let selected := x.occasion.condition.orElse fun _ => w.isSelected?
     (Code.closure (firingText call selected) [Code.eventParam] "" (some void)
      (withBlock (firingBlock call selected s₃.current) s₃)).Runs (.ok handler) u) ∧
    (Code.add (callback w.obj handler x.occasion)).on u = (.ok (), t)

theorem triggerId?_eq_some_iff :
    x.triggerId? = some id ↔ x.automation.get? "trigger_id" = some (.ident id) := by
  unfold Wiring.triggerId?
  split
  · next h => simp [h]
  · next h => exact ⟨nofun, fun hid => (h id hid).elim⟩

theorem wire_runs_iff {g : Generator} : (wire g w x s).Runs (.ok ()) t ↔ Wired g w x s t := by
  constructor
  · intro h
    obtain ⟨_, s₁, hprepare, hadd⟩ := runs_bind_ok.mp h
    obtain ⟨id, s', hrun, hnew⟩ := runs_bind_ok.mp hadd
    obtain ⟨hid, hs'⟩ := identAt_on_iff.mp (runs_ofCheck.mp hrun)
    subst hs'
    obtain ⟨var, s₂, hrun, hvalues⟩ := runs_bind_ok.mp hnew
    obtain ⟨hfree, hvar, hs₂⟩ := newObject_on_iff.mp (runs_ofCheck.mp hrun)
    subst hvar hs₂
    obtain ⟨values, s₂, hvalues, hgenerate⟩ := runs_bind_ok.mp hvalues
    obtain ⟨obj, s₃, hgenerate, hfire⟩ := runs_bind_ok.mp hgenerate
    obtain ⟨handler, u, hfire, hhandle⟩ := runs_bind_ok.mp hfire
    rw [fireTrigger_eq] at hfire
    rw [onEvents_eq] at hhandle
    exact ⟨id, values, obj, handler, _, s₂, s₃, u, hprepare, triggerId?_eq_some_iff.mpr hid, hfree,
      runs_ofCheck.mp hvalues, hgenerate, hfire, runs_ofCheck.mp hhandle⟩
  · rintro ⟨id, values, obj, handler, s₁, s₂, s₃, u, hprepare, hid, hfree, hvalues, hgenerate,
      hfire, hhandle⟩
    have hident := (identAt_on_iff (s := s₁)).mpr ⟨triggerId?_eq_some_iff.mp hid, rfl⟩
    have hnew := newObject_on_iff.mpr ⟨hfree, rfl, rfl⟩
    dsimp only at hfire
    rw [← fireTrigger_eq] at hfire
    rw [← onEvents_eq] at hhandle
    refine runs_bind_ok.mpr ⟨(), s₁, hprepare, ?_⟩
    refine runs_bind_ok.mpr ⟨id, s₁, runs_ofCheck.mpr hident, ?_⟩
    refine runs_bind_ok.mpr ⟨_, _, runs_ofCheck.mpr hnew, ?_⟩
    refine runs_bind_ok.mpr ⟨values, s₂, runs_ofCheck.mpr hvalues, ?_⟩
    refine runs_bind_ok.mpr ⟨obj, s₃, hgenerate, ?_⟩
    exact runs_bind_ok.mpr ⟨handler, u, hfire, runs_ofCheck.mpr hhandle⟩

/-! ## The work for all widgets -/

/-- The widgets from a place on, each as it is when its turn comes: its plan is carried out, which
    takes one session to the next. -/
inductive Tour (g : Generator) : Nat → List Widget → Session → Session → Prop
  | nil (i : Nat) (s : Session) : Tour g i [] s s
  | cons {i : Nat} {w : Widget} {ws : List Widget} {s u t : Session} (hw : s.widgets[i]? = some w)
      (hfilled : ∀ es, w.wired? = some es → Filled es) (hrun : (wireAll g w s).Runs (.ok ()) u)
      (hrest : Tour g (i + 1) ws u t) : Tour g i (w :: ws) s t

section Runs

variable {g : Generator} {xs : List Wiring} {ids : List Ident} {ws : List Widget} {i : Nat}

theorem prepare_framed (w : Widget) (c : Occasion) :
    (c.prepare w).Heeds (Quietness.framed.of []) := by
  cases c with
  | event name => exact .first (w.addFlag_quiet _) fun _ => .of_pure _
  | gesture direction => exact .first (w.clearFlag_quiet _) fun _ => .of_pure _
  | value => exact .of_pure _

variable (hg : ∀ v params, (g.actions v params).Heeds (Quietness.framed.of []))

include hg

theorem wire_framed (w : Widget) (x : Wiring) : (wire g w x).Heeds (Quietness.framed.of []) :=
  .bind (prepare_framed w _) fun _ => addTrigger_quiet (fun v params _ => hg v params) w _ _

theorem settle_framed (w : Widget) : (settle g w).Heeds (Quietness.framed.of []) := by
  unfold settle
  split
  · refine .bind (bootTriggers_quiet fun _ _ v params _ => hg v params) fun _ => ?_
    split
    · exact .of_lift (applyAlignment_quiet w _)
    · exact .of_pure _
  · exact .of_pure _

theorem wireAll_framed (w : Widget) : (wireAll g w).Heeds (Quietness.framed.of []) :=
  .bind (.forM fun x _ => wire_framed hg w x) fun _ => settle_framed hg w

theorem Tour.frame (h : Tour g i ws s t) (hs : s.Rooted) : Frame [] s t := by
  induction h with
  | nil i s => exact .refl hs
  | cons _ _ hrun _ ih =>
    have hframe := (wireAll_framed hg _).frame hs hrun
    exact hframe.trans (ih hframe.rooted)

/-- Where a widget with a name was at first, it is found when its turn comes, with its options. -/
theorem Tour.alike (h : Tour g i ws s t) (hs : s.Rooted) {j : Nat} {v : Widget}
    (hv : ws[j]? = some v) (hw : s.widgets[i + j]? = some w) (hkey : w.key ≠ "") : v.Alike w := by
  induction h generalizing j w with
  | nil i s => cases hv
  | @cons i w₀ ws s u t hw₀ _ hrun _ ih =>
    cases j with
    | zero =>
      obtain rfl := Option.some.inj hv
      obtain rfl := Option.some.inj (hw₀.symm.trans hw)
      grind
    | succ j =>
      have hframe := (wireAll_framed hg _).frame hs hrun
      obtain ⟨w', hw', halike⟩ := hframe.widgets hw hkey not_mem_nil
      rw [show i + (j + 1) = i + 1 + j by omega] at hw'
      have halike' := ih hframe.rooted hv hw' (by grind)
      grind

/-- Each widget has its turn once, in the order in which they joined. -/
theorem Tour.keys (h : Tour g i ws s t) (hs : s.Rooted) (hlength : i + ws.length ≤ s.keys.length) :
    ws.map (·.key) = (s.keys.drop i).take ws.length := by
  induction h with
  | nil i s => rfl
  | @cons i w ws s u t hw _ hrun hrest ih =>
    have hframe := (wireAll_framed hg _).frame hs hrun
    obtain ⟨more, hmore⟩ := hframe.keys
    have hkey : s.keys[i]? = some w.key := by
      rw [Session.keys, getElem?_map, hw]
      rfl
    obtain ⟨hi, hget⟩ := List.getElem?_eq_some_iff.mp hkey
    rw [length_cons] at hlength
    have hdrop : ws.length ≤ (s.keys.drop (i + 1)).length := by
      rw [length_drop]
      omega
    rw [map_cons, ih hframe.rooted (by rw [← hmore, length_append]; omega), ← hmore,
      drop_append_of_le_length (by omega), take_append_of_le_length hdrop, length_cons,
      drop_eq_getElem_cons hi, take_succ_cons, hget]

omit hg in
theorem triggersFrom_succ {count n i : Nat} (hw : s.widgets[i]? = some w) :
    triggersFrom g count (n + 1) i s = (widgetTriggers g w s).bind fun _ u =>
          if u.widgets.length != count then
            .done (.error (.rejected "dictionary changed size during iteration")) u
          else triggersFrom g count n (i + 1) u := by
  rw [triggersFrom, bind_ok _ (rfl : (get : Build Session) s = .done (.ok s) s), hw]
  show (widgetTriggers g w s).bind _ = _
  congr 1
  funext a u
  show (if (u.widgets.length != count) = true then _ else _ : Build Unit) u = _
  split <;> rfl

/-- A round of turns in which no widget joins is part of the work for all. -/
theorem Tour.triggersFrom {n : Nat} {u : Session} {r : Except Failure Unit} (h : Tour g i ws s u)
    (hs : s.Rooted) (hcount : u.widgets.length = s.widgets.length)
    (hrest : (triggersFrom g s.widgets.length n (i + ws.length) u).Runs r t) :
    (triggersFrom g s.widgets.length (ws.length + n) i s).Runs r t := by
  induction h with
  | nil i s => rwa [length_nil, Nat.zero_add]
  | @cons i w ws s v u hw hfilled hrun htour ih =>
    have hframe := (wireAll_framed hg _).frame hs hrun
    -- A widget that has joined stays.
    have hjoined : v.widgets.length = s.widgets.length :=
      Nat.le_antisymm (hcount ▸ (htour.frame hg hframe.rooted).length_widgets) hframe.length_widgets
    rw [length_cons, Nat.add_right_comm, triggersFrom_succ hw]
    refine .bind_ok ((widgetTriggers_runs_iff g _).mpr ⟨hfilled, hrun⟩) ?_
    rw [hjoined, bne_self_eq_false, if_neg Bool.false_ne_true]
    rw [length_cons, Nat.add_comm ws.length, ← Nat.add_assoc] at hrest
    rw [← hjoined] at hcount hrest ⊢
    exact ih hframe.rooted hcount hrest

theorem triggersFrom_runs_iff (n : Nat) : ∀ {i : Nat} {s t : Session}, s.Rooted →
    i + n = s.widgets.length → ((triggersFrom g s.widgets.length n i s).Runs (.ok ()) t ↔
      ∃ ws, ws.length = n ∧ Tour g i ws s t ∧ t.widgets.length = s.widgets.length) := by
  intro i s t hs hi
  constructor
  · induction n generalizing i s with
    | zero =>
      intro h
      obtain ⟨-, rfl⟩ := runs_done.mp h
      exact ⟨[], rfl, .nil i s, rfl⟩
    | succ n ih =>
      intro h
      have hw : s.widgets[i]? = some _ := getElem?_eq_getElem (by omega : i < s.widgets.length)
      rw [triggersFrom_succ hw] at h
      obtain ⟨_, u, hwidget, hrest⟩ := runs_bind_ok.mp h
      obtain ⟨hfilled, hrun⟩ := (widgetTriggers_runs_iff g _).mp hwidget
      by_cases hcount : u.widgets.length = s.widgets.length
      · rw [hcount, bne_self_eq_false, if_neg Bool.false_ne_true, ← hcount] at hrest
        have hrooted := ((wireAll_framed hg _).frame hs hrun).rooted
        obtain ⟨ws, hws, htour, ht⟩ := ih hrooted (by omega) hrest
        exact ⟨_ :: ws, by rw [length_cons, hws], .cons hw hfilled hrun htour, ht.trans hcount⟩
      · rw [if_pos (bne_iff_ne.mpr hcount)] at hrest
        exact nomatch (runs_done.mp hrest).1
  · rintro ⟨ws, rfl, htour, ht⟩
    exact htour.triggersFrom hg (n := 0) hs ht (.done _ _)

def withSource (name : String) (s : Session) : Session := { s with source := name }

omit hg in
theorem withSource_frame (name : String) (hs : s.Rooted) : Frame [] s (withSource name s) :=
  .of_eq hs rfl rfl

omit hg in
theorem fromModule_runs_iff {name : String} {work : Build Unit} :
    (fromModule name work s).Runs (.ok ()) t ↔
      ∃ u, (work (withSource name s)).Runs (.ok ()) u ∧ t = withSource s.source u := by
  have hwork : fromModule name work s = (work (withSource name s)).bind
      fun a u => .done (.ok a) (withSource s.source u) := rfl
  rw [hwork, runs_bind_ok]
  constructor
  · rintro ⟨_, u, hu, ht⟩
    exact ⟨u, hu, (runs_done.mp ht).2.symm⟩
  · rintro ⟨u, hu, rfl⟩
    exact ⟨(), u, hu, .done _ _⟩

theorem generateTriggers_runs_iff (hs : s.Rooted) : (generateTriggers g s).Runs (.ok ()) t ↔
    ∃ ws u, ws.length = s.widgets.length ∧ Tour g 0 ws (withSource "lvgl.trigger" s) u
      ∧ t = withSource s.source u ∧ t.widgets.length = s.widgets.length := by
  have hgenerate : generateTriggers g s = fromModule "lvgl.trigger"
      (triggersFrom g s.widgets.length s.widgets.length 0) s := rfl
  have hruns : ∀ u, (triggersFrom g s.widgets.length s.widgets.length 0
      (withSource "lvgl.trigger" s)).Runs (.ok ()) u ↔ _ := fun u =>
    triggersFrom_runs_iff hg s.widgets.length (s := withSource "lvgl.trigger" s) hs (Nat.zero_add _)
  rw [hgenerate, fromModule_runs_iff]
  constructor
  · rintro ⟨u, hu, rfl⟩
    obtain ⟨ws, hws, htour, hlength⟩ := (hruns u).mp hu
    exact ⟨ws, u, hws, htour, rfl, hlength⟩
  · rintro ⟨ws, u, hws, htour, rfl, hlength⟩
    exact ⟨u, (hruns u).mpr ⟨ws, hws, htour, hlength⟩, rfl⟩

/-! ## Names -/

omit hg

/-- From one session to another, wirings take names that were free, each one of its own. -/
structure Claimed (xs : List Wiring) (ids : List Ident) (s t : Session) : Prop where
  frame : Frame [] s t
  named : xs.map Wiring.triggerId? = ids.map some
  apart : (ids.map (·.name)).Nodup
  free : ∀ id ∈ ids, id.name ∉ s.names
  taken : ∀ id ∈ ids, id.name ∈ t.names

theorem Claimed.of_frame (h : Frame [] s t) : Claimed [] [] s t :=
  ⟨h, rfl, .nil, nofun, nofun⟩

theorem Claimed.append {ys : List Wiring} {jds : List Ident} {u : Session}
    (hxs : Claimed xs ids s t) (hys : Claimed ys jds t u) :
    Claimed (xs ++ ys) (ids ++ jds) s u where
  frame := hxs.frame.trans hys.frame
  named := by rw [map_append, map_append, hxs.named, hys.named]
  apart := by
    rw [map_append, nodup_append]
    refine ⟨hxs.apart, hys.apart, ?_⟩
    intro n hn m hm
    obtain ⟨id, hid, rfl⟩ := mem_map.mp hn
    obtain ⟨jd, hjd, rfl⟩ := mem_map.mp hm
    exact fun heq => hys.free jd hjd (heq ▸ hxs.taken id hid)
  free id hid hs := by
    rcases mem_append.mp hid with hid | hid
    · exact hxs.free id hid hs
    · exact hys.free id hid (hxs.frame.mem_names hs)
  taken id hid := by
    rcases mem_append.mp hid with hid | hid
    · exact hys.frame.mem_names (hxs.taken id hid)
    · exact hys.taken id hid

theorem Claimed.count (h : Claimed xs ids s t) (hid : id ∈ ids) : t.names.count id.name = 1 := by
  have hle := h.frame.once id.name
  rw [count_eq_zero.mpr (h.free id hid)] at hle
  exact Nat.le_antisymm hle (count_pos_iff.mpr (h.taken id hid))

/-- The triggers of different widgets are different. -/
theorem Claimed.automation_ne (h : Claimed (ws.flatMap plan) ids s t) {i j : Nat} {v w : Widget}
    {x y : Wiring} (hij : i < j) (hv : ws[i]? = some v) (hw : ws[j]? = some w) (hx : x ∈ plan v)
    (hy : y ∈ plan w) : x.automation ≠ y.automation := by
  have hids : (ids.map some).Nodup :=
    (List.Nodup.of_map (·.name) h.apart).map fun _ _ heq => Option.some.inj heq
  rw [← h.named, map_flatMap, nodup_flatMap] at hids
  obtain ⟨hi, rfl⟩ := List.getElem?_eq_some_iff.mp hv
  obtain ⟨hj, rfl⟩ := List.getElem?_eq_some_iff.mp hw
  have hdisjoint := pairwise_iff_getElem.mp hids.2 i j hi hj hij
  intro heq
  refine hdisjoint (mem_map_of_mem hx) (?_ : x.triggerId? ∈ _)
  rw [show x.triggerId? = y.triggerId? by rw [Wiring.triggerId?, Wiring.triggerId?, heq]]
  exact mem_map_of_mem hy

include hg

theorem wire_claimed (hs : s.Rooted) (h : (wire g w x s).Runs (.ok ()) t) :
    ∃ ids, Claimed [x] ids s t := by
  have hframe := (wire_framed hg w x).frame hs h
  obtain ⟨_, s₁, hprepare, hadd⟩ := runs_bind_ok.mp h
  obtain ⟨id, u, hrun, hnew⟩ := runs_bind_ok.mp hadd
  obtain ⟨hid, hu⟩ := identAt_on_iff.mp (runs_ofCheck.mp hrun)
  subst hu
  obtain ⟨_, _, hmake, hrest⟩ := runs_bind_ok.mp hnew
  have hs₁ := (prepare_framed w x.occasion).frame hs hprepare
  have hmade := (Build.Heeds.of_lift (newObject_keeps id [])).frame hs₁.rooted hmake
  obtain ⟨hfree, -, rfl⟩ := newObject_on_iff.mp (runs_ofCheck.mp hmake)
  have ht := Build.Heeds.frame (.ask w.values_still fun _ =>
    .bind (generate_quiet (fun v params _ => hg v params) _ _) fun _ =>
      .bind (fireTrigger_quiet _ _ _) fun _ => .of_lift (onEvents_quiet _ _ _)) hmade.rooted hrest
  have hmem : id.name ∈ (withTrigger id u).names :=
    mem_map.mpr ⟨⟨id, Expr.pointer id.text⟩, mem_append_right _ mem_cons_self, rfl⟩
  -- The name was free in the middle of the run: frames carry this back to its start, and that it
  -- is taken on to its end.
  refine ⟨[id], hframe, congrArg (fun n => [n]) (triggerId?_eq_some_iff.mpr hid),
    nodup_singleton _, ?_, ?_⟩
  · intro jd hjd hjs
    obtain rfl := mem_singleton.mp hjd
    exact hfree (hs₁.mem_names hjs)
  · intro jd hjd
    obtain rfl := mem_singleton.mp hjd
    exact ht.mem_names hmem

theorem forM_wire_claimed (hs : s.Rooted) (h : (forM xs (wire g w) s).Runs (.ok ()) t) :
    ∃ ids, Claimed xs ids s t := by
  induction xs generalizing s with
  | nil =>
    obtain ⟨-, rfl⟩ := runs_done.mp h
    exact ⟨[], .of_frame (.refl hs)⟩
  | cons x xs ih =>
    rw [forM_cons] at h
    obtain ⟨_, u, hfirst, hrest⟩ := runs_bind_ok.mp h
    obtain ⟨ids, hids⟩ := wire_claimed hg hs hfirst
    obtain ⟨jds, hjds⟩ := ih hids.frame.rooted hrest
    exact ⟨ids ++ jds, hids.append hjds⟩

theorem wireAll_claimed (hs : s.Rooted) (h : (wireAll g w s).Runs (.ok ()) t) :
    ∃ ids, Claimed (plan w) ids s t := by
  obtain ⟨_, u, hwired, hsettled⟩ := runs_bind_ok.mp h
  obtain ⟨ids, hids⟩ := forM_wire_claimed hg hs hwired
  have hrest := Claimed.of_frame ((settle_framed hg w).frame hids.frame.rooted hsettled)
  have hall := hids.append hrest
  rw [append_nil, append_nil] at hall
  exact ⟨ids, hall⟩

theorem Tour.claimed (h : Tour g i ws s t) (hs : s.Rooted) :
    ∃ ids, Claimed (ws.flatMap plan) ids s t := by
  induction h with
  | nil i s => exact ⟨[], .of_frame (.refl hs)⟩
  | cons _ _ hrun _ ih =>
    obtain ⟨ids, hids⟩ := wireAll_claimed hg hs hrun
    obtain ⟨jds, hjds⟩ := ih hids.frame.rooted
    exact ⟨ids ++ jds, hids.append hjds⟩

theorem generateTriggers_claimed (hs : s.Rooted) {u : Session}
    (h : Tour g 0 ws (withSource "lvgl.trigger" s) u) :
    ∃ ids, Claimed (ws.flatMap plan) ids s (withSource s.source u) := by
  have hstart := withSource_frame "lvgl.trigger" hs
  obtain ⟨ids, hids⟩ := h.claimed hg hstart.rooted
  have hall := ((Claimed.of_frame hstart).append hids).append
    (.of_frame (withSource_frame s.source hids.frame.rooted))
  rw [nil_append, nil_append, append_nil, append_nil] at hall
  exact ⟨ids, hall⟩

end Runs

/-! ## Where widgets come from -/

theorem createPanel_framed {g : Generator} (hg : g.Steady Quietness.framed) (group : Expr)
    (config : Value) : (Component.createPanel g group config).Heeds (Quietness.framed.of []) := by
  have hdefine : ∀ name value, (defineMacro name value).Heeds (Quietness.framed.of []) := by
    intro name value
    refine ⟨fun s hs _ => .of_eq hs ?_ ?_⟩ <;>
    · unfold defineMacro
      rw [Check.on_bind_ok _ (Check.on_get s)]
      repeat' split
      all_goals rfl
  have hgradients : (Style.applyGradients config).Heeds (Quietness.framed.of []) := by
    unfold Style.applyGradients
    refine .perhaps (.of_lift (warn_open _)) ?_
    exact (Style.createGradients_provides 2 _).used fun _ _ => .of_lift (hdefine _ _)
  refine .bind (Component.createComponent_quiet _) fun panel => inBlock_keeps rfl fun _ => ?_
  refine .required fun _ => .first (addToMain_keeps trivial) fun _ => ?_
  refine .bind (Input.forList_quiet (Input.createTouchListener_quiet _) _ _) fun _ => ?_
  refine .bind (Input.forList_quiet (Input.createEncoder_quiet _ _) _ _) fun _ => ?_
  refine .bind (Input.forList_quiet (Input.createKeypad_quiet _ _) _ _) fun _ => ?_
  refine .bind (Style.applyTheme_quiet _) fun _ => .bind hgradients fun _ => ?_
  refine .bind (Style.createAll_quiet _) fun _ => .bind (Widget.applyCommon_quiet _) fun _ => ?_
  refine .bind (Widget.addChildren_quiet hg.widget _) fun _ => ?_
  refine .bind (Component.createPages_quiet hg _ _) fun _ => ?_
  refine .bind (applyLayers_quiet hg _ _) fun _ => .bind (applyBackground_quiet hg _ _) fun _ => ?_
  exact Kinds.createMessageBoxes_quiet hg _ _

/-- Building panels, with all that is inside them, comes only to sessions in which every name of
    a widget is that of an object.  From such a session on, generating the triggers of all
    widgets ends well just if it carries out the plan of each, one after the other in the order
    in which they joined, and none joins meanwhile.  A widget that has a name has the options
    then that it had at first.  Of an option for events or gestures only the first automation is
    planned, of one for values all are, and nothing is for the screen or for a widget that is
    recorded without options.  Each wiring makes one trigger, under the name of its automation,
    and adds one handler, which fires it.  By the end every trigger is known once, under a name
    that was free before and that no other wiring has; so it does not end well if two widgets
    are recorded with one automation in the plans of both. -/
theorem generateTriggers_wires_plans (n : Nat) {s : Session} (hs : s.Rooted) :
    (∀ group configs s₀ r t, s₀.Rooted → (Kinds.forItems
      (Component.createPanel (Generator.ofDepth n) group) configs s₀).Runs r t → t.Rooted) ∧
    (∀ option, (Occasion.of? option).isSome = true ↔
      option ∈ Constants.eventOptions ++ Constants.swipeOptions ++ ["on_value"]) ∧
    (∀ w : Widget, (∀ es, w.config = .dict es → (es.map (·.1)).Nodup) →
      ((plan w).map Wiring.place).Nodup ∧ ∀ x, x ∈ plan w ↔
        w.kind ≠ .screen ∧ (∃ es, w.config = .dict es ∧ x.ListedIn es)
          ∧ (x.occasion = .value ∨ x.position = 0)) ∧
    (∀ t, (generateTriggers (Generator.ofDepth n) s).Runs (.ok ()) t ↔ ∃ ws u,
      ws.length = s.widgets.length ∧ Tour (Generator.ofDepth n) 0 ws (withSource "lvgl.trigger" s) u
        ∧ t = withSource s.source u ∧ t.widgets.length = s.widgets.length) ∧
    (∀ w x u t, (wire (Generator.ofDepth n) w x u).Runs (.ok ()) t
      ↔ Wired (Generator.ofDepth n) w x u t) ∧
    (∀ ws u, Tour (Generator.ofDepth n) 0 ws (withSource "lvgl.trigger" s) u →
      (∀ (i : Nat) v w, ws[i]? = some v → s.widgets[i]? = some w → w.key ≠ "" →
        v.Alike w ∧ plan v = plan w) ∧
      ∃ ids : List Ident, (ws.flatMap plan).map Wiring.triggerId? = ids.map some
        ∧ (ids.map (·.name)).Nodup ∧ ∀ id ∈ ids, id.name ∉ s.names ∧ u.names.count id.name = 1) ∧
    (∀ (i j : Nat) v w x y, i < j → s.widgets[i]? = some v → s.widgets[j]? = some w → v.key ≠ "" →
      w.key ≠ "" → x ∈ plan v → y ∈ plan w → x.automation = y.automation →
      ∀ t, ¬ (generateTriggers (Generator.ofDepth n) s).Runs (.ok ()) t) := by
  have hg : (Generator.ofDepth n).Steady Quietness.framed := Generator.steady_ofDepth n
  have hstart := withSource_frame "lvgl.trigger" hs
  refine ⟨fun group configs s₀ r t hs₀ hrun => ?_, fun _ => of?_isSome_iff,
    fun w hkeys => ⟨plan_nodup hkeys, fun x => mem_plan hkeys⟩,
    fun t => generateTriggers_runs_iff hg.actions hs, fun w x u t => wire_runs_iff,
    fun ws u htour => ⟨fun i v w hv hw hkey => ?_, ?_⟩, ?_⟩
  · exact (Build.Heeds.frame (.forItems fun config _ => createPanel_framed hg group config) hs₀
      hrun).rooted
  · have halike := htour.alike hg.actions hstart.rooted hv (by rwa [Nat.zero_add]) hkey
    exact ⟨halike, plan_congr halike⟩
  · obtain ⟨ids, hids⟩ := generateTriggers_claimed hg.actions hs htour
    exact ⟨ids, hids.named, hids.apart, fun id hid => ⟨hids.free id hid, hids.count hid⟩⟩
  · intro i j v w x y hij hv hw hvkey hwkey hx hy hxy t ht
    obtain ⟨ws, u, hlength, htour, -⟩ := (generateTriggers_runs_iff hg.actions hs).mp ht
    obtain ⟨ids, hids⟩ := generateTriggers_claimed hg.actions hs htour
    -- The two widgets as they are when their turns come have the same plans.
    have hturn : ∀ {k : Nat} {w : Widget}, s.widgets[k]? = some w → w.key ≠ "" →
        ∃ v, ws[k]? = some v ∧ plan v = plan w := by
      intro k w hw hkey
      obtain ⟨hk, -⟩ := List.getElem?_eq_some_iff.mp hw
      have hget := getElem?_eq_getElem (hlength ▸ hk : k < ws.length)
      have halike := htour.alike hg.actions hstart.rooted hget (by rwa [Nat.zero_add]) hkey
      exact ⟨_, hget, plan_congr halike⟩
    obtain ⟨v', hv', hvplan⟩ := hturn hv hvkey
    obtain ⟨w', hw', hwplan⟩ := hturn hw hwkey
    exact hids.automation_ne hij hv' hw' (hvplan ▸ hx) (hwplan ▸ hy) hxy

theorem runs_of_now {b : Build Unit} (h : (now b s).1.toBool = true) :
    (b s).Runs (.ok ()) (now b s).2 := by
  rw [eq_done_of_now h]
  exact .done _ _

/-- An automation that writes a line to the log. -/
def logging (name : String) : Value :=
  .dict [("trigger_id", .ident (.declaration (some name) (.plain "Trigger<>"))),
    ("automation_id", .ident (.declaration (some (name ++ "_automation")) (.plain "Automation<>"))),
    ("then", .list [.dict [("logger.log", .dict [("format", .str name), ("args", .list []),
      ("level", .str "DEBUG"), ("tag", .str "main")]),
      ("type_id", .ident (.declaration (some (name ++ "_action")) lambdaAction))]])]

def twiceClicked : Widget :=
  .fresh "button" (Expr.pointer "button") .button
    (.dict [("on_click", .list [logging "first", logging "second"])])

def clickable : Session :=
  { widgets := [twiceClicked]
    objects := [⟨.declaration (some "button") lvObj, Expr.pointer "button"⟩] }

theorem clickable_rooted : clickable.Rooted := by
  intro w hw _
  obtain rfl := mem_singleton.mp hw
  exact mem_cons_self

/-- The second of two automations for clicks gets no trigger. -/
theorem generateTriggers_wires_plans_twiceClicked :
    ∃ t, (generateTriggers (Generator.ofDepth 2) clickable).Runs (.ok ()) t ∧
      (∃ ws u, ws.length = 1 ∧
        Tour (Generator.ofDepth 2) 0 ws (withSource "lvgl.trigger" clickable) u) ∧
      ⟨"on_click", 0, .event "CLICKED", logging "first"⟩ ∈ plan twiceClicked ∧
      (∀ c, ⟨"on_click", 1, c, logging "second"⟩ ∉ plan twiceClicked) ∧
      t.names.count (some "first") = 1 ∧ t.names.count (some "second") = 0 := by
  obtain ⟨-, -, hplan, hruns, -⟩ := generateTriggers_wires_plans 2 clickable_rooted
  have hclick : Occasion.of? "on_click" = some (.event "CLICKED") := by decide +kernel
  have hends : (now (generateTriggers (Generator.ofDepth 2)) clickable).1.toBool = true
      ∧ (now (generateTriggers (Generator.ofDepth 2)) clickable).2.names
        = [some "button", some "first", some "first_automation", some "first_action"] := by
    decide +kernel
  have hmem := hplan twiceClicked fun es hes => Value.dict.inj hes ▸ nodup_singleton _
  have hfirst : (⟨"on_click", 0, .event "CLICKED", logging "first"⟩ : Wiring) ∈ plan twiceClicked :=
    (hmem.2 _).mpr ⟨by decide, ⟨_, rfl, hclick, _, rfl, rfl⟩, .inr rfl⟩
  obtain ⟨ws, u, hlength, htour, -⟩ := (hruns _).mp (runs_of_now hends.1)
  refine ⟨_, runs_of_now hends.1, ⟨ws, u, hlength, htour⟩, hfirst, ?_, ?_, ?_⟩
  · intro c hc
    obtain ⟨-, ⟨_, -, hlisted⟩, hwhich⟩ := (hmem.2 _).mp hc
    rcases hwhich with hvalue | hposition
    · have hoccasion := hlisted.1
      rw [hclick, Option.some.injEq] at hoccasion
      rw [← hoccasion] at hvalue
      cases hvalue
    · cases hposition
  · rw [hends.2]
    decide
  · rw [hends.2]
    decide

end Automation

end Panel
