import Mathlib.Data.List.Nodup
import Panel.Proofs.Entries
import Panel.Proofs.Runs

/-! # Plans — which automations of a widget get a trigger

    An option of a widget may list several automations.  Those of values are all wired; of those of
    events and gestures only the first is.  The screen, and widgets that are recorded without
    options, are passed over. -/

namespace Panel

open Cpp List Text

/-- The options of a widget that are read for triggers. -/
def Widget.wired? (w : Widget) : Option Entries :=
  match w.kind, w.config with
  | .screen, _ => none
  | _, .dict es => some es
  | _, _ => none

theorem Widget.wired?_eq_some_iff {w : Widget} {es : Entries} :
    w.wired? = some es ↔ w.kind ≠ .screen ∧ w.config = .dict es := by
  unfold wired?
  split
  · next hkind => simp [hkind]
  · next es' hes hkind =>
      rw [hes, Option.some.injEq, Value.dict.injEq]
      exact (and_iff_right hkind).symm
  · next _ hes => exact ⟨nofun, fun ⟨_, h⟩ => (hes es h).elim⟩

namespace Automation

/-! ## Plans -/

/-- What a trigger waits for. -/
inductive Occasion where
  | event (name : String)
  | gesture (direction : String)
  | value
  deriving DecidableEq

namespace Occasion

def names : Occasion → List String
  | .event name => ["LV_EVENT_" ++ name]
  | .gesture _ => ["LV_EVENT_GESTURE"]
  | .value => ["LV_EVENT_VALUE_CHANGED", "lvgl::lv_api_event", "lvgl::lv_update_event"]

def condition : Occasion → Option Expr
  | .gesture direction =>
    some (Expr.named ("lv_indev_get_gesture_dir(lv_indev_get_act()) == LV_DIR_" ++ direction))
  | _ => none

def prepare (w : Widget) : Occasion → Build Unit
  | .event _ => do let _ ← w.addFlag (.str "LV_OBJ_FLAG_CLICKABLE")
  | .gesture _ => do let _ ← w.clearFlag (.str "LV_OBJ_FLAG_SCROLLABLE")
  | .value => pure ()

def eventOf? (option : String) : Option Occasion :=
  if Constants.eventOptions.contains option then
    (Constants.events.find? (·.1 == Text.upper (Text.removePrefix "on_" option))).map
      fun e => .event e.2
  else none

def gestureOf? (option : String) : Option Occasion :=
  if Constants.swipeOptions.contains option then some (.gesture (gestureDirection option))
  else none

def of? (option : String) : Option Occasion :=
  if option = "on_value" then some .value else (eventOf? option).or (gestureOf? option)

end Occasion

/-- An automation to wire: where it is listed, and what its trigger waits for. -/
structure Wiring where
  option : String
  position : Nat
  occasion : Occasion
  automation : Value

namespace Wiring

/-- The place of an automation: the option, and the position in its list. -/
def place (x : Wiring) : String × Nat := (x.option, x.position)

def ListedIn (x : Wiring) (es : Entries) : Prop :=
  Occasion.of? x.option = some x.occasion ∧
    ∃ as, Entries.get? es x.option = some (.list as) ∧ as[x.position]? = some x.automation

def triggerId? (x : Wiring) : Option Ident :=
  match x.automation.get? "trigger_id" with
  | some (.ident id) => some id
  | _ => none

end Wiring

def firstOf (occasion? : String → Option Occasion) : String × Value → Option Wiring
  | (option, .list (a :: _)) => (occasion? option).map fun c => ⟨option, 0, c, a⟩
  | _ => none

def valueWirings (es : Entries) : List Wiring :=
  (Kinds.itemsAt (.dict es) "on_value").zipIdx.map fun (a, i) => ⟨"on_value", i, .value, a⟩

def wirings (es : Entries) : List Wiring :=
  es.filterMap (firstOf Occasion.eventOf?) ++ es.filterMap (firstOf Occasion.gestureOf?)
    ++ valueWirings es

def plan (w : Widget) : List Wiring :=
  match w.wired? with
  | some es => wirings es
  | none => []

variable {c : Occasion} {option : String} {occasion? : String → Option Occasion} {x : Wiring}
  {es : Entries}

/-- Options of which those for some occasions list something. -/
def Listing (occasion? : String → Option Occasion) (es : Entries) : Prop :=
  ∀ e ∈ es, (occasion? e.1).isSome = true → ∃ a as, e.2 = .list (a :: as)

/-- Options of which those for events and gestures list something, as an accepted option does. -/
def Filled (es : Entries) : Prop := Listing Occasion.eventOf? es ∧ Listing Occasion.gestureOf? es

/-! ### Options and occasions -/

theorem upper_lower : ∀ e ∈ Constants.events, upper (lower e.1) = e.1 := by
  decide +kernel

theorem not_event : ∀ option ∈ "on_value" :: Constants.swipeOptions,
    option ∉ Constants.eventOptions := by
  decide +kernel

theorem value_not_swipe : "on_value" ∉ Constants.swipeOptions := by
  decide +kernel

theorem eventOf?_isSome (h : option ∈ Constants.eventOptions) :
    (Occasion.eventOf? option).isSome = true := by
  rw [Occasion.eventOf?, contains_iff_mem.mpr h, if_pos rfl, Option.isSome_map, find?_isSome]
  obtain ⟨e, he, rfl⟩ := mem_map.mp h
  exact ⟨e, he, by rw [removePrefix_append, upper_lower e he, beq_self_eq_true]⟩

theorem eventOf?_eq_none (h : option ∉ Constants.eventOptions) : Occasion.eventOf? option = none :=
  if_neg fun hoption => h (contains_iff_mem.mp hoption)

theorem gestureOf?_eq_none (h : option ∉ Constants.swipeOptions) :
    Occasion.gestureOf? option = none :=
  if_neg fun hoption => h (contains_iff_mem.mp hoption)

theorem eventOf?_mem (h : Occasion.eventOf? option = some c) :
    option ∈ Constants.eventOptions ∧ c ≠ .value := by
  rw [Occasion.eventOf?, Option.ite_none_right_eq_some, Option.map_eq_some_iff] at h
  obtain ⟨hoption, e, -, rfl⟩ := h
  exact ⟨contains_iff_mem.mp hoption, nofun⟩

theorem gestureOf?_mem (h : Occasion.gestureOf? option = some c) :
    option ∈ Constants.swipeOptions ∧ c ≠ .value := by
  rw [Occasion.gestureOf?, Option.ite_none_right_eq_some, Option.some.injEq] at h
  obtain ⟨hoption, rfl⟩ := h
  exact ⟨contains_iff_mem.mp hoption, nofun⟩

theorem of?_eq_some_iff : Occasion.of? option = some c ↔ (option = "on_value" ∧ c = .value)
      ∨ Occasion.eventOf? option = some c ∨ Occasion.gestureOf? option = some c := by
  unfold Occasion.of?
  by_cases hvalue : option = "on_value"
  · subst hvalue
    rw [eventOf?_eq_none (not_event _ mem_cons_self), gestureOf?_eq_none value_not_swipe]
    simp [eq_comm]
  · rw [if_neg hvalue, Option.or_eq_some_iff]
    constructor
    · rintro (h | ⟨-, h⟩)
      · exact .inr (.inl h)
      · exact .inr (.inr h)
    · rintro (⟨h, -⟩ | h | h)
      · exact absurd h hvalue
      · exact .inl h
      · exact .inr ⟨eventOf?_eq_none (not_event _ (mem_cons_of_mem _ (gestureOf?_mem h).1)), h⟩

theorem of?_isSome_iff : (Occasion.of? option).isSome = true ↔
      option ∈ Constants.eventOptions ++ Constants.swipeOptions ++ ["on_value"] := by
  rw [mem_append, mem_append, mem_singleton, Option.isSome_iff_exists]
  constructor
  · rintro ⟨c, h⟩
    rcases of?_eq_some_iff.mp h with ⟨h, -⟩ | h | h
    · exact .inr h
    · exact .inl (.inl (eventOf?_mem h).1)
    · exact .inl (.inr (gestureOf?_mem h).1)
  · rintro ((h | h) | h)
    · obtain ⟨c, hc⟩ := Option.isSome_iff_exists.mp (eventOf?_isSome h)
      exact ⟨c, of?_eq_some_iff.mpr (.inr (.inl hc))⟩
    · refine ⟨.gesture (gestureDirection option), of?_eq_some_iff.mpr (.inr (.inr ?_))⟩
      rw [Occasion.gestureOf?, contains_iff_mem.mpr h]
      rfl
    · exact ⟨.value, of?_eq_some_iff.mpr (.inl ⟨h, rfl⟩)⟩

/-! ### What is planned -/

theorem firstOf_eq_some_iff {e : String × Value} : firstOf occasion? e = some x ↔ x.position = 0 ∧
      occasion? x.option = some x.occasion ∧ ∃ as, e = (x.option, .list (x.automation :: as)) := by
  unfold firstOf
  split
  · next option a as =>
      rw [Option.map_eq_some_iff]
      constructor
      · rintro ⟨c, hc, rfl⟩
        exact ⟨rfl, hc, as, rfl⟩
      · rintro ⟨hposition, hc, as', he⟩
        obtain ⟨rfl, hlist⟩ := Prod.mk.inj he
        obtain ⟨rfl, rfl⟩ := cons.inj (Value.list.inj hlist)
        exact ⟨x.occasion, hc, by rw [← hposition]⟩
  · next hnot =>
      constructor
      · exact nofun
      · rintro ⟨-, -, as, rfl⟩
        exact absurd rfl (hnot x.option x.automation as)

theorem mem_valueWirings : x ∈ valueWirings es ↔ x.option = "on_value" ∧ x.occasion = .value ∧
      ∃ as, es.get? x.option = some (.list as) ∧ as[x.position]? = some x.automation := by
  have hitems : ∀ (i : Nat) (a : Value), (Kinds.itemsAt (.dict es) "on_value")[i]? = some a ↔
      ∃ as, es.get? "on_value" = some (.list as) ∧ as[i]? = some a := by
    intro i a
    unfold Kinds.itemsAt
    split
    · next as has =>
        have has : es.get? "on_value" = some (.list as) := has
        simp [has]
    · next hnot =>
        constructor
        · exact nofun
        · rintro ⟨as, has, -⟩
          exact absurd has (hnot as)
  rw [valueWirings, mem_map]
  constructor
  · rintro ⟨⟨a, i⟩, hmem, rfl⟩
    exact ⟨rfl, rfl, (hitems i a).mp (mem_zipIdx_iff_getElem?.mp hmem)⟩
  · obtain ⟨option, i, c, a⟩ := x
    rintro ⟨rfl, rfl, has⟩
    exact ⟨(a, i), mem_zipIdx_iff_getElem?.mpr ((hitems i a).mpr has), rfl⟩

theorem mem_firsts (hkeys : (es.map (·.1)).Nodup) : x ∈ es.filterMap (firstOf occasion?) ↔
      x.position = 0 ∧ occasion? x.option = some x.occasion ∧
        ∃ as, es.get? x.option = some (.list as) ∧ as[x.position]? = some x.automation := by
  rw [mem_filterMap]
  constructor
  · rintro ⟨e, he, hx⟩
    obtain ⟨hposition, hc, as, rfl⟩ := firstOf_eq_some_iff.mp hx
    refine ⟨hposition, hc, _, (Entries.get?_eq_some_iff hkeys).mpr he, ?_⟩
    rw [hposition]
    rfl
  · rintro ⟨hposition, hc, as, has, ha⟩
    rw [hposition] at ha
    cases as with
    | nil => cases ha
    | cons a as =>
      obtain rfl := Option.some.inj ha
      exact ⟨_, (Entries.get?_eq_some_iff hkeys).mp has,
        firstOf_eq_some_iff.mpr ⟨hposition, hc, as, rfl⟩⟩

theorem mem_wirings (hkeys : (es.map (·.1)).Nodup) :
    x ∈ wirings es ↔ x.ListedIn es ∧ (x.occasion = .value ∨ x.position = 0) := by
  rw [wirings, mem_append, mem_append, mem_firsts hkeys, mem_firsts hkeys,
    mem_valueWirings, Wiring.ListedIn, of?_eq_some_iff]
  constructor
  · rintro ((⟨hposition, hc, has⟩ | ⟨hposition, hc, has⟩) | ⟨hoption, hc, has⟩)
    · exact ⟨⟨.inr (.inl hc), has⟩, .inr hposition⟩
    · exact ⟨⟨.inr (.inr hc), has⟩, .inr hposition⟩
    · exact ⟨⟨.inl ⟨hoption, hc⟩, has⟩, .inl hc⟩
  · rintro ⟨⟨⟨hoption, hc⟩ | hc | hc, has⟩, hwhich⟩
    · exact .inr ⟨hoption, hc, has⟩
    · exact .inl (.inl ⟨hwhich.resolve_left (eventOf?_mem hc).2, hc, has⟩)
    · exact .inl (.inr ⟨hwhich.resolve_left (gestureOf?_mem hc).2, hc, has⟩)

theorem firsts_nodup (occasion? : String → Option Occasion) (hkeys : (es.map (·.1)).Nodup) :
    ((es.filterMap (firstOf occasion?)).map Wiring.place).Nodup := by
  rw [List.Nodup, pairwise_map, pairwise_filterMap]
  refine (pairwise_map.mp hkeys).imp ?_
  intro e e' hne x hx y hy hplace
  obtain ⟨-, -, as, rfl⟩ := firstOf_eq_some_iff.mp hx
  obtain ⟨-, -, as', rfl⟩ := firstOf_eq_some_iff.mp hy
  exact hne (Prod.mk.inj hplace).1

theorem valueWirings_nodup (es : Entries) : ((valueWirings es).map Wiring.place).Nodup := by
  have hpositions : ((valueWirings es).map Wiring.place).map Prod.snd
      = range' 0 (Kinds.itemsAt (.dict es) "on_value").length := by
    rw [valueWirings, map_map, map_map, ← zipIdx_map_snd]
    rfl
  refine List.Nodup.of_map Prod.snd ?_
  rw [hpositions]
  exact nodup_range' (h := Nat.one_pos)

theorem wirings_nodup (hkeys : (es.map (·.1)).Nodup) : ((wirings es).map Wiring.place).Nodup := by
  -- The options of the three parts are of three kinds.
  have hevent : ∀ x ∈ es.filterMap (firstOf Occasion.eventOf?),
      x.option ∈ Constants.eventOptions := fun x hx =>
    (eventOf?_mem ((mem_firsts hkeys).mp hx).2.1).1
  have hgesture : ∀ x ∈ es.filterMap (firstOf Occasion.gestureOf?),
      x.option ∈ Constants.swipeOptions := fun x hx =>
    (gestureOf?_mem ((mem_firsts hkeys).mp hx).2.1).1
  have hvalue : ∀ x ∈ valueWirings es, x.option = "on_value" := fun x hx =>
    (mem_valueWirings.mp hx).1
  have hapart : ∀ {xs ys : List Wiring}, (∀ x ∈ xs, ∀ y ∈ ys, x.option ≠ y.option) →
      ∀ p ∈ xs.map Wiring.place, ∀ q ∈ ys.map Wiring.place, p ≠ q := by
    intro xs ys h p hp q hq
    obtain ⟨x, hx, rfl⟩ := mem_map.mp hp
    obtain ⟨y, hy, rfl⟩ := mem_map.mp hq
    exact fun hplace => h x hx y hy (Prod.mk.inj hplace).1
  rw [wirings, map_append, nodup_append, map_append, nodup_append, ← map_append]
  refine ⟨⟨firsts_nodup _ hkeys, firsts_nodup _ hkeys, hapart ?_⟩, valueWirings_nodup es, hapart ?_⟩
  · intro x hx y hy heq
    exact not_event _ (mem_cons_of_mem _ (hgesture y hy)) (heq ▸ hevent x hx)
  · intro x hx y hy heq
    rw [hvalue y hy] at heq
    rcases mem_append.mp hx with hx | hx
    · exact not_event _ mem_cons_self (heq ▸ hevent x hx)
    · exact value_not_swipe (heq ▸ hgesture x hx)

/-- What is planned for a widget: of the automations that its options list those of values, and
    those that come first; nothing for the screen, or for a widget without options. -/
theorem mem_plan {w : Widget} (hkeys : ∀ es, w.config = .dict es → (es.map (·.1)).Nodup) :
    x ∈ plan w ↔ w.kind ≠ .screen ∧ (∃ es, w.config = .dict es ∧ x.ListedIn es)
      ∧ (x.occasion = .value ∨ x.position = 0) := by
  cases hw : w.wired? with
  | none =>
    rw [plan, hw]
    constructor
    · exact nofun
    · rintro ⟨hkind, ⟨es, hes, -⟩, -⟩
      rw [Widget.wired?_eq_some_iff.mpr ⟨hkind, hes⟩] at hw
      cases hw
  | some es =>
    obtain ⟨hkind, hes⟩ := Widget.wired?_eq_some_iff.mp hw
    rw [plan, hw]
    dsimp only
    rw [mem_wirings (hkeys es hes)]
    constructor
    · exact fun ⟨hlisted, hwhich⟩ => ⟨hkind, ⟨es, hes, hlisted⟩, hwhich⟩
    · rintro ⟨-, ⟨es', hes', hlisted⟩, hwhich⟩
      obtain rfl := Value.dict.inj (hes.symm.trans hes')
      exact ⟨hlisted, hwhich⟩

theorem plan_congr {v w : Widget} (h : v.Alike w) : plan v = plan w := by
  unfold plan Widget.wired?
  rw [h.2.1, h.2.2]

theorem plan_nodup {w : Widget} (hkeys : ∀ es, w.config = .dict es → (es.map (·.1)).Nodup) :
    ((plan w).map Wiring.place).Nodup := by
  cases hw : w.wired? with
  | none =>
    rw [plan, hw]
    exact .nil
  | some es =>
    obtain ⟨-, hes⟩ := Widget.wired?_eq_some_iff.mp hw
    rw [plan, hw]
    exact wirings_nodup (hkeys es hes)

/-! ## The work for a widget -/

def wire (g : Generator) (w : Widget) (x : Wiring) : Build Unit := do
  x.occasion.prepare w
  addTrigger g w (x.occasion.names.map .literal) x.occasion.condition x.automation

def settle (g : Generator) (w : Widget) : Build Unit :=
  match w.wired? with
  | some _ => do
    bootTriggers g (Kinds.itemsAt w.config "on_boot")
    match Kinds.setAt? w.config "align_to" with
    | some config => applyAlignment w config
    | none => pure ()
  | none => pure ()

def wireAll (g : Generator) (w : Widget) : Build Unit := do
  forM (plan w) (wire g w)
  settle g w

theorem firstOf_list (h : occasion? option = some c) (a : Value) (as : List Value) :
    firstOf occasion? (option, .list (a :: as)) = some ⟨option, 0, c, a⟩ := by
  rw [firstOf, h]
  rfl

section Widgets

variable (g : Generator) (w : Widget)

/-- The first automation that an option lists, if it is an option for an occasion. -/
def wireFirst (occasion? : String → Option Occasion) (e : String × Value) : Build Unit :=
  match occasion? e.1 with
  | some c => do
    let a ← firstAutomation e.2
    wire g w ⟨e.1, 0, c, a⟩
  | none => pure ()

theorem eventTriggers_cons (e : String × Value) (es : Entries) : eventTriggers g w (e :: es) = (do
      wireFirst g w Occasion.eventOf? e
      eventTriggers g w es) := by
  obtain ⟨option, v⟩ := e
  rw [eventTriggers]
  unfold wireFirst Occasion.eventOf?
  dsimp only
  cases Constants.eventOptions.contains option with
  | true =>
    cases Constants.events.find? (·.1 == upper (removePrefix "on_" option)) with
    | none => rfl
    | some found =>
      simp only [if_true, Option.map_some, wire, Occasion.prepare, bind_assoc]
      rfl
  | false => cases Constants.events.find? (·.1 == upper (removePrefix "on_" option)) <;> rfl

theorem swipeTriggers_cons (e : String × Value) (es : Entries) : swipeTriggers g w (e :: es) = (do
      wireFirst g w Occasion.gestureOf? e
      swipeTriggers g w es) := by
  obtain ⟨option, v⟩ := e
  rw [swipeTriggers]
  unfold wireFirst Occasion.gestureOf?
  dsimp only
  cases Constants.swipeOptions.contains option with
  | true =>
    simp only [if_true, wire, Occasion.prepare, bind_assoc]
    rfl
  | false => rfl

theorem eventTriggers_eq (es : Entries) :
    eventTriggers g w es = forM es (wireFirst g w Occasion.eventOf?) := by
  induction es with
  | nil => rfl
  | cons e es ih => rw [eventTriggers_cons, forM_cons, ih]

theorem swipeTriggers_eq (es : Entries) :
    swipeTriggers g w es = forM es (wireFirst g w Occasion.gestureOf?) := by
  induction es with
  | nil => rfl
  | cons e es ih => rw [swipeTriggers_cons, forM_cons, ih]

theorem firstAutomation_on_iff {v a : Value} {s t : Session} :
    (firstAutomation v).on s = (.ok a, t) ↔ (∃ as, v = .list (a :: as)) ∧ t = s := by
  unfold firstAutomation
  split
  · next b bs =>
      constructor
      · rintro ⟨⟩
        exact ⟨⟨bs, rfl⟩, rfl⟩
      · rintro ⟨⟨as, ⟨⟩⟩, rfl⟩
        rfl
  · constructor
    · rintro ⟨⟩
    · rintro ⟨⟨as, ⟨⟩⟩, -⟩
  · next hcons _ =>
      constructor
      · rintro ⟨⟩
      · rintro ⟨⟨as, rfl⟩, -⟩
        exact absurd rfl (hcons a as)

/-- Wiring the first automation of each option ends well just if there is one in each, and wiring
    these does. -/
theorem forM_wireFirst_runs_iff {s t : Session} :
    (forM es (wireFirst g w occasion?) s).Runs (.ok ()) t ↔ Listing occasion? es ∧
      (forM (es.filterMap (firstOf occasion?)) (wire g w) s).Runs (.ok ()) t := by
  induction es generalizing s with
  | nil => exact ⟨fun h => ⟨nofun, h⟩, And.right⟩
  | cons e es ih =>
    obtain ⟨option, v⟩ := e
    rw [Listing, forall_mem_cons, forM_cons, wireFirst]
    cases hc : occasion? option with
    | none =>
      have hskip : firstOf occasion? (option, v) = none := by
        unfold firstOf
        grind
      rw [filterMap_cons_none hskip]
      exact ih.trans (and_congr_left' (by simp [Listing]))
    | some c =>
      dsimp only
      rw [bind_assoc]
      constructor
      · intro h
        obtain ⟨a, u, hfirst, hrest⟩ := Job.runs_bind_ok.mp h
        obtain ⟨⟨as, rfl⟩, rfl⟩ := firstAutomation_on_iff.mp (Build.runs_ofCheck.mp hfirst)
        obtain ⟨_, u, hwire, hrest⟩ := Job.runs_bind_ok.mp hrest
        obtain ⟨hes, hrest⟩ := ih.mp hrest
        refine ⟨⟨fun _ => ⟨a, as, rfl⟩, hes⟩, ?_⟩
        rw [filterMap_cons_some (firstOf_list hc a as), forM_cons]
        exact Job.runs_bind_ok.mpr ⟨_, u, hwire, hrest⟩
      · rintro ⟨⟨hv, hes⟩, hruns⟩
        obtain ⟨a, as, rfl⟩ := hv rfl
        rw [filterMap_cons_some (firstOf_list hc a as), forM_cons] at hruns
        obtain ⟨_, u, hwire, hrest⟩ := Job.runs_bind_ok.mp hruns
        refine Job.runs_bind_ok.mpr ⟨a, s, ?_, Job.runs_bind_ok.mpr ⟨_, u, hwire, ih.mpr ⟨hes, hrest⟩⟩⟩
        exact Build.runs_ofCheck.mpr (firstAutomation_on_iff.mpr ⟨⟨as, rfl⟩, rfl⟩)

theorem valueTriggers_eq (as : List Value) (n : Nat) : valueTriggers g w as
      = forM ((as.zipIdx n).map fun (a, i) => (⟨"on_value", i, .value, a⟩ : Wiring)) (wire g w) := by
  induction as generalizing n with
  | nil => rfl
  | cons a as ih =>
    rw [zipIdx_cons, map_cons, forM_cons, ← ih (n + 1)]
    rfl

theorem widgetTriggers_of_none (h : w.wired? = none) : widgetTriggers g w = pure () := by
  unfold widgetTriggers
  split
  · rfl
  · next es hes hkind =>
      rw [Widget.wired?_eq_some_iff.mpr ⟨hkind, hes⟩] at h
      cases h
  · rfl

theorem widgetTriggers_of_some (h : w.wired? = some es) : widgetTriggers g w = (do
      eventTriggers g w es
      swipeTriggers g w es
      valueTriggers g w (Kinds.itemsAt (.dict es) "on_value")
      settle g w) := by
  obtain ⟨hkind, hes⟩ := Widget.wired?_eq_some_iff.mp h
  unfold widgetTriggers settle
  rw [h, hes]
  split
  · next hscreen => exact absurd hscreen hkind
  · next es' hes' _ =>
      obtain rfl := Value.dict.inj hes'
      rfl
  · next _ hdict => exact absurd rfl (hdict es)

/-- The triggers of a widget are generated well just if its options list something and all that is
    planned for it can be wired. -/
theorem widgetTriggers_runs_iff {s t : Session} : (widgetTriggers g w s).Runs (.ok ()) t ↔
    (∀ es, w.wired? = some es → Filled es) ∧ (wireAll g w s).Runs (.ok ()) t := by
  unfold wireAll
  cases hw : w.wired? with
  | none =>
    rw [widgetTriggers_of_none g w hw, plan, settle, hw]
    exact ⟨fun h => ⟨nofun, h⟩, And.right⟩
  | some es =>
    rw [widgetTriggers_of_some g w hw, plan, hw, eventTriggers_eq, swipeTriggers_eq,
      valueTriggers_eq g w _ 0]
    dsimp only
    rw [wirings, forM_append, forM_append, valueWirings, bind_assoc, bind_assoc]
    constructor
    · intro h
      obtain ⟨_, u₁, hevents, h⟩ := Job.runs_bind_ok.mp h
      obtain ⟨_, u₂, hswipes, h⟩ := Job.runs_bind_ok.mp h
      obtain ⟨hevent, hevents⟩ := (forM_wireFirst_runs_iff g w).mp hevents
      obtain ⟨hgesture, hswipes⟩ := (forM_wireFirst_runs_iff g w).mp hswipes
      refine ⟨?_, Job.runs_bind_ok.mpr ⟨_, u₁, hevents, Job.runs_bind_ok.mpr ⟨_, u₂, hswipes, h⟩⟩⟩
      rintro _ ⟨⟩
      exact ⟨hevent, hgesture⟩
    · rintro ⟨hfilled, h⟩
      obtain ⟨hevent, hgesture⟩ := hfilled es rfl
      obtain ⟨_, u₁, hevents, h⟩ := Job.runs_bind_ok.mp h
      obtain ⟨_, u₂, hswipes, h⟩ := Job.runs_bind_ok.mp h
      exact Job.runs_bind_ok.mpr ⟨_, u₁, (forM_wireFirst_runs_iff g w).mpr ⟨hevent, hevents⟩,
        Job.runs_bind_ok.mpr ⟨_, u₂, (forM_wireFirst_runs_iff g w).mpr ⟨hgesture, hswipes⟩, h⟩⟩

end Widgets

end Automation

end Panel
