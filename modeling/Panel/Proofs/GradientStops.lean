import Panel.Proofs.HeaderText
import Panel.Proofs.Panels

/-! # Gradient stops — how many stops the library is told to make room for

    The library keeps room for a fixed number of stops in every gradient, the value of a macro in
    its header.  Each panel sets it to the most stops of its own gradients, and the panels are built
    one after the other, so what the header ends with is enough for the last panel only. -/

namespace Panel

open Cpp List Code

variable {α β : Type}

/-! ## The macro -/

def Session.SameMacros (s t : Session) : Prop := t.macros = s.macros

/-- The number of stops that the header makes room for, as it is written there. -/
def Session.stops? (s : Session) : Option String := macroValue? s.macros "LV_GRADIENT_MAX_STOPS"

/-- Work that leaves the number of stops as it is. -/
@[reducible]
def Habit.stops : Habit :=
  .beside (fun s t => t.stops? = s.stops?) (fun s t => t.stops? = s.stops?) (fun h => h)
    (fun hst htu => htu.trans hst) (fun _ _ h => by rw [Session.stops?, h, Session.stops?])
    fun _ _ => rfl

@[reducible]
def Quietness.stops : Quietness := .all Habit.stops fun _ => trivial

instance : Quietness.stops.Total where
  allows _ _ := trivial
  note _ _ := rfl
  change _ _ _ := rfl
  themes _ _ := rfl

theorem Code.defineMacro_stops (name value : String) (s : Session) :
    ((defineMacro name value).on s).2.stops?
      = if name = "LV_GRADIENT_MAX_STOPS" then some value else s.stops? := by
  have hmacros : ((defineMacro name value).on s).2.macros = putMacro s.macros name value := by
    unfold defineMacro
    rw [Check.on_bind_ok _ (Check.on_get s)]
    -- whether the old value is reported or not, the new one is put
    repeat' split
    all_goals rfl
  rw [Session.stops?, hmacros, macroValue?_putMacro, Session.stops?]

theorem Code.defineMacro_aside {name : String} (h : name ≠ "LV_GRADIENT_MAX_STOPS") (value : String) :
    (defineMacro name value).Heeds Habit.stops :=
  ⟨fun s => (defineMacro_stops name value s).trans (if_neg h)⟩

/-! ## Work after which a number is set -/

/-- Work that sets the number of stops, if it succeeds. -/
def Build.Allots (b : Build α) (n : Nat) : Prop :=
  ∀ s, (b s).Ends Habit.stops.amid fun r t => ∀ a, r = .ok a → t.stops? = some (toString n)

namespace Build.Allots

variable {b : Build α} {f : α → Build β} {n : Nat}

/-- What comes before does not count. -/
theorem after (hf : ∀ a, (f a).Allots n) : (b >>= f).Allots n := by
  intro s
  show ((b s).bind f).Ends _ _
  induction b s with
  | done r t =>
    cases r with
    | ok a => exact hf a t
    | error e => exact nofun
  | waiting t ready resume ih => exact fun u _ _ => ih u

theorem bind (hb : b.Allots n) (hf : ∀ a, (f a).Heeds Habit.stops) : (b >>= f).Allots n := by
  intro s
  refine (hb s).bind (fun a t ht => ?_) fun _ _ _ _ h => nomatch h
  exact ((hf a).ends t).mono fun _ u hu _ _ => hu.trans (ht a rfl)

theorem inBlock {c : Context} {work : Nat → Build α} (h : ∀ i, (work i).Allots n) :
    (inBlock c work).Allots n := by
  refine after fun i s => ?_
  -- A failure inside is kept until the block is left.
  have hinner : Job.Ends Habit.stops.amid (fun result t => ∃ outcome, result = .ok outcome ∧
        ∀ a, outcome = .ok a → t.stops? = some (toString n))
      ((tryCatch (.ok <$> work i) fun e => pure (.error e) : Build (Except Failure α)) s) := by
    have hwork : Build.Allots ((Except.ok : α → Except Failure α) <$> work i) n := by
      rw [map_eq_pure_bind]
      exact (h i).bind fun a => .of_pure _
    exact Job.Ends.recover (hwork s) (fun outcome _ ht => ⟨outcome, rfl, fun _ _ => ht outcome rfl⟩)
      fun e _ _ => ⟨.error e, rfl, nofun⟩
  refine hinner.bind (fun outcome t ht => ?_) fun e t ⟨_, he, _⟩ => nomatch he
  obtain ⟨_, ⟨⟩, ht⟩ := ht
  cases outcome with
  | ok a => exact fun _ _ => ht a rfl
  | error e => exact nofun

/-- Of several pieces of work the last one counts. -/
theorem forItems {work : α → Build Unit} {n : α → Nat} (h : ∀ x, (work x).Allots (n x)) (x : α)
    (xs : List α) : (Kinds.forItems work (x :: xs)).Allots (n ((x :: xs).getLast (cons_ne_nil _ _))) := by
  induction xs generalizing x with
  | nil => exact (h x).bind fun _ => .of_pure _
  | cons y ys ih => exact after fun _ => ih y

end Build.Allots

namespace Component

/-! ## Panels -/

/-- The most stops that a gradient of a panel has, but at least two. -/
def mostStops (config : Value) : Nat :=
  ((Kinds.itemsAt config "gradients").map fun gradient =>
    (Kinds.itemsAt gradient "stops").length).foldl max 2

theorem applyGradients_allots (config : Value) :
    (Style.applyGradients config).Allots (mostStops config) := by
  have hall : (do
      let most ← Style.createGradients 2 (Kinds.itemsAt config "gradients")
      defineMacro "LV_GRADIENT_MAX_STOPS" (toString most) : Build Unit).Allots (mostStops config) := by
    intro s
    refine (Style.createGradients_provides (q := Quietness.stops) 2 _ s).bind (fun most t ht => ?_)
      fun _ _ _ _ h => nomatch h
    intro a _
    rw [mostStops, ← ht.2 most rfl]
    exact (defineMacro_stops _ _ t).trans (if_pos rfl)
  unfold Style.applyGradients
  dsimp only
  split
  · exact .after fun _ => hall
  · exact hall

theorem createPanel_allots {g : Generator} (hg : g.Steady Quietness.stops) (group : Expr)
    (config : Value) : (createPanel g group config).Allots (mostStops config) := by
  refine .after fun panel => .inBlock fun _ => ?_
  iterate 6 refine .after fun _ => ?_
  refine (applyGradients_allots config).bind fun _ => (?_ : Build.Heeds (Quietness.stops.of []) _)
  refine .bind (Style.createAll_quiet _) fun _ => .bind (Widget.applyCommon_quiet _) fun _ => ?_
  refine .bind (Widget.addChildren_quiet hg.widget _) fun _ => ?_
  refine .bind (createPages_quiet hg _ _) fun _ => ?_
  refine .bind (Automation.applyLayers_quiet hg _ _) fun _ => ?_
  refine .bind (Automation.applyBackground_quiet hg _ _) fun _ => ?_
  exact Kinds.createMessageBoxes_quiet hg _ _

theorem defineUses_aside : defineUses.Heeds Habit.stops := by
  have hdefine : ∀ name value, (define name value).Heeds Habit.stops := fun _ _ => .of_modify fun _ => rfl
  have huse : ∀ word, "LV_USE_" ++ word ≠ "LV_GRADIENT_MAX_STOPS" := fun word h =>
    absurd (h ▸ Text.hasPrefix_append "LV_USE_" word) (by decide)
  refine .bind .of_get fun s => .bind (.forM fun _ _ => hdefine _ _) fun _ => ?_
  have hword : ∀ use, (do
      defineMacro ("LV_USE_" ++ Text.upper use) "1"
      define ("USE_LVGL_" ++ Text.upper use) none
      define ("USE_" ++ Text.upper use) none : Check Unit).Heeds Habit.stops := fun use =>
    .bind (defineMacro_aside (huse _) "1") fun _ => .bind (hdefine _ _) fun _ => hdefine _ _
  have hrest : (forM s.uses _ : Check Unit).Heeds Habit.stops := .forM fun use _ => hword use
  split
  · exact .bind (defineMacro_aside (by decide) _) fun _ => hrest
  · exact hrest

theorem report_aside : report.Heeds Habit.stops := by
  have hlog : ∀ text, (logWarning text).Heeds Habit.stops := fun _ => .of_modify fun _ => rfl
  refine .bind .of_get fun s => .bind (.forM fun name _ => ?_) fun _ => .forM fun text _ => hlog text
  split
  · exact hlog _
  · exact .of_throw _

theorem createPanels_allots (n : Nat) (first : Value) (rest : List Value) :
    (createPanels (Generator.ofDepth n) (first :: rest)).Allots
      (mostStops ((first :: rest).getLast (cons_ne_nil _ _))) := by
  have hg : (Generator.ofDepth n).Steady Quietness.stops := Generator.steady_ofDepth n
  refine .after fun _ => .after fun group => ?_
  refine (Build.Allots.forItems (createPanel_allots hg group) first rest).bind fun _ =>
    (?_ : Build.Heeds (Quietness.stops.of []) _)
  refine .bind ⟨fun _ => rfl⟩ fun _ => ?_
  refine .bind (inBlock_keeps rfl fun _ => .bind (Automation.generateTriggers_quiet hg.actions)
    fun _ => .forItems fun _ _ => panelTriggers_quiet hg _) fun _ => ?_
  refine .first defineUses_aside fun _ => .first (addFlag_keeps _) fun _ => ?_
  exact .first (addFlag_keeps _) fun _ => .bind .of_get fun _ => .first (addFlag_keeps _) fun _ =>
    .of_lift report_aside

/-! ## Room for all gradients -/

/-- A number of stops that is enough for panels: two at least, and no gradient has more. -/
def EnoughStops (configs : List Value) (n : Nat) : Prop :=
  2 ≤ n ∧ ∀ config ∈ configs, ∀ gradient ∈ Kinds.itemsAt config "gradients",
    (Kinds.itemsAt gradient "stops").length ≤ n

theorem foldl_max_le_iff {lengths : List Nat} {m n : Nat} :
    lengths.foldl max m ≤ n ↔ m ≤ n ∧ ∀ k ∈ lengths, k ≤ n := by
  induction lengths generalizing m with
  | nil => exact ⟨fun h => ⟨h, forall_mem_nil _⟩, And.left⟩
  | cons k lengths ih => rw [foldl_cons, ih, Nat.max_le, forall_mem_cons, and_assoc]

theorem mostStops_le_iff {config : Value} {n : Nat} :
    mostStops config ≤ n ↔ EnoughStops [config] n := by
  rw [mostStops, foldl_max_le_iff, forall_mem_map, EnoughStops, forall_mem_singleton]

theorem enoughStops_iff {configs : List Value} {n : Nat} (hn : 2 ≤ n) :
    EnoughStops configs n ↔ ∀ config ∈ configs, mostStops config ≤ n := by
  constructor
  · intro h config hconfig
    exact mostStops_le_iff.mpr ⟨hn, forall_mem_singleton.mpr (h.2 config hconfig)⟩
  · intro h
    refine ⟨hn, fun config hconfig => ?_⟩
    exact forall_mem_singleton.mp (mostStops_le_iff.mp (h config hconfig)).2

/-- The header that panels leave makes room for just the stops of the last panel, and so for all of
    them exactly if no panel has a gradient with more. -/
theorem createPanels_stops (n : Nat) (configs : List Value) (s : Session) :
    (createPanels (Generator.ofDepth n) configs s).Ends Session.SameMacros fun r t => r = .ok () →
      ∃ last stops, configs.getLast? = some last ∧
        Code.macroValue? t.macros "LV_GRADIENT_MAX_STOPS" = some (toString stops) ∧
        (∀ k, stops ≤ k ↔ EnoughStops [last] k) ∧
        (EnoughStops configs stops ↔ ∀ config ∈ configs, mostStops config ≤ mostStops last) := by
  cases configs with
  | nil => exact nofun
  | cons first rest =>
    have hallots := (createPanels_allots n first rest s).narrow fun {t u} (h : t.SameMacros u) =>
      show u.stops? = t.stops? by rw [Session.stops?, h, Session.stops?]
    refine hallots.mono fun r t h hr => ?_
    exact ⟨_, _, getLast?_eq_some_getLast (cons_ne_nil _ _), h () hr, fun k => mostStops_le_iff,
      enoughStops_iff (mostStops_le_iff.mp (Nat.le_refl _)).1⟩

/-- A panel on a display that is there, with gradients. -/
def gradientPanel (name : String) (gradients : List Value) : Value := .dict
  [("id", .ident (.declaration (some name) lvObj)),
    ("default_group", .ident (.declaration (some (name ++ "_group")) lvGroup)),
    ("displays", .list [.ident (.reference (some "screen") display)]), ("log_level", .str "WARN"),
    ("color_depth", .int 16), ("byte_order", .str "big_endian"), ("transparency_key", .int 0x000400),
    ("default_font", .str "montserrat_14"), ("buffer_size", .float 1.0), ("full_refresh", .bool false),
    ("draw_rounding", .int 2), ("resume_on_input", .bool true),
    ("update_when_display_idle", .bool false), ("page_wrap", .bool true), ("touchscreens", .list []),
    ("encoders", .list []), ("keypads", .list []), ("gradients", .list gradients)]

def threeStops : Value := .dict
  [("id", .ident (.declaration (some "fade") lvObj)), ("direction", .str "HOR"),
    ("stops", .list ([0, 1, 2].map fun n => .dict
      [("color", .int (100 * n)), ("opa", .float 1.0), ("position", .int n)]))]

def withDisplay : Session :=
  { objects := [⟨.declaration (some "screen") display, .raw "screen"⟩], componentIds := ["a", "b"] }

def twoPanels : List Value := [gradientPanel "a" [threeStops], gradientPanel "b" []]

/-- A panel without gradients takes away the room for the three stops of the panel before it. -/
theorem createPanels_stops_lost : ¬ EnoughStops twoPanels 2 ∧
    ∃ t, createPanels (Generator.ofDepth 1) twoPanels withDisplay = .done (.ok ()) t ∧
      Code.macroValue? t.macros "LV_GRADIENT_MAX_STOPS" = some "2" := by
  constructor
  · intro h
    exact absurd (h.2 (gradientPanel "a" [threeStops]) mem_cons_self threeStops mem_cons_self)
      (by decide : ¬ 3 ≤ 2)
  · have hends : (Build.now (createPanels (Generator.ofDepth 1) twoPanels) withDisplay).1.toBool = true := by
      decide +kernel
    obtain ⟨t, hdone⟩ : ∃ t, createPanels (Generator.ofDepth 1) twoPanels withDisplay
        = .done (.ok ()) t := ⟨_, Build.eq_done_of_now hends⟩
    refine ⟨t, hdone, ?_⟩
    -- The panels are kept out of the way, so that they are not built when this is checked.
    have hstops : ∀ configs s, createPanels (Generator.ofDepth 1) configs s = .done (.ok ()) t → _ :=
      fun configs s hdone => (createPanels_stops 1 configs s).of_done hdone rfl
    obtain ⟨last, stops, hlast, hvalue, hleast, -⟩ := hstops twoPanels withDisplay hdone
    obtain rfl : gradientPanel "b" [] = last := Option.some.inj hlast
    have htwo : stops = 2 :=
      Nat.le_antisymm ((hleast 2).mpr (mostStops_le_iff.mp (by decide)))
        ((hleast stops).mp (Nat.le_refl _)).1
    rw [hvalue, htwo]
    rfl

end Component

end Panel
