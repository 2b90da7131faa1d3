import Panel.Proofs.ActionBlocks
import Panel.Proofs.UpdateOutcome

/-! # Actions on widgets — where they pause

    Some actions write code that needs nothing that could be missing.  The others look at their
    options again once they are inside of their blocks; most of these wait for the lambdas among
    their options before, but neither for lambdas deeper down nor for plain references. -/

namespace Panel

open Cpp List

variable {b : Behaviour} {v : Value} {s s' : Session} {p : Pending}

/-- An action that stays clear of all blocks but its own, whatever is missing. -/
def Behaviour.StaysClear (b : Behaviour) : Prop :=
  ∀ g config id params s, (b.build g config id params s).Until (fun u j => j.Clear u) s

theorem Behaviour.Acts.staysClear {entries : Value → Entries}
    (h : b.Acts Quietness.within (fun _ _ => False) entries) : b.StaysClear := by
  intro g config id params s
  refine ((h g config id params).outside s).mono fun u j hgoes => ?_
  rcases hgoes with hclear | ⟨-, -, n, hn, -⟩
  · exact hclear
  · exact hn.elim

/-! ## Updates -/

namespace Kind

variable {k : Kind} {gr : Grammar} {written es : Entries} {key : String}

theorem building_not_field (hkey : key ∈ "rows" :: buildingKeys) :
    key ∉ sharedKeys ∧ key ∉ k.traits.parts ∧ key ∉ (k.design.changes gr).map (·.key) := by
  rw [changes_keys]
  have hshared : ∀ key ∈ "rows" :: buildingKeys, key ∉ sharedKeys := by decide +kernel
  refine ⟨hshared key hkey, ?_⟩
  cases k <;> revert key <;> decide +kernel

/-- No accepted update asks for widgets or rows of buttons to be built, whatever its kind. -/
theorem building_absent (h : (k.updateRecord gr).Accepted written es)
    (hkey : key ∈ "rows" :: buildingKeys) : (Value.dict es).get? key = none := by
  obtain ⟨hshared, hpart, hchange⟩ := building_not_field hkey
  exact Value.get?_eq_none_of (not_has h hshared hpart hchange)

end Kind

namespace Automation

variable {config : Value} {names : Option String → Prop} {q : Quietness}

theorem options_plain [q.Open] [q.Changes] (n : Nat) {w : Widget}
    (hnotes : w.kind = .button ∨ w.kind = .buttonmatrix → q.Notes) (h : config.OptionsCovered names)
    (hnone : ∀ key ∈ Kind.buildingKeys, config.get? key = none) :
    ((Generator.ofDepth n).options w config).Writes (q.of []) names := by
  cases n with
  | zero => exact .of_throw _
  | succ n => exact w.kind.options_plain hnotes h hnone

theorem updateOf_acts {k : Kind} {gr : Grammar}
    (haccept : ((updateOf k k.design).rule gr v).on s = (.ok config, s')) (n : Nat) (id : Ident)
    (params : List Param) :
    Acts Quietness.within config.Refers (allEntries config)
      ((updateOf k k.design).build (Generator.ofDepth n) config id params) := by
  have hcovered := config.optionsCovered_refers
  obtain ⟨written, es, -, rfl, h⟩ := Kind.update_accepted haccept
  -- The code of a kind waits no further unless it builds widgets, for which no accepted update asks.
  have hnone : ∀ key ∈ Kind.buildingKeys, (Value.dict es).get? key = none := fun key hkey =>
    Kind.building_absent h (mem_cons_of_mem _ hkey)
  refine .after (updateTargets_readies _) fun _ => .widgetAction (fun w _ => ?_) _ _
  refine .bind (Widget.applyCommon_quietly hcovered) fun _ => ?_
  exact .bind (options_plain n (fun _ => inferInstance) hcovered hnone) fun _ => .of_lift (announceValue_quiet _ _)

/-- A widget is refreshed at once if its options refer to nothing that is missing, and build
    nothing themselves. -/
theorem refreshWidget_within (n : Nat) {w : Widget}
    (h : ∀ e ∈ allEntries w.config, e.1 ≠ "id" → e.2.Covered names)
    (hnone : ∀ key ∈ Kind.buildingKeys, w.config.has key = false) :
    (refreshWidget (Generator.ofDepth n) w).Writes (Quietness.within.of []) names := by
  unfold refreshWidget
  split
  next es hes =>
    rw [hes] at h hnone
    have hcovered : ∀ p, (Value.dict (es.filter p)).OptionsCovered names := fun p =>
      Value.optionsCovered_of_entries fun e he => h e (mem_filter.mp he).1
    have habsent : ∀ p, ∀ key ∈ Kind.buildingKeys, (Value.dict (es.filter p)).get? key = none := by
      intro p key hkey
      refine Entries.get?_eq_none_of (any_eq_false.mpr fun e he => ?_)
      exact any_eq_false.mp (hnone key hkey) e (mem_filter.mp he).1
    refine .bind (Widget.applyCommon_quietly (hcovered _)) fun _ => ?_
    dsimp only
    split
    · exact .bind (options_plain n (fun _ => inferInstance) (hcovered _) (habsent _)) fun _ =>
        .of_lift (announceValue_quiet _ _)
    · exact .of_pure _
  next => exact .of_throw _

end Automation

/-! ## All actions -/

namespace Behaviour

open Automation Kinds

def plain : List Behaviour :=
  switchActions ++ [redraw, selectTab, updateMatrixButton, updateNeedle] ++ plainCanvasActions
    ++ animimgActions ++ spinActions ++ lottieActions

/-- Actions that wait for the lambdas among their options before their blocks. -/
def prepared : List Behaviour :=
  [updateWidget, updateIndicator, updateScale, updateSection, drawRectangle, drawText, drawPicture,
    drawLine, drawPolygon, drawArc] ++ updates

/-- Actions that look at their options in their blocks and wait for none of them before. -/
def unprepared : List Behaviour := [updateCalendar, selectTile] ++ chartActions

section

variable (q : Quietness)

theorem plain_acts (hb : b ∈ plain) : ∃ entries, b.Acts q (fun _ _ => False) entries := by
  simp only [plain, animimgActions, spinActions, mem_append, mem_cons, not_mem_nil, or_false] at hb
  rcases hb with ((((hb | rfl | rfl | rfl | rfl) | hb) | (rfl | rfl)) | (rfl | rfl)) | hb
  · exact ⟨_, switchActions_acts b hb⟩
  · exact ⟨_, redraw_acts⟩
  · exact ⟨_, selectTab_acts⟩
  · exact ⟨_, updateMatrixButton_acts⟩
  · exact ⟨_, updateNeedle_acts⟩
  · exact ⟨_, plainCanvasActions_acts b hb⟩
  · exact ⟨_, callAction_acts _ _ _⟩
  · exact ⟨_, callAction_acts _ _ _⟩
  · exact ⟨_, callAction_acts _ _ _⟩
  · exact ⟨_, callAction_acts _ _ _⟩
  · exact ⟨_, lottieActions_acts b hb⟩

theorem prepared_cases [q.Open] (hb : b ∈ prepared) : b ∈ updates ∨ b.Acts q Value.Refers allEntries := by
  rcases mem_append.mp hb with hb | hb
  · right
    fin_cases hb
    · exact updateWidget_acts
    · exact updateIndicator_acts
    · exact updateScale_acts
    · exact updateSection_acts
    · exact drawRectangle_acts
    · exact drawText_acts
    · exact drawPicture_acts
    · exact drawLine_acts
    · exact drawPolygon_acts
    · exact drawArc_acts
  · exact .inl hb

theorem unprepared_acts (hb : b ∈ unprepared) : b.Acts q Value.Refers fun _ => [] := by
  rcases mem_append.mp hb with hb | hb
  · fin_cases hb
    · exact updateCalendar_acts
    · exact selectTile_acts
  · exact chartActions_acts b hb

end

theorem plain_clear (hb : b ∈ plain) : b.StaysClear := by
  obtain ⟨_, hacts⟩ := plain_acts .within hb
  exact hacts.staysClear

theorem prepared_acts (hb : b ∈ prepared) {gr : Grammar} {config : Value}
    (haccept : (b.rule gr v).on s = (.ok config, s')) (n : Nat) (id : Ident) (params : List Param) :
    Automation.Acts Quietness.within config.Refers (allEntries config)
      (b.build (Generator.ofDepth n) config id params) := by
  -- Only the updates of the kinds need that the configuration was accepted.
  rcases prepared_cases .within hb with hb | hacts
  · obtain ⟨k, -, rfl⟩ := mem_map.mp hb
    exact updateOf_acts haccept n id params
  · exact hacts _ _ _ _

end Behaviour

/-- An accepted action that is to be built. -/
structure Pending where
  behaviour : Behaviour
  config : Value
  accepted : ∃ gr v s t, (behaviour.rule gr v).on s = (.ok config, t)
  id : Ident
  params : List Param

namespace Pending

open Automation Behaviour

def work (n : Nat) (p : Pending) : Build Expr :=
  p.behaviour.build (Generator.ofDepth n) p.config p.id p.params

/-- Everything is there that the action needs and does not wait for before its block. -/
def Met (p : Pending) (s : Session) : Prop :=
  p.behaviour ∈ plain
  ∨ (p.behaviour ∈ prepared
      ∧ ∀ m, p.config.Refers m → m ∈ s.names ∨ AwaitedBy (allEntries p.config) m)
  ∨ (p.behaviour ∈ unprepared ∧ ∀ m, p.config.Refers m → m ∈ s.names)

theorem prepared_outside (p : Pending) (hb : p.behaviour ∈ prepared) (n : Nat) :
    PausesOutside p.config.Refers (allEntries p.config) (p.work n) := by
  obtain ⟨gr, v, s, t, haccept⟩ := p.accepted
  exact (prepared_acts hb haccept n p.id p.params).outside

theorem Met.clear (h : p.Met s) (n : Nat) : (p.work n s).Clear s := by
  rcases h with hb | ⟨hb, hmet⟩ | ⟨hb, hmet⟩
  · exact (plain_clear hb _ _ _ _ s).clear fun _ _ _ hclear => hclear
  · exact (p.prepared_outside hb n).clear hmet
  · exact (unprepared_acts .within hb _ _ _ _).outside.clear fun m hm => .inl (hmet m hm)

theorem Met.follows {u : Session} (h : p.Met s) (hsu : s.Follows u) : p.Met u := by
  rcases h with hb | ⟨hb, hmet⟩ | ⟨hb, hmet⟩
  · exact .inl hb
  · exact .inr (.inl ⟨hb, fun m hm => (hmet m hm).imp_left fun hthere => hsu.names hthere⟩)
  · exact .inr (.inr ⟨hb, fun m hm => hsu.names (hmet m hm)⟩)

/-- Where actions pause.  Plain actions write nothing before their blocks, never pause inside of
    them and stay clear of all others.  So do the other actions, unless an object is missing that
    their options refer to: if they are prepared, one that no lambda among the options refers to; if
    they are not, any; and for refreshed widgets, one that the options of these refer to.  So if
    nothing of the kind is missing, then however the steps of several actions follow each other, the
    current block is the same between the steps, and no block changes once it is there. -/
theorem work_outside (n : Nat) :
    (∀ p : Pending,
      (p.behaviour ∈ plain → ∀ s, (p.work n s).Until (fun u j => j.Clear u) s)
      ∧ (p.behaviour ∈ prepared →
          PausesOutside p.config.Refers (allEntries p.config) (p.work n))
      ∧ (p.behaviour ∈ unprepared → PausesOutside p.config.Refers [] (p.work n)))
    ∧ (∀ (widgets : List Widget) (id : Ident) (params : List Param),
        (∀ w ∈ widgets, ∀ key ∈ Kind.buildingKeys, w.config.has key = false) →
        PausesOutside (fun m => ∃ w ∈ widgets, w.config.Refers m) []
          (widgetAction widgets (refreshWidget (Generator.ofDepth n)) id params []))
    ∧ ∀ (s : Session) (tasks : List Task),
        (∀ t ∈ tasks, ∃ p : Pending, p.Met s ∧ t.resume = (do let _ ← p.work n : Build Unit)) →
        ∀ m k, (Schedule.runWithin m tasks s).2.Beside (Schedule.runWithin (m + k) tasks s).2 := by
  refine ⟨fun p => ⟨fun hb => plain_clear hb _ _ _ _, fun hb => p.prepared_outside hb n,
    fun hb => (unprepared_acts .within hb _ _ _ _).outside⟩, fun widgets id params hnone => ?_,
    fun s tasks htasks m k => ?_⟩
  · refine (Acts.widgetAction (fun w hw => ?_) id params).outside
    exact refreshWidget_within n (fun e he hkey m hm => ⟨w, hw, e, he, hkey, hm⟩) (hnone w hw)
  · refine Schedule.runWithin_beside m k fun t ht u hsu => ?_
    obtain ⟨p, hmet, hresume⟩ := htasks t ht
    -- The task may start late: what was there for it at first is there still.
    rw [hresume]
    exact ((hmet.follows hsu).clear n).bind fun _ v => Session.Beside.refl v

/-- An update of what an object looks like while it is pressed, by code that refers to another
    object. -/
def shadedWhenPressed : Value :=
  .dict [("id", .str "o2"), ("pressed", .dict [("bg_opa", .lambda "return id(t2).f();")])]

def existingObject : Widget := .fresh "o2" (.raw "o2") .obj (.dict [])

def alone : Session := { widgets := [existingObject], completed := true }

def accompanied : Session :=
  { alone with objects := [⟨Ident.declaration (some "t2") lvObj, .raw "t2"⟩] }

def pausedIn? {α : Type} : Job α → Option (Option Nat)
  | .waiting t _ _ => some t.current
  | .done _ _ => none

/-- An accepted update that pauses in its block while no other objects are there, and that refers to
    one. -/
def pausesInside : Except Failure Value → Bool
  | .ok config =>
    pausedIn? ((updateOf .obj Kind.obj.design).build (Generator.ofDepth 1) config
        (Ident.declaration none objUpdateAction) [] alone) == some (some 0)
      && (allEntries config).all fun e => e.1 == "id" || e.2.asked.all (· == some "t2")
  | .error _ => false

def both (p : Pending) : List Task :=
  [Schedule.task 0 "a" (do let _ ← p.work 1), Schedule.task 1 "b" (do let _ ← p.work 1)]

/-- The code for the pressed state is not waited for: the update pauses in the middle of its block
    if the other object is missing.  Two such updates stay clear of each other once it is there. -/
theorem work_outside_shaded :
    ∃ p : Pending, p.behaviour = updateOf .obj Kind.obj.design
      ∧ pausedIn? (p.work 1 alone) = some (some 0)
      ∧ PausesOutside p.config.Refers (allEntries p.config) (p.work 1)
      ∧ PausesOutside (fun m => ∃ w ∈ [existingObject], w.config.Refers m) []
          (widgetAction [existingObject] (refreshWidget (Generator.ofDepth 1)) p.id p.params [])
      ∧ ∀ m k, (Schedule.runWithin m (both p) accompanied).2.Beside
          (Schedule.runWithin (m + k) (both p) accompanied).2 := by
  -- The accepted configuration is only named: running the rule shows what is needed of it.
  obtain ⟨config, t, haccept, hinside⟩ := Check.exists_on_ok (s := {}) (P := (pausesInside · = true))
    (c := (updateOf .obj Kind.obj.design).rule .exhausted shadedWhenPressed) (by decide +kernel) nofun
  obtain ⟨hpaused, hrefers⟩ := Bool.and_eq_true_iff.mp hinside
  let p : Pending := ⟨updateOf .obj Kind.obj.design, config, ⟨_, _, _, _, haccept⟩,
    Ident.declaration none objUpdateAction, []⟩
  have hprepared : p.behaviour ∈ prepared :=
    mem_append_right _ (mem_map.mpr ⟨.obj, by simp [Kind.all], rfl⟩)
  have hmet : p.Met accompanied := by
    refine .inr (.inl ⟨hprepared, fun m hm => .inl ?_⟩)
    obtain ⟨e, he, hkey, hm⟩ := hm
    rcases Bool.or_eq_true_iff.mp (all_eq_true.mp hrefers e he) with hid | hasked
    · exact absurd (beq_iff_eq.mp hid) hkey
    · rw [beq_iff_eq.mp (all_eq_true.mp hasked m hm)]
      exact .head _
  obtain ⟨hactions, hrefresh, hruns⟩ := work_outside 1
  refine ⟨p, rfl, beq_iff_eq.mp hpaused, (hactions p).2.1 hprepared, hrefresh _ _ _ ?_,
    hruns _ _ ?_⟩
  · decide
  · intro t ht
    rcases mem_pair.mp ht with rfl | rfl
    · exact ⟨p, hmet, rfl⟩
    · exact ⟨p, hmet, rfl⟩

end Pending

end Panel
