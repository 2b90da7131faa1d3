import Mathlib.Data.List.Nodup
import Panel.Proofs.Entries
import Panel.Proofs.Work
import Panel.Widget.Properties

/-! # Levels of styles — where a configuration gives properties, and which are written

    A configuration gives properties at several levels: at its top, inside a state, inside a part,
    and inside a state of a part.  Every level stands for one state of one part, and several levels
    may stand for the same.  Of these only the innermost is written: what stands at the top is lost
    beside `default` or `main`, and what stands in a state is lost beside `main`. -/

namespace Panel.Style

open Cpp List Widget

variable {v : Value} {n own : String} {ds : Entries}

/-! ## Levels -/

/-- A level of a configuration: in a part or beside all parts, in a state or beside all states. -/
structure Level where
  part : Option String
  state : Option String
  deriving DecidableEq

def inside (es : Entries) (key : String) : Option Entries :=
  (Entries.get? es key).bind Value.entries?

def under (es : Entries) : Option String → Option Entries
  | none => some es
  | some name => inside es name

def Level.entries? (es : Entries) (l : Level) : Option Entries :=
  (under es l.part).bind fun ds => under ds l.state

/-- The configuration gives a value at a level; `names` are the parts that it may have. -/
def Says (names : List String) (es : Entries) (l : Level) (key : String) (v : Value) : Prop :=
  (∀ p, l.part = some p → p ∈ names) ∧ (∀ st, l.state = some st → st ∈ Constants.states)
    ∧ ∃ ds, l.entries? es = some ds ∧ Entries.get? ds key = some v

/-- Nothing is written for a level: it is beside the parts and there is a main part, it is beside
    the states and there is a default state, or its part is none of the library. -/
def Lost (es : Entries) (l : Level) : Prop :=
  (l.part = none ∧ Entries.has es "main" = true)
    ∨ (l.state = none ∧ ∃ ds, under es l.part = some ds ∧ Entries.has ds "default" = true)
    ∨ ∃ p, l.part = some p ∧ p ∉ Constants.parts

def Level.select (l : Level) : Value :=
  Widget.selector (l.part.getD "main") (l.state.getD "default")

/-- The layers among names that entries have: `own` or else the entries themselves, then the
    others. -/
def layers (own : String) (names : List String) (es : Entries) : List (Option String) :=
  (if Entries.has es own then some own else none)
    :: (names.filter fun n => n != own && Entries.has es n).map some

def survivors (es : Entries) : List (Level × Entries) :=
  (layers "main" Constants.parts es).flatMap fun part =>
    let ds := (under es part).getD []
    (layers "default" Constants.states ds).map fun state =>
      (⟨part, state⟩, (under ds state).getD [])

/-- One thing that is written: the styles or one property of a level. -/
inductive Writing where
  | styles (l : Level) (v : Value)
  | property (l : Level) (name : String) (v : Value)

namespace Writing

def level : Writing → Level
  | styles l _ => l
  | property l _ _ => l

def key : Writing → String
  | styles _ _ => "styles"
  | property _ name _ => name

def value : Writing → Value
  | styles _ v => v
  | property _ _ v => v

def Known : Writing → Prop
  | styles _ _ => True
  | property _ name _ => name ∈ styleNames

end Writing

def writingsAt (l : Level) (ds : Entries) : List Writing :=
  ((Entries.get? ds "styles").map (Writing.styles l)).toList
    ++ styleNames.filterMap fun n => (Entries.get? ds n).map (Writing.property l n)

def writings (es : Entries) : List Writing :=
  (survivors es).flatMap fun (l, ds) => writingsAt l ds

def carryOut (w : Widget) : Writing → Build Unit
  | .styles l v => do
    let styles ← Widget.walked v
    styles.forM fun style => w.addStyle style l.select
  | .property l name v =>
    match property? name with
    | none => pure ()
    | some p => do
      let v ← p.emit v
      let name ← currentProperty name
      w.setStyle name v l.select

/-! ## Collecting -/

def Steady {α : Type} (c : Check α) (a : α) : Prop := ∀ s, c.on s = (.ok a, s)

theorem contains_dict (es : Entries) (key : String) :
    Test.contains (.dict es) key = pure (es.has key) := rfl

variable {es : Entries}

theorem valueAt_dict {key : String} (h : es.get? key = some v) :
    valueAt (.dict es) key = pure v := by
  rw [valueAt, h]

theorem targets_dict (es : Entries) (key : String) : Widget.targets (.dict es) key
      = (es.get? key).elim (pure []) fun v => do return [← awaitValue v] := by
  cases es with
  | nil => rfl
  | cons e es =>
    show awaitEntries key [.dict (e :: es)] = _
    rw [awaitEntries, contains_dict, Entries.has_eq_isSome]
    refine (Build.lift_bind_eq (fun s => rfl) _).trans ?_
    cases hv : Entries.get? (e :: es) key with
    | none => rfl
    | some v =>
      rw [valueAt_dict hv]
      exact Build.lift_bind_eq (fun s => rfl) _

def entriesAmong (keys : List String) (es : Entries) : Entries :=
  keys.filterMap fun k => (Entries.get? es k).map (k, ·)

theorem among_dict (es : Entries) (keys : List String) :
    Steady (among (.dict es) keys) (entriesAmong keys es) := by
  intro s
  induction keys with
  | nil => rfl
  | cons key keys ih =>
    unfold among entriesAmong
    rw [contains_dict, Entries.has_eq_isSome, pure_bind]
    cases hv : es.get? key with
    | none =>
      rw [filterMap_cons_none (by rw [hv]; rfl)]
      exact ih
    | some v =>
      rw [Option.isSome_some, if_pos rfl, valueAt_dict hv, pure_bind,
        Check.on_bind_ok _ ih, filterMap_cons_some (by rw [hv]; rfl)]
      rfl

theorem collectProps_dict (es : Entries) :
    Steady (collectProps (.dict es)) (entriesAmong collectedNames es) :=
  among_dict es collectedNames

section Under

variable {α : Type} {collect : Value → Check α} {found : Entries → α}

def foundUnder (found : Entries → α) (es : Entries) (names : List String)
    (start : List (String × α)) : List (String × α) :=
  names.foldl (fun acc n =>
    match inside es n with
    | some ds => putNamed acc n (found ds)
    | none => acc) start

/-- The values under names are dictionaries that can be collected from. -/
def Collects (collect : Value → Check α) (found : Entries → α) (es : Entries)
    (names : List String) : Prop :=
  ∀ n ∈ names, ∀ v, Entries.get? es n = some v →
    ∃ ds, v = .dict ds ∧ Steady (collect (.dict ds)) (found ds)

theorem collectUnder_dict (es : Entries) (names : List String) :
    ∀ start, Collects collect found es names →
      Steady (collectUnder collect (.dict es) names start) (foundUnder found es names start) := by
  induction names with
  | nil =>
    intro start _ s
    rfl
  | cons n names ih =>
    intro start hdict s
    have hrest : Collects collect found es names := (forall_mem_cons.mp hdict).2
    unfold collectUnder foundUnder
    rw [contains_dict, Entries.has_eq_isSome, pure_bind, foldl_cons]
    cases hv : es.get? n with
    | none =>
      rw [inside, hv]
      exact ih start hrest s
    | some v =>
      obtain ⟨ds, rfl, hds⟩ := hdict n mem_cons_self v hv
      rw [Option.isSome_some, if_pos rfl, valueAt_dict hv, pure_bind,
        Check.on_bind_ok _ (hds s), inside, hv]
      exact ih (putNamed start n (found ds)) hrest s

theorem collectUnder_error {e : Failure} (hcollect : ∀ ds, Steady (collect (.dict ds)) (found ds))
    (es : Entries) (names : List String) :
    ∀ start, (∀ n ∈ names, ∀ v, es.get? n = some v →
        (∃ ds, v = .dict ds) ∨ ∀ s, (collect v).on s = (.error e, s)) →
      (∃ n ∈ names, ∃ v, es.get? n = some v ∧ v.isDict = false) →
      ∀ s, (collectUnder collect (.dict es) names start).on s = (.error e, s) := by
  induction names with
  | nil =>
    rintro start _ ⟨n, hn, -⟩
    exact nomatch hn
  | cons n names ih =>
    intro start hdict hbad s
    have hrest : ∀ m ∈ names, ∀ v, es.get? m = some v →
        (∃ ds, v = .dict ds) ∨ ∀ s, (collect v).on s = (.error e, s) :=
      (forall_mem_cons.mp hdict).2
    -- the name at fault is this one, or one of the rest
    have hbad' : (∀ v, es.get? n = some v → v.isDict = true) →
        ∃ m ∈ names, ∃ v, es.get? m = some v ∧ v.isDict = false := by
      intro hn
      obtain ⟨m, hm, v, hv, hnot⟩ := hbad
      rcases mem_cons.mp hm with rfl | hm
      · rw [hn v hv] at hnot
        cases hnot
      · exact ⟨m, hm, v, hv, hnot⟩
    unfold collectUnder
    rw [contains_dict, Entries.has_eq_isSome, pure_bind]
    cases hv : es.get? n with
    | none =>
      refine ih start hrest (hbad' fun v h => ?_) s
      rw [hv] at h
      cases h
    | some v =>
      rw [Option.isSome_some, if_pos rfl, valueAt_dict hv, pure_bind]
      rcases hdict n mem_cons_self v hv with ⟨ds, rfl⟩ | herror
      · rw [Check.on_bind_ok _ (hcollect ds s)]
        refine ih _ hrest (hbad' fun v h => ?_) s
        rw [hv] at h
        cases h
        rfl
      · exact Check.on_bind_error _ (herror s)

end Under

theorem inside_eq_none (h : es.has n = false) : inside es n = none := by
  rw [inside, Entries.get?_eq_none_of h]
  rfl

def AreDicts (names : List String) (es : Entries) : Prop :=
  ∀ n ∈ names, ∀ v, Entries.get? es n = some v → ∃ ds, v = .dict ds

theorem inside_eq_some {names : List String} (hdict : AreDicts names es) (hn : n ∈ names)
    (h : es.has n = true) : ∃ ds, inside es n = some ds := by
  obtain ⟨v, hv⟩ := Entries.exists_get?_of h
  obtain ⟨ds, rfl⟩ := hdict n hn v hv
  exact ⟨ds, by rw [inside, hv]; rfl⟩

section Layers

variable {α : Type} (found : Entries → α) (es : Entries) (own : String)

def foundAt (own : String) (n : Option String) : String × α :=
  (n.getD own, found ((under es n).getD []))

theorem foundAt_some (h : inside es n = some ds) :
    foundAt found es own (some n) = (n, found ds) := by
  rw [foundAt, under, h]
  rfl

theorem putNamed_of_not_mem {acc : List (String × α)} (a : α) (h : ∀ x ∈ acc, x.1 ≠ n) :
    putNamed acc n a = acc ++ [(n, a)] := by
  rw [putNamed_eq, putBy_of_not_mem _ h]

theorem foundUnder_new (names : List String) (acc : List (String × α)) (hnodup : names.Nodup)
    (hnew : ∀ n ∈ names, ∀ x ∈ acc, x.1 ≠ n) (hdict : AreDicts names es) :
    foundUnder found es names acc
      = acc ++ ((names.filter (es.has)).map some).map (foundAt found es own) := by
  induction names generalizing acc with
  | nil => exact (append_nil acc).symm
  | cons n names ih =>
    obtain ⟨hn, hnodup⟩ := nodup_cons.mp hnodup
    have hrest : AreDicts names es := (forall_mem_cons.mp hdict).2
    unfold foundUnder
    rw [foldl_cons]
    cases hhas : es.has n with
    | false =>
      rw [inside_eq_none hhas, filter_cons_of_neg (by rw [hhas]; decide)]
      exact ih acc hnodup (forall_mem_cons.mp hnew).2 hrest
    | true =>
      obtain ⟨ds, hds⟩ := inside_eq_some hdict mem_cons_self hhas
      rw [hds, filter_cons_of_pos hhas]
      dsimp only
      rw [putNamed_of_not_mem (found ds) (hnew n mem_cons_self)]
      refine (ih _ hnodup ?_ hrest).trans ?_
      · intro m hm x hx
        rcases mem_append.mp hx with hx | hx
        · exact hnew m (mem_cons_of_mem _ hm) x hx
        · rw [mem_singleton.mp hx]
          intro (hnm : n = m)
          exact hn (hnm ▸ hm)
      · rw [append_assoc, map_cons, map_cons, foundAt_some found es own hds]
        rfl

/-- What is found, starting from the entries themselves: the name that stands for them comes first
    and takes their place. -/
theorem foundUnder_own (names : List String) (hnodup : (own :: names).Nodup)
    (hdict : AreDicts (own :: names) es) : foundUnder found es (own :: names) [(own, found es)]
      = (layers own (own :: names) es).map (foundAt found es own) := by
  obtain ⟨hown, hnodup⟩ := nodup_cons.mp hnodup
  have hfilter : ((own :: names).filter fun n => n != own && es.has n) = names.filter (es.has) := by
    rw [filter_cons_of_neg (by simp)]
    refine filter_congr fun n hn => ?_
    have hne : n ≠ own := fun h => hown (h ▸ hn)
    simp [hne]
  -- Only the first name can meet what was found already, so the others are new in both cases.
  have hnew : ∀ a : α, foundUnder found es names [(own, a)]
      = (own, a) :: ((names.filter (es.has)).map some).map (foundAt found es own) := by
    refine fun a => foundUnder_new found es own names _ hnodup ?_ (forall_mem_cons.mp hdict).2
    intro n hn x hx
    rw [mem_singleton.mp hx]
    intro (h : own = n)
    exact hown (h ▸ hn)
  unfold layers
  rw [hfilter, map_cons]
  cases hhas : es.has own with
  | false =>
    refine Eq.trans ?_ (hnew _)
    unfold foundUnder
    rw [foldl_cons, inside_eq_none hhas]
    rfl
  | true =>
    obtain ⟨ds, hds⟩ := inside_eq_some hdict mem_cons_self hhas
    rw [if_pos rfl, foundAt_some found es own hds, ← hnew]
    unfold foundUnder
    rw [foldl_cons, hds]
    dsimp only
    rw [putNamed, if_pos (beq_self_eq_true own)]

end Layers

theorem states_nodup : Constants.states.Nodup := by decide

theorem parts_nodup : Constants.parts.Nodup := by decide

def StatesAreDicts (es : Entries) : Prop :=
  ∀ st ∈ Constants.states, ∀ v, Entries.get? es st = some v → ∃ ds, v = .dict ds

def statesFound (es : Entries) : List (String × Entries) :=
  (layers "default" Constants.states es).map (foundAt (entriesAmong collectedNames) es "default")

theorem collectStates_dict (h : StatesAreDicts es) :
    Steady (collectStates (.dict es)) (statesFound es) := by
  intro s
  unfold collectStates
  rw [Check.on_bind_ok _ (collectProps_dict es s), collectUnder_dict es Constants.states _ ?_ s]
  · rw [statesFound]
    congr 2
    exact foundUnder_own _ es "default" _ states_nodup h
  · intro n hn v hv
    obtain ⟨ds, rfl⟩ := h n hn v hv
    exact ⟨ds, rfl, collectProps_dict ds⟩

def partsFound (es : Entries) : List (String × List (String × Entries)) :=
  (layers "main" Constants.parts es).map (foundAt statesFound es "main")

theorem collectParts_dict (hstates : StatesAreDicts es)
    (hparts : ∀ p ∈ Constants.parts, ∀ v, es.get? p = some v →
      ∃ ds, v = .dict ds ∧ StatesAreDicts ds) :
    Steady (collectParts (.dict es)) (partsFound es) := by
  intro s
  unfold collectParts
  rw [Check.on_bind_ok _ (collectStates_dict hstates s),
    collectUnder_dict es Constants.parts _ ?_ s]
  · rw [partsFound]
    congr 2
    refine foundUnder_own _ es "main" _ parts_nodup fun p hp v hv => ?_
    obtain ⟨ds, hds, -⟩ := hparts p hp v hv
    exact ⟨ds, hds⟩
  · intro p hp v hv
    obtain ⟨ds, rfl, hds⟩ := hparts p hp v hv
    exact ⟨ds, rfl, collectStates_dict hds⟩

theorem collectParts_flag (hstates : ∀ st ∈ Constants.states, ∀ v, es.get? st = some v →
      (∃ ds, v = .dict ds) ∨ (∃ b, v = .bool b) ∨ ∃ body, v = .lambda body)
    (hflag : ∃ st ∈ Constants.states, ∃ v, es.get? st = some v ∧ v.isDict = false)
    (s : Session) : (collectParts (.dict es)).on s = (.error .wrongKind, s) := by
  have hcollect : (collectStates (.dict es)).on s = (.error .wrongKind, s) := by
    unfold collectStates
    rw [Check.on_bind_ok _ (collectProps_dict es s)]
    refine collectUnder_error collectProps_dict es _ _ (fun st hst v hv => ?_) hflag s
    rcases hstates st hst v hv with hdict | hswitch
    · exact Or.inl hdict
    · refine Or.inr fun s => ?_
      rcases hswitch with ⟨b, rfl⟩ | ⟨body, rfl⟩ <;> rfl
  unfold collectParts
  exact Check.on_bind_error _ hcollect

/-! ## Writing -/

theorem forM_eq_pure {α : Type} (f : α → Build Unit) (xs : List α)
    (h : ∀ x ∈ xs, f x = pure ()) : forM xs f = pure () := by
  induction xs with
  | nil => rfl
  | cons x xs ih =>
    rw [forM_cons, h x mem_cons_self, pure_bind, ih (forall_mem_cons.mp h).2]

theorem property?_eq_none (h : n ∉ styleNames) : property? n = none := by
  rw [property?, Option.map_eq_none_iff, find?_eq_none]
  intro x hx hn
  exact h (mem_map.mpr ⟨x, hx, beq_iff_eq.mp hn⟩)

theorem not_styleName (h : n ∈ Constants.flags ++ ["styles", "group"]) : n ∉ styleNames := by
  revert n
  decide +kernel

theorem get?_entriesAmong (keys : List String) (k : String) (es : Entries) :
    Entries.get? (entriesAmong keys es) k = if k ∈ keys then es.get? k else none := by
  induction keys with
  | nil => rfl
  | cons key keys ih =>
    unfold entriesAmong at ih ⊢
    cases hv : es.get? key with
    | none =>
      rw [filterMap_cons_none (by rw [hv]; rfl), ih]
      grind
    | some v =>
      rw [filterMap_cons_some (by rw [hv]; rfl), Entries.get?_cons, ih]
      grind

section Programs

variable (w : Widget) (l : Level)

theorem applyStyleProperties_eq (es : Entries) : w.applyStyleProperties l.select es
      = forM es fun e => carryOut w (.property l e.1 e.2) := by
  induction es with
  | nil => rfl
  | cons e es ih =>
    obtain ⟨n, v⟩ := e
    rw [forM_cons, ← ih, applyStyleProperties]
    dsimp only
    rw [carryOut]
    cases property? n with
    | none => rfl
    | some p => simp only [bind_assoc]

theorem applyState_eq (ds : Entries) :
    w.applyState (l.part.getD "main") (l.state.getD "default") (entriesAmong collectedNames ds)
      = forM (writingsAt l ds) (carryOut w) := by
  have hstyles : Entries.get? (entriesAmong collectedNames ds) "styles" = ds.get? "styles" :=
    (get?_entriesAmong _ _ ds).trans (if_pos (mem_append_right _ mem_cons_self))
  have hprops : w.applyStyleProperties l.select (entriesAmong collectedNames ds)
      = forM (styleNames.filterMap fun n => (ds.get? n).map (Writing.property l n))
          (carryOut w) := by
    have hsplit : entriesAmong collectedNames ds = entriesAmong styleNames ds
        ++ entriesAmong (Constants.flags ++ ["styles", "group"]) ds := by
      unfold entriesAmong collectedNames
      rw [append_assoc, filterMap_append]
    have hrest : forM (entriesAmong (Constants.flags ++ ["styles", "group"]) ds)
        (fun e => carryOut w (.property l e.1 e.2)) = pure () := by
      refine forM_eq_pure _ _ fun e he => ?_
      obtain ⟨n, hn, hv⟩ := mem_filterMap.mp he
      obtain ⟨v, -, rfl⟩ := Option.map_eq_some_iff.mp hv
      rw [carryOut, property?_eq_none (not_styleName hn)]
    have hmap : (styleNames.filterMap fun n => (ds.get? n).map (Writing.property l n))
        = (entriesAmong styleNames ds).map fun e => Writing.property l e.1 e.2 := by
      unfold entriesAmong
      rw [map_filterMap]
      congr 1
      funext n
      rw [Option.map_map]
      rfl
    rw [applyStyleProperties_eq, hsplit, forM_append, hrest, bind_pure_unit, hmap, forM_map]
  unfold applyState writingsAt
  rw [hstyles, forM_append, ← hprops]
  cases ds.get? "styles" with
  | none => rfl
  | some styles =>
    rw [Option.map_some, Option.toList_some, forM_cons, forM_nil, bind_pure_unit,
      carryOut, bind_assoc]
    rfl

theorem applyStates_eq (part : Option String) (ds : Entries) :
    w.applyStates (part.getD "main") (statesFound ds)
      = forM (layers "default" Constants.states ds) fun state =>
          forM (writingsAt ⟨part, state⟩ ((under ds state).getD [])) (carryOut w) := by
  unfold statesFound
  induction layers "default" Constants.states ds with
  | nil => rfl
  | cons state rest ih =>
    rw [map_cons, forM_cons, foundAt, applyStates, ih, ← applyState_eq w ⟨part, state⟩]

theorem applyParts_eq (es : Entries) :
    w.applyParts (partsFound es) = forM (writings es) (carryOut w) := by
  unfold partsFound writings survivors
  rw [flatMap_assoc, forM_flatMap]
  induction layers "main" Constants.parts es with
  | nil => rfl
  | cons part rest ih =>
    rw [map_cons, forM_cons, foundAt, applyParts, ih, applyStates_eq]
    congr 1
    rw [flatMap_map, forM_flatMap]

end Programs

/-! ## What is written and what is lost -/

variable {names : List String}

theorem none_mem_layers :
    none ∈ layers own names es ↔ es.has own = false := by
  unfold layers
  cases es.has own <;> simp

theorem some_mem_layers (hown : own ∈ names) :
    some n ∈ layers own names es ↔ n ∈ names ∧ es.has n = true := by
  have htail : some n ∈ (names.filter fun n => n != own && es.has n).map some
      ↔ n ∈ names ∧ n ≠ own ∧ es.has n = true := by
    simp
  unfold layers
  rw [mem_cons, htail]
  by_cases hn : n = own
  · subst hn
    cases hhas : es.has n <;> simp [hown]
  · have hhead : some n ≠ if es.has own then some own else none := by
      cases es.has own <;> simp [hn]
    simp [hhead, hn]

theorem layers_nodup (h : names.Nodup) (es : Entries) :
    (layers own names es).Nodup := by
  unfold layers
  rw [nodup_cons]
  constructor
  · cases es.has own <;> simp
  · exact (h.filter _).map fun _ _ heq => Option.some.inj heq

/-- The values at states and parts are dictionaries, and only named parts are there. -/
structure Shaped (names : List String) (es : Entries) : Prop where
  states : StatesAreDicts es
  parts : ∀ p ∈ Constants.parts, ∀ v, Entries.get? es p = some v →
    p ∈ names ∧ ∃ ds, v = .dict ds ∧ StatesAreDicts ds

section Coverage

variable {names : List String} {es : Entries} {l : Level}

theorem has_of_inside (h : inside es n = some ds) : es.has n = true := by
  obtain ⟨v, hv, -⟩ := Option.bind_eq_some_iff.mp h
  exact Entries.has_of_get? hv

theorem mem_layers (hown : own ∈ names) (hes : AreDicts names es) {name : Option String} :
    name ∈ layers own names es ↔ (∃ ds, under es name = some ds) ∧ (∀ n, name = some n → n ∈ names)
      ∧ (name = none → es.has own = false) := by
  cases name with
  | none => simp [none_mem_layers, under]
  | some n =>
    rw [some_mem_layers hown]
    constructor
    · rintro ⟨hn, hhas⟩
      exact ⟨inside_eq_some hes hn hhas, fun _ h => Option.some.inj h ▸ hn, nofun⟩
    · rintro ⟨⟨ds, hds⟩, hn, -⟩
      exact ⟨hn n rfl, has_of_inside hds⟩

theorem Shaped.areDicts (hes : Shaped names es) : AreDicts Constants.parts es := by
  intro p hp v hv
  obtain ⟨-, ds, hds, -⟩ := hes.parts p hp v hv
  exact ⟨ds, hds⟩

theorem Shaped.under (hes : Shaped names es) {part : Option String} (h : under es part = some ds)
    (hpart : ∀ p, part = some p → p ∈ Constants.parts) :
    StatesAreDicts ds ∧ ∀ p, part = some p → p ∈ names := by
  cases part with
  | none => exact ⟨Option.some.inj h ▸ hes.states, nofun⟩
  | some p =>
    obtain ⟨v, hv, hds⟩ := Option.bind_eq_some_iff.mp h
    obtain ⟨hname, bs, rfl, hbs⟩ := hes.parts p (hpart p rfl) v hv
    obtain rfl : bs = ds := Option.some.inj hds
    exact ⟨hbs, fun _ h => Option.some.inj h ▸ hname⟩

theorem mem_survivors_iff_layers : (l, ds) ∈ survivors es
      ↔ l.part ∈ layers "main" Constants.parts es
        ∧ l.state ∈ layers "default" Constants.states ((under es l.part).getD [])
        ∧ (under ((under es l.part).getD []) l.state).getD [] = ds := by
  obtain ⟨part, state⟩ := l
  simp only [survivors, mem_flatMap, mem_map, Prod.mk.injEq, Level.mk.injEq]
  constructor
  · rintro ⟨part', hpart, state', hstate, ⟨rfl, rfl⟩, hds⟩
    exact ⟨hpart, hstate, hds⟩
  · rintro ⟨hpart, hstate, hds⟩
    exact ⟨part, hpart, state, hstate, ⟨rfl, rfl⟩, hds⟩

theorem mem_survivors (hes : Shaped names es) : (l, ds) ∈ survivors es
      ↔ l.entries? es = some ds ∧ (∀ p, l.part = some p → p ∈ names)
        ∧ (∀ st, l.state = some st → st ∈ Constants.states) ∧ ¬ Lost es l := by
  rw [mem_survivors_iff_layers, mem_layers (by decide) hes.areDicts]
  constructor
  · rintro ⟨⟨⟨as, has⟩, hparts, hmain⟩, hstate, hds⟩
    obtain ⟨hdicts, hnames⟩ := hes.under has hparts
    rw [has, Option.getD_some] at hstate hds
    obtain ⟨⟨bs, hbs⟩, hstates, hdefault⟩ := (mem_layers (by decide) hdicts).mp hstate
    rw [hbs, Option.getD_some] at hds
    subst hds
    refine ⟨?_, hnames, hstates, ?_⟩
    · rw [Level.entries?, has]
      exact hbs
    · -- Each way to be lost is a name that the layers leave out.
      rintro (⟨hpart, hhas⟩ | ⟨hnone, cs, hcs, hhas⟩ | ⟨p, hp, hnot⟩)
      · exact Bool.false_ne_true ((hmain hpart).symm.trans hhas)
      · obtain rfl := Option.some.inj (has.symm.trans hcs)
        exact Bool.false_ne_true ((hdefault hnone).symm.trans hhas)
      · exact hnot (hparts p hp)
  · rintro ⟨hentries, hnames, hstates, hlost⟩
    obtain ⟨as, has, hbs⟩ := Option.bind_eq_some_iff.mp hentries
    simp only [Lost, not_or, not_and, not_exists, Bool.not_eq_true, Decidable.not_not] at hlost
    obtain ⟨hmain, hdefault, hparts⟩ := hlost
    refine ⟨⟨⟨as, has⟩, hparts, hmain⟩, ?_⟩
    rw [has, Option.getD_some, mem_layers (by decide) (hes.under has hparts).1, hbs]
    exact ⟨⟨⟨ds, rfl⟩, hstates, fun hnone => hdefault hnone as has⟩, rfl⟩

theorem mem_writingsAt {x : Writing} :
    x ∈ writingsAt l ds ↔ x.level = l ∧ x.Known ∧ ds.get? x.key = some x.value := by
  unfold writingsAt
  rw [mem_append, Option.mem_toList, mem_filterMap]
  cases x with
  | styles l' v =>
    simp only [Writing.level, Writing.key, Writing.value, Writing.Known, Option.map_eq_some_iff,
      Writing.styles.injEq, reduceCtorEq, and_false, exists_false, or_false, true_and]
    constructor
    · rintro ⟨x, hx, rfl, rfl⟩
      exact ⟨rfl, hx⟩
    · rintro ⟨rfl, hv⟩
      exact ⟨v, hv, rfl, rfl⟩
  | property l' n v =>
    simp only [Writing.level, Writing.key, Writing.value, Writing.Known, Option.map_eq_some_iff,
      Writing.property.injEq, reduceCtorEq, and_false, exists_false, false_or]
    constructor
    · rintro ⟨m, hm, x, hx, rfl, rfl, rfl⟩
      exact ⟨rfl, hm, hx⟩
    · rintro ⟨rfl, hn, hv⟩
      exact ⟨n, hn, v, hv, rfl, rfl, rfl⟩

theorem mem_writings (hes : Shaped names es) (x : Writing) :
    x ∈ writings es ↔ x.Known ∧ Says names es x.level x.key x.value ∧ ¬ Lost es x.level := by
  unfold writings
  rw [mem_flatMap]
  constructor
  · rintro ⟨⟨l, ds⟩, hmem, hx⟩
    obtain ⟨rfl, hknown, hv⟩ := mem_writingsAt.mp hx
    obtain ⟨hentries, hparts, hstates, hlost⟩ := (mem_survivors hes).mp hmem
    exact ⟨hknown, ⟨hparts, hstates, ds, hentries, hv⟩, hlost⟩
  · rintro ⟨hknown, ⟨hparts, hstates, ds, hentries, hv⟩, hlost⟩
    exact ⟨(x.level, ds), (mem_survivors hes).mpr ⟨hentries, hparts, hstates, hlost⟩,
      mem_writingsAt.mpr ⟨rfl, hknown, hv⟩⟩

end Coverage

theorem styleNames_nodup : styleNames.Nodup := by decide +kernel

theorem writingsAt_nodup (l : Level) (ds : Entries) : (writingsAt l ds).Nodup := by
  unfold writingsAt
  rw [nodup_append]
  refine ⟨?_, ?_, ?_⟩
  · cases ds.get? "styles" <;> simp
  · refine styleNames_nodup.filterMap fun n m x hn hm => ?_
    obtain ⟨v, -, rfl⟩ := Option.map_eq_some_iff.mp hn
    obtain ⟨v', -, h⟩ := Option.map_eq_some_iff.mp hm
    cases h
    rfl
  · intro x hx y hy
    obtain ⟨v, -, rfl⟩ := Option.map_eq_some_iff.mp (Option.mem_toList.mp hx)
    obtain ⟨n, -, hn⟩ := mem_filterMap.mp hy
    obtain ⟨v', -, rfl⟩ := Option.map_eq_some_iff.mp hn
    exact nofun

theorem survivors_levels_nodup (es : Entries) : ((survivors es).map (·.1)).Nodup := by
  have hmap : (survivors es).map (·.1) = (layers "main" Constants.parts es).flatMap fun part =>
      (layers "default" Constants.states ((under es part).getD [])).map (Level.mk part) := by
    unfold survivors
    rw [map_flatMap]
    congr 1
    funext part
    rw [map_map]
    rfl
  rw [hmap, nodup_flatMap]
  constructor
  · intro part _
    refine (layers_nodup states_nodup _).map fun a b h => ?_
    cases h
    rfl
  · refine (layers_nodup parts_nodup es).imp fun hne l ha hb => ?_
    obtain ⟨a, -, rfl⟩ := mem_map.mp ha
    obtain ⟨b, -, h⟩ := mem_map.mp hb
    exact hne (congrArg Level.part h).symm

theorem writings_nodup (es : Entries) : (writings es).Nodup := by
  unfold writings
  rw [nodup_flatMap]
  refine ⟨fun x _ => writingsAt_nodup x.1 x.2, ?_⟩
  refine (pairwise_map.mp (survivors_levels_nodup es)).imp fun hne x ha hb => ?_
  exact hne ((mem_writingsAt.mp ha).1.symm.trans (mem_writingsAt.mp hb).1)

/-! ## Flags -/

/-- The layer that stands for a name: the name if it is there, else the entries themselves. -/
def front (own : String) (es : Entries) : Option String :=
  if Entries.has es own then some own else none

/-- The level that stands for the default state of the main part. -/
def frontLevel (es : Entries) : Level :=
  ⟨front "main" es, front "default" ((under es (front "main" es)).getD [])⟩

def frontEntries (es : Entries) : Entries :=
  (under ((under es (front "main" es)).getD []) (frontLevel es).state).getD []

theorem front_getD (own : String) (es : Entries) : (front own es).getD own = own := by
  unfold front
  cases es.has own <;> rfl

theorem mainDefault_partsFound (es : Entries) :
    mainDefault (partsFound es) = entriesAmong collectedNames (frontEntries es) := by
  have hpart : (partsFound es).find? (·.1 == "main")
      = some (foundAt statesFound es "main" (front "main" es)) := by
    refine find?_cons_of_pos ?_
    show ((front "main" es).getD "main" == "main") = true
    rw [front_getD]
    rfl
  have hstate : ∀ ds, (statesFound ds).find? (·.1 == "default")
      = some (foundAt (entriesAmong collectedNames) ds "default" (front "default" ds)) := by
    intro ds
    refine find?_cons_of_pos ?_
    show ((front "default" ds).getD "default" == "default") = true
    rw [front_getD]
    rfl
  rw [mainDefault, hpart]
  show (((statesFound _).find? _).map _).getD [] = _
  rw [hstate]
  rfl

theorem mem_entriesAmong {keys : List String} :
    (n, v) ∈ entriesAmong keys es ↔ n ∈ keys ∧ es.get? n = some v := by
  unfold entriesAmong
  rw [mem_filterMap]
  constructor
  · rintro ⟨m, hm, h⟩
    obtain ⟨x, hx, heq⟩ := Option.map_eq_some_iff.mp h
    cases heq
    exact ⟨hm, hx⟩
  · rintro ⟨hn, hv⟩
    exact ⟨n, hn, by rw [hv]; rfl⟩

theorem map_fst_entriesAmong_sublist (keys : List String) (es : Entries) :
    ((entriesAmong keys es).map (·.1)).Sublist keys := by
  induction keys with
  | nil => exact List.Sublist.refl _
  | cons k keys ih =>
    unfold entriesAmong
    cases hv : es.get? k with
    | none =>
      rw [filterMap_cons_none (by rw [hv]; rfl)]
      exact ih.cons k
    | some v =>
      rw [filterMap_cons_some (by rw [hv]; rfl)]
      exact ih.cons_cons k

theorem collectedNames_nodup : collectedNames.Nodup := by
  unfold collectedNames
  rw [append_assoc, nodup_append]
  refine ⟨styleNames_nodup, by decide, fun n hn m hm => ?_⟩
  rintro rfl
  exact not_styleName hm hn

theorem flagsOf_nodup (es : Entries) : ((flagsOf (partsFound es)).map (·.1)).Nodup := by
  unfold flagsOf
  rw [mainDefault_partsFound]
  refine List.Nodup.sublist ?_ collectedNames_nodup
  exact (filter_sublist.map _).trans (map_fst_entriesAmong_sublist _ _)

theorem mem_survivors_front (es : Entries) : (frontLevel es, frontEntries es) ∈ survivors es := by
  unfold survivors
  refine mem_flatMap.mpr ⟨front "main" es, mem_cons_self, ?_⟩
  exact mem_map.mpr ⟨(frontLevel es).state, mem_cons_self, rfl⟩

/-- The flags that are switched are those said at the level for the default state of the main
    part. -/
theorem mem_flagsOf (hes : Shaped names es) :
    (n, v) ∈ flagsOf (partsFound es) ↔ n ∈ Constants.flags ∧ Says names es (frontLevel es) n v := by
  obtain ⟨hentries, hparts, hstates, -⟩ := (mem_survivors hes).mp (mem_survivors_front es)
  unfold flagsOf
  rw [mainDefault_partsFound, mem_filter, mem_entriesAmong, contains_iff_mem]
  constructor
  · rintro ⟨⟨-, hv⟩, hn⟩
    exact ⟨hn, hparts, hstates, _, hentries, hv⟩
  · rintro ⟨hn, -, -, ds, hds, hv⟩
    obtain rfl := Option.some.inj (hentries.symm.trans hds)
    have hcollected : n ∈ collectedNames := mem_append_left _ (mem_append_right _ hn)
    exact ⟨⟨hcollected, hv⟩, hn⟩

theorem frontLevel_eq_top_iff (es : Entries) :
    frontLevel es = ⟨none, none⟩ ↔ ¬ Lost es ⟨none, none⟩ := by
  have hlost : Lost es ⟨none, none⟩ ↔ es.has "main" = true ∨ es.has "default" = true := by
    simp [Lost, under]
  rw [hlost, frontLevel, Level.mk.injEq]
  unfold front
  cases es.has "main" with
  | true => simp
  | false => simp [under]

/-- The names of switches: those set, those cleared, those decided. -/
def switched (s : Widget.Switches) : List String := s.on ++ s.off ++ s.decided.map (·.1)

theorem switches_cons (hv : v.isLambda = false) (es : Entries) : Widget.Switches.of ((n, v) :: es)
      = if v.truthy then { Widget.Switches.of es with on := n :: (Widget.Switches.of es).on }
        else { Widget.Switches.of es with off := n :: (Widget.Switches.of es).off } := by
  unfold Widget.Switches.of
  dsimp only
  rw [filterMap_cons, filterMap_cons, filterMap_cons]
  dsimp only
  rw [hv]
  generalize v.truthy = b
  cases v with
  | lambda body => cases hv
  | _ => cases b <;> rfl

theorem switched_perm (es : Entries) : (switched (Widget.Switches.of es)).Perm (es.map (·.1)) := by
  induction es with
  | nil => exact List.Perm.refl _
  | cons e es ih =>
    obtain ⟨n, v⟩ := e
    rw [map_cons]
    refine List.Perm.trans ?_ (ih.cons n)
    cases hv : v.isLambda with
    | true =>
      cases v with
      | lambda body => exact perm_middle
      | _ => cases hv
    | false =>
      rw [switches_cons hv]
      cases v.truthy with
      | true => exact List.Perm.refl _
      | false =>
        show ((Widget.Switches.of es).on ++ n :: (Widget.Switches.of es).off ++ _).Perm _
        exact perm_middle.append_right _

end Panel.Style
