import Panel.Automation.Trigger
import Panel.Proofs.Questions

/-! # Runs of work — what stays whatever is done meanwhile

    Work that waits goes on in a session that other work has changed.  What other work may do is a
    frame: it may add, but nothing that is known by then is lost. -/

namespace Panel

open Cpp List Code

variable (e : Expr) (w : Widget) {α : Type} {b : Build α} {c : Check α}

variable {id : Ident}

/-! ## Frames -/

/-- Two states of one widget. -/
@[grind]
def Widget.Alike (v w : Widget) : Prop :=
  (v.key = w.key ∧ v.var = w.var) ∧ v.kind = w.kind ∧ v.config = w.config

namespace Session

def names (s : Session) : List (Option String) := s.objects.map (·.id.name)

/-- The names that widgets are known by, in the order in which they joined. -/
def keys (s : Session) : List String := s.widgets.map (·.key)

/-- Every widget that has a name is known by the name of an object. -/
def Rooted (s : Session) : Prop := ∀ w ∈ s.widgets, w.key ≠ "" → some w.key ∈ s.names

end Session

/-- What a later session keeps of an earlier one: the names of all widgets, in their places; the
    widgets that have a name, but for those whose names are free; and the objects.  A name that is
    taken meanwhile is taken once. -/
structure Frame (free : List String) (s t : Session) : Prop where
  keys : s.keys <+: t.keys
  widgets : ∀ {i : Nat} {w : Widget}, s.widgets[i]? = some w → w.key ≠ "" → w.key ∉ free →
    ∃ v : Widget, t.widgets[i]? = some v ∧ v.Alike w
  names : s.names <+: t.names
  once : ∀ n, t.names.count n ≤ max 1 (s.names.count n)
  rooted : t.Rooted

namespace Frame

variable {s t u : Session} {free free' : List String}

theorem of_eq (hs : s.Rooted) (hwidgets : t.widgets = s.widgets) (hobjects : t.objects = s.objects) :
    Frame free s t := by
  have hnames : t.names = s.names := congrArg (map fun v : Variable => v.id.name) hobjects
  have hkeys : t.keys = s.keys := congrArg (map Widget.key) hwidgets
  refine ⟨hkeys ▸ prefix_refl _, fun hw _ _ => ⟨_, hwidgets ▸ hw, by grind⟩, ?_, fun n => ?_, ?_⟩
  · exact hnames ▸ prefix_refl _
  · exact hnames ▸ Nat.le_max_right _ _
  · rwa [Session.Rooted, hnames, hwidgets]

theorem refl (hs : s.Rooted) : Frame free s s := of_eq hs rfl rfl

theorem trans (hst : Frame free s t) (htu : Frame free t u) : Frame free s u where
  keys := hst.keys.trans htu.keys
  widgets hw hkey hfree := by
    obtain ⟨v, hv, halike⟩ := hst.widgets hw hkey hfree
    rw [← halike.1.1] at hkey hfree
    obtain ⟨v', hv', halike'⟩ := htu.widgets hv hkey hfree
    exact ⟨v', hv', by grind⟩
  names := hst.names.trans htu.names
  once n := Nat.le_trans (htu.once n) (Nat.max_le.mpr ⟨Nat.le_max_left _ _, hst.once n⟩)
  rooted := htu.rooted

theorem mono (h : Frame free s t) (hfree : free ⊆ free') : Frame free' s t :=
  { h with widgets := fun hw hkey hnot => h.widgets hw hkey fun hmem => hnot (hfree hmem) }

theorem mem_names (h : Frame free s t) {n : Option String} (hn : n ∈ s.names) : n ∈ t.names :=
  h.names.subset hn

theorem length_widgets (h : Frame free s t) : s.widgets.length ≤ t.widgets.length := by
  have hlength := h.keys.length_le
  rwa [Session.keys, Session.keys, length_map, length_map] at hlength

end Frame

/-! ## Runs -/

/-- How a job may end if what is done while it waits keeps the frame. -/
inductive Job.Runs {α : Type} : Job α → Except Failure α → Session → Prop
  | done (r : Except Failure α) (s : Session) : Runs (.done r s) r s
  | resumed {s u t : Session} {ready : Session → Bool} {resume : Session → Job α}
      {r : Except Failure α} (hframe : Frame [] s u) (hready : ready u = true)
      (hrest : Runs (resume u) r t) : Runs (.waiting s ready resume) r t

namespace Job

variable {α β : Type} {s t : Session} {j : Job α} {f : α → Session → Job β} {r : Except Failure α}

@[simp]
theorem runs_done {r' : Except Failure α} : (Job.done r s).Runs r' t ↔ r = r' ∧ s = t := by
  constructor
  · rintro ⟨⟩
    exact ⟨rfl, rfl⟩
  · rintro ⟨rfl, rfl⟩
    exact .done r s

-- The result of the first part is fixed, so it has to be a variable for the induction.
theorem Runs.bind_ok {a : α} {u : Session} {r : Except Failure β} (hj : j.Runs (.ok a) u)
    (hf : (f a u).Runs r t) : (j.bind f).Runs r t := by
  generalize hresult : Except.ok a = result at hj
  induction hj with
  | done result s =>
    subst hresult
    exact hf
  | resumed hframe hready _ ih => exact .resumed hframe hready (ih hf hresult)

theorem Runs.bind_error {e : Failure} (hj : j.Runs (.error e) t) : (j.bind f).Runs (.error e) t := by
  generalize hresult : Except.error e = result at hj
  induction hj with
  | done result s =>
    subst hresult
    exact .done _ _
  | resumed hframe hready _ ih => exact .resumed hframe hready (ih hresult)

theorem runs_bind_ok {b : β} :
    (j.bind f).Runs (.ok b) t ↔ ∃ a u, j.Runs (.ok a) u ∧ (f a u).Runs (.ok b) t := by
  constructor
  · intro h
    induction j with
    | done result s =>
      cases result with
      | ok a => exact ⟨a, s, .done _ _, h⟩
      | error e => exact nomatch (runs_done.mp h).1
    | waiting s ready resume ih =>
      cases h with
      | resumed hframe hready hrest =>
        obtain ⟨a, u, hfirst, hsecond⟩ := ih _ hrest
        exact ⟨a, u, .resumed hframe hready hfirst, hsecond⟩
  · rintro ⟨a, u, hfirst, hsecond⟩
    exact hfirst.bind_ok hsecond

end Job

theorem Build.runs_ofCheck {s t : Session} {r : Except Failure α} :
    (ofCheck c s).Runs r t ↔ c.on s = (r, t) := by
  rw [Prod.ext_iff]
  exact Job.runs_done

/-! ## Names -/

theorem required_on_iff {v x : Value} {key : String} {s t : Session} :
    (required v key).on s = (.ok x, t) ↔ v.get? key = some x ∧ t = s := by
  cases h : v.get? key with
  | some y =>
    rw [required_eq h]
    show (Except.ok y, s) = _ ↔ _
    rw [Prod.mk.injEq, Except.ok.injEq, Option.some.injEq, eq_comm (b := t)]
  | none =>
    obtain ⟨e, he⟩ := required_missing h
    rw [he]
    exact ⟨by rintro ⟨⟩, by rintro ⟨⟨⟩, -⟩⟩

namespace Code

variable {s : Session}

theorem any_name_eq (s : Session) (id : Ident) :
    (s.objects.any fun v => v.id.name == id.name) = decide (id.name ∈ s.names) := by
  rw [Bool.eq_iff_iff, decide_eq_true_iff, any_eq_true, Session.names, mem_map]
  simp only [beq_iff_eq]

theorem register_taken (h : id.name ∈ s.names) : (register id e).on s
      = (.error (.rejected ("ID " ++ id.text ++ " is already registered")), s) := by
  have hget : (get : Check Session).on s = (.ok s, s) := rfl
  unfold register
  rw [Check.on_bind_ok _ hget, any_name_eq, decide_eq_true h]
  rfl

theorem register_free (h : id.name ∉ s.names) :
    (register id e).on s = (.ok (), { s with objects := s.objects ++ [⟨id, e⟩] }) := by
  have hget : (get : Check Session).on s = (.ok s, s) := rfl
  unfold register
  rw [Check.on_bind_ok _ hget, any_name_eq, decide_eq_false h]
  rfl

theorem register_frame {free : List String} (hs : s.Rooted) (h : id.name ∉ s.names) :
    Frame free s { s with objects := s.objects ++ [⟨id, e⟩] } := by
  have hnames : ({ s with objects := s.objects ++ [⟨id, e⟩] } : Session).names
      = s.names ++ [id.name] := map_append
  refine ⟨prefix_refl _, fun hw _ _ => ⟨_, hw, by grind⟩, ?_, fun n => ?_, fun w hw hkey => ?_⟩
  · rw [hnames]
    exact prefix_append _ _
  · rw [hnames, count_append, count_singleton]
    by_cases hn : n = id.name
    · rw [hn, count_eq_zero.mpr h]
      simp
    · simp [Ne.symm hn, Nat.le_max_right]
  · rw [hnames]
    exact mem_append_left _ (hs w hw hkey)

end Code

/-! ### Widgets -/

namespace Widget

@[simp, grind ←]
theorem joined_still (type : String) (v : Value) : (joined type v).Still := by
  refine .bind (Test.contains_still v "|") fun found => ?_
  split <;> simp

@[simp]
theorem number_still : w.number.Still := by
  unfold number
  split
  · simp
  · refine .bind (Test.number_still _) fun v => ?_
    split <;> simp

theorem controlOf_still (state : Value) : (controlOf state).Still := by
  unfold controlOf
  dsimp only
  split <;> simp

@[simp]
theorem hasState_still (state : Value) : (w.hasState state).Still := by
  unfold hasState
  split
  · exact .bind (controlOf_still state) fun _ => callOf_still _ _
  · exact .bind (callOf_still _ _) fun _ => .bind (express_still _) fun _ => .of_pure _

theorem values_still : w.values.Still := by
  unfold values
  cases w.kind.traits.reading with
  | shownTab =>
    exact .bind (callOf_still _ _) fun _ => .bind (callOf_still _ _) fun _ => by simp
  | _ => simp

end Widget

end Panel
