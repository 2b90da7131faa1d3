import Panel.Registry
import Panel.Proofs.Work

/-! # Lists of widgets — the two forms they are written in

    The widgets of a container are a list, or a dictionary by their kinds.  Both are gone through
    alike and differ in the paths of what is refused; an unknown kind is refused at its index in
    either form. -/

namespace Panel.Schema

open List

variable (g : Grammar) (children : ChildFields)

/-- What an entry fails with where everything that is refused below it is given the path. -/
def entryFailure (i : Nat) (name : String) (path : List Step) (e : Failure) : Failure :=
  if (Kind.ofName? name).isSome then e.within path
  else .invalidAt [.index i] ("Unknown widget type: " ++ name)

theorem oneWidget_on (i : Nat) (name : String) (options : Value) (s : Session) :
    (∃ done t, ∀ path, (oneWidget g children i path (.dict [(name, options)])).on s
      = (.ok (.dict [(name, done)]), t))
    ∨ ∃ e t, ∀ path, (oneWidget g children i path (.dict [(name, options)])).on s
      = (.error (entryFailure i name (path name) e), t) := by
  unfold oneWidget entryFailure
  dsimp only
  cases Kind.ofName? name with
  | none => exact .inr ⟨.pending, s, fun path => rfl⟩
  | some k =>
    dsimp only [Option.isSome]
    by_cases hnone : (widgetRecord? g k (Layout.childFields s children)).isNone = true
    · refine .inr ⟨.brokenPromise, s, fun path => ?_⟩
      rw [Check.on_bind_ok _ (Check.on_get s), if_pos hnone]
      rfl
    · rcases hrun : (k.design.prepare (if options.truthy then options else .dict [])
        >>= container g k (Layout.childFields s children)).on s with ⟨r, t⟩
      cases r with
      | ok done =>
        refine .inl ⟨done, t, fun path => ?_⟩
        rw [Check.on_bind_ok _ (Check.on_get s), if_neg hnone]
        exact Check.on_bind_ok _ (Check.on_tryCatch_ok _ hrun)
      | error e =>
        refine .inr ⟨e, t, fun path => ?_⟩
        rw [Check.on_bind_ok _ (Check.on_get s), if_neg hnone]
        exact Check.on_bind_error _ (Check.on_tryCatch_error _ hrun)

theorem widgetsFrom_on (i : Nat) (es : Entries) (s : Session) :
    (∃ ws t, ws.map (fun w => w.entries?.map Entries.keys) = es.map (fun e => some [e.1])
      ∧ ∀ path, (widgetsFrom g children path i (es.map fun e => .dict [e])).on s = (.ok ws, t))
    ∨ ∃ k name v e t, es[k]? = some (name, v)
      ∧ ∀ path, (widgetsFrom g children path i (es.map fun e => .dict [e])).on s
        = (.error (entryFailure (i + k) name (path (i + k) name) e), t) := by
  induction es generalizing i s with
  | nil => exact .inl ⟨[], s, rfl, fun path => rfl⟩
  | cons entry es ih =>
    obtain ⟨name, options⟩ := entry
    rcases oneWidget_on g children i name options s with ⟨done, t, hfirst⟩ | ⟨e, t, hfirst⟩
    · rcases ih (i + 1) t with ⟨ws, u, hnames, hrest⟩ | ⟨k, other, v, e, u, hentry, hrest⟩
      · refine .inl ⟨.dict [(name, done)] :: ws, u, congrArg (some [name] :: ·) hnames, fun path => ?_⟩
        exact (Check.on_bind_ok _ (hfirst (path i))).trans (Check.on_bind_ok _ (hrest path))
      · refine .inr ⟨k + 1, other, v, e, u, hentry, fun path => ?_⟩
        rw [← Nat.add_assoc, Nat.add_right_comm]
        exact (Check.on_bind_ok _ (hfirst (path i))).trans (Check.on_bind_error _ (hrest path))
    · exact .inr ⟨0, name, options, e, t, rfl, fun path => Check.on_bind_error _ (hfirst (path i))⟩

/-- A dictionary of widgets and the list of its entries are accepted with the same widgets, one of
    each kind in the order they are given, or fail at the same entry with the same messages.  These
    are at the key in the one form and at the index and the key in the other, unless the kind is
    unknown. -/
theorem anyWidgets_forms (es : Entries) (s : Session) :
    (∃ ws t, ws.map (fun w => w.entries?.map Entries.keys) = es.map (fun e => some [e.1])
      ∧ (anyWidgets g children (.dict es)).on s = (.ok (.list ws), t)
      ∧ (anyWidgets g children (.list (es.map fun e => .dict [e]))).on s = (.ok (.list ws), t))
    ∨ ∃ i name v e t, es[i]? = some (name, v)
      ∧ (anyWidgets g children (.dict es)).on s = (.error (entryFailure i name [.key name] e), t)
      ∧ (anyWidgets g children (.list (es.map fun e => .dict [e]))).on s
        = (.error (entryFailure i name [.index i, .key name] e), t) := by
  rcases widgetsFrom_on g children 0 es s with ⟨ws, t, hnames, h⟩ | ⟨i, name, v, e, t, hentry, h⟩
  · exact .inl ⟨ws, t, hnames, Check.on_bind_ok _ (h _), Check.on_bind_ok _ (h _)⟩
  · rw [Nat.zero_add] at h
    exact .inr ⟨i, name, v, e, t, hentry, Check.on_bind_error _ (h _), Check.on_bind_error _ (h _)⟩

end Panel.Schema
