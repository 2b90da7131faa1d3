import Panel.Proofs.Habits
import Panel.Proofs.StyleCoverage

/-! # Values of styles — accepted values are written as one argument

    A rule that is asked for its choices answers with a list of them.  Any other value that the rule
    of a property accepts is written as one argument. -/

namespace Panel

open Cpp List Test Value

variable {v : Value} {test : Test} {type : CppType} {w x : Value} {c : Check Value}
  {form : Value → Check Value}

/-! ## Single values -/

/-- A value that stands for one argument: neither null nor a list. -/
def Value.Single (v : Value) : Prop := v ≠ .null ∧ ∀ xs, v ≠ .list xs

theorem Value.single_cpp (e : Expr) : (cpp e).Single := ⟨nofun, nofun⟩

theorem Value.single_int (n : Int) : (int n).Single := ⟨nofun, nofun⟩

theorem Property.literal_single (h : v.Single) : (literal v).Single := by
  unfold literal
  split
  · exact single_cpp _
  · exact h

def Check.Yields (sort : Value → Prop) (c : Check Value) : Prop :=
  ∀ s t x, c.on s = (.ok x, t) → sort x

namespace Check.Yields

variable {sort : Value → Prop}

theorem of_pure (h : sort x) : (pure x : Check Value).Yields sort := by
  intro s t y hy
  cases hy
  exact h

theorem of_throw (e : Failure) : (throw e : Check Value).Yields sort := by
  intro s t y hy
  cases hy

theorem bind {α : Type} {c : Check α} {f : α → Check Value} (hf : ∀ a, (f a).Yields sort) :
    (c >>= f).Yields sort := by
  intro s t y hy
  obtain ⟨a, u, -, hrest⟩ := on_bind_eq_ok hy
  exact hf a _ _ _ hrest

theorem bind_of {first : Value → Prop} {f : Value → Check Value} (hc : c.Yields first)
    (hf : ∀ x, first x → (f x).Yields sort) : (c >>= f).Yields sort := by
  intro s t y hy
  obtain ⟨x, u, hx, hrest⟩ := on_bind_eq_ok hy
  exact hf x (hc _ _ _ hx) _ _ _ hrest

end Check.Yields

def Build.Singles (b : Build Value) : Prop :=
  ∀ s, (b s).Ends (fun _ _ => True) fun r _ => ∀ x, r = .ok x → x.Single

namespace Build.Singles

theorem of_lift (h : c.Yields Value.Single) : (liftM c : Build Value).Singles := by
  intro s x hx
  exact h s (c.on s).2 x (Prod.ext hx rfl)

theorem of_pure (h : x.Single) : (pure x : Build Value).Singles := of_lift (Check.Yields.of_pure h)

theorem bind {α : Type} {b : Build α} {f : α → Build Value} (hf : ∀ a, (f a).Singles) :
    (b >>= f).Singles := by
  intro s
  have hany : ∀ j : Job α, j.Ends (fun _ _ => True) fun _ _ => True := by
    intro j
    induction j with
    | done r t => trivial
    | waiting t ready resume ih => exact fun u _ _ => ih u
  exact (hany (b s)).bind (fun a t _ => hf a t) fun e t _ x hx => nomatch hx

end Build.Singles

/-- Accepted values of a property are written as single values, unless a rule was asked for its
    choices. -/
def Property.Singles (p : Property) : Prop :=
  ∀ (v w : Value) (s t : Session), asksChoices v = false → (p.validate v).on s = (.ok w, t) →
    w ≠ .null → (p.emit w).Singles

namespace Property

theorem mapped_emit_singles (hw : w ≠ .null) (hform : (form w).Yields Value.Single) :
    ((mapped test type form).emit w).Singles := by
  unfold emit mapped
  dsimp only
  split
  · exact absurd rfl hw
  · exact .bind fun _ => .of_pure (single_cpp _)
  · exact .of_lift hform

theorem mapped_singles (hform : ∀ w, w ≠ .null → (form w).Yields Value.Single) :
    (mapped test type form).Singles :=
  fun _ w _ _ _ _ hw => mapped_emit_singles hw (hform w hw)

theorem emitPlain_singles (whole : Bool) (w : Value) : (emitPlain whole w).Singles := by
  have hexpress : ∀ x : Value, (do return cpp (← Code.express x) : Build Value).Singles :=
    fun x => .bind fun _ => .of_pure (single_cpp _)
  cases w with
  | ident id => exact .bind fun _ => .of_pure (single_cpp _)
  | list xs =>
    refine .bind fun _ => .bind fun x => ?_
    dsimp only
    split <;> exact .bind hexpress
  | _ =>
    refine .bind fun x => ?_
    dsimp only
    split <;> exact .bind hexpress

theorem emit_plain_singles (test : Test) (type : CppType) (needs : Option String) (hw : w ≠ .null) :
    ((plain test type needs).emit w).Singles := by
  unfold emit plain
  dsimp only
  split
  · exact absurd rfl hw
  · exact .bind fun _ => .of_pure (single_cpp _)
  · exact emitPlain_singles _ w

@[simp]
theorem plain_singles (test : Test) (type : CppType) (needs : Option String) :
    (plain test type needs).Singles :=
  fun _ _ _ _ _ _ hw => emit_plain_singles test type needs hw

@[simp]
theorem oneOf_singles (c : Constant) : c.oneOf.Singles :=
  mapped_singles fun _ _ => .of_pure (single_cpp _)

@[simp]
theorem severalOf_singles (c : Constant) : c.severalOf.Singles :=
  mapped_singles fun _ _ => .of_pure (single_cpp _)

@[simp]
theorem opacity_singles : opacity.Singles :=
  mapped_singles fun _ _ => .bind fun _ => .bind fun _ => .of_pure (single_cpp _)

theorem wholeTimes_single (n : Nat) (v : Value) : (v.wholeTimes n).Yields Value.Single :=
  .bind fun _ => .bind fun _ => .of_pure (single_int _)

theorem formPixelsOrPercent_single (v : Value) : (formPixelsOrPercent v).Yields Value.Single := by
  unfold formPixelsOrPercent
  split
  · exact .of_pure (single_int _)
  · exact .of_pure ⟨by rintro ⟨⟩, by rintro _ ⟨⟩⟩
  · exact .bind fun _ => .bind fun _ => .of_pure (single_cpp _)

@[simp]
theorem pixelsOrPercent_singles : pixelsOrPercent.Singles :=
  mapped_singles fun w _ => formPixelsOrPercent_single w

@[simp]
theorem size_singles : size.Singles := by
  refine mapped_singles fun w hw => ?_
  split
  · next htext =>
      refine .of_pure (literal_single ⟨hw, fun xs hxs => ?_⟩)
      subst hxs
      cases htext
  · exact formPixelsOrPercent_single w

@[simp]
theorem scale_singles : scale.Singles := mapped_singles fun w _ => wholeTimes_single _ w

@[simp]
theorem tenthsOfDegree_singles : tenthsOfDegree.Singles :=
  mapped_singles fun w _ => wholeTimes_single _ w

@[simp]
theorem milliseconds_singles : milliseconds.Singles := by
  refine mapped_singles fun w _ => ?_
  split
  · exact .of_pure (single_int _)
  · exact .of_throw _

@[simp]
theorem gradient_singles : gradient.Singles := mapped_singles fun _ _ => .of_pure (single_cpp _)

@[simp]
theorem color_singles : color.Singles := by
  have hcode : ∀ r g b, (colorCode r g b).Single := fun _ _ _ => single_cpp _
  have hconfigured : ∀ id, (configuredColor id).Yields Value.Single := by
    intro id
    refine .bind fun s => ?_
    split
    · exact .of_throw _
    · dsimp only
      split
      · exact .of_throw _
      · split
        · exact .of_pure (hcode _ _ _)
        · split
          · exact .of_throw _
          · exact .of_throw _
        · exact .of_throw _
        · exact .bind fun _ => .bind fun _ => .bind fun _ => .bind fun _ => .of_pure (hcode _ _ _)
  refine mapped_singles fun w _ => ?_
  unfold formColor
  split
  · intro s t x hx
    obtain ⟨body, rfl⟩ := Style.returningLambda_gives ⟨_, s, t, hx⟩
    exact ⟨nofun, nofun⟩
  · exact .of_pure (hcode _ _ _)
  · exact .of_pure (hcode _ _ _)
  · exact hconfigured _
  · split
    · exact .of_pure (hcode _ _ _)
    · exact .of_throw _

@[simp]
theorem font_singles : font.Singles := by
  intro v w s t _ _ hw
  unfold emit font
  dsimp only
  split
  · exact .of_pure (single_cpp _)
  · split
    · exact .of_pure (single_cpp _)
    · exact emit_plain_singles _ _ _ hw

/-! ### Values that are spelled out -/

/-- A value that is neither a list nor a question for the choices of a rule. -/
def IsScalar (v : Value) : Prop := (∀ xs, v ≠ .list xs) ∧ asksChoices v = false

theorem isScalar_int (n : Int) : IsScalar (.int n) := ⟨nofun, rfl⟩

theorem isScalar_bool (b : Bool) : IsScalar (.bool b) := ⟨nofun, rfl⟩

theorem isScalar_str (s : String) : IsScalar (.str s) := ⟨nofun, rfl⟩

/-- A sort that has all sizes. -/
structure HasSizes (sort : Value → Prop) : Prop where
  int : ∀ n, sort (.int n)
  bool : ∀ b, sort (.bool b)
  float : ∀ x, sort (.float x)
  content : sort (.str "LV_SIZE_CONTENT")

theorem isScalar_sizes : HasSizes IsScalar :=
  ⟨isScalar_int, isScalar_bool, (fun _ => ⟨nofun, rfl⟩), isScalar_str _⟩

section

variable {sort : Value → Prop}

theorem integer_sort (hint : ∀ n, sort (.int n)) (hbool : ∀ b, sort (.bool b)) (v : Value) :
    (Test.integer v).Yields sort := by
  refine .bind fun _ => ?_
  split
  · exact .of_pure (hint _)
  · exact .of_pure (hbool _)
  · refine .bind fun n => ?_
    split
    · exact .of_pure (hint _)
    · exact .of_throw _
  · refine .bind fun x => ?_
    dsimp only
    split
    · exact .of_pure (hint _)
    · exact .of_throw _

variable (hsort : HasSizes sort)

include hsort

theorem integer_yields (v : Value) : (Test.integer v).Yields sort :=
  integer_sort hsort.int hsort.bool v

theorem number_yields (v : Value) : (Test.number v).Yields sort := by
  unfold Test.number
  split
  · exact .of_pure (hsort.float _)
  · exact .of_pure (hsort.float _)
  · split
    · exact .of_pure (hsort.float _)
    · exact .of_throw _
  · split
    · exact .of_pure (hsort.float _)
    · exact .of_throw _

omit hsort in
theorem ranged_yields (h : (test v).Yields sort) (low high : Option Value) :
    (allOf [test, within low high] v).Yields sort := by
  have hguarded : (guarded test v).Yields sort := fun s t x hx => h s t x (guarded_eq_ok hx)
  have hwithin : ∀ x, sort x → (within low high x).Yields sort := by
    intro x hx
    unfold within
    dsimp only
    repeat' split
    all_goals first
      | exact .of_pure hx
      | exact .of_throw _
  refine .bind_of hguarded fun x hx => ?_
  have hinner : (guarded (within low high) x).Yields sort :=
    fun s t y hy => hwithin x hx s t y (guarded_eq_ok hy)
  exact .bind_of hinner fun y hy => .of_pure hy

omit hsort in
theorem anyOfFrom_yields (tests : List Test)
    (h : ∀ test ∈ tests, (test v).Yields sort) (best : Option Failure) :
    (anyOfFrom best tests v).Yields sort := by
  induction tests generalizing best with
  | nil =>
    unfold anyOfFrom
    split <;> exact .of_throw _
  | cons test tests ih =>
    intro s t w hw
    unfold anyOfFrom at hw
    rcases hr : (guarded test v).on s with ⟨r, u⟩
    cases r with
    | ok x =>
      rw [Check.on_tryCatch_ok _ hr] at hw
      cases hw
      exact h test mem_cons_self s _ _ (guarded_eq_ok hr)
    | error e =>
      rw [Check.on_tryCatch_error _ hr] at hw
      cases e with
      | refused issues => exact ih (forall_mem_cons.mp h).2 _ _ _ _ hw
      | _ => cases hw

theorem floatRange_yields (low high v : Value) : (floatRange low high v).Yields sort :=
  ranged_yields (number_yields hsort v) _ _

theorem signedShare_yields (v : Value) : (signedShare v).Yields sort := by
  have hrange := floatRange_yields hsort (.int (-1)) (.int 1)
  unfold signedShare
  dsimp only
  repeat' split
  all_goals
    refine .bind fun n => ?_
    repeat' split
  all_goals first
    | exact hrange _
    | exact .of_throw _

theorem acceptPixelsOrPercent_yields (hv : asksChoices v = false) :
    (acceptPixelsOrPercent v).Yields sort := by
  have hany : (Test.anyOf [Test.integer, Test.signedShare] v).Yields sort := by
    refine anyOfFrom_yields _ (fun test htest => ?_) none
    rcases mem_cons.mp htest with rfl | htest
    · exact integer_yields hsort v
    · rw [mem_singleton.mp htest]
      exact signedShare_yields hsort v
  unfold acceptPixelsOrPercent
  simp only [hv, Bool.false_eq_true, if_false]
  split
  · exact integer_yields hsort _
  · split
    · split
      · exact .of_throw _
      · exact hany
    · exact hany

theorem sizeWord_yields (hv : asksChoices v = false) : (do
    match v.text? with
    | some s => if Text.upper s == "SIZE_CONTENT" then return str "LV_SIZE_CONTENT"
    | none => pure ()
    acceptPixelsOrPercent v : Check Value).Yields sort := by
  dsimp only
  split
  · split
    · exact .of_pure hsort.content
    · exact acceptPixelsOrPercent_yields hsort hv
  · exact acceptPixelsOrPercent_yields hsort hv

theorem acceptSize_yields (hv : asksChoices v = false) : (acceptSize v).Yields sort := by
  unfold acceptSize
  simp only [hv, Bool.false_eq_true, if_false]
  split
  · exact .bind_of (integer_yields isScalar_sizes _) fun x hx => sizeWord_yields hsort hx.2
  · exact sizeWord_yields hsort hv

end

theorem validateWith_yields (h : (test v).Yields IsScalar) :
    (validateWith none test v).Yields IsScalar := by
  intro s t w hw
  have hrun : (if v.isLambda then returningLambda v else test v : Check Value).on s
      = (.ok w, t) := hw
  split at hrun
  · obtain ⟨body, rfl⟩ := Style.returningLambda_gives ⟨v, s, t, hrun⟩
    exact ⟨nofun, rfl⟩
  · exact h s t w hrun

theorem acceptFraction_yields (hv : asksChoices v = false) :
    (acceptFraction v).Yields IsScalar := by
  have hword : (Constants.radius.accept v).Yields IsScalar := by
    unfold Constant.accept
    simp only [hv, Bool.false_eq_true, if_false]
    split
    · split
      · exact .bind fun _ => .of_pure (isScalar_str _)
      · exact .bind fun _ => .of_pure (isScalar_str _)
    · exact .bind fun _ => .of_pure (isScalar_str _)
  have hany : (Test.anyOf [size.validate, Test.percentage, Constants.radius.oneOf.validate]
      v).Yields IsScalar := by
    refine anyOfFrom_yields _ (fun test htest => ?_) none
    fin_cases htest
    · exact validateWith_yields (acceptSize_yields isScalar_sizes hv)
    · exact .bind fun _ => floatRange_yields isScalar_sizes _ _ _
    · exact validateWith_yields hword
  unfold acceptFraction
  simp only [hv, Bool.false_eq_true, if_false]
  refine .bind_of hany fun w hw => ?_
  split
  · exact .bind fun _ => .bind fun _ => .of_pure (isScalar_int _)
  · exact .of_pure hw

theorem literal_singles (htest : ∀ v, asksChoices v = false → (test v).Yields IsScalar) :
    (mapped test type fun v => pure (literal v)).Singles := by
  intro v w s t hv h hw
  have hscalar : IsScalar w := validateWith_yields (htest v hv) s t w h
  exact mapped_emit_singles hw (.of_pure (literal_single ⟨hw, hscalar.1⟩))

theorem unmapped_singles (htest : ∀ v, asksChoices v = false → (test v).Yields IsScalar) :
    (unmapped test).Singles :=
  fun v w s t hv h hw => .of_pure ⟨hw, (htest v hv s t w h).1⟩

theorem natural_yields (v : Value) : (Test.natural v).Yields IsScalar :=
  ranged_yields (integer_yields isScalar_sizes v) _ _

@[simp]
theorem fraction_singles : fraction.Singles := literal_singles fun _ hv => acceptFraction_yields hv

@[simp]
theorem boolean_singles : boolean.Singles := by
  refine literal_singles fun v _ s t w hw => ?_
  obtain ⟨b, rfl⟩ := Style.truth_gives ⟨v, s, t, hw⟩
  exact isScalar_bool b

@[simp]
theorem pixels_singles : pixels.Singles := by
  refine literal_singles fun v _ => ?_
  unfold acceptPixels
  split <;> exact natural_yields _

@[simp]
theorem padding_singles : padding.Singles := by
  refine literal_singles fun v _ => ?_
  unfold acceptPadding
  split <;> exact integer_yields isScalar_sizes _

end Property

namespace Style

theorem allStyles_singles : ∀ e ∈ allStyles, e.2.Singles := by
  have hnatural : (Property.unmapped natural).Singles :=
    Property.unmapped_singles fun v _ => Property.natural_yields v
  have hinteger : (Property.unmapped integer).Singles :=
    Property.unmapped_singles fun v _ => Property.integer_yields Property.isScalar_sizes v
  have hbyte : (Property.unmapped Property.acceptByte).Singles :=
    Property.unmapped_singles fun v _ => Property.ranged_yields (Property.integer_yields Property.isScalar_sizes v) _ _
  simp [allStyles, Schema.styleProperties, Schema.gridAlignment, Property.natural, Property.integer,
    Property.image, hnatural, hinteger, hbyte]

theorem allStyles_null : ∀ e ∈ allStyles, e.2.emit .null = pure .null := by
  unfold allStyles Schema.styleProperties
  simp only [cons_append, nil_append]
  repeat' first
    | exact forall_mem_nil _
    | refine forall_mem_cons.mpr ⟨rfl, ?_⟩

end Style

end Panel
