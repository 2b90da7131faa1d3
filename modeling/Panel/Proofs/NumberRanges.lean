import Mathlib.Tactic.FieldSimp
import Mathlib.Tactic.NormNum
import Panel.Registry
import Panel.Proofs.FontRules
import Panel.Proofs.PictureRules
import Panel.Proofs.StyleCoverage
import Panel.Proofs.UpdateOutcome

/-! # Ranges of numbers — what an entity says of a widget, and what the widget writes

    A number entity reads the limits and the step of its widget from the options of the widget,
    and so does the widget when it writes its own range.  The two are compared in parts of the
    widget, as exact numbers. -/

namespace Panel

open Cpp List Code Test Property Record Build Kinds

variable {key name : String} {f : Field} {s t : Session}

/-! ## Exact numbers -/

namespace Text

def Binary.toRat (b : Binary) : ℚ :=
  if b.negative then -((b.ratio.1 : ℚ) / b.ratio.2) else (b.ratio.1 : ℚ) / b.ratio.2

def exactly? (x : Float) : Option ℚ := (Binary.ofFloat? x).map Binary.toRat

theorem Binary.ratio_pos (b : Binary) : 0 < b.ratio.2 := by
  unfold Binary.ratio
  split
  · exact Nat.one_pos
  · rw [Nat.one_shiftLeft]
    exact Nat.two_pow_pos _

theorem div_eq_whole_iff {n d : Nat} (hd : 0 < d) :
    (n : ℚ) / d = ((n / d : Nat) : ℚ) ↔ n % d = 0 := by
  have hpos : (d : ℚ) ≠ 0 := Nat.cast_ne_zero.mpr hd.ne'
  rw [div_eq_iff hpos, ← Nat.cast_mul, Nat.cast_inj]
  have hdiv := Nat.div_add_mod n d
  rw [Nat.mul_comm] at hdiv
  omega

theorem exactly?_eq_iff {x : Float} {a : Int} (h : truncate? x = some a) :
    exactly? x = some (a : ℚ) ↔ isWhole x = true := by
  unfold truncate? at h
  unfold exactly? isWhole
  obtain ⟨b, hb, rfl⟩ := Option.map_eq_some_iff.mp h
  rw [hb, Option.map_some, Option.some_inj]
  dsimp only
  rw [beq_iff_eq, ← div_eq_whole_iff b.ratio_pos]
  unfold Binary.toRat
  split
  · rw [Int.cast_neg, neg_inj, Int.cast_natCast]
  · rw [Int.cast_natCast]

end Text

def Value.exactly? : Value → Option ℚ
  | .int n => some n
  | .float x => Text.exactly? x
  | _ => none

/-! ## Calls that are always made -/

namespace Build

variable {b c : Build Unit} {name : String} {args : List Value} {xs : List Expr}

def Succeeds (b : Build Unit) : Prop := ∀ s, ∃ t, b s = .done (.ok ()) t

def Calls (b : Build Unit) (name : String) (xs : List Expr) : Prop :=
  ∃ before after : Build Unit, before.Succeeds ∧ b = do
    before
    Code.add (.object (.call (.raw name) [] xs) .bare)
    after

theorem succeeds_pure : (pure () : Build Unit).Succeeds := fun s => ⟨s, rfl⟩

theorem succeeds_modify (f : Session → Session) : (ofCheck (modify f)).Succeeds :=
  fun s => ⟨f s, rfl⟩

theorem Succeeds.bind (hb : b.Succeeds) (hc : c.Succeeds) : (b >>= fun _ => c).Succeeds := by
  intro s
  obtain ⟨t, ht⟩ := hb s
  obtain ⟨u, hu⟩ := hc t
  exact ⟨u, (bind_ok _ ht).trans hu⟩

theorem succeeds_run (h : arguments? args = .ok xs) : (ofCheck (run name args)).Succeeds := by
  have hadd : ∀ i s, ∃ t, (addItem i).on s = (.ok (), t) := fun i s =>
    addItem_cases (P := fun x => ∃ t, x = (.ok (), t)) i s ⟨_, rfl⟩ (fun _ _ => ⟨_, rfl⟩) ⟨_, rfl⟩
  intro s
  obtain ⟨t, ht⟩ := hadd (.expr (.object (.call (.raw name) [] xs) .bare)) s
  rw [run_eq h]
  exact ⟨t, ofCheck_eq ht⟩

namespace Calls

theorem of_run (h : arguments? args = .ok xs) : (ofCheck (run name args)).Calls name xs := by
  refine ⟨pure (), pure (), succeeds_pure, ?_⟩
  rw [run_eq h, pure_bind]
  exact (bind_pure _).symm

theorem of_eq (h : b = c) (hc : c.Calls name xs) : b.Calls name xs := h ▸ hc

theorem after (hb : b.Succeeds) (hc : c.Calls name xs) : Calls (do b; c) name xs := by
  obtain ⟨first, last, hfirst, rfl⟩ := hc
  exact ⟨_, last, hb.bind hfirst, (bind_assoc _ _ _).symm⟩

theorem followed (hb : b.Calls name xs) (c : Build Unit) : Calls (do b; c) name xs := by
  obtain ⟨before, last, hbefore, rfl⟩ := hb
  refine ⟨before, do last; c, hbefore, ?_⟩
  simp only [bind_assoc]

end Calls

theorem known_bind {α β : Type} {q : Check α} {v : α} (hq : q = pure v) (f : α → Build β) :
    (ofCheck q >>= f) = f v := by
  rw [hq]
  exact lift_bind_eq (fun s => rfl) f

end Build

/-! ## Accepted options -/

namespace Schema

variable {g : Grammar} {k : Kind} {extras : List Field} {es : Entries} {mine : Record}

def Accepted (g : Grammar) (k : Kind) (extras : List Field) (es : Entries) : Prop :=
  ∃ r, widgetRecord? g k extras = some r ∧ r.run.Gives (.dict es)

/-- What widgets of a kind have besides the options of the kind. -/
def baseRecord (g : Grammar) (k : Kind) (extras : List Field) : Record :=
  ((objectRecord g k.traits).extend [.generated "id" (Test.declareId k.traits.type)]).extend extras

theorem widgetRecord?_eq (hmine : k.design.fields g = some mine) :
    widgetRecord? g k extras = some ((baseRecord g k extras).extend mine.fields) := by
  unfold widgetRecord?
  rw [hmine]
  rfl

theorem field?_own (r : Record) (hf : mine.fields.reverse.find? (·.key == key) = some f) :
    (r.extend mine.fields).field? key = some f := by
  rw [field?_extend_eq, hf, Option.some_or]

theorem Accepted.record (h : Accepted g k extras es) (hmine : k.design.fields g = some mine) :
    ∃ written, ((baseRecord g k extras).extend mine.fields).Accepted written es := by
  obtain ⟨r, hr, v, s, s', hrun⟩ := h
  obtain rfl := Option.some.inj ((widgetRecord?_eq hmine).symm.trans hr)
  obtain ⟨written, es', -, hes, haccepted⟩ := run_accepted (forall_mem_nil _) hrun
  cases hes
  exact ⟨written, haccepted⟩

theorem Accepted.own (h : Accepted g k extras es) (hmine : k.design.fields g = some mine)
    (hf : mine.fields.reverse.find? (·.key == f.key) = some f) (v : Value)
    (hv : es.get? f.key = some v) : f.test.Gives v := by
  obtain ⟨written, haccepted⟩ := h.record hmine
  obtain ⟨f', hf', hgives⟩ := haccepted.fits _ (Entries.mem_of_get? hv)
  obtain rfl := Option.some.inj ((field?_own (baseRecord g k extras) hf).symm.trans hf')
  exact hgives

theorem Accepted.default (h : Accepted g k extras es) (hmine : k.design.fields g = some mine)
    (key : String) {d : Value} {t : Test}
    (hf : mine.fields.reverse.find? (·.key == key) = some (.defaulted key d t)) :
    ∃ v, es.get? key = some v ∧ t.Gives v := by
  obtain ⟨written, haccepted⟩ := h.record hmine
  exact haccepted.there (f := .defaulted key d t) (field?_own _ hf) (.inl rfl)

end Schema

namespace Test

variable {v : Value} {n : Int}

theorem intOf?_cases (h : intOf? v = some n) :
    v = .int n ∨ ∃ c, v = .bool c ∧ n = if c then 1 else 0 := by
  cases v with
  | int m =>
    cases h
    exact .inl rfl
  | bool c =>
    cases h
    exact .inr ⟨c, rfl, rfl⟩
  | _ => cases h

theorem wholeProperty_gives (h : Property.integer.validate.Gives v)
    (hv : ∀ body, v ≠ .lambda body) : ∃ n, intOf? v = some n := by
  obtain ⟨given, s, s', h⟩ := h
  have hrun : ((if given.isLambda then returningLambda given else integer given) :
      Check Value).on s = (.ok v, s') := h
  split at hrun
  · obtain ⟨body, hbody⟩ := Style.returningLambda_gives ⟨given, s, s', hrun⟩
    exact absurd hbody (hv body)
  · exact Font.integer_whole given s s' v hrun

theorem number_gives (h : number.Gives v) : ∃ x, v = .float x := by
  obtain ⟨given, s, s', h⟩ := h
  unfold number at h
  repeat' split at h
  all_goals cases h
  all_goals exact ⟨_, rfl⟩

theorem within_eq_ok {x l : Value} {high : Option Value} (hx : x.isObject = false)
    (h : (within (some l) high x).on s = (.ok v, t)) :
    atLeast? x l = some true ∧ (∀ u, high = some u → atLeast? u x = some true) ∧ v = x := by
  unfold within at h
  rw [hx, if_neg Bool.false_ne_true] at h
  dsimp only at h
  cases hlow : atLeast? x l with
  | none =>
    rw [hlow] at h
    cases h
  | some c =>
    rw [hlow] at h
    cases c with
    | false => cases h
    | true =>
      cases high with
      | none =>
        cases h
        exact ⟨rfl, fun _ hu => (by cases hu), rfl⟩
      | some u =>
        dsimp only at h
        split at h
        · next hhigh =>
            cases h
            exact ⟨rfl, fun _ hu => Option.some.inj hu ▸ hhigh, rfl⟩
        all_goals cases h

theorem intRange_gives {low : Int} {high : Option Int} (h : (intRange (some low) high).Gives v) :
    ∃ n, intOf? v = some n ∧ low ≤ n ∧ ∀ u, high = some u → n ≤ u := by
  obtain ⟨given, s, s', h⟩ := h
  obtain ⟨x, u, hx, hwithin⟩ := allOf_pair_iff.mp h
  obtain ⟨n, hn⟩ := Font.integer_whole given s u x hx
  have hobject : x.isObject = false := by rcases intOf?_cases hn with rfl | ⟨c, rfl, rfl⟩ <;> rfl
  obtain ⟨hlow, hhigh, rfl⟩ := within_eq_ok hobject hwithin
  have hle : ∀ {a b : Int} {w z : Value}, intOf? w = some a → intOf? z = some b →
      atLeast? z w = some true → a ≤ b := by
    intro a b w z hw hz hwz
    rcases intOf?_cases hw with rfl | ⟨c, rfl, rfl⟩ <;>
      rcases intOf?_cases hz with rfl | ⟨c, rfl, rfl⟩ <;>
        exact of_decide_eq_true (Option.some.inj hwz)
  exact ⟨n, hn, hle rfl hn hlow, fun u hu => hle hn rfl (hhigh (.int u) (by rw [hu]; rfl))⟩

end Test

/-! ## What widgets write -/

def Cpp.Expr.whole? : Expr → Option Int
  | .integer n => some n
  | .boolean b => some (if b then 1 else 0)
  | _ => none

namespace Kind

/-- Work that writes a range: with one call for both limits, or for an arc with one for each. -/
inductive WritesRange : Kind → Widget → Build Unit → Int → Int → Prop where
  | arc {w : Widget} {work : Build Unit} {a b : Int} :
      work.Calls "lv_arc_set_min_value" [w.obj, .integer a] →
      work.Calls "lv_arc_set_max_value" [w.obj, .integer b] → WritesRange .arc w work a b
  | range {k : Kind} {w : Widget} {work : Build Unit} {a b : Int} {x y : Expr} :
      x.whole? = some a → y.whole? = some b →
      work.Calls ("lv_" ++ k.traits.libraryName ++ "_set_range") [w.obj, x, y] →
      WritesRange k w work a b

end Kind

namespace Kinds

variable {g : Generator} {w : Widget} {es : Entries} {a b : Int} {x y : Float} {p m : Nat}
  {v : Value} {n : Int}

def WordMode (es : Entries) : Prop := ∀ v, Entries.get? es "mode" = some v → ∃ m, v.text? = some m

/-- Two limits that are whole numbers. -/
structure Limits (es : Entries) (a b : Int) : Prop where
  low : (Entries.get? es "min_value").bind Test.intOf? = some a
  high : (Entries.get? es "max_value").bind Test.intOf? = some b

theorem emit_whole (h : intOf? v = some n) : integer.emit v = pure (.cpp (.integer n)) := by
  rcases intOf?_cases h with rfl | ⟨c, rfl, rfl⟩ <;> rfl

theorem Limits.given (h : Limits es a b) (obj : Expr) : ∃ low high x y,
    es.get? "min_value" = some low ∧ es.get? "max_value" = some high
      ∧ intOf? low = some a ∧ intOf? high = some b
      ∧ arguments? [.cpp obj, low, high] = .ok [obj, x, y]
      ∧ x.whole? = some a ∧ y.whole? = some b := by
  obtain ⟨low, hlow, ha⟩ := Option.bind_eq_some_iff.mp h.low
  obtain ⟨high, hhigh, hb⟩ := Option.bind_eq_some_iff.mp h.high
  have hargs : ∃ x y, arguments? [.cpp obj, low, high] = .ok [obj, x, y]
      ∧ x.whole? = some a ∧ y.whole? = some b := by
    rcases intOf?_cases ha with rfl | ⟨c, rfl, rfl⟩ <;>
      rcases intOf?_cases hb with rfl | ⟨d, rfl, rfl⟩ <;> exact ⟨_, _, rfl, rfl, rfl⟩
  obtain ⟨x, y, hargs⟩ := hargs
  exact ⟨low, high, x, y, hlow, hhigh, ha, hb, hargs⟩

theorem slider_range (h : Limits es a b) :
    Kind.WritesRange .slider w (slider.options g w (.dict es)) a b := by
  obtain ⟨low, high, x, y, hlow, hhigh, -, -, hargs, hx, hy⟩ := h.given w.obj
  refine .range hx hy ?_
  unfold slider
  dsimp only [Value.get?]
  rw [hlow]
  refine .after (succeeds_modify _) ?_
  exact .of_eq (Setting.required_bind hhigh _) (.followed (.of_run hargs) _)

theorem arc_setOption (hw : w.kind = .arc) (hv : es.get? name = some v) (hn : intOf? v = some n)
    (hname : renamedProperties.find? (·.1 == name) = none) :
    w.setOption name (.dict es) (some integer) {}
      = ofCheck (run ("lv_arc_set_" ++ name) [.cpp w.obj, .cpp (.integer n)]) := by
  have hgiven : (Value.dict es).given? name = some v := by
    show es.given? name = _
    rw [Entries.given?, hv]
    rcases intOf?_cases hn with rfl | ⟨c, rfl, -⟩ <;> rfl
  unfold Widget.setOption
  rw [hgiven]
  dsimp only [Option.orElse]
  rw [emit_whole hn, pure_bind, Widget.setValue, currentProperty, hname, hw]
  rfl

theorem arc_range (hw : w.kind = .arc) (h : Limits es a b) :
    Kind.WritesRange .arc w (arc.options g w (.dict es)) a b := by
  obtain ⟨low, high, -, -, hlow, hhigh, ha, hb, -⟩ := h.given w.obj
  unfold arc arcOptions
  dsimp only [setOptions]
  rw [arc_setOption hw hlow ha rfl, arc_setOption hw hhigh hb rfl]
  simp only [bind_assoc]
  exact .arc (.followed (.of_run rfl) _) (.after (succeeds_run rfl) (.followed (.of_run rfl) _))

theorem succeeds_mode (function : String) (h : WordMode es) (hv : es.get? "mode" = some v) :
    (ofCheck (run function [.cpp w.obj, literal v])).Succeeds := by
  obtain ⟨m, hm⟩ := h v hv
  rw [literal, hm]
  exact succeeds_run rfl

theorem scale_range (hmode : WordMode es) (h : Limits es a b) :
    Kind.WritesRange .scale w (scale.options g w (.dict es)) a b := by
  obtain ⟨low, high, x, y, hlow, hhigh, -, -, hargs, hx, hy⟩ := h.given w.obj
  have hhas : es.has "min_value" = true := Entries.has_of_get? hlow
  have hrange : (ofCheck (applyScaleRange w (.dict es) (.int 0) (.int 100))).Calls
      "lv_scale_set_range" [w.obj, x, y] := by
    simp only [applyScaleRange, Value.has, Value.get?, hhas, hlow, hhigh, Bool.true_or, if_true,
      Option.getD_some]
    cases hv : es.get? "mode" with
    | none => exact .of_run hargs
    | some v =>
      dsimp only
      rw [ofCheck_bind]
      exact .after (succeeds_mode _ hmode hv) (.of_run hargs)
  refine .range hx hy (.after (succeeds_modify _) (.after (succeeds_modify _) ?_))
  exact .followed hrange _

theorem bar_limits (hmode : WordMode es) (hanimated : es.has "animated" = true) :
    ∃ before : Build Unit, before.Succeeds ∧ bar.options g w (.dict es) = (do
      before
      barLimits w es
      forItems (fun st => st.run w es) (Kind.bar.settings.drop 2)) := by
  refine ⟨_, .bind ?_ succeeds_pure, bar_steps hanimated⟩
  have hset : ∀ v, es.get? "mode" = some v → (if v.truthy then
      ofCheck (run "lv_bar_set_mode" [.cpp w.obj, literal v])
      else pure () : Build Unit).Succeeds := by
    intro v hv
    split
    · exact succeeds_mode _ hmode hv
    · exact succeeds_pure
  dsimp only
  unfold Setting.whenSet
  rw [Setting.run_one]
  cases hv : es.get? "mode" with
  | none => exact succeeds_pure
  | some v => exact hset v hv

theorem bar_range (hmode : WordMode es) (hanimated : es.has "animated" = true)
    (h : Limits es a b) : Kind.WritesRange .bar w (bar.options g w (.dict es)) a b := by
  obtain ⟨low, high, -, -, hlow, hhigh, ha, hb, -⟩ := h.given w.obj
  obtain ⟨before, hbefore, heq⟩ := bar_limits hmode hanimated
  rw [heq]
  refine .range (x := .integer a) (y := .integer b) rfl rfl (.after hbefore (.followed ?_ _))
  unfold barLimits
  rw [hlow]
  dsimp only
  rw [emit_whole ha, pure_bind]
  refine .of_eq (Setting.required_bind hhigh _) ?_
  rw [emit_whole hb, pure_bind]
  exact .of_run rfl

/-! ## Spin boxes -/

/-- The options of a spin box: its limits, the decimal places and the selected digit. -/
structure SpinBox (es : Entries) (x y : Float) (p m : Nat) : Prop where
  low : Entries.get? es "range_from" = some (.float x)
  high : Entries.get? es "range_to" = some (.float y)
  digits : Entries.has es "digits" = true
  places : (Entries.get? es "decimal_places").bind Test.intOf? = some (p : Int)
  selected : (Entries.get? es "selected_digit").bind Test.intOf? = some (m : Int)

theorem tenTo_eq {n : Nat} (h : intOf? v = some (n : Int)) :
    Value.tenTo v = pure (.int (10 ^ n)) := by
  unfold Value.tenTo
  rw [h]
  dsimp only
  rw [if_pos (Int.natCast_nonneg n)]
  rfl

theorem convertInt_eq {z : Float} {c : Int} (h : Text.truncate? z = some c) :
    convertInt (.float z) = pure c := by
  show truncated z = _
  rw [truncated, h]

theorem SpinBox.scale_eq (h : SpinBox es x y p m) :
    spinScale (.dict es) = pure (.int (10 ^ p)) := by
  obtain ⟨places, hplaces, hp⟩ := Option.bind_eq_some_iff.mp h.places
  rw [spinScale, required_of_get? hplaces]
  exact tenTo_eq hp

theorem spinbox_calls (hw : w.kind = .spinbox) (h : SpinBox es x y p m)
    (ha : Text.truncate? x = some a) (hb : Text.truncate? y = some b) :
    Kind.WritesRange .spinbox w (spinbox.options g w (.dict es)) (a * 10 ^ p) (b * 10 ^ p)
      ∧ (spinbox.options g w (.dict es)).Calls "lv_spinbox_set_step"
        [w.obj, .integer (10 ^ m)] := by
  obtain ⟨digits, hdigits⟩ := Entries.exists_get?_of h.digits
  obtain ⟨selected, hselected, hm⟩ := Option.bind_eq_some_iff.mp h.selected
  have hstep : w.setProperty "step" (.int (10 ^ m)) {}
      = liftM (run "lv_spinbox_set_step" [.cpp w.obj, .int (10 ^ m)]) := by
    show ofCheck (w.setValue "step" (.int (10 ^ m)) {}) = _
    rw [Widget.setValue, hw]
    rfl
  have hcalls : ∀ {name : String} {xs : List Expr}, (∀ (change : Session → Session)
      (after : Build Unit), Build.Calls (do
        ofCheck (modify change)
        run "lv_spinbox_set_range" [.cpp w.obj, .int (a * 10 ^ p), .int (b * 10 ^ p)]
        run "lv_spinbox_set_step" [.cpp w.obj, .int (10 ^ m)]
        after) name xs) → (spinbox.options g w (.dict es)).Calls name xs := by
    intro name xs hgoal
    unfold spinbox
    dsimp only [Value.get?]
    rw [hdigits]
    refine .of_eq (known_bind h.scale_eq _) (.of_eq (Setting.required_bind h.low _) ?_)
    refine .of_eq (known_bind (convertInt_eq ha) _) (.of_eq (known_bind rfl _) ?_)
    refine .of_eq (Setting.required_bind h.high _) ?_
    refine .of_eq (known_bind (convertInt_eq hb) _) (.of_eq (known_bind rfl _) ?_)
    refine .of_eq (Setting.required_bind hselected _) ?_
    refine .of_eq (bind_congr fun _ => bind_congr fun _ => known_bind (tenTo_eq hm) _) ?_
    rw [hstep]
    exact hgoal _ _
  refine ⟨.range (x := .integer _) (y := .integer _) rfl rfl (hcalls fun change rest => ?_),
    hcalls fun change rest => ?_⟩
  · exact .after (succeeds_modify _) (.followed (.of_run rfl) _)
  · exact .after (succeeds_modify _)
      (.after (succeeds_run rfl) (.followed (.of_run rfl) _))

end Kinds

/-! ## What entities say -/

namespace Kind

variable {gr : Grammar} {g : Generator} {k : Kind} {w : Widget} {extras : List Field} {es : Entries}
  {v : Value}
variable {a b : Int} {x y : Float} {p m : Nat}

def Counts (k : Kind) (es : Entries) (c : Check Value) (q : ℚ) : Prop :=
  ∃ scale v s x, k.scaleOf (.dict es) = pure scale ∧ c = pure v ∧ scale.exactly? = some s
    ∧ v.exactly? = some x ∧ x * s = q

/-- What the number of a widget says of it, in parts of the widget. -/
structure Advertises (k : Kind) (es : Entries) (low high step : ℚ) : Prop where
  low : k.Counts es (k.smallest (.dict es)) low
  high : k.Counts es (k.largest (.dict es)) high
  step : k.Counts es (k.step (.dict es)) step

theorem counts_iff {scale : Value} {c : Check Value} {s q : ℚ}
    (hscale : k.scaleOf (.dict es) = pure scale) (hs : scale.exactly? = some s) (hc : c = pure v) :
    k.Counts es c q ↔ ∃ x, v.exactly? = some x ∧ x * s = q := by
  have hpure : ∀ {u v : Value}, (pure u : Check Value) = pure v → u = v := by
    intro u v h
    exact Except.ok.inj (congrArg (fun c : Check Value => (c.on {}).1) h)
  constructor
  · rintro ⟨scale', v', s', x, hscale', hc', hs', hx, hq⟩
    obtain rfl := hpure (hscale.symm.trans hscale')
    obtain rfl := hpure (hc.symm.trans hc')
    obtain rfl := Option.some.inj (hs.symm.trans hs')
    exact ⟨x, hx, hq⟩
  · rintro ⟨x, hx, hq⟩
    exact ⟨scale, v, s, x, hscale, hc, hs, hx, hq⟩

theorem advertises_ranged (hk : k.isRanged = true)
    (ha : intOf? ((es.get? "min_value").getD (.int 0)) = some a)
    (hb : intOf? ((es.get? "max_value").getD (.int 100)) = some b) :
    k.Advertises es a b 1 := by
  have hwhole : ∀ {v : Value} {n : Int}, intOf? v = some n →
      (do return .int (← convertInt v) : Check Value) = pure (.int n) := by
    intro v n h
    rcases intOf?_cases h with rfl | ⟨c, rfl, rfl⟩ <;> rfl
  have hscale : k.scaleOf (.dict es) = pure (.float 1.0) := by
    cases k <;> first | rfl | cases hk
  have hone : (Value.float 1.0).exactly? = some 1 := by
    have htruncate : Text.truncate? 1.0 = some 1 := by decide
    exact (Text.exactly?_eq_iff htruncate).mpr (by decide)
  have hcounts : ∀ {c : Check Value} {n : Int}, c = pure (.int n) → k.Counts es c n :=
    fun hc => (counts_iff hscale hone hc).mpr ⟨_, rfl, mul_one _⟩
  refine ⟨hcounts ?_, hcounts ?_, ?_⟩
  · unfold smallest
    rw [if_pos hk]
    exact hwhole ha
  · unfold largest
    rw [if_pos hk]
    exact hwhole hb
  · rw [← Int.cast_one]
    refine hcounts ?_
    cases k <;> first | rfl | cases hk

theorem advertises_spinbox_iff (h : Kinds.SpinBox es x y p m) (ha : Text.truncate? x = some a)
    (hb : Text.truncate? y = some b) :
    Kind.spinbox.Advertises es ((a * 10 ^ p : Int) : ℚ) ((b * 10 ^ p : Int) : ℚ) (10 ^ m)
      ↔ Text.isWhole x = true ∧ Text.isWhole y = true ∧ p = 0 := by
  have hten : ∀ n : Nat, (10 : ℚ) ^ n ≠ 0 := fun n => pow_ne_zero n (by decide)
  have hexact : ∀ n : Nat, (Value.int (10 ^ n)).exactly? = some ((10 : ℚ) ^ n) := by
    intro n
    rw [Value.exactly?, Int.cast_pow]
    rfl
  have hscale : Kind.spinbox.scaleOf (.dict es) = pure (.int (10 ^ p)) := h.scale_eq
  have hpower : Kind.spinbox.step (.dict es) = pure (.int (10 ^ m)) := by
    obtain ⟨selected, hselected, hm⟩ := Option.bind_eq_some_iff.mp h.selected
    show (do Value.tenTo (← required (.dict es) "selected_digit") : Check Value) = _
    rw [required_of_get? hselected]
    exact tenTo_eq hm
  have hlimit : ∀ {key : String} {z : Float} {c : Int}, es.get? key = some (.float z) →
      Text.truncate? z = some c →
      (Kind.spinbox.Counts es (required (.dict es) key) ((c * 10 ^ p : Int) : ℚ)
        ↔ Text.isWhole z = true) := by
    intro key z c hz hc
    rw [counts_iff hscale (hexact p) (required_of_get? hz), ← Text.exactly?_eq_iff hc,
      Int.cast_mul, Int.cast_pow]
    constructor
    · rintro ⟨q, hq, heq⟩
      rw [← mul_right_cancel₀ (hten p) heq]
      exact hq
    · exact fun hq => ⟨c, hq, rfl⟩
  have hstep : Kind.spinbox.Counts es (Kind.spinbox.step (.dict es)) (10 ^ m) ↔ p = 0 := by
    rw [counts_iff hscale (hexact p) hpower]
    constructor
    · rintro ⟨q, hq, heq⟩
      obtain rfl := Option.some.inj ((hexact m).symm.trans hq)
      have hone : (10 : ℚ) ^ p = 1 := mul_left_cancel₀ (hten m) (heq.trans (mul_one _).symm)
      have hnat : 10 ^ p = 1 := by exact_mod_cast hone
      exact (Nat.pow_eq_one.mp hnat).resolve_left (by decide)
    · rintro rfl
      exact ⟨10 ^ m, hexact m, by rw [pow_zero, mul_one]⟩
  constructor
  · exact fun h' => ⟨(hlimit h.low ha).mp h'.low, (hlimit h.high hb).mp h'.high, hstep.mp h'.step⟩
  · rintro ⟨hx, hy, h0⟩
    exact ⟨(hlimit h.low ha).mpr hx, (hlimit h.high hb).mpr hy, hstep.mpr h0⟩

/-! ## Accepted widgets -/

/-- Kinds whose limits are always written, and a bar that is given both. -/
def HasLimits (k : Kind) (es : Entries) : Prop :=
  k ∈ [.arc, .slider, .scale]
    ∨ k = .bar ∧ Entries.has es "min_value" = true ∧ Entries.has es "max_value" = true

def PlainLimits (es : Entries) : Prop :=
  ∀ key ∈ ["min_value", "max_value"], ∀ body, Entries.get? es key ≠ some (.lambda body)

theorem HasLimits.isRanged (hk : k.HasLimits es) : k.isRanged = true := by
  rcases hk with hk | ⟨rfl, -, -⟩
  · fin_cases hk <;> rfl
  · rfl

theorem limit_whole (haccepted : Schema.Accepted gr k extras es) (hplain : PlainLimits es)
    (hk : k.isRanged = true) (hkey : key ∈ ["min_value", "max_value"])
    (hv : es.get? key = some v) : ∃ n, intOf? v = some n := by
  have hlambda : ∀ body, v ≠ .lambda body := fun body hbody => hplain key hkey body (hbody ▸ hv)
  have hwhole : integer.validate.Gives v ∨ integer.Gives v := by
    rcases mem_pair.mp hkey with rfl | rfl
    all_goals cases k with
      | arc => exact .inl (haccepted.own (f := .defaulted _ _ _) rfl rfl v hv)
      | bar => exact .inl (haccepted.own (f := .optional _ _) rfl rfl v hv)
      | slider => exact .inr (haccepted.own (f := .defaulted _ _ _) rfl rfl v hv)
      | scale => exact .inl (haccepted.own (f := .defaulted _ _ _) rfl rfl v hv)
      | _ => cases hk
  rcases hwhole with h | ⟨given, s, t, h⟩
  · exact wholeProperty_gives h hlambda
  · exact Font.integer_whole given s t v h

theorem exists_limits (haccepted : Schema.Accepted gr k extras es) (hplain : PlainLimits es)
    (hk : k.HasLimits es) : ∃ a b, Kinds.Limits es a b := by
  have hthere : ∀ key ∈ ["min_value", "max_value"], ∃ v, es.get? key = some v := by
    intro key hkey
    rcases hk with hk | ⟨rfl, hmin, hmax⟩
    · simp only [mem_cons, not_mem_nil, or_false] at hk
      rcases mem_pair.mp hkey with rfl | rfl
      all_goals
        rcases hk with rfl | rfl | rfl
        all_goals exact (haccepted.default rfl _ rfl).imp fun _ h => h.1
    · rcases mem_pair.mp hkey with rfl | rfl
      · exact Entries.exists_get?_of hmin
      · exact Entries.exists_get?_of hmax
  have hwhole : ∀ key ∈ ["min_value", "max_value"], ∃ n, (es.get? key).bind intOf? = some n := by
    intro key hkey
    obtain ⟨v, hv⟩ := hthere key hkey
    obtain ⟨n, hn⟩ := limit_whole haccepted hplain hk.isRanged hkey hv
    exact ⟨n, Option.bind_eq_some_iff.mpr ⟨v, hv, hn⟩⟩
  obtain ⟨a, ha⟩ := hwhole "min_value" (by decide)
  obtain ⟨b, hb⟩ := hwhole "max_value" (by decide)
  exact ⟨a, b, ha, hb⟩

theorem animated_there (haccepted : Schema.Accepted gr .bar extras es) :
    es.has "animated" = true := by
  obtain ⟨v, hv, -⟩ := haccepted.default rfl "animated" rfl
  exact Entries.has_of_get? hv

theorem limits_written (hw : w.kind = k) (haccepted : Schema.Accepted gr k extras es)
    (hmode : Kinds.WordMode es) (hk : k.HasLimits es) (h : Kinds.Limits es a b) :
    k.WritesRange w (k.design.options g w (.dict es)) a b := by
  rcases hk with hk | ⟨rfl, -, -⟩
  · fin_cases hk
    · exact arc_range hw h
    · exact slider_range h
    · exact scale_range hmode h
  · exact bar_range hmode (animated_there haccepted) h

theorem exists_spinBox {r : Record} {written : Entries} (h : r.Accepted written es)
    (hr : ∀ key ∈ ["range_from", "range_to", "digits", "selected_digit", "decimal_places"],
      r.field? key = spinboxRecord.field? key) :
    ∃ x y p m d, Kinds.SpinBox es x y p m ∧ p ≤ 6 ∧ d ≤ 10
      ∧ (es.get? "digits").bind intOf? = some d := by
  simp only [forall_mem_cons] at hr
  obtain ⟨hfrom, hto, hdigits, hselected, hplaces, -⟩ := hr
  have hlimit : ∀ {key : String} {v : Value}, r.field? key = some (.defaulted key v number) →
      ∃ x, es.get? key = some (.float x) := by
    intro key v hf
    obtain ⟨w, hw, hg⟩ := h.there (f := .defaulted key v _) hf (.inl rfl)
    obtain ⟨x, rfl⟩ := number_gives hg
    exact ⟨x, hw⟩
  have hwhole : ∀ {key : String} {v : Value} {l : Int} {u : Option Int},
      r.field? key = some (.defaulted key v (intRange (some l) u)) →
      ∃ n, (es.get? key).bind intOf? = some n ∧ l ≤ n ∧ ∀ b, u = some b → n ≤ b := by
    intro key v l u hf
    obtain ⟨w, hw, hg⟩ := h.there (f := .defaulted key v _) hf (.inl rfl)
    exact (intRange_gives hg).imp fun n hn =>
      ⟨Option.bind_eq_some_iff.mpr ⟨w, hw, hn.1⟩, hn.2⟩
  obtain ⟨x, hlow⟩ := hlimit hfrom
  obtain ⟨y, hhigh⟩ := hlimit hto
  obtain ⟨d, hd, -, hten⟩ := hwhole hdigits
  obtain ⟨m, hm, hm0, -⟩ := hwhole hselected
  obtain ⟨p, hp, hp0, hsix⟩ := hwhole hplaces
  have hdigits : es.has "digits" = true := by
    obtain ⟨v, hv, -⟩ := Option.bind_eq_some_iff.mp hd
    exact Entries.has_of_get? hv
  refine ⟨x, y, p.toNat, m.toNat, d, ⟨hlow, hhigh, hdigits, ?_, ?_⟩, ?_, hten 10 rfl, hd⟩
  · rw [hp, Int.toNat_of_nonneg hp0]
  · rw [hm, Int.toNat_of_nonneg hm0]
  · have := hsix 6 rfl
    omega

/-- What a number says of its widget and what the widget writes.  Arcs, sliders, scales and bars
    with both limits write just the range that is said, with a step of one.  A bar without a lower
    limit writes none, and if it has an upper one, that is said nevertheless.  A spin box writes its
    limits cut to whole numbers, in parts, and its step as it is; this is what is said exactly if
    the limits are whole and there are no decimal places. -/
theorem number_ranges (gr : Grammar) (g : Generator) (k : Kind) (w : Widget) (extras : List Field)
    (es : Entries) (hw : w.kind = k) (haccepted : Schema.Accepted gr k extras es)
    (hplain : PlainLimits es) (hmode : Kinds.WordMode es) :
    (k.HasLimits es → ∃ a b : Int,
      k.WritesRange w (k.design.options g w (.dict es)) a b ∧ k.Advertises es a b 1)
    ∧ (k = .bar → Entries.has es "min_value" = false →
      (∃ before : Build Unit, before.Succeeds ∧ k.design.options g w (.dict es) = (do
        before
        Kinds.forItems (fun st => st.run w es) (Kind.bar.settings.drop 2)))
      ∧ ∃ b : Int, k.Advertises es 0 b 1
        ∧ Test.intOf? ((Entries.get? es "max_value").getD (.int 100)) = some b)
    ∧ (k = .spinbox → ∃ (x y : Float) (p m : Nat), Kinds.SpinBox es x y p m
      ∧ ∀ a b, Text.truncate? x = some a → Text.truncate? y = some b →
        k.WritesRange w (k.design.options g w (.dict es)) (a * 10 ^ p) (b * 10 ^ p)
        ∧ (k.design.options g w (.dict es)).Calls "lv_spinbox_set_step" [w.obj, .integer (10 ^ m)]
        ∧ (k.Advertises es ((a * 10 ^ p : Int) : ℚ) ((b * 10 ^ p : Int) : ℚ) (10 ^ m)
          ↔ Text.isWhole x = true ∧ Text.isWhole y = true ∧ p = 0)) := by
  refine ⟨fun hk => ?_, fun hk hmin => ?_, fun hk => ?_⟩
  · obtain ⟨a, b, hlimits⟩ := exists_limits haccepted hplain hk
    obtain ⟨low, high, -, -, hlow, hhigh, ha, hb, -⟩ := hlimits.given w.obj
    refine ⟨a, b, limits_written hw haccepted hmode hk hlimits, ?_⟩
    refine advertises_ranged hk.isRanged ?_ ?_
    · rw [hlow]
      exact ha
    · rw [hhigh]
      exact hb
  · subst hk
    have hnone : es.get? "min_value" = none := Entries.get?_eq_none_of hmin
    obtain ⟨b, hb⟩ : ∃ b,
        intOf? ((es.get? "max_value").getD (.int 100)) = some b := by
      cases hv : es.get? "max_value" with
      | none => exact ⟨100, rfl⟩
      | some v => exact limit_whole haccepted hplain rfl (by decide) hv
    refine ⟨?_, b, ?_, hb⟩
    · obtain ⟨before, hbefore, heq⟩ := bar_limits hmode (animated_there haccepted)
      refine ⟨before, hbefore, heq.trans (bind_congr fun _ => ?_)⟩
      rw [barLimits, hnone]
      exact pure_bind _ _
    · rw [← Int.cast_zero]
      refine advertises_ranged rfl ?_ hb
      rw [hnone]
      rfl
  · subst hk
    obtain ⟨written, hrecord⟩ := haccepted.record (show _ = some spinboxRecord from rfl)
    obtain ⟨x, y, p, m, -, hbox, -⟩ := exists_spinBox hrecord fun key hkey => by
      simp only [mem_cons, not_mem_nil, or_false] at hkey
      rcases hkey with rfl | rfl | rfl | rfl | rfl <;> exact Schema.field?_own _ rfl
    refine ⟨x, y, p, m, hbox, fun a b ha hb => ?_⟩
    obtain ⟨hrange, hstep⟩ := spinbox_calls (g := g) hw hbox ha hb
    exact ⟨hrange, hstep, advertises_spinbox_iff hbox ha hb⟩

/-- A spin box that counts to ten and a half in tenths, without its identifier. -/
def tenthsOptions : Entries :=
  [("range_from", .float 0.0), ("range_to", .float 10.5), ("digits", .int 4),
    ("selected_digit", .int 0), ("decimal_places", .int 1), ("rollover", .bool false)]

def tenthsBox : Entries :=
  ("id", .ident (Ident.declaration (some "s") Kind.spinbox.traits.type)) :: tenthsOptions

set_option maxRecDepth 100000 in
theorem accepted_tenthsBox : Schema.Accepted Style.lenient .spinbox [] tenthsBox :=
  ⟨_, rfl, .dict (("id", .str "s") :: tenthsOptions), {}, _, rfl⟩

/-- The upper limit and the step of the box are not what its number says. -/
theorem number_ranges_tenths : Schema.Accepted Style.lenient .spinbox [] tenthsBox
    ∧ ∀ (g : Generator) (w : Widget), w.kind = .spinbox →
      Kind.spinbox.WritesRange w (Kind.spinbox.design.options g w (.dict tenthsBox)) 0 100
      ∧ ¬ Kind.spinbox.Advertises tenthsBox 0 100 1 := by
  refine ⟨accepted_tenthsBox, fun g w hw => ?_⟩
  have hplain : PlainLimits tenthsBox := by
    intro key hkey body h
    rcases mem_pair.mp hkey with rfl | rfl <;> cases h
  obtain ⟨-, -, h⟩ := number_ranges Style.lenient g .spinbox w [] tenthsBox hw accepted_tenthsBox
    hplain fun v hv => by cases hv
  obtain ⟨x, y, p, m, ⟨hx, hy, -, hp, hm⟩, h⟩ := h rfl
  cases hx
  cases hy
  obtain rfl : p = 1 := Int.ofNat.inj (Option.some.inj hp).symm
  obtain rfl : m = 0 := Int.ofNat.inj (Option.some.inj hm).symm
  obtain ⟨hwrites, -, hadvertises⟩ := h 0 10 (by decide) (by decide)
  refine ⟨hwrites, fun hsaid => ?_⟩
  have hagree : Kind.spinbox.Advertises tenthsBox ((0 * 10 ^ 1 : Int) : ℚ) ((10 * 10 ^ 1 : Int) : ℚ)
      (10 ^ 0) := by
    norm_num
    exact hsaid
  exact absurd (hadvertises.mp hagree).2.2 (by decide)

end Kind

end Panel
