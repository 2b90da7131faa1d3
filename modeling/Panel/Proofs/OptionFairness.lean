import Mathlib.Tactic.FinCases
import Panel.Proofs.RuleFairness

/-! # Fair options — the rules of properties and of the options that widgets share

    Each rule below is neutral: it looks at the value and at what is no note, and at most takes
    notes. -/

namespace Panel

open Check List Test Record

variable (names : List String) (c : Constant)

variable {p : Prop} (v : Value) {needs : Option String} {test : Test} {type : Cpp.CppType}

/-! ## Times -/

namespace Period

@[simp] theorem fair_rounded (x : Float) : Fair p (rounded x) := by
  unfold rounded
  repeat' split
  all_goals simp

@[simp] theorem fair_split (amount : Value) : Fair p (split amount) := by
  unfold split
  split
  · simp
  · refine fair_bind (fair_rounded _) fun n => ?_
    split
    · simp
    · exact fair_bind (truncated_still _).fair fun _ => fair_pure _
  · simp

@[simp] theorem fair_unitAmount (amount : Option Value) : Fair p (unitAmount amount) := by
  unfold unitAmount
  split <;> simp

@[simp] theorem fair_ofAmounts (get? : String → Option Value) : Fair p (ofAmounts get?) := by
  refine fair_bind (fair_unitAmount _) fun days => fair_bind (fair_unitAmount _) fun hours =>
    fair_bind (fair_unitAmount _) fun minutes => fair_bind (fair_unitAmount _) fun seconds =>
    fair_bind (fair_unitAmount _) fun millis => fair_bind (fair_unitAmount _) fun micros => ?_
  dsimp only
  split <;> simp

@[simp] theorem fair_ofUnitText : Fair p (ofUnitText v) := by
  refine fair_bind (noLambda_still v).fair fun _ => ?_
  dsimp only
  repeat' split
  all_goals simp

@[simp] theorem fair_ofClockText : Fair p (ofClockText v) := by
  unfold ofClockText
  dsimp only
  repeat' split
  all_goals simp

theorem fair_amountsFrom (es : Entries) : ∀ done issues, Fair p (amountsFrom es done issues) := by
  induction es with
  | nil =>
    intro done issues
    unfold amountsFrom
    split <;> simp_all
  | cons e es ih =>
    obtain ⟨k, v⟩ := e
    intro done issues
    unfold amountsFrom
    split
    · exact ih _ _
    · refine fair_bind (fair_tryCatch (fair_map _ (fair_guarded (number_still v).fair))
        fun _ => fair_pure _) fun outcome => ?_
      repeat' split
      all_goals first
        | exact ih _ _
        | simp

@[simp] theorem fair_ofDict : Fair p (ofDict v) := by
  unfold ofDict
  split
  · refine fair_bind (fair_amountsFrom _ _ _) fun es => ?_
    simp only [refuse_bind]
    split <;> simp
  · simp

theorem fair_firstOf {v : Value} {fs : List (Value → Check Parts)} (h : ∀ f ∈ fs, Fair p (f v)) :
    ∀ best, Fair p (firstOf best fs v) := by
  induction fs with
  | nil => exact fun best => fair_throw _
  | cons f fs ih =>
    intro best
    have hrest := ih (forall_mem_cons.mp h).2
    refine fair_tryCatch (h f mem_cons_self) fun e => ?_
    split
    · exact hrest _
    · exact hrest _
    · simp

@[simp] theorem fair_parts : Fair p (parts v) := fair_firstOf (by simp) none

@[simp] theorem fair_positive : Fair p (positive v) := by
  refine fair_bind (fair_parts v) fun parts => ?_
  simp only [refuse_bind]
  split <;> simp

@[simp] theorem fair_milliseconds : Fair p (milliseconds v) := by
  refine fair_bind (fair_positive v) fun parts => ?_
  simp only [refuse_bind]
  split <;> simp

end Period

/-! ## Properties -/

@[simp] theorem fair_noteUses : Fair p (noteUses names) := fair_note fun _ => rfl

namespace Property

@[simp] theorem fair_validateWith {v : Value} (h : ∀ v, Fair p (test v)) :
    Fair p (validateWith needs test v) := by
  have hlambda : Fair p (if v.isLambda then returningLambda v else test v) := by
    split
    · simp
    · exact h v
  unfold validateWith
  dsimp only
  split
  · exact fair_bind (fair_needsComponent _ _) fun _ => hlambda
  · exact hlambda

theorem fair_mapped {form : Value → Check Value} (h : ∀ v, Fair p (test v)) (v : Value) :
    Fair p ((mapped test type form).validate v) :=
  show Fair p (validateWith none test v) from fair_validateWith h

theorem fair_plain (h : ∀ v, Fair p (test v)) (v : Value) :
    Fair p ((plain test type needs).validate v) :=
  show Fair p (validateWith needs test v) from fair_validateWith h

end Property

@[simp] theorem Constant.fair_accept : Fair p (c.accept v) := by
  unfold Constant.accept
  dsimp only
  repeat' split
  all_goals first
    | exact fair_bind (wordOf_still _ _ _).fair fun _ => fair_pure _
    | simp

@[simp] theorem Constant.fair_oneOf : Fair p (c.oneOf.validate v) :=
  Property.fair_mapped (Constant.fair_accept c) v

@[simp] theorem Constant.fair_severalOf : Fair p (c.severalOf.validate v) :=
  Property.fair_mapped (fun _ => neutral_ensureList (Constant.fair_oneOf c)) v

namespace Property

@[simp] theorem fair_opacity : Fair p (opacity.validate v) := by
  refine fair_mapped (fun v => ?_) v
  unfold acceptOpacity
  split
  · simp
  · exact fair_bind (fair_anyOf (by simp)) fun _ => fair_floatRange _ _ _

@[simp] theorem fair_percentage : Fair p (percentage.validate v) := by
  refine fair_mapped (fun v => fair_bind (fair_anyOf (by simp)) fun w => ?_) v
  split <;> simp

@[simp] theorem fair_acceptPixelsOrPercent : Fair p (acceptPixelsOrPercent v) := by
  unfold acceptPixelsOrPercent
  repeat' split
  all_goals simp

@[simp] theorem fair_pixelsOrPercent : Fair p (pixelsOrPercent.validate v) :=
  fair_mapped fair_acceptPixelsOrPercent v

@[simp] theorem fair_pixels : Fair p (pixels.validate v) := by
  refine fair_mapped (fun v => ?_) v
  unfold acceptPixels
  split <;> simp

@[simp] theorem fair_padding : Fair p (padding.validate v) := by
  refine fair_mapped (fun v => ?_) v
  unfold acceptPadding
  split <;> simp

@[simp] theorem fair_size : Fair p (size.validate v) := by
  refine fair_mapped (fun v => ?_) v
  unfold acceptSize
  extract_lets whole
  have hwhole : ∀ w, Fair p (whole w) := by
    intro w
    unfold whole
    repeat' split
    all_goals simp
  repeat' split
  · simp
  · exact fair_bind (integer_still _).fair hwhole
  · exact fair_bind (fair_pure _) hwhole

@[simp] theorem fair_fraction : Fair p (fraction.validate v) := by
  refine fair_mapped (fun v => ?_) v
  unfold acceptFraction
  split
  · simp
  · refine fair_bind (fair_anyOf (by simp)) fun w => ?_
    split <;> simp

@[simp] theorem fair_scale : Fair p (scale.validate v) :=
  fair_mapped (fair_floatRange _ _) v

theorem fair_acceptAngle : Fair p (acceptAngle v) :=
  fair_bind (fair_angle v) (fair_floatRange _ _)

@[simp] theorem fair_tenthsOfDegree : Fair p (tenthsOfDegree.validate v) :=
  fair_mapped fair_acceptAngle v

@[simp] theorem fair_degrees : Fair p (degrees.validate v) :=
  fair_mapped fair_acceptAngle v

@[simp] theorem fair_boolean : Fair p (boolean.validate v) :=
  fair_mapped (fun v => (boolean_still v).fair) v

@[simp] theorem fair_milliseconds : Fair p (milliseconds.validate v) := by
  refine fair_mapped (fun v => ?_) v
  unfold acceptMilliseconds
  split <;> simp

@[simp] theorem fair_number : Fair p (number.validate v) :=
  fair_plain (fun v => (number_still v).fair) v

@[simp] theorem fair_integer : Fair p (integer.validate v) :=
  fair_plain (fun v => (integer_still v).fair) v

@[simp] theorem fair_natural : Fair p (natural.validate v) :=
  fair_plain Test.fair_natural v

@[simp] theorem fair_acceptByte : Fair p (acceptByte v) := fair_intRange _ _ v

@[simp] theorem fair_acceptAnimated : Fair p (acceptAnimated v) :=
  Constant.fair_oneOf _ _

@[simp] theorem fair_acceptKeyCode : Fair p (acceptKeyCode v) := by
  refine fair_bind (fair_anyOf ?_) fun w => ?_
  · intro t ht
    fin_cases ht
    · exact fair_allOf (by simp) v
    · simp
  · split <;> simp

@[simp] theorem fair_unmapped {v : Value} {t : Test} (h : Fair p (t v)) : Fair p ((unmapped t).validate v) := h

@[simp] theorem fair_acceptColor : Fair p (acceptColor v) := by
  unfold acceptColor
  split <;> simp

@[simp] theorem fair_color : Fair p (color.validate v) := fair_mapped fair_acceptColor v

@[simp] theorem fair_acceptImage : Fair p (acceptImage v) := by
  unfold acceptImage
  refine fair_bind (fair_tryCatch (fair_map _ (fair_useId _ v)) fun e => ?_) fun asId => ?_
  · split <;> simp
  · split
    · exact fair_bind (fair_noteUses _) fun _ => fair_pure _
    · refine fair_bind (fair_note fun _ => rfl) fun _ => ?_
      dsimp only
      repeat' split
      all_goals first
        | exact fair_bind (fair_noteUses _) fun _ => fair_pure _
        | simp

@[simp] theorem fair_image : Fair p (image.validate v) := fair_plain fair_acceptImage v

@[simp] theorem fair_imageList : Fair p (imageList.validate v) :=
  fair_plain (fun _ => neutral_ensureList fair_acceptImage) v

@[simp] theorem fair_gradient : Fair p (gradient.validate v) :=
  fair_mapped (fair_useId _) v

theorem fair_acceptFont : Fair p (acceptFont v) := by
  unfold acceptFont
  split
  · simp
  split
  · exact fair_bind (lowerWord_still _ _).fair fun _ =>
      fair_bind (fair_note fun _ => rfl) fun _ => fair_pure _
  · refine fair_bind (fair_noteUses _) fun _ => fair_bind (fair_useId _ v) fun id => ?_
    dsimp only
    split
    · exact fair_bind (fair_note fun _ => rfl) fun _ => fair_needsComponent _ _
    · exact fair_needsComponent _ _

@[simp] theorem fair_font : Fair p (font.validate v) :=
  show Fair p (validateWith none acceptFont v) from fair_validateWith fair_acceptFont

@[simp] theorem fair_acceptOption : Fair p (acceptOption v) := by
  refine fair_bind (textOf_still v).fair fun s => ?_
  simp only [refuse_bind]
  split <;> simp

end Property

@[simp] theorem fair_checkFormat : Fair p (checkFormat v) := by
  refine fair_bind (required_still v _).fair fun format => ?_
  split
  · simp
  · refine fair_bind (required_still v _).fair fun args => ?_
    simp only [refuse_bind]
    repeat' split
    all_goals simp

@[simp] theorem Property.fair_text : Fair p (Property.text.validate v) := by
  show Fair p (if v.has "format" then pure v else Property.validateWith none Test.text v)
  split <;> simp


@[simp] theorem fair_currentProperty (name : String) : Fair p (currentProperty name) := by
  unfold currentProperty
  split
  · simp
  · exact fair_bind (fair_note fun _ => rfl) fun _ => fair_pure _

/-! ## Options that widgets share -/

@[simp] theorem Record.fair_of_neutral {v : Value} {r : Record} (h : r.Meets Test.Neutral) : Fair p (r.run v) :=
  neutral_run h p v

namespace Schema

@[simp] theorem neutral_timeText : timeText.Meets Test.Neutral :=
  meets_of (by simp [fair_templatable])

@[simp] theorem neutral_formatText : formatText.Meets Test.Neutral := meets_of (by simp)

@[simp] theorem fair_textValue : Fair p (textValue v) := by
  unfold textValue
  split
  · simp
  · split
    · simp
    · exact fair_allOf (by simp) _
  · exact fair_templatable (text_still _).fair

theorem neutral_propertyFields {ps : List (String × Property)}
    (h : ∀ q ∈ ps, Test.Neutral q.2.validate) :
    ∀ f ∈ propertyFields ps, f.Meets Test.Neutral := by
  intro f hf
  obtain ⟨q, hq, rfl⟩ := mem_map.mp hf
  exact Field.meets_optional.mpr (h q hq)

theorem neutral_styleProperties : ∀ q ∈ styleProperties, Test.Neutral q.2.validate := by
  simp [styleProperties]

theorem neutral_styleFields : ∀ f ∈ styleFields, f.Meets Test.Neutral :=
  forall_mem_append.mpr ⟨neutral_propertyFields neutral_styleProperties, by simp⟩

@[simp] theorem neutral_style : style.Meets Test.Neutral := meets_of neutral_styleFields

@[simp] theorem neutral_fullStyle : fullStyle.Meets Test.Neutral :=
  neutral_style.extend (by simp [gridAlignment])

@[simp] theorem neutral_states : states.Meets Test.Neutral := by
  refine (meets_of ?_).extend neutral_styleFields
  simp

@[simp] theorem neutral_setStates : setStates.Meets Test.Neutral := meets_of (by simp)

@[simp] theorem neutral_setFlags : setFlags.Meets Test.Neutral := meets_of (by simp)

@[simp] theorem neutral_parts : (parts names).Meets Test.Neutral :=
  (neutral_states.extend neutral_setFlags.1).extend (by simp)

@[simp] theorem fair_targets (type : Cpp.CppType) (v : Value) : Fair p (targets type v) := by
  refine neutral_ensureList fun w => neutral_maybeSimple fun u => ?_
  exact fair_of_neutral (meets_of (by simp))

@[simp] theorem neutral_point : point.Meets Test.Neutral := meets_of (by simp [fair_templatable])

@[simp] theorem fair_pointValue : Fair p (pointValue v) := by
  unfold pointValue
  repeat' split
  all_goals simp

@[simp] theorem neutral_alignTo : alignTo.Meets Test.Neutral := meets_of (by simp)

@[simp] theorem neutral_background : background.Meets Test.Neutral := meets_of (by simp)

@[simp] theorem neutral_panelReference : panelReference.Meets Test.Neutral := meets_of (by simp)

@[simp] theorem fair_noteUpdate (k : Kind) (v : Value) : Fair p (noteUpdate k v) :=
  fair_bind (fair_note fun _ => rfl) fun _ => fair_pure _

theorem neutral_updateRecord (type : Cpp.CppType) (names : List String) :
    (updateRecord type names).Meets Test.Neutral :=
  (neutral_parts names).extend (by simp)

end Schema

end Panel
