import Panel.Proofs.Entries
import Panel.Proofs.OptionFairness

/-! # Fair kinds — the rules of every kind of widget and of every behaviour -/

namespace Panel

open Check List Test Record Schema Files Field

variable (type : Cpp.CppType) (s : Session) (k : Kind) {g : Grammar}

variable {p : Prop} {r : Record} {t : Test} (v : Value) {rule? : String → Option Rule}

/-- The fields that a container adds are fair where a condition holds. -/
def ChildFields.FairIf (p : Prop) : ChildFields → Prop
  | .fixed fields => ∀ f ∈ fields, f.FairIf p
  | .flexible => True

theorem ChildFields.FairIf.mono {p q : Prop} {children : ChildFields} (h : children.FairIf p)
    (hqp : q → p) : children.FairIf q := by
  cases children with
  | fixed fields => exact fun f hf => (h f hf).mono hqp
  | flexible => trivial

/-- Rules that refer to each other and are fair.  The fields that a container adds may have
    defaults from its own configuration, so they come with a condition. -/
structure Grammar.Fair (g : Grammar) : Prop where
  widgets : ∀ p (children : ChildFields), children.FairIf p →
    ∀ v, Check.Fair (p ∧ v.calm = true) (g.widgets children v)
  container : ∀ p k fields, (∀ f ∈ fields, Field.FairIf p f) →
    ∀ v, Check.Fair (p ∧ v.calm = true) (g.container k fields v)
  actions : Test.Fair g.actions
  condition : Test.Fair g.condition
  conditions : Test.Fair g.conditions

theorem Grammar.Fair.container_of (hg : g.Fair) (k : Kind) {fields : List Field}
    (h : ∀ f ∈ fields, f.Meets Test.Fair) : Test.Fair (g.container k fields) := fun v =>
  (hg.container True k fields (fun f hf => (h f hf).fairIf) v).mono fun hv => ⟨trivial, hv⟩

theorem Record.Meets.fair (h : r.Meets Test.Neutral) : r.Meets Test.Fair :=
  h.mono fun _ ht => ht.fair

theorem Test.Fair.andThen {u : Test} (ht : Test.Fair t) (hu : Test.Neutral u) :
    Test.Fair (allOf [t, u]) :=
  fun v => fair_bind (fair_guarded (ht v)) fun w => fair_allOf (by simpa using hu _) w

/-! ## Automations -/

namespace Automation

theorem fair_lifting {v : Value} {front : List Step} (h : Fair p (t v)) : Fair p (lifting front t v) :=
  fair_tryCatch h fun _ => fair_throw _

@[simp] theorem fair_withTypeId (es : Entries) : Fair p (withTypeId type es) :=
  fair_bind (fair_tryCatch (fair_guarded (fair_declareId _ _)) fun _ => fair_throw _)
    fun _ => fair_pure _

theorem calm_alone (s : String) : (Value.dict [(s, .dict [])]).calm = true := by
  have hlayout : Layout.stretchesIn [(s, .dict [])] = false := by
    unfold Layout.stretchesIn
    split
    · rename_i layout hget
      have hmem := Entries.mem_of_get? hget
      simp only [mem_singleton, Prod.mk.injEq, Value.dict.injEq] at hmem
      rw [hmem.2]
      rfl
    · rfl
  rw [Value.calm_dict, hlayout, Value.calmEntries_cons]
  rfl

theorem fair_entry {noun : String} (h : ∀ name rule, rule? name = some rule → Test.Fair rule.test) :
    Test.Fair (entry noun rule?) := by
  intro v
  unfold entry
  extract_lets whole
  have hcalm : v.calm = true → whole.calm = true := by
    intro hv
    unfold whole
    split
    · exact calm_alone _
    · exact hv
  clear_value whole
  split
  · rename_i es
    split
    · simp
    · rename_i key options others hfilter
      split
      · simp
      · rename_i rule hrule
        split
        · simp
        · refine fair_bind (fair_tryCatch (fair_guarded ((h key rule hrule _).mono ?_))
            fun _ => fair_throw _) fun done => fair_withTypeId _ _
          intro hv
          have hmem : (key, options) ∈ es := (mem_filter.mp (hfilter ▸ mem_cons_self)).1
          split
          · simp
          · exact Value.calm_of_mem_dict (hcalm hv) hmem
  · simp

theorem fair_oneCondition (h : ∀ name rule, rule? name = some rule → Test.Fair rule.test) :
    Test.Fair (oneCondition rule?) := by
  intro v
  unfold oneCondition
  split
  · refine fair_lifting ((fair_entry h _).mono ?_)
    intro hv
    rwa [Value.calm_single (by decide)]
  · exact fair_entry h v

theorem fair_record (hg : g.Fair) (trigger : Cpp.CppType) : (record g trigger).Meets Test.Fair :=
  meets_of (by simp [Test.Fair, hg.actions _])

theorem fair_actionsOnly (h : r.Meets Test.Fair) : Test.Fair (actionsOnly r) := by
  intro v
  refine fair_lifting ((fair_run h _).mono ?_)
  intro hv
  rwa [Value.calm_single (by decide)]

theorem fair_automations (h : r.Meets Test.Fair) : Test.Fair (automations r) := by
  intro v
  have hactions := fair_actionsOnly h v
  have hrun := fair_run h
  unfold automations
  split
  · refine fair_tryCatch (fair_bind hactions fun _ => fair_pure _) fun e => ?_
    split
    · refine fair_tryCatch (fair_listOf hrun.item) fun e => ?_
      split
      · dsimp only
        repeat' split
        all_goals simp
      · simp
    · simp
  · split
    · exact fair_bind (hrun _) fun _ => fair_pure _
    · exact fair_bind hactions fun _ => fair_pure _
  · exact fair_bind (hrun _) fun _ => fair_pure _

end Automation

namespace Schema

variable {g : Grammar}

theorem fair_automationFields (hg : g.Fair) (t : Traits) :
    ∀ f ∈ automationFields g t, f.Meets Test.Fair := by
  have htest : ∀ trigger, Test.Fair (Automation.automations (Automation.record g trigger)) :=
    fun trigger => Automation.fair_automations (Automation.fair_record hg trigger)
  intro f hf
  rcases mem_append.mp hf with hf | hf
  · obtain ⟨name, -, rfl⟩ := mem_map.mp hf
    exact meets_optional.mpr (htest _)
  · rw [mem_singleton.mp hf]
    exact meets_optional.mpr (htest _)

theorem fair_objectRecord (hg : g.Fair) (t : Traits) : (objectRecord g t).Meets Test.Fair := by
  refine (((neutral_parts t.parts).fair.extend ?_).extend (fair_automationFields hg t)).extend ?_
  · simp [Test.Fair]
  · simp [Test.Fair]

end Schema

/-! ## Kinds -/

namespace Kinds

@[simp] theorem fair_choices : Fair p (choices v) := by
  simp [choices]

@[simp] theorem fair_repeatCount : Fair p (repeatCount v) := by
  simp [repeatCount]

@[simp] theorem neutral_dateRecord (b : Bool) : (dateRecord b).Meets Test.Neutral :=
  meets_of (by simp [datePart, Field.Meets, Field.Calm])

@[simp] theorem neutral_flexibleDate : flexibleDate.Meets Test.Neutral :=
  meets_of (by simp [fair_templatable])

@[simp] theorem neutral_leafRecords : cellRecord.Meets Test.Neutral
    ∧ spanRecord.Meets Test.Neutral ∧ listItemRecord.Meets Test.Neutral
    ∧ axisRecord.Meets Test.Neutral ∧ cursorRecord.Meets Test.Neutral
    ∧ seriesRecord.Meets Test.Neutral ∧ sectionPart.Meets Test.Neutral
    ∧ majorTicks.Meets Test.Neutral ∧ meterMajor.Meets Test.Neutral := by
  refine ⟨?_, ?_, ?_, ?_, ?_, ?_, ?_, ?_, ?_⟩
  all_goals exact meets_of (by simp)

@[simp] theorem neutral_columnRecord : columnRecord.Meets Test.Neutral := meets_of (by simp)

@[simp] theorem fair_controls : Fair p (controls v) :=
  neutral_ensureList fun _ => fair_of_neutral (meets_of (by simp))

@[simp] theorem neutral_sectionRecord : sectionRecord.Meets Test.Neutral := by
  refine (meets_of ?_).check ?_
  · simp [sectionEnds]
  · simp [oneStart]

@[simp] theorem neutral_needleRecord : needleRecord.Meets Test.Neutral :=
  meets_of (by simp [lineNeedle])

@[simp] theorem neutral_tickRecord : tickRecord.Meets Test.Neutral := meets_of (by simp)

theorem neutral_oneValue : Test.Neutral oneValue := by simp [oneValue]

@[simp] theorem neutral_indicatorRecord : indicatorRecord.Meets Test.Neutral := by
  have hline : (meterLine.extend [.generated "id" (declareId needleType)]).Meets Test.Neutral :=
    ((meets_of (by simp)).check (by simp)).extend (by simp)
  have hpicture : (meterPicture.extend [.generated "id" (declareId pointerType),
      .generated "image_id" (declareId Kind.image.traits.type)]).Meets Test.Neutral :=
    (meets_of (by simp)).extend (by simp)
  have harc : (meterArc.extend [.generated "id" (declareId sweepType)]).Meets Test.Neutral :=
    (((meets_of (by simp [rangeEnds])).check (by simp)).check neutral_oneValue).extend (by simp)
  have hticks : (meterTicks.extend [.generated "id" (declareId sweepType)]).Meets Test.Neutral :=
    ((meets_of (by simp [rangeEnds])).check neutral_oneValue).extend (by simp)
  refine meets_of ?_
  simp only [forall_mem_cons, meets_exclusive]
  refine ⟨neutral_run hline, fun p v => fair_allOf ?_ v, neutral_run harc,
    neutral_run hticks, by simp⟩
  simp [hpicture]

@[simp] theorem neutral_meterScale : meterScale.Meets Test.Neutral := by
  have hticks : (of [.defaulted "count" (.int 12) natural, .defaulted "width" (.int 2) natural,
        .defaulted "length" (.int 10) Property.size.validate,
        .defaulted "radial_offset" (.int 0) Property.size.validate,
        .defaulted "color" (.int 0x808080) Property.color.validate,
        .optional "major" meterMajor.run]).Meets Test.Neutral :=
    meets_of (by simp)
  exact meets_of (by simp [hticks])

/-! ### Options of the kinds -/

variable {g : Grammar}

@[simp] theorem fair_checkBar : Fair p (checkBar v) := by
  unfold checkBar
  simp only [refuse_bind]
  repeat' split
  all_goals simp

theorem neutral_barRecord : barRecord.Meets Test.Neutral := (meets_of (by simp)).check (by simp)

theorem neutral_spinnerRecord : spinnerRecord.Meets Test.Neutral := by
  refine meets_of ?_
  simp only [forall_mem_cons, meets_defaulted]
  refine ⟨⟨fun p v => fair_allOf (by simp) v, by simp⟩, ?_⟩
  simp

theorem neutral_imageBase : imageBase.Meets Test.Neutral := by
  have hoptions : ∀ q ∈ imageOptions, Test.Neutral q.2.validate := by
    simp [imageOptions, unsupported]
  refine meets_of fun f hf => ?_
  obtain ⟨q, hq, rfl⟩ := mem_map.mp hf
  dsimp only
  split
  · exact (meets_exclusive _ _).mpr (hoptions q hq)
  · exact meets_optional.mpr (hoptions q hq)

theorem neutral_calendarChanges : calendarChanges.Meets Test.Neutral := meets_of (by simp)

theorem neutral_calendarRecord : calendarRecord.Meets Test.Neutral := by
  refine neutral_calendarChanges.extend ?_
  simp only [forall_mem_cons, meets_defaulted, meets_optional]
  refine ⟨by simp, fun p v => fair_allOf (by simp) v, by simp⟩

@[simp] theorem fair_paths : Fair p (drawingPath v) ∧ Fair p (animationPath v) := by
  refine ⟨fair_bind (text_still v).fair fun w => ?_, fair_bind (text_still v).fair fun w => ?_⟩
  all_goals
    simp only [refuse_bind]
    repeat' split
    all_goals simp

theorem walk_unnoted (parts : List String) :
    ∀ seen, walk s.unnoted parts seen = walk s parts seen := by
  induction parts with
  | nil => exact fun seen => rfl
  | cons part parts ih =>
    intro seen
    have hfolder : holdsFolder s.unnoted seen = holdsFolder s seen := rfl
    rw [Files.walk, Files.walk, hfolder]
    simp only [ih]

theorem fileAt?_unnoted (path : String) : fileAt? s.unnoted path = fileAt? s path := by
  have hbelow : below? s.unnoted path = below? s path := by
    unfold below?
    rw [walk_unnoted]
    rfl
  unfold fileAt?
  rw [hbelow]
  rfl

@[simp] theorem fair_builtInFile (noun : String) (v : Value) : Fair p (builtInFile noun v) := by
  refine fair_bind (textOf_still v).fair fun name => fair_get_bind (fun s => ?_) fun s => ?_
  · have hpath : pathOf s.unnoted name = pathOf s name := rfl
    simp only [hpath, fileAt?_unnoted]
  · simp only [refuse_bind]
    split <;> simp

theorem fair_buttonmatrixRecord (hg : g.Fair) : (buttonmatrixRecord g).Meets Test.Fair := by
  have hbutton : (matrixButtonRecord g).Meets Test.Fair :=
    (meets_of (by simp [Test.Fair])).extend (fair_automationFields hg _)
  have hrow : (of [.required "buttons" (ensureList (matrixButtonRecord g).run)]).Meets Test.Fair :=
    meets_of (by simpa using (fair_run hbutton).ensureList)
  refine meets_of ?_
  simp only [forall_mem_cons, meets_required]
  refine ⟨by simp [Test.Fair], by simp [Test.Fair], by simp [Test.Fair], by simp [Test.Fair],
    (fair_run hrow).ensureList, by simp⟩

theorem fair_tabviewRecord (hg : g.Fair) : (tabviewRecord g).Meets Test.Fair := by
  have htab : Test.Fair (tabRule g) := hg.container_of _ (by simp [Test.Fair])
  refine meets_of ?_
  simp only [forall_mem_cons, meets_required]
  exact ⟨htab.ensureList, by simp [Test.Fair]⟩

theorem fair_tileviewRecord (hg : g.Fair) : (tileviewRecord g).Meets Test.Fair := by
  have htile : Test.Fair (tileRule g) := hg.container_of _ (by simp [Test.Fair])
  exact meets_of (by simpa using htile.ensureList)

theorem fair_menuRecord (hg : g.Fair) : (menuRecord g).Meets Test.Fair := by
  have hpage : Test.Fair (menuPageRule g) := hg.container_of _ (by simp [Test.Fair])
  refine meets_of ?_
  simp only [forall_mem_cons, meets_optional]
  exact ⟨hpage.ensureList, by simp [Test.Fair]⟩

theorem fair_pageRecord (hg : g.Fair) : (pageRecord g).Meets Test.Fair := by
  have hload : Test.Fair (plainAutomations g) :=
    Automation.fair_automations (Automation.fair_record hg _)
  refine meets_of ?_
  simp only [forall_mem_cons, meets_optional]
  exact ⟨by simp [Test.Fair], hload, hload, by simp⟩

end Kinds

namespace Kind

variable {g : Grammar}

open Kinds

theorem fair_fields (hg : g.Fair) (k : Kind) (h : k.design.fields g = some r) :
    ∀ f ∈ r.fields, f.Meets Test.Fair := by
  have hneutral : ∀ {fs : List Field}, (∀ f ∈ fs, f.Meets Test.Neutral) →
      ∀ f ∈ fs, f.Meets Test.Fair := fun h f hf => ⟨(h f hf).1.fair, (h f hf).2⟩
  suffices hk : (k.design.fields g).elim True fun r => ∀ f ∈ r.fields, f.Meets Test.Fair by
    rw [h] at hk
    exact hk
  cases k with
  | win => exact trivial
  | animimg | dropdown | roller =>
    exact hneutral ((meets_of (by simp [selectionFields])).extend (by simp)).1
  | arc | arclabel | canvas | chart | checkbox | container | imgbtn | keyboard | led | line | list
    | meter | scale | slider | spangroup | table | tex3d | headerButton =>
    exact hneutral (meets_of (by simp [textFields])).1
  | bar => exact hneutral neutral_barRecord.1
  | button | footerButton | label | lottie | qrcode | spinbox | svg | textarea =>
    exact hneutral (by simp [textFields, labelFields, qrcodeFields, textareaFields, lottieRecord,
      spinboxRecord, svgRecord, check, of])
  | buttonmatrix => exact (fair_buttonmatrixRecord hg).1
  | calendar => exact hneutral neutral_calendarRecord.1
  | image => exact hneutral (neutral_imageBase.extend (by simp)).1
  | menu => exact (fair_menuRecord hg).1
  | page => exact (fair_pageRecord hg).1
  | spinner => exact hneutral neutral_spinnerRecord.1
  | tabview => exact (fair_tabviewRecord hg).1
  | tileview => exact (fair_tileviewRecord hg).1
  | _ => exact forall_mem_nil _

theorem neutral_changes : ∀ f ∈ k.design.changes g, f.Meets Test.Neutral := by
  cases k with
  | animimg | dropdown | roller => exact ((meets_of (by simp [selectionFields])).extend (by simp)).1
  | arc | arclabel | button | checkbox | footerButton | headerButton | keyboard | label | led | line
    | list | lottie | meter | qrcode | scale | slider | spinbox | table | textarea =>
    simp [Kind.design, Kinds.arc, Kinds.arclabel, Kinds.button, Kinds.checkbox, Kinds.footerButton,
      Kinds.headerButton, Kinds.keyboard, Kinds.label, Kinds.led, Kinds.line, Kinds.list, Kinds.lottie,
      Kinds.meter, Kinds.qrcode, Kinds.scale, Kinds.slider, Kinds.spinbox, Kinds.table,
      Kinds.textarea, Design.distinct, Design.same, of, textFields, labelFields, textareaFields,
      listRecord, meterRecord, scaleChanges, tableRecord]
  | bar => exact neutral_barRecord.1
  | calendar => exact neutral_calendarChanges.1
  | image => exact (neutral_imageBase.extend (by simp)).1
  | spinner => exact neutral_spinnerRecord.1
  | _ => exact forall_mem_nil _

theorem prepare_cases : k.design.prepare = pure ∨ k.design.prepare = prepareButton
      ∨ k.design.prepare = atMostOneKey ["indicator", "pivot"] := by
  cases k with
  | button => exact Or.inr (Or.inl rfl)
  | meter => exact Or.inr (Or.inr rfl)
  | _ => exact Or.inl rfl

theorem gives_prepare : Gives p (· = v) (k.design.prepare v) := by
  rcases prepare_cases k with h | h | h
  all_goals rw [h]
  · exact gives_pure rfl
  · refine (contains_still _ _).fair.gives.bind fun hasText _ => ?_
    dsimp only
    split
    · refine (contains_still _ _).fair.gives.bind fun hasWidgets _ => ?_
      split
      · exact gives_throw _
      · exact (fair_noteUses _).gives.bind fun _ _ => gives_pure rfl
    · exact gives_pure rfl
  · unfold atMostOneKey
    split
    · split
      · exact gives_throw _
      · exact gives_pure rfl
    · exact gives_throw _

end Kind

/-! ## Behaviours -/

namespace Kinds

@[simp] theorem fair_oneTarget : Fair p (oneTarget type v) :=
  neutral_maybeSimple fun _ => fair_of_neutral (meets_of (by simp))

@[simp] theorem fair_checkTileChoice : Fair p (checkTileChoice v) := by
  refine fair_bind (contains_still _ _).fair fun row => fair_bind (contains_still _ _).fair fun column =>
    fair_bind (contains_still _ _).fair fun tile => ?_
  simp only [refuse_bind]
  split <;> simp

@[simp] theorem neutral_showRecord : showRecord.Meets Test.Neutral :=
  neutral_panelReference.extend (by simp)

theorem neutral_styleSubset (names : List (String × String)) :
    ∀ q ∈ styleSubset names, Test.Neutral q.2.validate := by
  intro q hq
  obtain ⟨n, -, hn⟩ := mem_filterMap.mp hq
  obtain ⟨x, hx, rfl⟩ := Option.map_eq_some_iff.mp hn
  exact neutral_styleProperties x (mem_of_find?_eq_some hx)

@[simp] theorem fair_acceptPictureProperty (name : String) (v : Value) :
    Fair p (acceptPictureProperty name v) := by
  unfold acceptPictureProperty pictureProperty
  simp only [bind_assoc, pure_bind]
  refine fair_bind (fair_currentProperty _) fun current => ?_
  split
  · rename_i q hq
    have hmem : ∃ n, (n, q) ∈ styleProperties := by
      have hfind : ∀ n, (styleProperties.find? (·.1 == n)).map (·.2) = some q →
          ∃ n, (n, q) ∈ styleProperties := by
        intro n hn
        obtain ⟨x, hx, rfl⟩ := Option.map_eq_some_iff.mp hn
        exact ⟨x.1, mem_of_find?_eq_some hx⟩
      rcases hfirst : (styleProperties.find? (·.1 == "transform_" ++ current)).map (·.2) with
        _ | q'
      · rw [hfirst] at hq
        exact hfind name hq
      · rw [hfirst] at hq
        obtain rfl := Option.some.inj hq
        exact hfind _ hfirst
    obtain ⟨n, hn⟩ := hmem
    exact neutral_styleProperties _ hn p v
  · simp

theorem fair_renameAll (es : Entries) : ∀ done, Fair p (renameAll es done) := by
  induction es with
  | nil => exact fun done => fair_pure done
  | cons e es ih => exact fun done => fair_bind (fair_currentProperty _) fun name => ih _

@[simp] theorem fair_spreadScale : Fair p (spreadScale v) := by
  unfold spreadScale
  split
  · refine fair_bind (fair_renameAll _ _) fun es => ?_
    simp only [refuse_bind]
    repeat' split
    all_goals simp
  · simp

end Kinds

namespace Automation

@[simp] theorem fair_focusedId : Fair p (focusedId v) := by
  refine fair_bind (fair_useId _ _) fun w => ?_
  dsimp only
  split
  · exact fair_bind (fair_note fun _ => rfl) fun _ => fair_pure _
  · simp

@[simp] theorem fair_noteRefreshed : Fair p (noteRefreshed v) := by
  refine fair_bind (fair_forM fun entry _ => fair_bind (required_still _ _).fair fun w => ?_)
    fun _ => fair_pure _
  split
  · exact fair_note fun _ => rfl
  · simp

@[simp] theorem fair_oneWidget {v : Value} (h : Test.Neutral t) : Fair p (oneWidget t v) :=
  neutral_maybeSimple fun _ => fair_of_neutral (meets_of (by simpa using h))

@[simp] theorem fair_focusMove : Fair p (focusMove v) :=
  neutral_maybeSimple fun _ => fair_of_neutral (neutral_panelReference.extend (by simp))

@[simp] theorem fair_focusTarget : Fair p (focusTarget v) :=
  neutral_maybeSimple fun _ => fair_of_neutral (meets_of (by simp))

theorem neutral_screenUpdate : screenUpdate.Meets Test.Neutral :=
  (((neutral_parts _).extend neutral_panelReference.1).extend neutral_background.1).extend (by simp)

end Automation

namespace Behaviour

open Automation Kinds

variable {g : Grammar}

theorem neutral_updateOf : Test.Neutral ((updateOf k k.design).rule g) := by
  refine neutral_run (((neutral_updateRecord _ _).check ?_).extend (Kind.neutral_changes k))
  simp

theorem fair_standardActions (hg : g.Fair) : ∀ b ∈ standardActions, Test.Fair (b.rule g) := by
  have hbranch : (of [.required "condition" g.condition, .optional "then" g.actions,
        .optional "else" g.actions]).Meets Test.Fair :=
    meets_of (by simp [hg.condition, hg.actions])
  have hlog : (of [.required "format" text, .defaulted "args" (.list []) (ensureList lambda),
        .defaulted "level" (.str "DEBUG") (upperWord (logLevels.map (·.1))),
        .defaulted "tag" (.str "main") text]).Meets Test.Neutral :=
    meets_of (by simp)
  simp only [standardActions, forall_mem_cons]
  refine ⟨fun v => (lambda_still v).fair, fun v => fair_templatable (Period.fair_milliseconds v),
    (fair_run hbranch).andThen (by simp), fun v => ?_, by simp⟩
  exact neutral_maybeSimple fun _ => fair_allOf (by simp [hlog]) _

theorem neutral_widgetActions : ∀ b ∈ widgetActions, Test.Neutral (b.rule g) := by
  have hone : Test.Neutral (oneWidget (useId Cpp.lvObj)) := fun _ _ => fair_oneWidget (by simp)
  simp [widgetActions, switchActions, onTargets, updateWidget, redraw, refresh, focus,
    neutral_updateRecord, fair_allOf, hone _]

theorem neutral_screenActions : ∀ b ∈ screenActions, Test.Neutral (b.rule g) := by
  have hpause : (panelReference.extend
      [.defaulted "show_snow" (.bool false) Property.boolean.validate]).Meets Test.Neutral :=
    neutral_panelReference.extend (by simp)
  have hstyle : (fullStyle.extend [.required "id" (useId Cpp.lvStyle)]).Meets Test.Neutral :=
    neutral_fullStyle.extend (by simp)
  have hresume : (panelReference.extend []).Meets Test.Neutral :=
    neutral_panelReference.extend (by simp)
  simp [screenActions, updateScreen, setPaused, updateStyle, neutral_screenUpdate,
    hpause, hresume, hstyle]

theorem neutral_scaleActions : ∀ b ∈ scaleActions, Test.Neutral (b.rule g) := by
  simp only [scaleActions, forall_mem_cons]
  refine ⟨neutral_run (meets_of ?_), neutral_run ((meets_of ?_).check ?_),
    neutral_run (meets_of ?_), by simp⟩
  · exact forall_mem_append.mpr ⟨by simp [scaleChanges], by simp⟩
  · simp [sectionEnds]
  · simp [oneStart]
  · simp

theorem neutral_plainCanvasActions : ∀ b ∈ plainCanvasActions, Test.Neutral (b.rule g) := by
  simp only [plainCanvasActions, forall_mem_cons]
  refine ⟨?_, ?_, ?_, ?_, ?_, ?_, ?_, ?_, by simp⟩
  all_goals
    refine neutral_run ⟨?_, by simp⟩
    simp [canvasField, coverField]

theorem neutral_drawActions :
    ∀ b ∈ [drawRectangle, drawText, drawPicture, drawLine, drawPolygon, drawArc],
      Test.Neutral (b.rule g) := by
  have hplace : ∀ f ∈ opaquePlaceFields, f.Meets Test.Neutral := by
    simp [opaquePlaceFields, placeFields, canvasField]
  have hpoints : pointsField.Meets Test.Neutral := by simp [pointsField]
  have hcanvas : canvasField.Meets Test.Neutral := by simp [canvasField]
  have hsubset : ∀ names, ∀ f ∈ propertyFields (styleSubset names), f.Meets Test.Neutral :=
    fun names => neutral_propertyFields (neutral_styleSubset names)
  simp only [forall_mem_cons]
  refine ⟨?_, ?_, ?_, ?_, ?_, ?_, by simp⟩
  all_goals refine neutral_run ⟨?_, by simp⟩
  · refine forall_mem_append.mpr ⟨forall_mem_append.mpr ⟨hplace, ?_⟩, hsubset _⟩
    simp [drawRectangle.wholeOption, fair_templatable]
  · refine forall_mem_append.mpr ⟨forall_mem_append.mpr
      ⟨forall_mem_append.mpr ⟨by simp [textFields], hplace⟩, ?_⟩, hsubset _⟩
    simp [fair_templatable]
  · refine forall_mem_append.mpr ⟨forall_mem_append.mpr ⟨hplace, ?_⟩, ?_⟩
    · simp
    · intro f hf
      obtain ⟨name, -, rfl⟩ := mem_map.mp hf
      simp
  · refine forall_mem_append.mpr ⟨?_, neutral_propertyFields
      (forall_mem_append.mpr ⟨neutral_styleSubset _, ?_⟩)⟩
    · simp [hcanvas, hpoints]
    · simp
  · exact forall_mem_append.mpr ⟨by simp [hcanvas, hpoints], hsubset _⟩
  · refine forall_mem_append.mpr ⟨forall_mem_append.mpr ⟨hplace, ?_⟩, hsubset _⟩
    simp

theorem neutral_chartActions : ∀ b ∈ chartActions, Test.Neutral (b.rule g) := by
  simp only [chartActions, forall_mem_cons]
  refine ⟨?_, fun _ _ => fair_oneTarget _ _, ?_, ?_, ?_, ?_, by simp⟩
  all_goals
    refine neutral_run (meets_of ?_)
    simp [chartField, seriesField, wholeField, fair_templatable]

theorem neutral_pageActions : ∀ b ∈ pageActions, Test.Neutral (b.rule g) := by
  simp only [pageActions, forall_mem_cons]
  refine ⟨neutral_run ((meets_of ?_).check ?_),
    neutral_run ((meets_of ?_).check ?_), neutral_run neutral_showRecord,
    neutral_run neutral_showRecord, fun _ _ => neutral_maybeSimple fun _ =>
      fair_of_neutral (neutral_showRecord.extend ?_), by simp⟩
  all_goals simp

theorem neutral_kindActions : ∀ b ∈ kindActions, Test.Neutral (b.rule g) := by
  have hcalendar : Test.Neutral (updateCalendar.rule g) := neutral_run (meets_of (by simp))
  have hbutton : Test.Neutral (updateMatrixButton.rule g) := neutral_run (meets_of (by simp))
  have hindicator : Test.Neutral (updateIndicator.rule g) := neutral_run (meets_of (by simp))
  simp only [kindActions, canvasActions, forall_mem_append]
  refine ⟨⟨⟨⟨⟨⟨⟨?_, neutral_scaleActions⟩, neutral_plainCanvasActions, neutral_drawActions⟩,
    neutral_chartActions⟩, neutral_pageActions⟩, ?_⟩, ?_⟩, ?_⟩
  · simp only [forall_mem_cons]
    exact ⟨hcalendar, hbutton, hindicator, forall_mem_nil _⟩
  · simp [animimgActions, callAction]
  · simp [spinActions, callAction]
  · simp [lottieActions, lottieAction]

theorem fair_actions (hg : g.Fair) : ∀ b ∈ actions, Test.Fair (b.rule g) := by
  simp only [actions, forall_mem_append]
  refine ⟨⟨⟨⟨fair_standardActions hg, ?_⟩, ?_⟩, ?_⟩, ?_⟩
  · exact fun b hb => (neutral_widgetActions b hb).fair
  · exact fun b hb => (neutral_screenActions b hb).fair
  · exact fun b hb => (neutral_kindActions b hb).fair
  · intro b hb
    obtain ⟨k, -, rfl⟩ := mem_map.mp hb
    exact (neutral_updateOf k).fair

theorem fair_conditions (hg : g.Fair) : ∀ b ∈ conditions, Test.Fair (b.rule g) := by
  have hidle : (panelReference.extend
      [.required "timeout" (templatable Property.milliseconds.validate)]).Meets Test.Neutral :=
    neutral_panelReference.extend (by simp [fair_templatable])
  simp only [conditions, standardConditions, screenConditions, pageConditions, cons_append,
    nil_append, forall_mem_cons]
  exact ⟨fun v => (returningLambda_still v).fair, hg.conditions, hg.conditions, hg.condition,
    fair_run neutral_panelReference.fair, fair_run hidle.fair,
    fun v => fair_oneTarget _ v, by simp⟩

end Behaviour

end Panel
