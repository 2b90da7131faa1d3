import Panel.Proofs.Work
import Panel.Registry

/-! # Questions — what the values of a configuration ask of a session

    Writing a value adds nothing to the program.  It looks at the session, and it may wait for
    objects that the value refers to. -/

namespace Panel

open Cpp List Code Value

variable {v x : Value} {body key : String} {p : Property} {test : Test} {type : CppType}
  {form : Value → Check Value} {α : Type} {e : Failure} {es : Entries} (message : String)

/-! ## Work that does not look at the session -/

/-- Work whose answer does not depend on the session, and that leaves it as it is. -/
def Check.Still {α : Type} (c : Check α) : Prop := ∃ r, ∀ s, c.on s = (r, s)

namespace Check.Still

variable {α β : Type} {c : Check α}

@[simp, grind ←]
theorem of_pure (a : α) : Still (pure a : Check α) := ⟨.ok a, fun _ => rfl⟩

@[simp, grind ←]
theorem of_throw (e : Failure) : Still (throw e : Check α) := ⟨.error e, fun _ => rfl⟩

@[simp, grind ←]
theorem of_refuse : Still (refuse message : Check α) := of_throw _

@[simp, grind ←]
theorem bind {f : α → Check β} (hc : Still c) (hf : ∀ a, Still (f a)) : Still (c >>= f) := by
  obtain ⟨r, hr⟩ := hc
  cases r with
  | ok a =>
    obtain ⟨r', hr'⟩ := hf a
    exact ⟨r', fun s => (on_bind_ok f (hr s)).trans (hr' s)⟩
  | error e => exact ⟨.error e, fun s => on_bind_error f (hr s)⟩

@[simp, grind ←]
theorem map (f : α → β) (hc : Still c) : Still (f <$> c) := by
  rw [map_eq_pure_bind]
  exact hc.bind fun a => of_pure (f a)

end Check.Still

@[simp] theorem refuse_bind {β : Type} (f : α → Check β) :
    (refuse message >>= f) = refuse message := rfl

theorem required_eq (h : v.get? key = some x) : required v key = pure x := by
  cases v with
  | dict es => rw [required, show Entries.get? es key = some x from h]
  | _ => cases h

theorem required_of_get? (h : es.get? key = some x) :
    required (.dict es) key = pure x := required_eq h

theorem required_missing (h : v.get? key = none) : ∃ e, required v key = throw e := by
  cases v with
  | dict es => exact ⟨_, by rw [required, show Entries.get? es key = none from h]⟩
  | _ => exact ⟨_, rfl⟩

@[simp, grind ←]
theorem required_still (v : Value) (key : String) : (required v key).Still := by
  unfold required
  repeat' split
  all_goals grind

@[simp, grind ←]
theorem identAt_still (v : Value) (key : String) : (identAt v key).Still := by
  refine .bind (required_still v key) fun x => ?_
  unfold identOf
  split <;> simp

namespace Code

@[simp, grind ←]
theorem express_still (v : Value) : (express v).Still := by
  unfold express
  split <;> simp

@[simp, grind ←]
theorem arguments_still (vs : List Value) : (arguments vs).Still := by
  unfold arguments
  split <;> simp

@[simp, grind ←]
theorem callOf_still (name : String) (args : List Value) : (callOf name args).Still := by
  simp [callOf]

@[simp, grind ←]
theorem methodOf_still (e : Expr) (name : String) (args : List Value) :
    (methodOf e name args).Still := by
  simp [methodOf]

@[simp, grind ←]
theorem castOf_still (type : String) (v : Value) : (castOf type v).Still := by
  simp [castOf]

end Code

namespace Test

variable (v : Value)

@[simp, grind ←]
theorem noLambda_still : (noLambda v).Still := by
  unfold noLambda
  split <;> simp

@[simp, grind ←]
theorem text_still : (text v).Still := by
  refine .bind (noLambda_still v) fun _ => ?_
  split <;> simp

@[simp, grind ←]
theorem textOf_still : (textOf v).Still :=
  .bind (text_still v) fun _ => .of_pure _

@[simp, grind ←]
theorem strictText_still : (strictText v).Still := by
  refine .bind (noLambda_still v) fun _ => ?_
  split <;> simp

@[simp]
theorem boolean_still : (boolean v).Still := by
  refine .bind (noLambda_still v) fun _ => ?_
  split
  · simp
  · dsimp only
    repeat' split
    all_goals simp

@[simp, grind ←]
theorem truncated_still (x : Float) : (truncated x).Still := by
  unfold truncated
  repeat' split
  all_goals simp

@[simp]
theorem integer_still : (integer v).Still := by
  refine .bind (noLambda_still v) fun _ => ?_
  split
  · simp
  · simp
  · refine .bind (truncated_still _) fun n => ?_
    split <;> simp
  · refine .bind (strictText_still v) fun n => ?_
    dsimp only
    split <;> simp

@[simp, grind ←]
theorem number_still : (Test.number v).Still := by
  unfold Test.number
  repeat' split
  all_goals simp

@[simp]
theorem within_still (low high : Option Value) (v : Value) : (within low high v).Still := by
  unfold within
  simp only [refuse_bind]
  repeat' split
  all_goals simp

@[simp]
theorem wordOf_still (form : WordForm) (options : List String) (v : Value) :
    (wordOf form options v).Still := by
  refine .bind (textOf_still v) fun s => ?_
  extract_lets spaced lowered word
  split
  · simp
  · unfold unknownWord
    split <;> simp

@[simp]
theorem lowerWord_still (options : List String) (v : Value) : (lowerWord options v).Still :=
  .bind (wordOf_still _ _ v) fun _ => .of_pure _

@[simp]
theorem upperWord_still (options : List String) (v : Value) : (upperWord options v).Still :=
  .bind (wordOf_still _ _ v) fun _ => .of_pure _

@[simp]
theorem lambda_still : (Test.lambda v).Still := by
  unfold Test.lambda
  extract_lets whole
  have hwhole : ∀ body, (whole body).Still := by
    intro body
    unfold whole
    split <;> simp
  split
  · exact .bind (.of_pure _) hwhole
  · exact .bind (strictText_still v) fun w => .bind (.of_pure _) hwhole

@[simp, grind ←]
theorem returningLambda_still : (returningLambda v).Still := by
  refine .bind (lambda_still v) fun w => ?_
  repeat' split
  all_goals simp

@[simp, grind ←]
theorem convertInt_still : (convertInt v).Still := by
  unfold convertInt
  repeat' split
  all_goals simp

@[simp, grind ←]
theorem contains_still (key : String) : (Test.contains v key).Still := by
  unfold Test.contains
  repeat' split
  all_goals grind

end Test

namespace Value

variable (v : Value)

@[simp, grind ←]
theorem times_still (n : Nat) : (v.times n).Still := by
  unfold times
  repeat' split
  all_goals grind

@[simp, grind ←]
theorem timesFloat_still (y : Float) : (v.timesFloat y).Still := by
  unfold timesFloat
  repeat' split
  all_goals grind

@[simp, grind ←]
theorem wholeTimes_still (n : Nat) (v : Value) : (v.wholeTimes n).Still :=
  .bind (times_still v n) fun _ => .bind (Test.convertInt_still _) fun _ => .of_pure _

@[simp, grind ←]
theorem toFloat_still : v.toFloat.Still := by
  unfold toFloat
  repeat' split
  all_goals grind

@[simp, grind ←]
theorem combine_still (op : String) (whole : Int → Int → Int) (real : Float → Float → Float)
    (a b : Value) : (combine op whole real a b).Still := by
  unfold combine
  repeat' split
  all_goals grind

@[simp, grind ←]
theorem plus_still (a b : Value) : (a.plus b).Still := combine_still _ _ _ a b

@[simp, grind ←]
theorem minus_still (a b : Value) : (a.minus b).Still := combine_still _ _ _ a b

@[simp, grind ←]
theorem multiply_still (a b : Value) : (a.multiply b).Still := combine_still _ _ _ a b

@[simp, grind ←]
theorem atMost_still (a b : Value) : (a.atMost b).Still := by
  unfold atMost
  repeat' split
  all_goals grind

@[simp, grind ←]
theorem isBelow_still (a b : Value) : (a.isBelow b).Still := by
  unfold isBelow
  repeat' split
  all_goals grind

@[simp, grind ←]
theorem tenTo_still : v.tenTo.Still := by
  unfold tenTo
  repeat' split
  all_goals grind

end Value

namespace Style

@[simp, grind ←]
theorem valueAt_still (v : Value) (key : String) : (valueAt v key).Still := by
  unfold valueAt
  repeat' split
  all_goals grind

theorem among_still (config : Value) (keys : List String) : (among config keys).Still := by
  induction keys with
  | nil => exact .of_pure _
  | cons key keys ih =>
    refine .bind (Test.contains_still config key) fun there => ?_
    split
    · exact .bind (valueAt_still config key) fun _ => .bind ih fun _ => .of_pure _
    · exact ih

theorem collectUnder_still {collect : Value → Check α} (hcollect : ∀ v, (collect v).Still)
    (config : Value) (names : List String)
    (found : List (String × α)) : (collectUnder collect config names found).Still := by
  induction names generalizing found with
  | nil => exact .of_pure _
  | cons name names ih =>
    refine .bind (Test.contains_still config name) fun there => ?_
    split
    · exact .bind (valueAt_still config name) fun v => .bind (hcollect v) fun _ => ih _
    · exact ih found

@[simp, grind ←]
theorem collectParts_still (config : Value) : (collectParts config).Still := by
  have hprops : ∀ v, (collectProps v).Still := fun v => among_still v _
  have hstates : ∀ v, (collectStates v).Still := fun v =>
    .bind (hprops v) fun _ => collectUnder_still hprops v _ _
  exact .bind (hstates config) fun _ => collectUnder_still hstates config _ _

end Style

/-! ## Work that reads -/

/-- The part of a session that values are written with: the objects, the configuration, and the
    parameters of the current block. -/
def Session.seen (s : Session) : List Variable × Entries × Except Failure (List Param) :=
  (s.objects, s.config, Code.automationParams s)

/-- Work whose answer depends on what can be seen of the session, and that leaves it as it is. -/
structure Check.Reads {α : Type} (c : Check α) : Prop where
  leaves : ∀ s, (c.on s).2 = s
  answer : ∀ {s t : Session}, s.seen = t.seen → (c.on s).1 = (c.on t).1

namespace Check

variable {α β : Type} {c : Check α}

@[grind ←]
theorem Still.reads (h : c.Still) : c.Reads := by
  obtain ⟨r, hr⟩ := h
  exact ⟨fun s => by rw [hr], fun {s t} _ => by rw [hr, hr]⟩

namespace Reads

theorem on_eq (h : c.Reads) (s : Session) : c.on s = ((c.on s).1, s) :=
  Prod.ext rfl (h.leaves s)

theorem on_bind (hc : c.Reads) (f : α → Check β) (s : Session) :
    (c >>= f).on s = match (c.on s).1 with
      | .ok a => (f a).on s
      | .error e => (.error e, s) := by
  have hs := hc.on_eq s
  cases hr : (c.on s).1 with
  | ok a => exact on_bind_ok f (hr ▸ hs)
  | error e => exact on_bind_error f (hr ▸ hs)

@[grind ←]
theorem bind {f : α → Check β} (hc : c.Reads) (hf : ∀ a, (f a).Reads) : (c >>= f).Reads := by
  refine ⟨fun s => ?_, fun {s t} h => ?_⟩
  · rw [hc.on_bind]
    cases (c.on s).1 with
    | ok a => exact (hf a).leaves s
    | error e => rfl
  · rw [hc.on_bind, hc.on_bind, hc.answer h]
    cases (c.on t).1 with
    | ok a => exact (hf a).answer h
    | error e => rfl

theorem of_get_bind {f : Session → Check α} (hf : ∀ s, (f s).Reads)
    (hsame : ∀ {s t : Session}, s.seen = t.seen → f s = f t) :
    ((get : Check Session) >>= f).Reads where
  leaves s := (hf s).leaves s
  answer {s t} h := by
    show ((f s).on s).1 = ((f t).on t).1
    rw [hsame h]
    exact (hf t).answer h

end Reads

end Check

@[grind ←]
theorem formColor_reads (v : Value) : (formColor v).Reads := by
  have hchannel : ∀ entry name, (configuredChannel entry name).Still := by
    intro entry name
    unfold configuredChannel
    split <;> simp
  have hconfigured : ∀ id, (configuredColor id).Reads := by
    intro id
    refine .of_get_bind (fun s => ?_) fun {s t} h => ?_
    · refine Check.Still.reads ?_
      repeat' split
      all_goals grind
    · have hconfig : s.config = t.config := congrArg (·.2.1) h
      rw [hconfig]
  unfold formColor
  repeat' split
  all_goals grind

@[grind ←]
theorem Code.lambdaParams_reads (given : List Param) : (lambdaParams given).Reads := by
  unfold lambdaParams
  split
  · refine .of_get_bind (fun s => ?_) fun {s t} h => ?_
    · split <;> grind
    · have hparams : automationParams s = automationParams t := congrArg (·.2.2) h
      rw [hparams]
  · grind

/-! ## Work that asks -/

/-- Work that reads, and waits for objects of the given names only. -/
inductive Build.Asks (names : Option String → Prop) : {α : Type} → Build α → Prop
  | of_check {α : Type} {c : Check α} : c.Reads → Asks names (Build.ofCheck c)
  | of_await {name : Option String} : names name → Asks names (Code.awaitVariable name)
  | bind {α β : Type} {x : Build α} {f : α → Build β} :
      Asks names x → (∀ a, Asks names (f a)) → Asks names (x >>= f)

namespace Build.Asks

variable {α : Type} {names : Option String → Prop}

@[simp, grind ←]
theorem of_lift {c : Check α} (h : c.Reads) : Asks names (liftM c : Build α) := .of_check h

@[simp, grind ←]
theorem of_pure (a : α) : Asks names (pure a : Build α) :=
  .of_check (c := pure a) (Check.Still.of_pure a).reads

@[simp, grind ←]
theorem of_throw (e : Failure) : Asks names (throw e : Build α) :=
  .of_check (c := throw e) (Check.Still.of_throw e).reads

attribute [grind ←] Build.Asks.bind

end Build.Asks

mutual

/-- The names that a value waits for when it is written: those of its identifiers, and those that
    its lambdas refer to. -/
def Value.asked : Value → List (Option String)
  | .ident id => [id.name]
  | .lambda body => (Code.references body).map some
  | .list xs => askedItems xs
  | .dict es => askedEntries es
  | _ => []

def Value.askedItems : List Value → List (Option String)
  | [] => []
  | v :: vs => v.asked ++ askedItems vs

def Value.askedEntries : Entries → List (Option String)
  | [] => []
  | (_, v) :: es => v.asked ++ askedEntries es

end

namespace Value

theorem asked_of_mem_entries {e : String × Value} (h : e ∈ es) : e.2.asked ⊆ askedEntries es := by
  induction es with
  | nil => exact nomatch h
  | cons d es ih =>
    obtain ⟨k, v⟩ := d
    rw [askedEntries]
    rcases mem_cons.mp h with rfl | h
    · exact subset_append_left _ _
    · exact List.Subset.trans (ih h) (subset_append_right _ _)

theorem asked_of_get? (h : v.get? key = some x) : x.asked ⊆ v.asked := by
  unfold get? at h
  split at h
  · next es =>
      obtain ⟨e, he, rfl⟩ := Option.map_eq_some_iff.mp h
      rw [asked]
      exact asked_of_mem_entries (mem_of_find?_eq_some he)
  · cases h

end Value

theorem Build.Asks.required_bind {names : Option String → Prop} {f : Value → Build α}
    (h : ∀ x, v.get? key = some x → (f x).Asks names) :
    ((liftM (required v key) : Build Value) >>= f).Asks names := by
  cases hx : v.get? key with
  | none =>
    obtain ⟨e, he⟩ := required_missing hx
    rw [he]
    exact of_throw e
  | some x =>
    rw [required_eq hx]
    exact h x hx

namespace Code

variable {names : Option String → Prop}

@[grind ←]
theorem resolve_asks {id : Ident} (h : names id.name) : (resolve id).Asks names :=
  .bind (.of_await h) fun _ => .of_pure _

theorem piecesText_asks {ps : List Piece}
    (h : ∀ name dotted, .reference name dotted ∈ ps → names (some name)) :
    (piecesText ps).Asks names := by
  induction ps with
  | nil => exact .of_pure _
  | cons p ps ih =>
    have hrest := ih fun name dotted hmem => h name dotted (mem_cons_of_mem _ hmem)
    cases p with
    | text s => exact .bind hrest fun _ => .of_pure _
    | reference name dotted =>
      exact .bind (.of_await (h name dotted mem_cons_self)) fun _ =>
        .bind hrest fun _ => .of_pure _

theorem closure_asks (h : ∀ n ∈ (lambda body).asked, names n) (params : List Param)
    (capture : String) (result : Option CppType) :
    (closure body params capture result).Asks names := by
  refine .bind (piecesText_asks fun name dotted hmem => h _ ?_) fun _ => .of_pure _
  rw [asked]
  exact mem_map_of_mem (mem_filterMap.mpr ⟨_, hmem, rfl⟩)

end Code

/-! ## Properties -/

/-- Writing a value of the property asks for the names in the value only. -/
def Property.Asks (p : Property) : Prop :=
  ∀ (names : Option String → Prop) (params : List Param) (v : Value),
    (∀ n ∈ v.asked, names n) → (p.emitWith params v).Asks names

namespace Property

variable {names : Option String → Prop}

theorem Asks.emit (h : p.Asks) (hv : ∀ n ∈ v.asked, names n) :
    (p.emit v).Asks names := h names [] v hv

theorem emitLambda_asks (h : ∀ n ∈ (lambda body).asked, names n) (type : CppType)
    (params : List Param) : (emitLambda type params body).Asks names :=
  .bind (.of_lift (lambdaParams_reads params)) fun _ =>
    .bind (closure_asks h _ _ _) fun _ => .of_pure _

theorem resolveItems_asks {vs : List Value} (h : ∀ n ∈ askedItems vs, names n) :
    (resolveItems vs).Asks names := by
  fun_induction resolveItems vs with
  | case1 => exact .of_pure _
  | case2 id vs ih =>
    rw [askedItems, asked] at h
    exact .bind (resolve_asks (h _ (mem_append_left _ mem_cons_self))) fun _ =>
      .bind (ih fun n hn => h n (mem_append_right _ hn)) fun _ => .of_pure _
  | case3 v vs _ ih =>
    rw [askedItems] at h
    exact .bind (ih fun n hn => h n (mem_append_right _ hn)) fun _ => .of_pure _

theorem emitPlain_asks (whole : Bool) (h : ∀ n ∈ v.asked, names n) :
    (emitPlain whole v).Asks names := by
  have hexpress : ∀ x : Value, (do return cpp (← express x) : Build Value).Asks names :=
    fun x => .bind (.of_lift (express_still x).reads) fun _ => .of_pure _
  have hwhole : ∀ x : Value, (int <$> (Test.convertInt x : Check Int) : Build Value).Asks names := by
    intro x
    rw [map_eq_pure_bind]
    exact .bind (.of_lift (Test.convertInt_still x).reads) fun _ => .of_pure _
  have hlast : ∀ x : Value, (do
      let x ← if whole then int <$> (Test.convertInt x : Check Int) else pure x
      return cpp (← express x) : Build Value).Asks names := by
    intro x
    dsimp only
    split
    · exact .bind (hwhole x) hexpress
    · exact .bind (.of_pure x) hexpress
  cases v with
  | ident id =>
    rw [asked] at h
    exact .bind (resolve_asks (h _ mem_cons_self)) fun _ => .of_pure _
  | list xs =>
    rw [asked] at h
    exact .bind (resolveItems_asks h) fun _ => .bind (.of_pure _) hlast
  | _ => exact .bind (.of_pure _) hlast

@[simp, grind ←]
theorem plain_asks (test : Test) (type : CppType) (needs : Option String) :
    (plain test type needs).Asks := by
  intro names params v h
  unfold plain
  dsimp only
  split
  · exact .of_pure _
  · exact .bind (emitLambda_asks h _ _) fun _ => .of_pure _
  · exact emitPlain_asks _ h

theorem mapped_asks (hform : ∀ v, (form v).Reads) : (mapped test type form).Asks := by
  intro names params v h
  unfold mapped
  dsimp only
  split
  · exact .of_pure _
  · exact .bind (emitLambda_asks h _ _) fun _ => .of_pure _
  · exact .of_lift (hform v)

theorem mapped_asks_still (hform : ∀ v, (form v).Still) : (mapped test type form).Asks :=
  mapped_asks fun v => (hform v).reads

@[simp, grind ←]
theorem oneOf_asks (c : Constant) : c.oneOf.Asks := mapped_asks_still fun _ => .of_pure _

@[simp, grind ←]
theorem severalOf_asks (c : Constant) : c.severalOf.Asks := mapped_asks_still fun _ => .of_pure _

@[simp, grind ←]
theorem opacity_asks : opacity.Asks :=
  mapped_asks_still fun v => .bind (timesFloat_still v _) fun _ =>
    .bind (castOf_still _ _) fun _ => .of_pure _

@[simp, grind ←]
theorem percentage_asks : percentage.Asks := mapped_asks_still fun v => wholeTimes_still _ v

theorem formPixelsOrPercent_still (v : Value) : (formPixelsOrPercent v).Still := by
  unfold formPixelsOrPercent
  split <;> grind

@[simp, grind ←]
theorem pixelsOrPercent_asks : pixelsOrPercent.Asks := mapped_asks_still formPixelsOrPercent_still

@[simp, grind ←]
theorem pixels_asks : pixels.Asks := mapped_asks_still fun _ => .of_pure _

@[simp, grind ←]
theorem padding_asks : padding.Asks := mapped_asks_still fun _ => .of_pure _

@[simp, grind ←]
theorem size_asks : size.Asks :=
  mapped_asks_still fun v => by
    split
    · exact .of_pure _
    · exact formPixelsOrPercent_still v

@[simp, grind ←]
theorem fraction_asks : fraction.Asks := mapped_asks_still fun _ => .of_pure _

@[simp, grind ←]
theorem scale_asks : scale.Asks := mapped_asks_still fun v => wholeTimes_still _ v

@[simp, grind ←]
theorem tenthsOfDegree_asks : tenthsOfDegree.Asks := mapped_asks_still fun v => wholeTimes_still _ v

@[simp, grind ←]
theorem degrees_asks : degrees.Asks :=
  mapped_asks_still fun v => .bind (Test.convertInt_still v) fun _ => .of_pure _

@[simp, grind ←]
theorem boolean_asks : boolean.Asks := mapped_asks_still fun _ => .of_pure _

@[simp, grind ←]
theorem milliseconds_asks : milliseconds.Asks := mapped_asks_still fun v => by split <;> simp

@[simp, grind ←]
theorem number_asks : number.Asks := plain_asks _ _ _

@[simp, grind ←]
theorem integer_asks : integer.Asks := plain_asks _ _ _

@[simp, grind ←]
theorem natural_asks : natural.Asks := plain_asks _ _ _

@[simp, grind ←]
theorem color_asks : color.Asks := mapped_asks formColor_reads

@[simp, grind ←]
theorem image_asks : image.Asks := plain_asks _ _ _

@[simp, grind ←]
theorem imageList_asks : imageList.Asks := plain_asks _ _ _

@[simp, grind ←]
theorem gradient_asks : gradient.Asks := mapped_asks_still fun _ => .of_pure _

@[simp, grind ←]
theorem font_asks : font.Asks := by
  intro names params v h
  unfold font
  dsimp only
  split
  · exact .of_pure _
  · split
    · exact .of_pure _
    · exact plain_asks _ _ _ names params v h

@[simp, grind ←]
theorem unmapped_asks (test : Test) : (unmapped test).Asks := fun _ _ v _ => .of_pure v

theorem joinedArgs_still (args : Value) : (joinedArgs args).Still := by
  unfold joinedArgs
  repeat' split
  all_goals simp

theorem quotedText_still (x : Value) : (quotedText x).Still := by
  unfold quotedText
  split <;> simp

theorem formFormat_still (v format : Value) : (formFormat v format).Still := by
  refine .bind (required_still _ _) fun x => .bind (joinedArgs_still x) fun _ => ?_
  refine .bind (quotedText_still format) fun _ => ?_
  unfold orMissing
  repeat' split
  · exact .bind (quotedText_still _) fun _ => .of_pure _
  all_goals exact .of_pure _

theorem clockOf_asks (params : List Param) (h : ∀ n ∈ v.asked, names n) :
    (clockOf params v).Asks names := by
  unfold clockOf
  split
  · exact .bind (closure_asks h _ _ _) fun _ => .of_pure _
  · rw [asked] at h
    exact .bind (resolve_asks (h _ mem_cons_self)) fun _ => .of_pure _
  · exact .of_throw _

theorem formTime_asks (params : List Param) (h : ∀ n ∈ v.asked, names n) (format : Value) :
    (formTime params v format).Asks names := by
  refine Build.Asks.required_bind fun x hx => ?_
  refine .bind (clockOf_asks params fun n hn => h n (asked_of_get? hx hn)) fun _ => ?_
  exact .bind (.of_lift (methodOf_still _ _ _).reads) fun _ => .of_pure _

@[simp, grind ←]
theorem text_asks : text.Asks := by
  intro names params v h
  show (emitText params v).Asks names
  unfold emitText
  refine .bind (.of_lift (lambdaParams_reads params)) fun params => ?_
  dsimp only
  split
  · exact .of_lift (formFormat_still _ _).reads
  · split
    · exact formTime_asks params h _
    · split
      · exact .of_pure _
      · exact .bind (closure_asks h _ _ _) fun _ => .of_pure _
      · exact .of_pure _

end Property

namespace Style

theorem allStyles_asks : ∀ e ∈ allStyles, e.2.Asks := by
  simp [allStyles, Schema.styleProperties, Schema.gridAlignment]

theorem property?_asks {name : String} (h : property? name = some p) : p.Asks := by
  obtain ⟨e, he, rfl⟩ := Option.map_eq_some_iff.mp h
  exact allStyles_asks e (mem_of_find?_eq_some he)

end Style

end Panel
