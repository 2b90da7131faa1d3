import Panel.Proofs.ActionBlocks
import Panel.Proofs.FormatArguments
import Panel.Proofs.StyleAgreement
import Panel.Proofs.UpdateRules

/-! # Forms of texts — dictionaries that two rules accept, and what is written for them

    A text may be a dictionary: a format with arguments, or the time of a clock.  The property of texts
    looks for a format and nothing else; the rule of the options for texts checks the whole. -/

namespace Panel

open Cpp List Code Build

variable {s t : Session} {params : List Param} {es : Entries} {w : Value}
  {names : Option String → Prop} {format : Value}

/-! ## Work that ends well -/

section Ends

variable {α β : Type} {c : Check α}

def Check.Ends (c : Check α) (s : Session) : Prop := ∃ a, c.on s = (.ok a, s)

/-- Work that ends at once and well, and leaves the session as it is. -/
def Build.Ends (b : Build α) (s : Session) : Prop := ∃ a, b s = .done (.ok a) s

theorem Check.Reads.ends_bind (hc : c.Reads) {f : α → Check β} :
    (c >>= f).Ends s ↔ ∃ a, c.on s = (.ok a, s) ∧ (f a).Ends s := by
  constructor
  · rintro ⟨b, h⟩
    obtain ⟨a, u, ha, hb⟩ := on_bind_eq_ok h
    obtain rfl : u = s := (congrArg Prod.snd ha).symm.trans (hc.leaves s)
    exact ⟨a, ha, b, hb⟩
  · rintro ⟨a, ha, b, hb⟩
    exact ⟨b, (on_bind_ok f ha).trans hb⟩

namespace Build

variable {x : Build α} {f : α → Build β}

theorem ends_ofCheck : (ofCheck c).Ends s ↔ c.Ends s := by
  rcases hc : c.on s with ⟨r, t⟩
  constructor
  · rintro ⟨a, h⟩
    rw [ofCheck_eq hc] at h
    cases h
    exact ⟨a, hc⟩
  · rintro ⟨a, h⟩
    exact ⟨a, ofCheck_eq h⟩

theorem bind_eq_done {r : Except Failure β}
    (h : (x >>= f) s = .done r t) : (∃ a u, x s = .done (.ok a) u ∧ f a u = .done r t)
      ∨ ∃ e, x s = .done (.error e) t ∧ r = .error e := by
  cases hxs : x s with
  | done first u =>
    cases first with
    | ok a => exact .inl ⟨a, u, rfl, (bind_ok f hxs).symm.trans h⟩
    | error e =>
      cases (bind_error f hxs).symm.trans h
      exact .inr ⟨e, rfl, rfl⟩
  | waiting u ready resume =>
    have hwaits : (x s).bind f = .done r t := h
    rw [hxs] at hwaits
    cases hwaits

theorem Asks.leaves {b : Build α} (h : b.Asks names) :
    ∀ {s t : Session} {r : Except Failure α}, b s = .done r t → t = s := by
  induction h with
  | of_check hc =>
    intro s t r h
    rw [ofCheck_eq (hc.on_eq s)] at h
    cases h
    rfl
  | of_await _ =>
    intro s t r h
    unfold awaitVariable waitFor at h
    split at h
    · cases h
      rfl
    · cases h
  | bind _ _ hx hf =>
    intro s t r h
    rcases bind_eq_done h with ⟨a, u, hfirst, hrest⟩ | ⟨e, hfirst, -⟩
    · obtain rfl := hx hfirst
      exact hf a hrest
    · exact hx hfirst

theorem Asks.ends_bind (hx : x.Asks names) :
    (x >>= f).Ends s ↔ ∃ a, x s = .done (.ok a) s ∧ (f a).Ends s := by
  constructor
  · rintro ⟨b, h⟩
    rcases bind_eq_done h with ⟨a, u, hfirst, hrest⟩ | ⟨e, -, he⟩
    · obtain rfl := hx.leaves hfirst
      exact ⟨a, hfirst, b, hrest⟩
    · cases he
  · rintro ⟨a, ha, b, hb⟩
    exact ⟨b, (bind_ok f ha).trans hb⟩

theorem ends_pure (a : α) (s : Session) : (pure a : Build α).Ends s := ⟨a, rfl⟩

theorem Asks.ends_return (hx : x.Asks names) {f : α → β} : (do return f (← x)).Ends s ↔ x.Ends s :=
  hx.ends_bind.trans ⟨fun ⟨a, h, _⟩ => ⟨a, h⟩, fun ⟨a, h⟩ => ⟨a, h, ends_pure _ s⟩⟩

end Build

end Ends

/-! ## Code that can be written -/

namespace Code

theorem awaitVariable_ends_iff {name : Option String} :
    (awaitVariable name).Ends s ↔ name ∈ s.names := by
  constructor
  · rintro ⟨v, h⟩
    unfold awaitVariable waitFor at h
    dsimp only at h
    cases hv : registered? s name with
    | none =>
      rw [hv] at h
      cases h
    | some x => exact Automation.mem_names_of_registered? hv
  · intro h
    obtain ⟨v, hv⟩ := Option.isSome_iff_exists.mp (registered?_isSome h)
    exact ⟨v, waitFor_eq (congrArg (Option.map Except.ok) hv)⟩

theorem resolve_ends_iff {id : Ident} : (resolve id).Ends s ↔ id.name ∈ s.names := by
  have hasks : (awaitVariable id.name).Asks fun _ => True := .of_await trivial
  exact hasks.ends_return.trans awaitVariable_ends_iff

theorem piecesText_ends_iff {ps : List Piece} :
    (piecesText ps).Ends s ↔ ∀ name dotted, .reference name dotted ∈ ps → some name ∈ s.names := by
  have hasks : ∀ ps, (piecesText ps).Asks fun _ => True := fun ps =>
    piecesText_asks fun _ _ _ => trivial
  induction ps with
  | nil =>
    constructor
    · intro _ name dotted h
      cases h
    · exact fun _ => ends_pure _ s
  | cons p ps ih =>
    cases p with
    | text word =>
      refine (hasks ps).ends_return.trans (ih.trans ?_)
      simp
    | reference name dotted =>
      have hfirst : (piecesText (.reference name dotted :: ps)).Ends s
          ↔ some name ∈ s.names ∧ (piecesText ps).Ends s := by
        have hname : (awaitVariable (some name)).Asks fun _ => True := .of_await trivial
        rw [← awaitVariable_ends_iff]
        refine hname.ends_bind.trans ?_
        constructor
        · rintro ⟨v, hv, h⟩
          exact ⟨⟨v, hv⟩, (hasks ps).ends_return.mp h⟩
        · rintro ⟨⟨v, hv⟩, h⟩
          exact ⟨v, hv, (hasks ps).ends_return.mpr h⟩
      refine hfirst.trans ((and_congr_right' ih).trans ?_)
      constructor
      · rintro ⟨hname, hlater⟩ name' dotted' hmem
        rcases mem_cons.mp hmem with heq | hmem
        · cases heq
          exact hname
        · exact hlater name' dotted' hmem
      · intro h
        exact ⟨h name dotted mem_cons_self, fun name' dotted' hmem =>
          h name' dotted' (mem_cons_of_mem _ hmem)⟩

theorem closure_ends_iff {body capture : String} {result : Option CppType} :
    (closure body params capture result).Ends s ↔ ∀ n ∈ (Value.lambda body).asked, n ∈ s.names := by
  have hasks : (piecesText (pieces body)).Asks fun _ => True := piecesText_asks fun _ _ _ => trivial
  refine hasks.ends_return.trans (piecesText_ends_iff.trans ?_)
  rw [Value.asked]
  constructor
  · intro h n hn
    obtain ⟨name, hname, rfl⟩ := mem_map.mp hn
    obtain ⟨p, hp, hreference⟩ := mem_filterMap.mp hname
    cases p with
    | text word => cases hreference
    | reference name' dotted =>
      cases hreference
      exact h name dotted hp
  · intro h name dotted hmem
    exact h (some name) (mem_map_of_mem (mem_filterMap.mpr ⟨_, hmem, rfl⟩))

end Code

namespace Property

/-- Arguments that can be gone through: those of a list, the keys of a dictionary or the letters of a
    text. -/
def Listed (args : Value) : Prop :=
  (∃ xs, args = .list xs) ∨ (∃ es, args = .dict es) ∨ args.isText

theorem joinedArgs_ends_iff {args : Value} : (joinedArgs args).Ends s ↔ Listed args := by
  unfold joinedArgs
  split
  · next xs => exact ⟨fun _ => .inl ⟨xs, rfl⟩, fun _ => ⟨_, rfl⟩⟩
  · next es => exact ⟨fun _ => .inr (.inl ⟨es, rfl⟩), fun _ => ⟨_, rfl⟩⟩
  · next hlist hdict =>
      rw [Listed, or_iff_right fun ⟨xs, hxs⟩ => hlist xs hxs,
        or_iff_right fun ⟨es, hes⟩ => hdict es hes, Value.isText]
      cases args.text? with
      | none => exact ⟨fun ⟨_, h⟩ => (nomatch h), nofun⟩
      | some text => exact ⟨fun _ => rfl, fun _ => ⟨_, rfl⟩⟩

theorem quotedText_ends_iff {x : Value} : (quotedText x).Ends s ↔ x.isText := by
  rw [quotedText, Value.isText]
  cases x.text? with
  | none =>
    constructor
    · rintro ⟨_, h⟩
      cases h
    · intro h
      cases h
  | some text => exact ⟨fun _ => rfl, fun _ => ⟨_, rfl⟩⟩

theorem orMissing_ends_iff {args call : String} {given : Option Value} :
    (orMissing args call given).Ends s
      ↔ ∀ missing, given = some missing → missing.truthy → missing.isText := by
  cases given with
  | none => exact ⟨nofun, fun _ => ⟨_, rfl⟩⟩
  | some missing =>
    rw [orMissing]
    by_cases htruthy : missing.truthy
    · rw [if_pos htruthy]
      refine (quotedText_still missing).reads.ends_bind.trans ?_
      constructor
      · rintro ⟨text, htext, -⟩ missing' heq -
        cases heq
        exact quotedText_ends_iff.mp ⟨text, htext⟩
      · intro h
        obtain ⟨text, htext⟩ := (quotedText_ends_iff (s := s)).mpr (h missing rfl htruthy)
        exact ⟨text, htext, _, rfl⟩
    · rw [if_neg htruthy]
      constructor
      · rintro - missing' heq htruthy'
        cases heq
        exact absurd htruthy' htruthy
      · exact fun _ => ⟨_, rfl⟩

/-- A format can be written: it is a text, its arguments can be gone through, and a text stands for
    what is no number. -/
structure FormatReady (es : Entries) (format : Value) : Prop where
  text : format.isText
  args : ∃ args, Entries.get? es "args" = some args ∧ Listed args
  missing : ∀ missing, Entries.get? es "if_nan" = some missing → missing.truthy → missing.isText

theorem formFormat_ends_iff : (formFormat (.dict es) format).Ends s ↔ FormatReady es format := by
  unfold formFormat
  refine (required_still _ _).reads.ends_bind.trans ?_
  constructor
  · rintro ⟨args, hargs, h⟩
    obtain ⟨joined, hjoined, h⟩ := (joinedArgs_still args).reads.ends_bind.mp h
    obtain ⟨quoted, hquoted, h⟩ := (quotedText_still format).reads.ends_bind.mp h
    exact ⟨quotedText_ends_iff.mp ⟨quoted, hquoted⟩,
      ⟨args, (required_on_iff.mp hargs).1, joinedArgs_ends_iff.mp ⟨joined, hjoined⟩⟩,
      orMissing_ends_iff.mp h⟩
  · rintro ⟨htext, ⟨args, hargs, hjoins⟩, hmissing⟩
    obtain ⟨joined, hjoined⟩ := (joinedArgs_ends_iff (s := s)).mpr hjoins
    obtain ⟨quoted, hquoted⟩ := (quotedText_ends_iff (s := s)).mpr htext
    refine ⟨args, required_on_iff.mpr ⟨hargs, rfl⟩, ?_⟩
    refine (joinedArgs_still args).reads.ends_bind.mpr ⟨joined, hjoined, ?_⟩
    exact (quotedText_still format).reads.ends_bind.mpr
      ⟨quoted, hquoted, orMissing_ends_iff.mpr hmissing⟩

/-- The time of a clock can be written: its format is an expression, and the clock is a lambda or an
    identifier, all of whose objects are there. -/
structure TimeReady (s : Session) (es : Entries) (format : Value) : Prop where
  format : ∃ args, Code.arguments? [format] = .ok args
  time : ∃ time, Entries.get? es "time" = some time
    ∧ ((∃ body, time = .lambda body) ∨ ∃ id, time = .ident id) ∧ ∀ n ∈ time.asked, n ∈ s.names

theorem clockOf_ends_iff {time : Value} : (clockOf params time).Ends s
      ↔ ((∃ body, time = .lambda body) ∨ ∃ id, time = .ident id) ∧ ∀ n ∈ time.asked, n ∈ s.names := by
  cases time with
  | lambda body =>
    refine (closure_asks (fun _ _ => trivial) _ _ _ : Build.Asks (fun _ => True) _).ends_return.trans ?_
    rw [closure_ends_iff]
    exact ⟨fun h => ⟨.inl ⟨body, rfl⟩, h⟩, fun h => h.2⟩
  | ident id =>
    refine (resolve_asks trivial : Build.Asks (fun _ => True) _).ends_return.trans ?_
    rw [resolve_ends_iff, Value.asked]
    exact ⟨fun h => ⟨.inr ⟨id, rfl⟩, fun n hn => mem_singleton.mp hn ▸ h⟩,
      fun h => h.2 _ mem_cons_self⟩
  | _ =>
    constructor
    · rintro ⟨e, h⟩
      cases h
    · rintro ⟨⟨body, h⟩ | ⟨id, h⟩, -⟩ <;> cases h

theorem formTime_ends_iff : (formTime params (.dict es) format).Ends s ↔ TimeReady s es format := by
  have hshown : ∀ source : Expr, (do
      let shown ← methodOf source "strftime" [format]
      return Value.cpp (shown.method "c_str" []) : Build Value).Ends s
      ↔ ∃ args, arguments? [format] = .ok args := by
    intro source
    have hasks : (liftM (methodOf source "strftime" [format]) : Build Expr).Asks fun _ => True :=
      .of_lift (methodOf_still _ _ _).reads
    refine hasks.ends_bind.trans ?_
    unfold methodOf arguments
    cases arguments? [format] with
    | ok args => exact ⟨fun _ => ⟨args, rfl⟩, fun _ => ⟨_, rfl, ends_pure _ s⟩⟩
    | error e => exact ⟨fun ⟨_, h, _⟩ => (nomatch h), fun ⟨_, h⟩ => (nomatch h)⟩
  unfold formTime
  have hclock : ∀ time, (clockOf params time).Asks fun _ => True := fun time =>
    clockOf_asks params fun _ _ => trivial
  have hasks : (liftM (required (.dict es) "time") : Build Value).Asks fun _ => True :=
    .of_lift (required_still _ _).reads
  refine hasks.ends_bind.trans ?_
  constructor
  · rintro ⟨time, htime, h⟩
    obtain ⟨source, hsource, h⟩ := (hclock time).ends_bind.mp h
    obtain ⟨time', htime'⟩ := ends_ofCheck.mp ⟨time, htime⟩
    cases (ofCheck_eq htime').symm.trans htime
    exact ⟨(hshown source).mp h, time, (required_on_iff.mp htime').1,
      clockOf_ends_iff.mp ⟨source, hsource⟩⟩
  · rintro ⟨hformat, time, htime, hready⟩
    obtain ⟨source, hsource⟩ : (clockOf params time).Ends s := clockOf_ends_iff.mpr hready
    refine ⟨time, ofCheck_eq (required_on_iff.mpr ⟨htime, rfl⟩), ?_⟩
    exact (hclock time).ends_bind.mpr ⟨source, hsource, (hshown source).mpr hformat⟩

/-- A dictionary can be written: its format, or the time of its clock if there is no format. -/
def TextReady (s : Session) (es : Entries) : Prop :=
  if ((Entries.get? es "format").getD .null).truthy then
    FormatReady es ((Entries.get? es "format").getD .null)
  else ((Entries.get? es "time_format").getD .null).truthy →
    TimeReady s es ((Entries.get? es "time_format").getD .null)

theorem emitText_ends_iff {ps : List Param} (hparams : (lambdaParams params).on s = (.ok ps, s)) :
    (emitText params (.dict es)).Ends s ↔ TextReady s es := by
  have hrest : (emitText params (.dict es)) s = (if ((es.get? "format").getD .null).truthy then
          (ofCheck (formFormat (.dict es) ((es.get? "format").getD .null)))
        else if ((es.get? "time_format").getD .null).truthy then
          formTime ps (.dict es) ((es.get? "time_format").getD .null)
        else return .cpp (.quoted (Value.dict es).show)) s :=
    bind_ok _ (ofCheck_eq hparams)
  unfold Build.Ends
  rw [hrest]
  unfold TextReady
  split
  · exact ends_ofCheck.trans formFormat_ends_iff
  · split
    · next htime => exact formTime_ends_iff.trans ⟨fun h _ => h, fun h => h htime⟩
    · next htime => exact ⟨fun _ h => absurd h htime, fun _ => ends_pure _ s⟩

end Property

/-! ## What the rules accept -/

theorem Test.text_gives (h : Test.text.Gives w) : w.isText := by
  obtain ⟨v, s, t, h⟩ := h
  obtain ⟨-, u, -, h⟩ := Check.on_bind_eq_ok h
  split at h <;> cases h <;> rfl

theorem Property.text_accepts_iff : (Property.text.validate (.dict es)).on s = (.ok w, t)
      ↔ es.has "format" ∧ w = .dict es ∧ t = s := by
  have hvalidate : Property.text.validate (.dict es) = if es.has "format" then pure (.dict es)
        else refuse "string value cannot be dictionary or list." := rfl
  rw [hvalidate]
  by_cases hformat : es.has "format"
  · rw [if_pos hformat]
    constructor
    · intro h
      cases h
      exact ⟨hformat, rfl, rfl⟩
    · rintro ⟨-, rfl, rfl⟩
      rfl
  · rw [if_neg hformat]
    constructor
    · intro h
      cases h
    · exact fun h => absurd h.1 hformat

namespace Schema

theorem timeText_refuses (hformat : es.has "format") :
    (timeText.run (.dict es)).on s ≠ (.ok w, t) := by
  intro h
  obtain ⟨out, u, hwalk, -, -⟩ := Record.walk_of_run h
  have hgiven : "format" ∈ (timeText.completed es).map (·.1) := by
    obtain ⟨e, he, hkey⟩ := any_eq_true.mp hformat
    exact mem_map.mpr ⟨e, mem_append_left _ he, beq_iff_eq.mp hkey⟩
  replace hwalk := Record.Walk.of_ok hwalk
  rw [← hwalk.keys] at hgiven
  obtain ⟨e, he, hkey⟩ := mem_map.mp hgiven
  obtain ⟨f, hfield, -⟩ := (hwalk.answers e he).fits
  rw [hkey] at hfield
  cases hfield

theorem textValue_format (h : (textValue (.dict es)).on s = (.ok w, t))
    (hformat : Entries.has es "format") :
    ∃ out, w = .dict out ∧ Entries.has out "format" ∧ ∀ u, Property.TextReady u out := by
  have hrule : (if Entries.has es "time_format" then timeText.run (.dict es)
      else checkedFormat (.dict es)).on s = (.ok w, t) := h
  split at hrule
  · exact absurd hrule (timeText_refuses hformat)
  · obtain ⟨w', u, hrecord, hrule⟩ := Check.on_bind_eq_ok hrule
    obtain ⟨w'', u', hcheck, hrule⟩ := Check.on_bind_eq_ok hrule
    cases hrule
    obtain ⟨rfl, rfl, -⟩ := Printf.checkFormat_on_iff.mp (Test.guarded_eq_ok hcheck)
    obtain ⟨written, out, -, rfl, haccepted⟩ :=
      Record.run_accepted (fun t (ht : t ∈ []) => nomatch ht) (Test.guarded_eq_ok hrecord)
    have hfits : ∀ {key x}, Entries.get? out key = some x → formatText.Fits (key, x) := fun hx =>
      haccepted.fits _ (Entries.mem_of_get? hx)
    have hhas : Entries.has out "format" :=
      haccepted.kept (.required "format" Test.text) rfl (.inr rfl)
    refine ⟨out, rfl, hhas, fun u => ?_⟩
    obtain ⟨format, hget⟩ := Entries.exists_get?_of hhas
    obtain ⟨args, hargs⟩ := Entries.exists_get?_of
      (haccepted.kept (.defaulted "args" (.list []) (Test.ensureList Test.lambda)) rfl
        (.inl rfl))
    unfold Property.TextReady
    rw [hget]
    split
    · refine ⟨?_, ⟨args, hargs, .inl ?_⟩, fun missing hmissing _ => ?_⟩
      · obtain ⟨f, hfield, hgives⟩ := hfits hget
        cases hfield
        exact Test.text_gives hgives
      · obtain ⟨f, hfield, v, a, b, hgives⟩ := hfits hargs
        cases hfield
        exact Style.ensureList_gives hgives
      · obtain ⟨f, hfield, hgives⟩ := hfits hmissing
        cases hfield
        exact Test.text_gives hgives
    · -- No other key is handed on, and so no time.
      have htime : Entries.get? out "time_format" = none := by
        cases hx : Entries.get? out "time_format" with
        | none => rfl
        | some x =>
          obtain ⟨f, hfield, -⟩ := hfits hx
          cases hfield
      rw [htime]
      exact nofun

end Schema

/-- Dictionaries as texts.  The property of texts accepts one if there is a format in it, whatever the
    format and the other entries are, and so accepts more than the rule of the options for texts:
    what that rule hands on for a format is accepted and written, while a dictionary that only the
    property has seen is written where it happens to be ready, and nowhere else unless a list is in
    the place of a text. -/
theorem text_dictionaries (es : Entries) :
    (∀ w s t, (Property.text.validate (.dict es)).on s = (.ok w, t)
      ↔ Entries.has es "format" ∧ w = .dict es ∧ t = s)
    ∧ (∀ params ps s, (Code.lambdaParams params).on s = (.ok ps, s) →
        (Property.TextReady s es → (Property.text.emitWith params (.dict es)).Ends s)
        ∧ ((∀ key ∈ ["format", "if_nan"], ∀ xs, Entries.get? es key ≠ some (.list xs)) →
          (Property.text.emitWith params (.dict es)).Ends s → Property.TextReady s es))
    ∧ ∀ w s t, (Schema.textValue (.dict es)).on s = (.ok w, t) → Entries.has es "format" →
        (∀ u, (Property.text.validate w).on u = (.ok w, u))
        ∧ ∀ params ps u, (Code.lambdaParams params).on u = (.ok ps, u) →
            (Property.text.emitWith params w).Ends u := by
  refine ⟨fun w s t => Property.text_accepts_iff, fun params ps s hparams => ?_,
    fun w s t h hformat => ?_⟩
  · have hends : (Property.emitText params (.dict es)).Ends s ↔ _ := Property.emitText_ends_iff hparams
    exact ⟨hends.mpr, fun _ => hends.mp⟩
  · obtain ⟨out, rfl, hhas, hready⟩ := Schema.textValue_format h hformat
    exact ⟨fun u => Property.text_accepts_iff.mpr ⟨hhas, rfl, rfl⟩, fun params ps u hparams =>
      (Property.emitText_ends_iff hparams).mpr (hready u)⟩

def loneFormat : Entries := [("format", .str "%d")]

def fullFormat : Entries := [("format", .str "%d"), ("args", .list [.str "x"])]

def fullFormatOut : Entries := [("format", .str "%d"), ("args", .list [.lambda "x"])]

/-- The property of texts accepts a format without its argument; the options do not, and nothing can
    be written for it.  With the argument the options accept the format, and it is written. -/
theorem text_dictionaries_loneFormat :
    (Property.text.validate (.dict loneFormat)).on {} = (.ok (.dict loneFormat), {})
    ∧ (∀ w t, (Schema.textValue (.dict loneFormat)).on {} ≠ (.ok w, t))
    ∧ ¬ (Property.text.emitWith [] (.dict loneFormat)).Ends {}
    ∧ (Schema.textValue (.dict fullFormat)).on {} = (.ok (.dict fullFormatOut), {})
    ∧ (Property.text.emitWith [] (.dict fullFormatOut)).Ends {} := by
  obtain ⟨haccepts, hwritten, -⟩ := text_dictionaries loneFormat
  obtain ⟨-, -, hoptions⟩ := text_dictionaries fullFormat
  have hrefused : ∀ s, (Schema.textValue (.dict loneFormat)).on s = (.error (.refused
      ⟨⟨[], "Found 1 printf-patterns (%d), but 0 args were given!"⟩, []⟩), s) := fun s => by cbv
  have hfull : ∀ s, (Schema.textValue (.dict fullFormat)).on s = (.ok (.dict fullFormatOut), s) :=
    fun s => by cbv
  refine ⟨(haccepts _ _ _).mpr ⟨rfl, rfl, rfl⟩, fun w t h => ?_, fun h => ?_, hfull _, ?_⟩
  · cases (hrefused _).symm.trans h
  · have hplain : ∀ key ∈ ["format", "if_nan"], ∀ xs,
        Entries.get? loneFormat key ≠ some (.list xs) := by
      intro key hkey xs hlist
      rcases mem_pair.mp hkey with rfl | rfl <;> cases hlist
    obtain ⟨-, ⟨args, hargs, -⟩, -⟩ := (hwritten [] [] {} rfl).2 hplain h
    cases hargs
  · exact (hoptions _ _ _ (hfull {}) rfl).2 [] [] {} rfl

end Panel
