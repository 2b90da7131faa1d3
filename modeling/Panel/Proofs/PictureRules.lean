import Panel.Picture.Rule
import Panel.Proofs.FontTables

/-! # Settings of pictures — which of them go together

    The settings of a picture are checked as a whole, once each of them was. -/

namespace Panel

variable {options : List String} {text word : String} {t : Test} {name v w : Value} {s u : Session}
  {path : List Step} {format : Format} {form : WordForm} {ts : List Test} {t' : Test} {u' : Session}
  {message : String}

/-! ## Words -/

namespace Test

def WordForm.spell (form : WordForm) (text : String) : String :=
  let spaced := Text.respace form.space text
  let lowered := if form.lower then Text.lower spaced else spaced
  if form.upper then Text.upper lowered else lowered

theorem wordOf_on (hspell : form.spell text = word) (hword : options.contains word = true)
    (s : Session) : (wordOf form options (.str text)).on s = (.ok word, s) := by
  subst hspell
  show (if options.contains (form.spell text) then pure (form.spell text)
    else unknownWord (form.spell text) options : Check String).on s = _
  rw [hword]
  rfl

theorem wordOf_eq_ok {t : Session} (h : (wordOf form options v).on s = (.ok word, t)) :
    word ∈ options ∧ ∃ text, (textOf v).on s = (.ok text, t) ∧ form.spell text = word := by
  obtain ⟨text, u, htext, h⟩ := Check.on_bind_eq_ok h
  have hspell : (if options.contains (form.spell text) then pure (form.spell text)
      else unknownWord (form.spell text) options : Check String).on u = (.ok word, t) := h
  split at hspell
  · next hword =>
      cases hspell
      exact ⟨List.contains_iff_mem.mp hword, text, htext, rfl⟩
  · unfold unknownWord at hspell
    split at hspell <;> cases hspell

end Test

/-! ## Single items -/

namespace Test

theorem allOf_pair_invalid (h : (t v).on s = (.ok w, u))
    (h' : (t' w).on u = (.error (.invalidAt path message), u')) :
    (allOf [t, t'] v).on s = (.error (.invalidAt path message), u') :=
  (Check.on_bind_ok _ (Check.on_tryCatch_ok _ h)).trans
    (Check.on_bind_error _ (Check.on_tryCatch_error _ h'))

theorem ensureList_one (t : Test) (v : Value) :
    ensureList t (.list [v]) = (do return .list (← itemsFrom t 0 [v] [] [])) := rfl

theorem itemsFrom_one_refused {issues : Issues}
    (h : (guarded t v).on s = (.error (.refused issues), u)) :
    (itemsFrom t 0 [v] [] []).on s = (.error ((Failure.refused issues).within [.index 0]), u) := by
  have hattempt := on_attempt (guarded t v) s
  rw [h] at hattempt
  rw [itemsFrom, Check.on_bind_ok _ hattempt]
  dsimp only
  split <;> rfl

theorem ensureList_one_iff : (ensureList t (.list [v])).on s = (.ok w, u)
      ↔ ∃ x, (t v).on s = (.ok x, u) ∧ w = .list [x] := by
  rcases hv : (guarded t v).on s with ⟨r, u'⟩
  have hattempt := on_attempt (guarded t v) s
  rw [hv] at hattempt
  rw [ensureList_one]
  cases r with
  | ok x =>
    have hitems : (itemsFrom t 0 [v] [] []).on s = (.ok [x], u') := Check.on_bind_ok _ hattempt
    have hx := guarded_eq_ok hv
    rw [Check.on_bind_ok _ hitems]
    constructor
    · intro h
      cases h
      exact ⟨x, hx, rfl⟩
    · rintro ⟨x', hx', rfl⟩
      cases hx.symm.trans hx'
      rfl
  | error e =>
    have hitems : ∃ e', (itemsFrom t 0 [v] [] []).on s = (.error e', u') := by
      cases e with
      | refused issues => exact ⟨_, itemsFrom_one_refused hv⟩
      | _ => exact ⟨_, Check.on_bind_ok _ hattempt⟩
    obtain ⟨e', hitems⟩ := hitems
    rw [Check.on_bind_error _ hitems]
    constructor
    · intro h
      cases h
    · rintro ⟨x, hx, -⟩
      cases hv.symm.trans (Check.on_tryCatch_ok _ hx)

theorem ensureList_one_invalid (h : (t v).on s = (.error (.invalidAt [] message), u)) :
    (ensureList t (.list [v])).on s = (.error (.invalidAt [.index 0] message), u) := by
  have hguarded : (guarded t v).on s = (.error (.refused ⟨⟨[], message⟩, []⟩), u) :=
    Check.on_tryCatch_error _ h
  rw [ensureList_one]
  exact Check.on_bind_error _ (itemsFrom_one_refused hguarded)

end Test

/-! ## Settings that go together -/

namespace Picture

theorem formatNamed_on_iff {t : Session} :
    (formatNamed name).on s = (.ok format, t) ↔ Format.ofName? name.show = some format ∧ t = s := by
  unfold formatNamed
  split
  · next f _ hf =>
      rw [hf, Option.some.injEq]
      constructor
      · intro h
        cases h
        exact ⟨rfl, rfl⟩
      · rintro ⟨rfl, rfl⟩
        rfl
  · next hf _ =>
      rw [hf]
      exact ⟨nofun, (fun h => nomatch h.1)⟩
  · next hf _ =>
      rw [hf]
      exact ⟨nofun, (fun h => nomatch h.1)⟩

theorem lowered_on_iff {t : Session} :
    (lowered v).on s = (.ok text, t) ↔ v.text?.map Text.lower = some text ∧ t = s := by
  unfold lowered
  cases v.text? with
  | none => exact ⟨nofun, (fun h => nomatch h.1)⟩
  | some x =>
    rw [Option.map_some, Option.some.injEq]
    constructor
    · intro h
      cases h
      exact ⟨rfl, rfl⟩
    · rintro ⟨rfl, rfl⟩
      rfl

/-- A file can be opened: it is a vector picture, or it holds pixels. -/
def Opens (s : Session) (path : String) : Prop :=
  ∃ vector, (isVectorAt (.str path)).on s = (.ok vector, s)
    ∧ (vector = true ∨ (Files.fileAt? s path).any isPicture = true)

theorem isVectorAt_leaves {vector : Bool} {t : Session}
    (h : (isVectorAt v).on s = (.ok vector, t)) :
    t = s := by
  unfold isVectorAt at h
  split at h
  · cases h
    rfl
  · split at h
    · cases h
    · obtain ⟨u, u', hget, h⟩ := Check.on_bind_eq_ok h
      cases hget
      split at h <;> cases h
      rfl

theorem checkFile_on_iff {t : Session} : (checkFile path v).on s = (.ok w, t) ↔ w = v ∧ t = s
      ∧ ∀ file, v.get? "file" = some file → file.truthy → Opens s (Files.tidy file.show) := by
  unfold checkFile
  cases v.get? "file" with
  | none =>
    constructor
    · intro h
      cases h
      exact ⟨rfl, rfl, nofun⟩
    · rintro ⟨rfl, rfl, -⟩
      rfl
  | some file =>
    dsimp only
    by_cases htruthy : file.truthy
    · rw [if_pos htruthy]
      constructor
      · intro h
        obtain ⟨vector, u, hvector, hrest⟩ := Check.on_bind_eq_ok h
        obtain rfl := isVectorAt_leaves hvector
        have hopens : w = v ∧ t = u ∧ (vector = true
            ∨ (Files.fileAt? u (Files.tidy file.show)).any isPicture = true) := by
          cases vector with
          | true =>
            cases hrest
            exact ⟨rfl, rfl, .inl rfl⟩
          | false =>
            rw [Bool.not_false, if_pos rfl, Check.on_bind_ok _ (Check.on_get u)] at hrest
            split at hrest
            · cases hrest
            · next hpicture =>
                cases hrest
                exact ⟨rfl, rfl, .inr (by simpa using hpicture)⟩
        obtain ⟨rfl, rfl, hopens⟩ := hopens
        refine ⟨rfl, rfl, fun file' heq _ => ?_⟩
        cases heq
        exact ⟨vector, hvector, hopens⟩
      · rintro ⟨rfl, rfl, h⟩
        obtain ⟨vector, hvector, hopens⟩ := h file rfl htruthy
        rw [Check.on_bind_ok _ hvector]
        cases vector with
        | true => rfl
        | false =>
          have hpicture := hopens.resolve_left Bool.false_ne_true
          rw [Bool.not_false, if_pos rfl, Check.on_bind_ok _ (Check.on_get t), hpicture]
          rfl
    · rw [if_neg htruthy]
      constructor
      · intro h
        cases h
        refine ⟨rfl, rfl, fun file' h htruthy' => ?_⟩
        cases h
        exact absurd htruthy' htruthy
      · rintro ⟨rfl, rfl, -⟩
        rfl

/-- The settings of a picture go together, whatever its byte order. -/
structure Settled (s : Session) (v name : Value) (format : Format) : Prop where
  type : v.get? "type" = some name
  stored : Format.ofName? name.show = some format
  shades : ∃ t, ((v.get? "transparency").getD (.str Transparency.solid.name)).text?.map Text.lower
      = some t
    ∧ format.allows (Transparency.ofName t) = true
    ∧ (((v.get? "invert_alpha").getD (.bool false)).truthy = true →
        t = Transparency.alphaChannel.name ∨ format.invertsShades = true)
  file : ∀ file, v.get? "file" = some file → file.truthy → Opens s (Files.tidy file.show)

theorem Settled.checkSettings_on (h : Settled s v name format) (path : List Step) :
    (checkSettings path v).on s = (if (v.given? "byte_order").isSome && !format.hasByteOrder then
          throw (Failure.invalidAt path (orderMessage name))
        else checkFile path v).on s := by
  obtain ⟨htype, hstored, ⟨t, ht, hallows, hinvert⟩, -⟩ := h
  have hshades : (((v.get? "invert_alpha").getD (.bool false)).truthy
      && t != Transparency.alphaChannel.name && !format.invertsShades) = false := by
    rw [Bool.and_eq_false_iff, Bool.and_eq_false_iff]
    by_cases hinverted : ((v.get? "invert_alpha").getD (.bool false)).truthy = true
    · rcases hinvert hinverted with rfl | hinverts
      · exact .inl (.inr (bne_self_eq_false _))
      · exact .inr (by rw [hinverts]; rfl)
    · exact .inl (.inl (Bool.eq_false_iff.mpr hinverted))
  rw [checkSettings, required_eq htype, pure_bind,
    Check.on_bind_ok _ (formatNamed_on_iff.mpr ⟨hstored, rfl⟩),
    Check.on_bind_ok _ (lowered_on_iff.mpr ⟨ht, rfl⟩), hallows, hshades]
  rfl

theorem checkSettings_on_iff {t : Session} :
    (checkSettings path v).on s = (.ok w, t) ↔ w = v ∧ t = s ∧ ∃ name format,
      Settled s v name format
        ∧ ((v.given? "byte_order").isSome = true → format.hasByteOrder = true) := by
  constructor
  · intro h
    rw [checkSettings] at h
    obtain ⟨name, hname, h₁⟩ := Check.on_required_bind_eq_ok h
    obtain ⟨format, u, hformat, h₂⟩ := Check.on_bind_eq_ok h₁
    obtain ⟨hstored, rfl⟩ := formatNamed_on_iff.mp hformat
    obtain ⟨text, u', htext, h₃⟩ := Check.on_bind_eq_ok h₂
    obtain ⟨hlowered, rfl⟩ := lowered_on_iff.mp htext
    split at h₃
    · cases h₃
    · next hallows =>
        split at h₃
        · cases h₃
        · next hinvert =>
            split at h₃
            · cases h₃
            · next horder =>
                obtain ⟨rfl, rfl, hfile⟩ := checkFile_on_iff.mp h₃
                refine ⟨rfl, rfl, name, format,
                  ⟨hname, hstored, ⟨text, hlowered, ?_, ?_⟩, hfile⟩, ?_⟩
                · simpa using hallows
                · intro hinverted
                  rw [hinverted] at hinvert
                  simpa [or_iff_not_imp_left] using hinvert
                · intro hgiven
                  rw [hgiven] at horder
                  simpa using horder
  · rintro ⟨rfl, rfl, name, format, hsettled, horder⟩
    rw [hsettled.checkSettings_on, if_neg, checkFile_on_iff]
    · exact ⟨rfl, rfl, hsettled.file⟩
    · intro h
      obtain ⟨hgiven, hnone⟩ := Bool.and_eq_true_iff.mp h
      rw [horder hgiven] at hnone
      cases hnone

theorem Settled.refuses_order (h : Settled s v name format)
    (hgiven : (v.given? "byte_order").isSome = true) (hnone : format.hasByteOrder = false)
    (path : List Step) :
    (checkSettings path v).on s = (.error (.invalidAt path (orderMessage name)), s) := by
  rw [h.checkSettings_on, hgiven, hnone]
  rfl

theorem Settled.congr (h : Settled s v name format)
    (hkeys : ∀ key ∈ ["type", "transparency", "invert_alpha", "file"], w.get? key = v.get? key) :
    Settled s w name format := by
  simp only [List.forall_mem_cons] at hkeys
  obtain ⟨htype, htransparency, hinvert, hfile, -⟩ := hkeys
  refine ⟨htype.trans h.type, h.stored, ?_, ?_⟩
  · rw [htransparency, hinvert]
    exact h.shades
  · rw [hfile]
    exact h.file

end Picture

end Panel
