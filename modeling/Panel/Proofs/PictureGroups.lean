import Panel.Proofs.AcceptedEntries
import Panel.Proofs.PictureSpellings

/-! # Groups of pictures — a dictionary of pictures as a list

    Pictures may be written in a list, below the name of a format, or below a transparency of one.
    In the end they stand in one list, each with the settings that it had, those that its place
    implies, or else the defaults. -/

namespace Panel

variable {defaults v w : Value} {s t u : Session} {format key : String} {setting : String × Test}
  {f : Field} {ys : List Value}

/-! ## Places -/

namespace Picture

open Record List Test Check Text

/-- Where a picture is written: in the list, below a format, or below a transparency of one. -/
inductive Place where
  | free
  | below (format : String)
  | within (format : String) (t : Transparency)

variable {p : Place} {path : List Step}

namespace Place

def record : Place → Record
  | free => plain
  | below format => plainEntry (.defaulted "type" (.str format) (formatWord [format]))
  | within format t => presetEntry format t

def implied : Place → String → Option Value
  | free, _ => none
  | below format, key => if key = "type" then some (.str format) else none
  | within format t, key =>
    if key = "type" then some (.str format)
    else if key = "transparency" then some (.str t.name) else none

def Known : Place → Prop
  | free => True
  | below format => format ∈ formatNames
  | within format t => format ∈ formatNames ∧ t.name ∈ transparencyNames

end Place

/-- The pictures below a format: by transparency, if no other key is there, or as a list. -/
def underFormat (format : String) (v : Value) : List (Place × Value) :=
  match v with
  | .dict groups =>
    if groups.all fun g => (groupTransparencies format).any (·.name == g.1) then
      groups.flatMap fun g =>
        (Test.itemsIn g.2).map (Prod.mk (.within format (Transparency.ofName g.1)))
    else [(.below format, v)]
  | _ => (Test.itemsIn v).map (Prod.mk (.below format))

def underKey (e : String × Value) : List (Place × Value) :=
  if formatNames.contains (Text.upper e.1) then underFormat (Text.upper e.1) e.2 else []

def written (es : Entries) : List (Place × Value) :=
  (Test.itemsIn ((Entries.get? es "images").getD (.list []))).map (Prod.mk .free) ++ es.flatMap underKey

def settings : List (String × Test) :=
  options.map (fun o => (o.1, o.2.2)) ++ [("type", formatWord formatNames)]

/-- A picture of the list is the one that was written at a place, with the defaults. -/
structure Kept (defaults : Value) (x : Place × Value) (y : Value) : Prop where
  id : ∃ v w, x.2.get? "id" = some v ∧ y.get? "id" = some w
    ∧ (Test.declareId Cpp.image).Accepts v w
  file : ∃ v w, x.2.get? "file" = some v ∧ y.get? "file" = some w ∧ source.Accepts v w
  data : ∃ w, y.get? "raw_data_id" = some w
    ∧ (Test.declareId Cpp.uint8).Accepts ((x.2.get? "raw_data_id").getD .null) w
  options : ∃ name format, y.get? "type" = some name ∧ Format.ofName? name.show = some format
    ∧ (∀ setting ∈ settings, setting.1 = "type" ∨ setting.1 ∈ format.options →
        (∀ v, x.2.get? setting.1 = some v →
          ∃ w, y.get? setting.1 = some w ∧ setting.2.Accepts v w)
        ∧ (x.2.get? setting.1 = none → y.get? setting.1
            = some (((x.1.implied setting.1).or (defaults.get? setting.1)).getD .null)))
    ∧ ∀ key, (y.get? key).isSome = true ↔ key ∈ ["id", "file", "type"] ++ format.options

theorem wordOf_widens {form : Test.WordForm} {names more : List String} (hsub : names ⊆ more)
    {word : String} (h : (wordOf form names v).on s = (.ok word, t)) :
    word ∈ names ∧ (wordOf form more v).on s = (.ok word, t) := by
  obtain ⟨hmem, text, htext, rfl⟩ := wordOf_eq_ok h
  refine ⟨hmem, (on_bind_ok _ htext).trans ?_⟩
  show (if more.contains (form.spell text) then pure (form.spell text)
    else unknownWord (form.spell text) more : Check String).on t = _
  rw [if_pos (contains_iff_mem.mpr (hsub hmem))]
  rfl

theorem formatWord_widens (hformat : format ∈ formatNames) (h : (formatWord [format]).Accepts v w) :
    w = .str format ∧ (formatWord formatNames).Accepts v w := by
  obtain ⟨s, u, h⟩ := h
  obtain ⟨name, s', hname, h⟩ := on_bind_eq_ok h
  obtain ⟨word, s'', hword, hdone⟩ := on_bind_eq_ok hname
  cases hdone
  obtain ⟨hmem, hwide⟩ := wordOf_widens (cons_subset.mpr ⟨hformat, nil_subset _⟩) hword
  have hupper : (upperWord formatNames v).on s = (.ok (.str word), s') := on_bind_ok _ hwide
  refine ⟨?_, s, u, (on_bind_ok _ hupper).trans h⟩
  split at h
  · cases h
  · cases h
    rw [mem_singleton.mp hmem]

theorem transparencyWord_widens {t : Transparency} (ht : t.name ∈ transparencyNames)
    (h : (transparencyWord [t.name]).Accepts v w) :
    w = .str t.name ∧ (transparencyWord transparencyNames).Accepts v w := by
  obtain ⟨s, u, h⟩ := h
  have hlower : ∀ {x}, (lowerWord [t.name] x).on s = (.ok w, u) →
      w = .str t.name ∧ (lowerWord transparencyNames x).on s = (.ok w, u) := by
    intro x h
    obtain ⟨word, s', hword, hdone⟩ := on_bind_eq_ok h
    cases hdone
    obtain ⟨hmem, hwide⟩ := wordOf_widens (cons_subset.mpr ⟨ht, nil_subset _⟩) hword
    exact ⟨congrArg Value.str (mem_singleton.mp hmem), on_bind_ok _ hwide⟩
  cases v with
  | bool b => exact ⟨(hlower h).1, s, u, (hlower h).2⟩
  | _ => exact ⟨(hlower h).1, s, u, (hlower h).2⟩

namespace Place

variable {p : Place}

theorem field?_shape (p : Place) : ∀ o ∈ shapeOptions,
    p.record.field? o.1 = some (.optional o.1 o.2.2) ∧ p.implied o.1 = none := by
  simp only [shapeOptions, forall_mem_cons]
  cases p
  all_goals
    exact ⟨⟨rfl, rfl⟩, ⟨rfl, rfl⟩, ⟨rfl, rfl⟩, ⟨rfl, rfl⟩, forall_mem_nil _⟩

/-- How a field of a picture at some place tests a setting: as at any other place, and where it has
    a default, no other value is accepted. -/
structure Sets (p : Place) (key : String) (test : Test) (f : Field) : Prop where
  field : p.record.field? key = some f
  default : f.default? = p.implied key
  widens : ∀ v w, f.test.Accepts v w → test.Accepts v w
  only : ∀ x v w, p.implied key = some x → f.test.Accepts v w → w = x

theorem exists_sets (hp : p.Known) (hsetting : setting ∈ settings) :
    ∃ f, p.Sets setting.1 setting.2 f := by
  have hplain : ∀ {key test}, p.record.field? key = some (.optional key test) →
      p.implied key = none → ∃ f, p.Sets key test f := by
    intro key test hfield hnone
    refine ⟨_, hfield, hnone.symm, fun v w h => h, fun x v w hx _ => ?_⟩
    rw [hnone] at hx
    cases hx
  rcases mem_append.mp hsetting with hoption | htype
  · obtain ⟨o, ho, rfl⟩ := mem_map.mp hoption
    rcases mem_append.mp ho with hshape | hshades
    · obtain ⟨hfield, hnone⟩ := field?_shape p o hshape
      exact hplain hfield hnone
    · obtain rfl := mem_singleton.mp hshades
      cases p with
      | free => exact hplain rfl rfl
      | below format => exact hplain rfl rfl
      | within format t =>
        refine ⟨.defaulted "transparency" (.str t.name) (transparencyWord [t.name]), rfl, rfl,
          fun v w h => (transparencyWord_widens hp.2 h).2, ?_⟩
        rintro x v w ⟨⟩ h
        exact (transparencyWord_widens hp.2 h).1
  · obtain rfl := mem_singleton.mp htype
    have hdefaulted : ∀ {format}, format ∈ formatNames →
        p.record.field? "type" = some (.defaulted "type" (.str format) (formatWord [format])) →
        p.implied "type" = some (.str format) → ∃ f, p.Sets "type" (formatWord formatNames) f := by
      intro format hformat hfield himplied
      refine ⟨_, hfield, himplied.symm, fun v w h => (formatWord_widens hformat h).2, ?_⟩
      intro x v w hx h
      rw [himplied] at hx
      cases hx
      exact (formatWord_widens hformat h).1
    cases p with
    | free => exact hplain rfl rfl
    | below format => exact hdefaulted hp rfl rfl
    | within format t => exact hdefaulted hp.1 rfl rfl

theorem get?_supplied_record (p : Place) (hsetting : setting ∈ settings) :
    Entries.get? (supplied p.record.fields []) setting.1 = p.implied setting.1 := by
  have hkeys : ∀ key ∈ ["resize", "dither", "invert_alpha", "byte_order", "transparency", "type"],
      Entries.get? (supplied p.record.fields []) key = p.implied key := by
    simp only [forall_mem_cons]
    cases p
    all_goals exact ⟨rfl, rfl, rfl, rfl, rfl, rfl, forall_mem_nil _⟩
  exact hkeys _ (mem_map_of_mem (f := Prod.fst) hsetting)

section

variable (hp : p.Known) {es out : Entries}
  (h : List.Forall₂ p.record.Accepts (p.record.completed es) out)

include hp h

theorem get?_given (hsetting : setting ∈ settings) (hv : es.get? setting.1 = some v) :
    ∃ w, out.get? setting.1 = some w ∧ setting.2.Accepts v w := by
  obtain ⟨f, hf⟩ := exists_sets hp hsetting
  have hcompleted : Entries.get? (p.record.completed es) setting.1 = some v := by
    rw [get?_completed, hv, Option.some_or]
  rcases get?_accepts h setting.1 with ⟨hnone, -⟩ | ⟨v', w, g, hv', hw, hg, haccepts⟩
  · cases hnone.symm.trans hcompleted
  · cases hv'.symm.trans hcompleted
    cases hf.field.symm.trans hg
    exact ⟨w, hw, hf.widens _ w haccepts⟩

theorem get?_not_given (hsetting : setting ∈ settings) (hnone : es.get? setting.1 = none) :
    out.get? setting.1 = p.implied setting.1 := by
  obtain ⟨f, hf⟩ := exists_sets hp hsetting
  have hcompleted : Entries.get? (p.record.completed es) setting.1 = p.implied setting.1 := by
    rw [get?_completed, hnone, Option.none_or, get?_supplied_record p hsetting]
  rcases get?_accepts h setting.1 with ⟨hnone, hout⟩ | ⟨x, w, g, hx, hw, hg, haccepts⟩
  · rw [hout, ← hcompleted, hnone]
  · have himplied := hcompleted.symm.trans hx
    cases hf.field.symm.trans hg
    rw [hw, himplied, hf.only x x w himplied haccepts]

omit hp in
theorem get?_identity (hf : f ∈ identity) (hw : out.get? f.key = some w) :
    ∃ v, (es.get? f.key).or f.default? = some v ∧ f.test.Accepts v w := by
  have hfield : ∀ f ∈ identity, p.record.field? f.key = some f
      ∧ Entries.get? (supplied p.record.fields []) f.key = f.default? := by
    simp only [identity, forall_mem_cons]
    cases p
    all_goals exact ⟨⟨rfl, rfl⟩, ⟨rfl, rfl⟩, ⟨rfl, rfl⟩, forall_mem_nil _⟩
  obtain ⟨hown, hdefault⟩ := hfield f hf
  have hcompleted : Entries.get? (p.record.completed es) f.key
      = (es.get? f.key).or f.default? := by rw [get?_completed, hdefault]
  rcases get?_accepts h f.key with ⟨-, hnone⟩ | ⟨v, w', g, hv, hw', hg, haccepts⟩
  · cases hnone.symm.trans hw
  · cases hw'.symm.trans hw
    cases hown.symm.trans hg
    exact ⟨v, hcompleted.symm.trans hv, haccepts⟩

end

end Place

/-! ## Pictures with the defaults -/

theorem get?_setting {out : Entries} {id file data : Value} {format : Format}
    (hsetting : setting ∈ settings) (hkey : setting.1 = "type" ∨ setting.1 ∈ format.options) :
    Entries.get? (merged (.dict out) defaults format id file data) setting.1
      = some ((out.get? setting.1).getD ((defaults.get? setting.1).getD .null)) := by
  have hoption : optionOf (.dict out) defaults setting.1
      = (out.get? setting.1).getD ((defaults.get? setting.1).getD .null) := by
    cases hout : out.get? setting.1 with
    | some v => exact optionOf_of_get? hout defaults
    | none => exact optionOf_of_get?_none hout defaults
  rw [← hoption]
  rcases hkey with htype | hmem
  · rw [get?_merged, if_pos htype, htype]
  · have hnever : ∀ setting ∈ settings, setting.1 ≠ "raw_data_id" := by
      simp only [settings, options, shapeOptions, forall_mem_append, map_append,
        map_cons, map_nil, forall_mem_cons]
      decide
    obtain ⟨hoptions, horder⟩ := (mem_options (hnever setting hsetting)).mp hmem
    exact get?_merged_option hoptions horder

theorem kept_of_accepts (hp : p.Known) {image y : Value} (hv : p.record.run.Accepts v image)
    (hy : (applyDefaults image defaults path).on s = (.ok y, t)) : Kept defaults (p, v) y := by
  obtain ⟨es, out, rfl, rfl, -, h⟩ := run_accepts (by cases p <;> rfl) hv
  obtain ⟨format, id, file, data, hstored, hid, hfile, hdata, hsettings⟩ :=
    applyDefaults_on_iff.mp hy
  obtain ⟨rfl, -⟩ := checkSettings_on_iff.mp hsettings
  refine ⟨?_, ?_, ?_, ?_⟩
  · obtain ⟨v, hv, haccepts⟩ := Place.get?_identity h
      (f := .required "id" (declareId Cpp.image)) (by simp [identity]) hid
    exact ⟨v, id, (Option.or_none.symm.trans hv :), get?_merged _ _ _ _ _ _ _, haccepts⟩
  · obtain ⟨v, hv, haccepts⟩ := Place.get?_identity h
      (f := .required "file" source) (by simp [identity]) hfile
    exact ⟨v, file, (Option.or_none.symm.trans hv :), get?_merged _ _ _ _ _ _ _, haccepts⟩
  · obtain ⟨v, hv, haccepts⟩ := Place.get?_identity h
      (f := .generated "raw_data_id" (declareId Cpp.uint8)) (by simp [identity]) hdata
    have hgiven : (Entries.get? es "raw_data_id").getD .null = v :=
      Option.some.inj (Option.or_some.symm.trans hv :)
    exact ⟨data, get?_merged _ _ _ _ _ _ _, hgiven ▸ haccepts⟩
  · refine ⟨_, format, get?_merged _ _ _ _ _ _ _, hstored, fun setting hsetting hkey => ⟨?_, ?_⟩, ?_⟩
    · intro v hv
      obtain ⟨w, hw, haccepts⟩ := Place.get?_given hp h hsetting hv
      refine ⟨w, (get?_setting hsetting hkey).trans ?_, haccepts⟩
      rw [hw, Option.getD_some]
    · intro hnone
      refine (get?_setting hsetting hkey).trans ?_
      rw [Place.get?_not_given hp h hsetting hnone]
      cases p.implied setting.1 <;> rfl
    · intro key
      show (Entries.get? (merged _ _ _ _ _ _) key).isSome = true ↔ _
      have hdata : "raw_data_id" ∈ format.options := mem_append_right _ (mem_singleton_self _)
      rw [get?_merged, mem_append]
      simp only [mem_cons, not_mem_nil, or_false]
      split_ifs <;> simp_all

/-! ## Lists and groups -/

theorem applyToAll_kept (hp : p.Known) {i : Nat} {xs images : List Value}
    (h : List.Forall₂ p.record.run.Accepts xs images)
    (hys : (applyToAll defaults path i images).on s = (.ok ys, t)) :
    List.Forall₂ (Kept defaults) (xs.map (Prod.mk p)) ys := by
  induction h generalizing i ys s with
  | nil =>
    cases hys
    exact .nil
  | cons hx _ ih =>
    obtain ⟨y, u, hy, hrest⟩ := on_bind_eq_ok hys
    obtain ⟨rest, u', hrest, hdone⟩ := on_bind_eq_ok hrest
    cases hdone
    exact .cons (kept_of_accepts hp hx hy) (ih hrest)

def transparencyGroups (format : String) : Record :=
  .of ((groupTransparencies format).map fun t =>
    .optional t.name (Test.ensureList (presetEntry format t).run))

theorem groupTransparencies_known {t : Transparency} (ht : t ∈ groupTransparencies format) :
    t.name ∈ transparencyNames ∧ Transparency.ofName t.name = t := by
  have hsub : ∀ f : Format, f.transparencies ⊆ Transparency.all := by
    intro f
    cases f <;> decide
  have hall : t ∈ Transparency.all := by
    unfold groupTransparencies at ht
    split at ht
    · exact hsub _ ht
    · exact ht
  have hnames : ∀ t ∈ Transparency.all,
      t.name ∈ transparencyNames ∧ Transparency.ofName t.name = t := by decide
  exact hnames t hall

theorem transparencyGroups_accepts {g g' : String × Value}
    (h : (transparencyGroups format).Accepts g g') :
    ∃ t images, t ∈ groupTransparencies format ∧ g.1 = t.name ∧ g'.1 = t.name ∧ g'.2 = .list images
      ∧ List.Forall₂ (presetEntry format t).run.Accepts (itemsIn g.2) images := by
  obtain ⟨hkey, f, hf, haccepts⟩ := h
  obtain ⟨hmem, hname⟩ := field?_of hf
  obtain ⟨t, ht, rfl⟩ := mem_map.mp hmem
  obtain ⟨images, himages, hall⟩ := ensureList_accepts haccepts
  exact ⟨t, images, ht, hname.symm, hkey.trans hname.symm, himages, hall⟩

theorem applyToGroups_kept (hformat : format ∈ formatNames) {groups groups' : Entries}
    (h : List.Forall₂ (transparencyGroups format).Accepts groups groups')
    (hys : (applyToGroups defaults key (groupTransparencies format) groups').on s = (.ok ys, u)) :
    List.Forall₂ (Kept defaults) (groups.flatMap fun g =>
      (itemsIn g.2).map (Prod.mk (.within format (Transparency.ofName g.1)))) ys := by
  induction h generalizing ys s with
  | nil =>
    cases hys
    exact .nil
  | @cons g g' groups groups' hg _ ih =>
    obtain ⟨t, images, ht, hname, hname', himages, hall⟩ := transparencyGroups_accepts hg
    obtain ⟨k, v⟩ := g'
    obtain rfl : k = t.name := hname'
    obtain rfl : v = .list images := himages
    obtain ⟨hknown, hofName⟩ := groupTransparencies_known ht
    have hany : (groupTransparencies format).any (·.name == t.name) = true :=
      any_eq_true.mpr ⟨t, ht, beq_self_eq_true _⟩
    rw [applyToGroups, if_pos hany] at hys
    obtain ⟨first, u', hfirst, hrest⟩ := on_bind_eq_ok hys
    obtain ⟨rest, u'', hrest, hdone⟩ := on_bind_eq_ok hrest
    cases hdone
    rw [flatMap_cons, hname, hofName]
    exact (rel_append (applyToAll_kept (p := .within format t) ⟨hformat, hknown⟩ hall hfirst)
      (ih hrest))

theorem below_not_groups {e : String × Value} {es : Entries}
    (h : (Place.below format).record.run.Accepts (.dict (e :: es)) w) :
    (groupTransparencies format).any (·.name == e.1) = false := by
  obtain ⟨_, out, ⟨⟩, rfl, -, hall⟩ := run_accepts rfl h
  rw [completed_eq_append, cons_append] at hall
  cases hall with
  | cons he _ =>
    obtain ⟨-, f, hf, -⟩ := he
    refine Bool.eq_false_iff.mpr fun hany => ?_
    obtain ⟨t, ht, hname⟩ := any_eq_true.mp hany
    have hnone : ∀ name ∈ transparencyNames, (Place.below format).record.field? name = none := by
      show ∀ name ∈ ["opaque", "chroma_key", "alpha_channel"], _
      simp only [forall_mem_cons]
      exact ⟨rfl, rfl, rfl, forall_mem_nil _⟩
    rw [← beq_iff_eq.mp hname, hnone _ (groupTransparencies_known ht).1] at hf
    cases hf

/-- The pictures of a format that is accepted, as they are handed on. -/
def groupPictures (defaults : Value) (format key : String) (v : Value) : Check (List Value) :=
  match v with
  | .list images => applyToAll defaults [.key key] 0 images
  | .dict groups => applyToGroups defaults key (groupTransparencies format) groups
  | _ => pure []

theorem applyToFormats_cons (hkey : formatNames.contains (upper key) = true)
    (defaults v : Value) (es : Entries) : applyToFormats defaults ((key, v) :: es) = (do
      let first ← groupPictures defaults (upper key) key v
      return first ++ (← applyToFormats defaults es)) := by
  rw [applyToFormats.eq_def]
  dsimp only
  rw [if_pos hkey]
  cases v <;> rfl

theorem groupPictures_kept (hformat : format ∈ formatNames) (h : (formatGroup format).Accepts v w)
    (hys : (groupPictures defaults format key w).on s = (.ok ys, u)) :
    List.Forall₂ (Kept defaults) (underFormat format v) ys := by
  obtain ⟨test, htest, haccepts⟩ := anyOf_accepts h
  rcases mem_pair.mp htest with rfl | rfl
  · obtain ⟨groups, groups', rfl, rfl, -, hgroups⟩ :=
      run_accepts (r := transparencyGroups format) rfl haccepts
    have hoptional : AllOptional (transparencyGroups format).fields := allOptional_map _ _ _
    rw [completed_eq hoptional] at hgroups
    have hkeys : ∀ g ∈ groups, (groupTransparencies format).any (·.name == g.1) = true := by
      intro g hg
      obtain ⟨f, hf⟩ := field?_accepts hgroups g hg
      obtain ⟨hmem, hname⟩ := field?_of hf
      obtain ⟨t, ht, rfl⟩ := mem_map.mp hmem
      exact any_eq_true.mpr ⟨t, ht, beq_iff_eq.mpr hname⟩
    rw [underFormat, if_pos (all_eq_true.mpr hkeys)]
    exact applyToGroups_kept hformat hgroups hys
  · obtain ⟨images, rfl, himages⟩ := ensureList_accepts haccepts
    have hlist : List.Forall₂ (Kept defaults) ((itemsIn v).map (Prod.mk (.below format))) ys :=
      applyToAll_kept (p := .below format) hformat himages hys
    cases v with
    | dict groups =>
      cases groups with
      | nil => exact hlist
      | cons g groups =>
        cases himages with
        | cons hg _ =>
          have hnot := below_not_groups hg
          rw [underFormat, all_cons, hnot]
          exact hlist
    | _ => exact hlist

theorem upper_lower : ∀ format ∈ formatNames, upper (lower format) = format := by
  decide

theorem grouped_format (hf : grouped.field? key = some f)
    (hkey : formatNames.contains (upper key) = true) :
    upper key ∈ formatNames ∧ f.test = formatGroup (upper key) := by
  obtain ⟨hmem, rfl⟩ := field?_of hf
  refine ⟨contains_iff_mem.mp hkey, ?_⟩
  rcases mem_append.mp hmem with hmem | hmem
  · have hnever : formatNames.contains (upper "defaults") = false
        ∧ formatNames.contains (upper "images") = false := by decide
    rcases mem_pair.mp hmem with rfl | rfl
    · cases hnever.1.symm.trans hkey
    · cases hnever.2.symm.trans hkey
  · obtain ⟨format, hformat, rfl⟩ := mem_map.mp hmem
    show formatGroup format = formatGroup (upper (lower format))
    rw [upper_lower format hformat]

theorem applyToFormats_kept {es es' : Entries} (h : List.Forall₂ grouped.Accepts es es')
    (hys : (applyToFormats defaults es').on s = (.ok ys, u)) :
    List.Forall₂ (Kept defaults) (es.flatMap underKey) ys := by
  induction h generalizing ys s with
  | nil =>
    cases hys
    exact .nil
  | @cons e e' es es' he _ ih =>
    obtain ⟨k, v⟩ := e
    obtain ⟨k', v'⟩ := e'
    obtain ⟨hkey, f, hf, haccepts⟩ := he
    obtain rfl : k' = k := hkey
    rw [flatMap_cons, underKey]
    by_cases hformat : formatNames.contains (upper k') = true
    · obtain ⟨hmem, htest⟩ := grouped_format hf hformat
      rw [applyToFormats_cons hformat] at hys
      obtain ⟨first, u', hfirst, hrest⟩ := on_bind_eq_ok hys
      obtain ⟨rest, u'', hrest, hdone⟩ := on_bind_eq_ok hrest
      cases hdone
      rw [if_pos hformat]
      exact rel_append (groupPictures_kept hmem (htest ▸ haccepts) hfirst) (ih hrest)
    · rw [applyToFormats_skip (Bool.eq_false_iff.mpr hformat)] at hys
      rw [if_neg hformat]
      exact ih hys

theorem underKey_supplied (es : Entries) : (supplied grouped.fields es).flatMap underKey = [] := by
  rw [supplied_grouped, flatMap_eq_nil_iff]
  intro e he
  have hlisted : e ∈ [("defaults", Value.dict []), ("images", .list [])] := supplied_subset _ _ he
  have hnever : formatNames.contains (upper "defaults") = false
    ∧ formatNames.contains (upper "images") = false := by decide
  rcases mem_pair.mp hlisted with rfl | rfl
  · exact if_neg (Bool.eq_false_iff.mp hnever.1)
  · exact if_neg (Bool.eq_false_iff.mp hnever.2)

theorem grouped_get? {es out : Entries}
    (h : List.Forall₂ grouped.Accepts (grouped.completed es) out) {fallback : Value}
    (hf : grouped.field? f.key = some f)
    (hfallback : Entries.get? (supplied grouped.fields []) f.key = some fallback) :
    ∃ w, out.get? f.key = some w ∧ f.test.Accepts ((es.get? f.key).getD fallback) w := by
  have hcompleted : Entries.get? (grouped.completed es) f.key
      = some ((es.get? f.key).getD fallback) := by
    rw [get?_completed, hfallback, Option.or_some]
  rcases get?_accepts h f.key with ⟨hnone, -⟩ | ⟨v, w, g, hv, hw, hg, haccepts⟩
  · cases hnone.symm.trans hcompleted
  · cases hv.symm.trans hcompleted
    cases hf.symm.trans hg
    exact ⟨w, hw, haccepts⟩

/-- The pictures of a configuration that groups them are those that are written in it, one by one,
    each with its own settings, those of its place, or else the defaults. -/
theorem flatten_keeps_pictures {es : Entries} (hid : Entries.has es "id" = false)
    (hfile : Entries.has es "file" = false) {w : Value} {s t : Session}
    (h : (rule (.dict es)).on s = (.ok w, t)) :
    ∃ defaults pictures, w = .list pictures
      ∧ defaultsRecord.run.Accepts ((Entries.get? es "defaults").getD (.dict [])) defaults
      ∧ List.Forall₂ (Kept defaults) (written es) pictures := by
  have hrule : rule (.dict es) = allOf [grouped.run, flatten] (.dict es) := by
    unfold rule
    dsimp only
    rw [hid, hfile]
    rfl
  rw [hrule] at h
  obtain ⟨v, u, hgrouped, hflatten⟩ := allOf_pair_iff.mp h
  obtain ⟨_, out, ⟨⟩, rfl, -, hall⟩ := run_accepts rfl ⟨s, u, hgrouped⟩
  obtain ⟨defaults, hdefaults, hflatten⟩ := on_required_bind_eq_ok hflatten
  obtain ⟨images, u₁, himages, hflatten⟩ := on_bind_eq_ok hflatten
  obtain ⟨rest, u₂, hrest, hdone⟩ := on_bind_eq_ok hflatten
  cases hdone
  have hsupplied := supplied_grouped []
  refine ⟨defaults, images ++ rest, rfl, ?_, rel_append ?_ ?_⟩
  · obtain ⟨w, hw, haccepts⟩ := grouped_get? hall
      (f := .defaulted "defaults" (.dict []) defaultsRecord.run) rfl (by rw [hsupplied]; rfl)
    cases hw.symm.trans hdefaults
    exact haccepts
  · obtain ⟨w, hw, haccepts⟩ := grouped_get? hall
      (f := .defaulted "images" (.list []) (ensureList plain.run)) rfl (by rw [hsupplied]; rfl)
    obtain ⟨listed, rfl, hlisted⟩ := ensureList_accepts haccepts
    have hitems : (((Value.dict out).get? "images").bind Value.items?).getD [] = listed := by
      rw [show (Value.dict out).get? "images" = _ from hw]
      rfl
    rw [hitems] at himages
    exact applyToAll_kept (p := .free) trivial hlisted himages
  · have hkept := applyToFormats_kept hall hrest
    rwa [completed_eq_append, flatMap_append, underKey_supplied, append_nil] at hkept

/-! ### A sample -/

/-- A picture in the list, and one below a transparency of a format. -/
def groupedPictures : Entries :=
  [("images", .list [.dict (vectorPicture .rgb565)]),
    ("binary", .dict [("chroma_key", .list [.dict [("id", .str "p"), ("file", .str "v")]])])]

def presetOut : Entries :=
  [("id", vectorId), ("file", .str "/v"), ("raw_data_id", vectorData),
    ("transparency", .str "chroma_key"), ("type", .str "BINARY")]

def flattenedPictures : List Value :=
  [.dict (below (vectorOut .rgb565) .rgb565 vectorId (.str "/v") vectorData),
    .dict (below presetOut .binary vectorId (.str "/v") vectorData)]

set_option maxRecDepth 100000 in
theorem groupedPictures_on : (rule (.dict groupedPictures)).on vectorSession
    = (.ok (.list flattenedPictures), vectorSession) := rfl

theorem flatten_keeps_pictures_grouped : ∃ defaults,
    (rule (.dict groupedPictures)).on vectorSession = (.ok (.list flattenedPictures), vectorSession)
    ∧ defaultsRecord.run.Accepts (.dict []) defaults
    ∧ List.Forall₂ (Kept defaults)
      [(.free, .dict (vectorPicture .rgb565)),
        (.within "BINARY" .chromaKey, .dict [("id", .str "p"), ("file", .str "v")])]
      flattenedPictures := by
  obtain ⟨defaults, pictures, hpictures, hdefaults, hkept⟩ :=
    flatten_keeps_pictures (by decide) (by decide) groupedPictures_on
  cases hpictures
  exact ⟨defaults, groupedPictures_on, hdefaults, hkept⟩

end Picture

end Panel
