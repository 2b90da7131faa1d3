import Panel.Proofs.AcceptedEntries

/-! # Spellings of pictures — a list of pictures, and a dictionary with the list in it

    A picture that names its format may stand in a list, or in a list below a key.  In the first
    place a record fills in its options; in the second they come from defaults beside the list, and
    only those are taken over that the format has. -/

namespace Panel

variable {data defaults file id image name w : Value} {key : String} {format : Format}

/-! ## Pictures on their own -/

namespace Picture

open Check Record List Test Value

/-- A picture that may leave its options and its format to the defaults. -/
def plain : Record := plainEntry (.optional "type" (formatWord formatNames))

def preset (es : Entries) : Entries := supplied (withDefaults options) es

theorem withDefaults_options : withDefaults options = [.optional "resize" dimensions,
      .defaulted "dither" (.str "NONE") (upperWord ["NONE", "FLOYDSTEINBERG"]),
      .defaulted "invert_alpha" (.bool false) boolean,
      .optional "byte_order" (upperWord ["BIG_ENDIAN", "LITTLE_ENDIAN"]),
      .defaulted "transparency" (.str "opaque") (transparencyWord transparencyNames)] := rfl

variable {es out : Entries}

theorem preset_settled {r : Record} (hr : ∀ f ∈ withDefaults options, r.field? f.key = some f)
    {e : String × Value} (he : e ∈ preset es) :
    ∃ f, r.field? e.1 = some f ∧ ∀ s, (f.test e.2).on s = (.ok e.2, s) := by
  have hlisted : e ∈ [("dither", str "NONE"), ("invert_alpha", .bool false),
      ("transparency", .str "opaque")] := supplied_subset _ _ he
  rw [withDefaults_options] at hr
  simp only [forall_mem_cons] at hr
  obtain ⟨-, hdither, hinvert, -, htransparency, -⟩ := hr
  rcases mem_cons.mp hlisted with rfl | hlisted
  · exact ⟨_, hdither, fun s => rfl⟩
  · rcases mem_pair.mp hlisted with rfl | rfl
    · exact ⟨_, hinvert, fun s => rfl⟩
    · exact ⟨_, htransparency, fun s => rfl⟩

theorem entry_field? : ∀ f ∈ withDefaults options, entry.field? f.key = some f := by
  rw [withDefaults_options]
  simp only [forall_mem_cons]
  exact ⟨rfl, rfl, rfl, rfl, rfl, nofun⟩

theorem entry_completed (es : Entries) : entry.completed es = plain.completed es ++ preset es := by
  have hbare : supplied (withoutDefaults options) es = [] :=
    supplied_eq_nil (by simp [withoutDefaults, options, shapeOptions, Field.optional]) es
  have hformat : supplied [Field.optional "type" (formatWord formatNames)] es = [] :=
    supplied_eq_nil (by simp [Field.optional]) es
  have hrequired : supplied [Field.required "type" (formatWord formatNames)] es = [] :=
    supplied_eq_nil (by simp [Field.required]) es
  rw [completed_eq_append, completed_eq_append]
  show es ++ supplied (identity ++ withDefaults options ++ _) es
    = es ++ supplied (identity ++ withoutDefaults options ++ _) es ++ preset es
  rw [supplied_append, supplied_append, supplied_append, supplied_append, hbare, hformat, hrequired,
    append_nil, append_nil, append_nil, append_assoc]
  rfl

theorem entry_walk (es done : Entries) (issues : List Issue) :
    entry.walk es done issues = plain.walk es done issues :=
  have hsame : entry.fields.map (fun f => (f.key, f.test))
      = plain.fields.map fun f => (f.key, f.test) := rfl
  walk_congr (field?_test_congr hsame) es done issues

theorem entry_missing (htype : es.has "type" = true) :
    entry.missing es = plain.missing es := by
  unfold missing
  show filterMap _ (identity ++ withDefaults options ++ [_])
    = filterMap _ (identity ++ withoutDefaults options ++ [_])
  rw [filterMap_append, filterMap_append, filterMap_append, filterMap_append]
  congr 1
  simp [htype, Field.required, Field.optional]

/-- A picture with a format is accepted on its own as it is without defaults, with the defaults
    behind it. -/
theorem entry_on_iff (htype : es.has "type" = true) {s t : Session} :
    (entry.run (.dict es)).on s = (.ok w, t) ↔ ∃ out, w = .dict (out ++ preset es)
      ∧ (plain.run (.dict es)).on s = (.ok (.dict out), t) := by
  have hwalk : ∀ {out issues u},
      (plain.walk (plain.completed es) [] []).on s = (.ok (out, issues), u) →
      (entry.walk (entry.completed es) [] []).on s = (.ok (out ++ preset es, issues), u) := by
    intro out issues u h
    rw [entry_completed, walk_append, entry_walk, Check.on_bind_ok _ h,
      walk_settled (fun e he => preset_settled entry_field? he), reverse_reverse]
  rw [run_on_iff rfl rfl, entry_missing htype]
  constructor
  · rintro ⟨out', rfl, hmissing, h⟩
    rcases hplain : (plain.walk (plain.completed es) [] []).on s with ⟨result, u⟩
    cases result with
    | ok found =>
      obtain ⟨hfound, rfl⟩ := Prod.mk.inj ((hwalk hplain).symm.trans h)
      obtain ⟨rfl, hissues⟩ := Prod.mk.inj (Except.ok.inj hfound)
      refine ⟨found.1, rfl, run_eq_ok rfl hmissing rfl ?_⟩
      rw [hplain, ← hissues]
    | error e =>
      rw [entry_completed, walk_append, entry_walk, Check.on_bind_error _ hplain] at h
      cases h
  · rintro ⟨out, rfl, h⟩
    obtain ⟨out', hout, hmissing, h⟩ := (run_on_iff rfl rfl).mp h
    cases hout
    exact ⟨_, rfl, hmissing, hwalk h⟩

/-! ## Pictures below a key -/

def defaultsRecord : Record :=
  .of (withDefaults options ++ [.optional "type" (formatWord formatNames)])

theorem defaultsRecord_on (s : Session) :
    (defaultsRecord.run (.dict [])).on s = (.ok (.dict (preset [])), s) := rfl

theorem supplied_grouped (es : Entries) : supplied grouped.fields es
    = supplied [.defaulted "defaults" (.dict []) defaultsRecord.run,
        .defaulted "images" (.list []) (ensureList plain.run)] es := by
  have hformats :
      supplied (formatNames.map fun f => .optional (Text.lower f) (formatGroup f)) es = [] := by
    refine supplied_eq_nil (fun f hf => ?_) es
    obtain ⟨name, -, rfl⟩ := mem_map.mp hf
    rfl
  unfold grouped Record.of
  rw [supplied_append, hformats, append_nil]
  rfl

theorem grouped_completed (v : Value) :
    grouped.completed [("images", v)] = [("images", v), ("defaults", .dict [])] := by
  rw [completed_eq_append, supplied_grouped]
  rfl

theorem grouped_on_iff {s t : Session} :
    (grouped.run (.dict [("images", .list [.dict es])])).on s = (.ok w, t)
      ↔ ∃ out, w = .dict [("images", .list [.dict out]), ("defaults", .dict (preset []))]
        ∧ (plain.run (.dict es)).on s = (.ok (.dict out), t) := by
  have himages : (grouped.field? "images").map Field.test = some (ensureList plain.run) := rfl
  have hdefaults : (grouped.field? "defaults").map Field.test = some defaultsRecord.run := rfl
  have hgroups : grouped.groups = [] := rfl
  rw [run_on_iff hgroups rfl, grouped_completed]
  constructor
  · rintro ⟨out, rfl, -, h⟩
    obtain ⟨f, hf, htest⟩ := Option.map_eq_some_iff.mp himages
    obtain ⟨g, hg, htest'⟩ := Option.map_eq_some_iff.mp hdefaults
    obtain ⟨w, u, hw, h₁⟩ := walk_cons_eq_ok hf h
    obtain ⟨d, u', hd, h₂⟩ := walk_cons_eq_ok hg h₁
    rw [htest, ensureList_one_iff] at hw
    obtain ⟨x, hx, rfl⟩ := hw
    obtain ⟨given, picture, -, rfl, -⟩ := run_answers rfl hx
    rw [htest', defaultsRecord_on] at hd
    cases hd
    cases h₂
    exact ⟨picture, rfl, hx⟩
  · rintro ⟨out, rfl, h⟩
    refine ⟨_, rfl, rfl, ?_⟩
    rw [walk_cons himages (ensureList_one_iff.mpr ⟨_, h, rfl⟩),
      walk_cons hdefaults (defaultsRecord_on t)]
    rfl

theorem applyToFormats_skip (hkey : formatNames.contains (Text.upper key) = false)
    (defaults v : Value) (es : Entries) :
    applyToFormats defaults ((key, v) :: es) = applyToFormats defaults es := by
  rw [applyToFormats.eq_def]
  dsimp only
  rw [hkey]
  simp only [Bool.false_eq_true, if_false, pure_bind, nil_append, bind_pure]

theorem flatten_eq (image defaults : Value) :
    flatten (.dict [("images", .list [image]), ("defaults", defaults)])
      = (do return .list [← applyDefaults image defaults [.key "images", .index 0]]) := by
  have hformats : applyToFormats defaults [("images", .list [image]), ("defaults", defaults)]
      = pure [] := by
    rw [applyToFormats_skip (by decide), applyToFormats_skip (by decide), applyToFormats]
  show (do
    let first ← applyToAll defaults [.key "images"] 0 [image]
    let rest ← applyToFormats defaults [("images", .list [image]), ("defaults", defaults)]
    return list (first ++ rest)) = _
  rw [hformats, applyToAll, applyToAll]
  simp only [bind_assoc, pure_bind, append_nil]
  rfl

def merged (image defaults : Value) (format : Format) (id file data : Value) : Entries :=
  [("id", id), ("file", file), ("raw_data_id", data),
    ("type", optionOf image defaults "type")].foldl (fun es (k, v) => Entries.put es k v)
    (format.options.map fun key => (key, optionOf image defaults key))

theorem ofName?_null : Format.ofName? null.show = none := by decide

theorem optionOf_of_get? {v : Value} (h : out.get? key = some v)
    (defaults : Value) : optionOf (.dict out) defaults key = v := by
  have hget : (dict out).get? key = some v := h
  rw [optionOf, hget]

theorem optionOf_of_get?_none (h : out.get? key = none) (defaults : Value) :
    optionOf (.dict out) defaults key = (defaults.get? key).getD .null := by
  have hget : (dict out).get? key = none := h
  rw [optionOf, hget]

theorem applyDefaults_on_iff {path : List Step} {s t : Session} :
    (applyDefaults image defaults path).on s = (.ok w, t) ↔ ∃ format id file data,
      Format.ofName? (optionOf image defaults "type").show = some format
        ∧ image.get? "id" = some id ∧ image.get? "file" = some file
        ∧ image.get? "raw_data_id" = some data
        ∧ (checkSettings path (.dict (merged image defaults format id file data))).on s
          = (.ok w, t) := by
  unfold applyDefaults
  dsimp only
  split
  · next hnull =>
      rw [hnull, ofName?_null]
      exact ⟨nofun, fun ⟨_, _, _, _, h, _⟩ => (nomatch h)⟩
  · constructor
    · intro h
      obtain ⟨format, u, hformat, h₁⟩ := Check.on_bind_eq_ok h
      obtain ⟨hstored, rfl⟩ := formatNamed_on_iff.mp hformat
      obtain ⟨id, hid, h₂⟩ := Check.on_required_bind_eq_ok h₁
      obtain ⟨file, hfile, h₃⟩ := Check.on_required_bind_eq_ok h₂
      obtain ⟨data, hdata, h₄⟩ := Check.on_required_bind_eq_ok h₃
      exact ⟨format, id, file, data, hstored, hid, hfile, hdata, h₄⟩
    · rintro ⟨format, id, file, data, hstored, hid, hfile, hdata, h⟩
      rw [Check.on_bind_ok _ (formatNamed_on_iff.mpr ⟨hstored, rfl⟩),
        required_eq hid, pure_bind, required_eq hfile, pure_bind, required_eq hdata, pure_bind]
      exact h

theorem get?_merged (image defaults : Value) (format : Format) (id file data : Value)
    (key : String) :
    Entries.get? (merged image defaults format id file data) key
      = if key = "type" then some (optionOf image defaults "type")
        else if key = "raw_data_id" then some data
        else if key = "file" then some file
        else if key = "id" then some id
        else if key ∈ format.options then some (optionOf image defaults key) else none := by
  simp only [merged, foldl_cons, foldl_nil, Entries.get?_put, Entries.get?_map_pair]

/-! ## Pictures that are accepted without defaults -/

theorem field?_plain_none (hkey : key ∉ ["id", "file", "raw_data_id", "type"])
    (hoption : key ∉ options.map (·.1)) : plain.field? key = none := by
  have hkeys : plain.fields.map (·.key)
      = ["id", "file", "raw_data_id"] ++ options.map (·.1) ++ ["type"] := rfl
  refine find?_eq_none.mpr fun f hf heq => ?_
  have hmem : f.key ∈ plain.fields.map (·.key) := mem_map_of_mem hf
  rw [hkeys, beq_iff_eq.mp heq] at hmem
  simp only [mem_append, mem_cons, not_mem_nil, or_false] at hmem hkey
  tauto

theorem mem_options (hkey : key ≠ "raw_data_id") : key ∈ format.options
      ↔ key ∈ options.map (·.1) ∧ (key = "byte_order" → format.hasByteOrder = true) := by
  unfold Format.options
  rw [mem_append, mem_filter, mem_singleton, or_iff_left hkey]
  refine and_congr_right' ?_
  by_cases h : key = "byte_order" <;> simp [h]

theorem get?_merged_option (hkey : key ∈ options.map (·.1))
    (horder : key = "byte_order" → format.hasByteOrder = true) :
    Entries.get? (merged image defaults format id file data) key
      = some (optionOf image defaults key) := by
  have hother : ∀ key ∈ options.map (·.1),
      key ≠ "type" ∧ key ≠ "raw_data_id" ∧ key ≠ "file" ∧ key ≠ "id" := by decide
  obtain ⟨h₁, h₂, h₃, h₄⟩ := hother key hkey
  rw [get?_merged, if_neg h₁, if_neg h₂, if_neg h₃, if_neg h₄,
    if_pos ((mem_options h₂).mpr ⟨hkey, horder⟩)]

/-- The entries that a picture always has in the end. -/
structure Named (out : Entries) (id file data name : Value) : Prop where
  id : Entries.get? out "id" = some id
  file : Entries.get? out "file" = some file
  data : Entries.get? out "raw_data_id" = some data
  type : Entries.get? out "type" = some name

def below (out : Entries) (format : Format) (id file data : Value) : Entries :=
  merged (.dict out) (.dict (preset [])) format id file data

section

variable {es out : Entries} {s t : Session}
  (hplain : (plain.run (.dict es)).on s = (.ok (.dict out), t))

include hplain

theorem plain_accepts : List.Forall₂ plain.Accepts (plain.completed es) out := by
  obtain ⟨_, _, ⟨⟩, ⟨⟩, -, haccepts⟩ := run_accepts rfl ⟨s, t, hplain⟩
  exact haccepts

theorem has_plain (hkey : Entries.get? (supplied plain.fields []) key = none) :
    out.has key = es.has key := by
  have hcompleted : Entries.get? (plain.completed es) key = es.get? key := by
    rw [get?_completed, hkey, Option.or_none]
  rw [Entries.has_eq_isSome, Entries.has_eq_isSome, ← hcompleted]
  rcases get?_accepts (plain_accepts hplain) key with ⟨hgiven, hout⟩ | ⟨v, w, f, hgiven, hout, -⟩
  · rw [hgiven, hout]
  · rw [hgiven, hout]
    rfl

theorem get?_plain_none (hkey : plain.field? key = none) : out.get? key = none := by
  rcases get?_accepts (plain_accepts hplain) key with ⟨-, hout⟩ | ⟨v, w, f, -, -, hf, -⟩
  · exact hout
  · cases hkey.symm.trans hf

theorem get?_preset (hkey : key ∈ options.map (·.1)) (hout : out.get? key = none) :
    Entries.get? (preset es) key = Entries.get? (preset []) key := by
  have hnever : ∀ key ∈ options.map (·.1),
      Entries.get? (supplied plain.fields []) key = none := by decide
  rw [preset, get?_supplied, ← has_plain hplain (hnever key hkey), Entries.has_eq_isSome, hout]
  rfl

theorem option_agrees (hkey : key ∈ options.map (·.1)) :
    (Entries.get? (out ++ preset es) key).getD .null
      = optionOf (.dict out) (.dict (preset [])) key := by
  rw [Entries.get?_append]
  cases hout : out.get? key with
  | some v => exact (optionOf_of_get? hout _).symm
  | none =>
    rw [Option.none_or, get?_preset hplain hkey hout]
    exact (optionOf_of_get?_none hout (.dict (preset []))).symm

theorem option_given (hkey : key ∈ ["dither", "invert_alpha", "transparency"]) :
    (Entries.get? (out ++ preset es) key).isSome = true := by
  have hoption : ["dither", "invert_alpha", "transparency"] ⊆ options.map (·.1) := by decide
  have hpreset : ∀ key ∈ ["dither", "invert_alpha", "transparency"],
      (Entries.get? (preset []) key).isSome = true := by decide
  rw [Entries.get?_append]
  cases hout : out.get? key with
  | some v => rfl
  | none =>
    rw [Option.none_or, get?_preset hplain (hoption hkey) hout]
    exact hpreset key hkey

theorem plain_named (htype : es.has "type" = true) :
    ∃ id file data name, Named out id file data name := by
  obtain ⟨_, _, hgiven, hout, haccepted⟩ := run_accepted (forall_mem_nil _) hplain
  cases hgiven
  cases hout
  obtain ⟨id, hid⟩ := Entries.exists_get?_of (haccepted.kept
    (.required "id" (declareId Cpp.image)) rfl (.inr rfl))
  obtain ⟨file, hfile⟩ := Entries.exists_get?_of (haccepted.kept
    (.required "file" source) rfl (.inr rfl))
  obtain ⟨data, hdata⟩ := Entries.exists_get?_of (haccepted.kept
    (.generated "raw_data_id" (declareId Cpp.uint8)) rfl (.inl rfl))
  have hhas : out.has "type" = true := by
    rw [has_plain hplain rfl, htype]
  obtain ⟨name, hname⟩ := Entries.exists_get?_of hhas
  exact ⟨id, file, data, name, hid, hfile, hdata, hname⟩

theorem order_given : ((dict (out ++ preset es)).given? "byte_order").isSome
    = es.has "byte_order" := by
  have hpreset : Entries.get? (preset es) "byte_order" = none := by
    rw [preset, get?_supplied]
    exact ite_self _
  have hlookup : Entries.get? (out ++ preset es) "byte_order" = out.get? "byte_order" := by
    rw [Entries.get?_append, hpreset, Option.or_none]
  show (Entries.given? (out ++ preset es) "byte_order").isSome = _
  rw [Entries.given?, hlookup, ← has_plain hplain rfl, Entries.has_eq_isSome]
  rcases get?_accepts (plain_accepts hplain) "byte_order" with
    ⟨-, hout⟩ | ⟨v, w, f, -, hout, hf, s', t', hv⟩
  · rw [hout]
  · cases hf
    obtain ⟨word, u, -, hdone⟩ := Check.on_bind_eq_ok hv
    cases hdone
    rw [hout]

theorem merged_agrees (hnamed : Named out id file data name) (hkey : key = "byte_order" →
      format.hasByteOrder = true ∨ es.has "byte_order" = false) :
    (Entries.get? (out ++ preset es) key).getD .null
      = (Entries.get? (below out format id file data) key).getD .null := by
  rw [below, get?_merged, optionOf_of_get? hnamed.type]
  by_cases h₁ : key = "type"
  · rw [if_pos h₁, h₁, Entries.get?_append_of_some hnamed.type]
  rw [if_neg h₁]
  by_cases h₂ : key = "raw_data_id"
  · rw [if_pos h₂, h₂, Entries.get?_append_of_some hnamed.data]
  rw [if_neg h₂]
  by_cases h₃ : key = "file"
  · rw [if_pos h₃, h₃, Entries.get?_append_of_some hnamed.file]
  rw [if_neg h₃]
  by_cases h₄ : key = "id"
  · rw [if_pos h₄, h₄, Entries.get?_append_of_some hnamed.id]
  rw [if_neg h₄]
  by_cases hoption : key ∈ options.map (·.1)
  · rw [option_agrees hplain hoption]
    by_cases hmem : key ∈ format.options
    · rw [if_pos hmem]
      rfl
    · -- The only option that a format may lack is the byte order, and then it is not given.
      rw [if_neg hmem]
      have horder : key = "byte_order" ∧ format.hasByteOrder ≠ true := by
        rw [mem_options h₂] at hmem
        simpa [hoption] using hmem
      obtain ⟨rfl, hlacks⟩ := horder
      have hnone : out.get? "byte_order" = none := by
        refine Entries.get?_eq_none_of ?_
        rw [has_plain hplain rfl, (hkey rfl).resolve_left hlacks]
      rw [optionOf_of_get?_none hnone]
      rfl
  · have hfield : plain.field? key = none := field?_plain_none (by simp [h₁, h₂, h₃, h₄]) hoption
    have hkeys : (preset []).map (·.1) ⊆ options.map (·.1) := by decide
    have hpreset : Entries.get? (supplied (withDefaults options) []) key = none :=
      Entries.get?_eq_none_of (Bool.eq_false_iff.mpr fun hhas =>
        hoption (hkeys (Entries.has_iff_mem_keys.mp hhas)))
    rw [if_neg fun hmem => hoption ((mem_options h₂).mp hmem).1, Entries.get?_append,
      get?_plain_none hplain hfield, preset, get?_supplied, hpreset, ite_self]
    rfl

theorem settled_iff (hnamed : Named out id file data name) :
    Settled t (.dict (out ++ preset es)) name format
      ↔ Settled t (.dict (below out format id file data)) name format := by
  have hoption : ∀ {key}, key ∈ ["dither", "invert_alpha", "transparency"] →
      Entries.get? (out ++ preset es) key = Entries.get? (below out format id file data) key := by
    intro key hkey
    have hknown : ∀ key ∈ ["dither", "invert_alpha", "transparency"],
        key ∈ options.map (·.1) ∧ key ≠ "byte_order" := by decide
    obtain ⟨hmem, horder⟩ := hknown key hkey
    obtain ⟨v, hv⟩ := Option.isSome_iff_exists.mp (option_given hplain hkey)
    have hagrees := option_agrees hplain hmem
    rw [hv, Option.getD_some] at hagrees
    rw [hv, below, get?_merged_option hmem fun h => absurd h horder, hagrees]
  have hkeys : ∀ key ∈ ["type", "transparency", "invert_alpha", "file"],
      Entries.get? (out ++ preset es) key = Entries.get? (below out format id file data) key := by
    simp only [forall_mem_cons]
    refine ⟨?_, hoption (by decide), hoption (by decide), ?_, nofun⟩
    · rw [below, get?_merged, if_pos rfl, Entries.get?_append_of_some hnamed.type,
        optionOf_of_get? hnamed.type]
    · rw [Entries.get?_append_of_some hnamed.file, below, get?_merged]
      rfl
  exact ⟨fun h => h.congr fun key hkey => (hkeys key hkey).symm, fun h => h.congr hkeys⟩

end

/-! ## The two spellings -/

def listed (es : Entries) : Value := .list [.dict es]

def belowKey (es : Entries) : Value := .dict [("images", .list [.dict es])]

theorem list_on_iff (htype : es.has "type" = true) {a : Value} {s t : Session} :
    (rule (listed es)).on s = (.ok a, t) ↔ ∃ out name format,
      (plain.run (.dict es)).on s = (.ok (.dict out), t)
        ∧ Settled t (.dict (out ++ preset es)) name format
        ∧ (es.has "byte_order" = true → format.hasByteOrder = true)
        ∧ a = .list [.dict (out ++ preset es)] := by
  have hrule : rule (listed es)
      = ensureList (allOf [entry.run, checkSettings []]) (.list [.dict es]) := rfl
  rw [hrule, ensureList_one_iff]
  simp only [allOf_pair_iff, entry_on_iff htype, checkSettings_on_iff]
  constructor
  · rintro ⟨x, ⟨w, u, ⟨out, rfl, hplain⟩, rfl, rfl, name, format, hsettled, horder⟩, rfl⟩
    rw [order_given hplain] at horder
    exact ⟨out, name, format, hplain, hsettled, horder, rfl⟩
  · rintro ⟨out, name, format, hplain, hsettled, horder, rfl⟩
    rw [← order_given hplain] at horder
    exact ⟨_, ⟨_, t, ⟨out, rfl, hplain⟩, rfl, rfl, name, format, hsettled, horder⟩, rfl⟩

theorem order_below
    (h : ((dict (below out format id file data)).given? "byte_order").isSome = true) :
    format.hasByteOrder = true := by
  by_contra hlacks
  have hmem : "byte_order" ∉ format.options := fun hmem =>
    hlacks (((mem_options (by decide)).mp hmem).2 rfl)
  have hnone : Entries.get? (below out format id file data) "byte_order" = none := by
    rw [below, get?_merged]
    exact if_neg hmem
  have hgiven : (dict (below out format id file data)).given? "byte_order" = none := by
    show Entries.given? _ _ = none
    rw [Entries.given?, hnone]
  rw [hgiven] at h
  cases h

theorem optionOf_type (hstored : Format.ofName? name.show = some format) :
    optionOf (.dict out) (.dict (preset [])) "type" = name ↔ out.get? "type" = some name := by
  have hnull : name ≠ .null := by
    rintro rfl
    rw [ofName?_null] at hstored
    cases hstored
  cases hout : out.get? "type" with
  | some v =>
    rw [optionOf_of_get? hout]
    exact Option.some_inj.symm
  | none =>
    rw [optionOf_of_get?_none hout]
    exact ⟨fun h => absurd h.symm hnull, fun h => by cases h⟩

theorem group_on_iff {b : Value} {s t : Session} :
    (rule (belowKey es)).on s = (.ok b, t) ↔ ∃ out name format id file data,
      (plain.run (.dict es)).on s = (.ok (.dict out), t) ∧ Named out id file data name
        ∧ Settled t (.dict (below out format id file data)) name format
        ∧ b = .list [.dict (below out format id file data)] := by
  have hrule : rule (belowKey es)
      = allOf [grouped.run, flatten] (.dict [("images", .list [.dict es])]) := rfl
  rw [hrule, allOf_pair_iff]
  constructor
  · rintro ⟨w, u, hgrouped, hflatten⟩
    obtain ⟨out, rfl, hplain⟩ := grouped_on_iff.mp hgrouped
    rw [flatten_eq] at hflatten
    obtain ⟨y, u', hy, hdone⟩ := Check.on_bind_eq_ok hflatten
    cases hdone
    obtain ⟨format, id, file, data, hstored, hid, hfile, hdata, hsettings⟩ :=
      applyDefaults_on_iff.mp hy
    obtain ⟨rfl, rfl, name, format', hsettled, -⟩ := checkSettings_on_iff.mp hsettings
    have hname : optionOf (.dict out) (.dict (preset [])) "type" = name :=
      Option.some.inj ((get?_merged _ _ _ _ _ _ _).symm.trans hsettled.type)
    rw [hname] at hstored
    cases hstored.symm.trans hsettled.stored
    exact ⟨out, name, format, id, file, data, hplain,
      ⟨hid, hfile, hdata, (optionOf_type hstored).mp hname⟩, hsettled, rfl⟩
  · rintro ⟨out, name, format, id, file, data, hplain, hnamed, hsettled, rfl⟩
    refine ⟨_, t, grouped_on_iff.mpr ⟨out, rfl, hplain⟩, ?_⟩
    have hname := (optionOf_type hsettled.stored).mpr hnamed.type
    have happlied : (applyDefaults (.dict out) (.dict (preset [])) [.key "images", .index 0]).on t
          = (.ok (.dict (below out format id file data)), t) :=
      applyDefaults_on_iff.mpr ⟨format, id, file, data, hname.symm ▸ hsettled.stored, hnamed.id,
        hnamed.file, hnamed.data,
        checkSettings_on_iff.mpr ⟨rfl, rfl, name, format, hsettled, order_below⟩⟩
    rw [flatten_eq, Check.on_bind_ok _ happlied]
    rfl

/-! ### A sample -/

def vectorSession : Session := { files := [("v", [0x3c, 0x73, 0x76, 0x67])] }

def vectorPicture (format : Format) : Entries :=
  [("id", .str "p"), ("file", .str "v"), ("type", .str format.name),
    ("byte_order", .str "BIG_ENDIAN")]

def vectorId : Value := .ident (Ident.declaration (some "p") Cpp.image)

def vectorData : Value := .ident (Ident.declaration none Cpp.uint8)

def vectorOut (format : Format) : Entries :=
  [("id", vectorId), ("file", .str "/v"), ("type", .str format.name),
    ("byte_order", .str "BIG_ENDIAN"), ("raw_data_id", vectorData)]

/-- A picture that names its format is accepted in a list only if it is accepted below the key, with
    the same settings in the end.  The other way round there is one exception: below the key, a byte
    order is dropped that the format does not have, and in the list it is refused. -/
theorem spellings_agree {es : Entries} (htype : Entries.has es "type" = true) (s t : Session) :
    (∀ a, (rule (listed es)).on s = (.ok a, t) → ∃ x y, a = .list [x]
      ∧ (rule (belowKey es)).on s = (.ok (.list [y]), t) ∧ ∀ key, x.given? key = y.given? key)
    ∧ ∀ b, (rule (belowKey es)).on s = (.ok b, t) → ∃ y name format, b = .list [y]
      ∧ y.get? "type" = some name ∧ Format.ofName? name.show = some format
      ∧ if Entries.has es "byte_order" && !format.hasByteOrder then
          (rule (listed es)).on s = (.error (.invalidAt [.index 0] (orderMessage name)), t)
        else ∃ x, (rule (listed es)).on s = (.ok (.list [x]), t)
          ∧ ∀ key, x.given? key = y.given? key := by
  -- A byte order is allowed in the list where the format has one, or none is given.
  have hallowed : ∀ {format : Format},
      (es.has "byte_order" = true → format.hasByteOrder = true) →
      format.hasByteOrder = true ∨ es.has "byte_order" = false := by
    intro format h
    by_cases hgiven : es.has "byte_order" = true
    · exact .inl (h hgiven)
    · exact .inr (Bool.eq_false_iff.mpr hgiven)
  constructor
  · intro a h
    obtain ⟨out, name, format, hplain, hsettled, horder, rfl⟩ := (list_on_iff htype).mp h
    obtain ⟨id, file, data, name', hnamed⟩ := plain_named hplain htype
    obtain rfl : name' = name := Option.some.inj
      ((Entries.get?_append_of_some hnamed.type _).symm.trans hsettled.type)
    have hbelow := (settled_iff hplain hnamed).mp hsettled
    exact ⟨_, _, rfl,
      group_on_iff.mpr ⟨out, _, format, id, file, data, hplain, hnamed, hbelow, rfl⟩, fun key => Entries.given?_congr (merged_agrees hplain hnamed fun _ => hallowed horder)⟩
  · intro b h
    obtain ⟨out, name, format, id, file, data, hplain, hnamed, hsettled, rfl⟩ := group_on_iff.mp h
    refine ⟨_, name, format, rfl, hsettled.type, hsettled.stored, ?_⟩
    have hlisted := (settled_iff hplain hnamed).mpr hsettled
    split
    · next horder =>
        obtain ⟨hgiven, hlacks⟩ := Bool.and_eq_true_iff.mp horder
        rw [← order_given hplain] at hgiven
        refine ensureList_one_invalid (allOf_pair_invalid
          ((entry_on_iff htype).mpr ⟨out, rfl, hplain⟩) ?_)
        exact hlisted.refuses_order hgiven (by simpa using hlacks) []
    · next horder =>
        have hhas : es.has "byte_order" = true → format.hasByteOrder = true := by
          intro hgiven
          simpa [hgiven] using horder
        exact ⟨_, (list_on_iff htype).mpr ⟨out, name, format, hplain, hlisted, hhas, rfl⟩,
          fun key => Entries.given?_congr (merged_agrees hplain hnamed fun _ => hallowed hhas)⟩

set_option maxRecDepth 100000 in
/-- A byte order beside a format without one, and beside one that has it. -/
theorem spellings_agree_vectorPicture :
    (∃ b, (rule (belowKey (vectorPicture .binary))).on vectorSession = (.ok b, vectorSession))
    ∧ (rule (listed (vectorPicture .binary))).on vectorSession = (.error (.invalidAt [.index 0]
        "Image format 'BINARY' does not support byte order configuration"), vectorSession)
    ∧ ∃ x y, (rule (listed (vectorPicture .rgb565))).on vectorSession
          = (.ok (.list [x]), vectorSession)
        ∧ (rule (belowKey (vectorPicture .rgb565))).on vectorSession
          = (.ok (.list [y]), vectorSession)
        ∧ ∀ key, x.given? key = y.given? key := by
  obtain ⟨a, hlisted⟩ : ∃ a, (rule (listed (vectorPicture .rgb565))).on vectorSession
      = (.ok a, vectorSession) := ⟨_, rfl⟩
  obtain ⟨x, y, rfl, hy, hsame⟩ := (spellings_agree rfl vectorSession vectorSession).1 a hlisted
  exact ⟨⟨_, rfl⟩, rfl, x, y, hlisted, hy, hsame⟩

end Picture

end Panel
