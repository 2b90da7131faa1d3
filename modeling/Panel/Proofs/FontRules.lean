import Panel.Font.Build
import Panel.Proofs.GlyphOrder
import Panel.Proofs.Questions
import Panel.Proofs.StyleValues
import Panel.Proofs.UpdateRules

/-! # Rules for fonts — what an accepted configuration promises -/

namespace Panel

open List Test Check

variable {v w : Value} {src : Source} {f : Face} {cs : List Char} {s t : Session}

namespace Check

variable {α β : Type} {f : α → Check β} {b : β}

theorem Still.mapM (h : ∀ a, (f a).Still) (xs : List α) : (xs.mapM f).Still := by
  induction xs with
  | nil => exact .of_pure _
  | cons x xs ih =>
    rw [mapM_cons]
    exact (h x).bind fun y => ih.bind fun ys => .of_pure _

theorem Still.on_bind_eq_ok {c : Check α} (hc : c.Still) (h : (c >>= f).on s = (.ok b, t)) :
    ∃ a, (∀ u, c.on u = (.ok a, u)) ∧ (f a).on s = (.ok b, t) := by
  obtain ⟨a, u, ha, hrest⟩ := Check.on_bind_eq_ok h
  obtain ⟨r, hr⟩ := hc
  obtain ⟨rfl, rfl⟩ := Prod.mk.inj ((hr s).symm.trans ha)
  exact ⟨a, hr, hrest⟩

theorem on_required_bind_eq_ok {key : String} {f : Value → Check β}
    (h : (required v key >>= f).on s = (.ok b, t)) :
    ∃ x, v.get? key = some x ∧ (f x).on s = (.ok b, t) := by
  obtain ⟨x, u, hread, hrest⟩ := on_bind_eq_ok h
  obtain ⟨hx, rfl⟩ := required_on_iff.mp hread
  exact ⟨x, hx, hrest⟩

end Check

namespace Font

variable {d : Description}

/-! ## Descriptions -/

theorem Source.ofValue_still (v : Value) : (Source.ofValue v).Still := by
  unfold ofValue
  refine (contains_still v _).bind fun family => ?_
  split
  · exact (required_still v _).bind fun _ => (required_still v _).bind fun x =>
      (convertInt_still x).bind fun _ => (required_still v _).bind fun _ => .of_pure _
  · refine (contains_still v _).bind fun web => ?_
    split
    · exact (required_still v _).bind fun _ => .of_pure _
    · exact (required_still v _).bind fun _ => .of_pure _

theorem extraOf_still (v : Value) : (extraOf v).Still :=
  (required_still v _).bind fun x => (Source.ofValue_still x).bind fun _ =>
    (required_still v _).bind fun _ => .of_pure _

namespace Description

/-- The description of a configuration, option by option. -/
structure Reads (d : Description) (v : Value) (known : GlyphLibrary) : Prop where
  extras : ∃ x, v.get? "extras" = some x
    ∧ ∀ s, ((x.items?.getD []).mapM extraOf).on s = (.ok d.extras, s)
  sets : ∃ x, v.get? "glyphsets" = some x ∧ d.sets = (textsOf x).filterMap known.find?
  source : ∃ x, v.get? "file" = some x ∧ ∀ s, (Source.ofValue x).on s = (.ok d.source, s)
  glyphs : ∃ x, v.get? "glyphs" = some x ∧ d.glyphs = textsOf x
  ignoreMissing : ∃ x, v.get? "ignore_missing_glyphs" = some x ∧ d.ignoreMissing = x.truthy

theorem ofValue_on_iff : (ofValue v).on s = (.ok d, t) ↔ d.Reads v s.glyphSets ∧ t = s := by
  -- Both ways follow the options in the order in which they are looked up.
  constructor
  · intro h
    obtain ⟨x, hx, h⟩ := on_required_bind_eq_ok h
    obtain ⟨extras, hextras, h⟩ := (Check.Still.mapM extraOf_still _).on_bind_eq_ok h
    obtain ⟨y, hy, h⟩ := on_required_bind_eq_ok h
    rw [on_bind_ok _ (on_get s)] at h
    obtain ⟨z, hz, h⟩ := on_required_bind_eq_ok h
    obtain ⟨source, hsource, h⟩ := (Source.ofValue_still z).on_bind_eq_ok h
    obtain ⟨g, hg, h⟩ := on_required_bind_eq_ok h
    obtain ⟨i, hi, h⟩ := on_required_bind_eq_ok h
    cases h
    exact ⟨⟨⟨x, hx, hextras⟩, ⟨y, hy, rfl⟩, ⟨z, hz, hsource⟩, ⟨g, hg, rfl⟩, ⟨i, hi, rfl⟩⟩, rfl⟩
  · rintro ⟨⟨⟨x, hx, hextras⟩, ⟨y, hy, hsets⟩, ⟨z, hz, hsource⟩, ⟨g, hg, hglyphs⟩,
      ⟨i, hi, hignore⟩⟩, rfl⟩
    unfold ofValue
    rw [required_eq hx, pure_bind, on_bind_ok _ (hextras _), required_eq hy, pure_bind,
      on_bind_ok _ (on_get t)]
    rw [required_eq hz, pure_bind, on_bind_ok _ (hsource _), required_eq hg, pure_bind,
      required_eq hi, pure_bind, ← hsets, ← hglyphs, ← hignore]
    rfl

end Description

/-! ## Faces in use -/

def Cache.face? (s : Session) (src : Source) : Option Face := (find? s src).map (·.face)

theorem Cache.get_on_iff : (Cache.get src).on s = (.ok f, t) ↔ face? s src = some f ∧ t = s := by
  unfold Cache.get face?
  rw [on_bind_ok _ (rfl : (MonadState.get : Check Session).on s = (.ok s, s))]
  cases find? s src with
  | none => exact ⟨fun h => (by cases h), fun h => nomatch h.1⟩
  | some l =>
    constructor
    · intro h
      cases h
      exact ⟨rfl, rfl⟩
    · rintro ⟨h, rfl⟩
      obtain rfl := Option.some.inj h
      rfl

/-! ## Missing glyphs -/

def lacking (f : Face) (cs : List Char) : List Char := cs.filter fun c => !f.covers c.toNat

theorem charOf_toNat (c : Char) : charOf c.toNat = .ok c := by
  have hbound : c.toNat < 0x110000 := toNat_lt c
  unfold charOf
  rw [if_pos ⟨by omega, by omega⟩, Int.toNat_natCast, Char.ofNat_toNat]

theorem missing_pointsOf (f : Face) (cs : List Char) :
    missing f (pointsOf cs) = .ok (lacking f cs) := by
  have hfilter : (pointsOf cs).filter (fun p => p < 0 || !f.covers p.toNat)
      = pointsOf (lacking f cs) := by
    unfold pointsOf lacking
    rw [filter_map]
    rfl
  unfold missing
  rw [hfilter]
  generalize lacking f cs = found
  unfold pointsOf
  induction found with
  | nil => rfl
  | cons c found ih =>
    rw [map_cons, mapM_cons, charOf_toNat, ih]
    rfl

theorem lacking_eq_nil (h : lacking f cs = []) : ∀ c ∈ cs, f.covers c.toNat = true := by
  intro c hc
  have hnot := filter_eq_nil_iff.mp h c hc
  simpa using hnot

def remarked (src : Source) (cs : List Char) (s : Session) : Session :=
  if cs = [] then s else { s with log := s.log ++ ["WARNING: " ++ missingText src.label cs] }

theorem checkMissing_strict (h : (checkMissing src (pointsOf cs) false).on s = (.ok (), t)) :
    t = s ∧ ∃ f, Cache.face? s src = some f ∧ ∀ c ∈ cs, f.covers c.toNat = true := by
  obtain ⟨f, u, hf, h⟩ := on_bind_eq_ok h
  obtain ⟨hf, hu⟩ := Cache.get_on_iff.mp hf
  rw [missing_pointsOf, hu] at h
  cases hlacking : lacking f cs with
  | nil =>
    rw [hlacking] at h
    cases h
    exact ⟨rfl, f, hf, lacking_eq_nil hlacking⟩
  | cons c found =>
    rw [hlacking] at h
    cases h

theorem checkMissing_remark (h : (checkMissing src (pointsOf cs) true).on s = (.ok (), t)) :
    ∃ f, Cache.face? s src = some f ∧ t = remarked src (lacking f cs) s := by
  obtain ⟨f, u, hf, h⟩ := on_bind_eq_ok h
  obtain ⟨hf, hu⟩ := Cache.get_on_iff.mp hf
  rw [missing_pointsOf, hu] at h
  refine ⟨f, hf, ?_⟩
  cases hlacking : lacking f cs with
  | nil =>
    rw [hlacking] at h
    cases h
    rfl
  | cons c found =>
    rw [hlacking] at h
    cases h
    rfl

/-! ## Checked descriptions -/

theorem nodup_of_repeated (h : d.repeated = []) : d.named.Nodup := by
  rw [nodup_iff_count]
  intro c
  by_contra hcount
  have hmem : c ∈ d.repeated := by
    unfold Description.repeated
    rw [mem_eraseDups, mem_filter]
    refine ⟨count_pos_iff.mp (by omega), ?_⟩
    simpa using Nat.lt_of_not_le hcount
  rw [h] at hmem
  exact nomatch hmem

/-- A description that repeats no character, and whose faces have what is given one by one. -/
structure Description.Checked (d : Description) (base : Face) (s t : Session) : Prop where
  distinct : d.named.Nodup
  extras : ∀ e ∈ d.extras, ∃ f, Cache.face? s e.source = some f
    ∧ ∀ c ∈ e.chars, f.covers c.toNat = true
  face : Cache.face? s d.source = some base
  own : ∀ c ∈ d.own, base.covers c.toNat = true
  remark : t = if d.ignoreMissing then s
    else remarked d.source (lacking base d.onlyFromSets) s

theorem remarked_fontCache (src : Source) (cs : List Char) (s : Session) :
    (remarked src cs s).fontCache = s.fontCache := by
  unfold remarked
  split <;> rfl

theorem remarked_glyphSets (src : Source) (cs : List Char) (s : Session) :
    (remarked src cs s).glyphSets = s.glyphSets := by
  unfold remarked
  split <;> rfl

namespace Description.Checked

variable {d : Description} {base : Face} {s t : Session}

theorem fontCache (h : d.Checked base s t) : t.fontCache = s.fontCache := by
  rw [h.remark]
  split
  · rfl
  · exact remarked_fontCache _ _ s

theorem glyphSets (h : d.Checked base s t) : t.glyphSets = s.glyphSets := by
  rw [h.remark]
  split
  · rfl
  · exact remarked_glyphSets _ _ s

theorem face?_eq (h : d.Checked base s t) (src : Source) :
    Cache.face? t src = Cache.face? s src := by
  unfold Cache.face? Cache.find?
  rw [h.fontCache]

end Description.Checked

theorem checkExtras_on {es : List Extra}
    (h : (es.forM fun e => checkMissing e.source (pointsOf e.chars) false).on s = (.ok (), t)) :
    t = s ∧ ∀ e ∈ es, ∃ f, Cache.face? s e.source = some f
      ∧ ∀ c ∈ e.chars, f.covers c.toNat = true := by
  induction es with
  | nil =>
    cases h
    exact ⟨rfl, nofun⟩
  | cons e es ih =>
    obtain ⟨_, u, hfirst, hrest⟩ := on_bind_eq_ok h
    obtain ⟨rfl, hcovers⟩ := checkMissing_strict hfirst
    obtain ⟨ht, hall⟩ := ih hrest
    refine ⟨ht, fun x hx => ?_⟩
    rcases mem_cons.mp hx with rfl | hx
    · exact hcovers
    · exact hall x hx

theorem Description.check_on (h : d.check.on s = (.ok (), t)) : ∃ base, d.Checked base s t := by
  unfold check at h
  cases hrepeated : d.repeated with
  | cons c cs =>
    rw [hrepeated] at h
    cases h
  | nil =>
  -- Characters of other fonts are checked before those of the font itself, and sets last.
  rw [hrepeated] at h
  obtain ⟨_, u, hextras, h⟩ := on_bind_eq_ok h
  obtain ⟨hu, hextras⟩ := checkExtras_on hextras
  rw [hu] at h
  obtain ⟨_, u', hown, h⟩ := on_bind_eq_ok h
  obtain ⟨hu', base, hbase, hown⟩ := checkMissing_strict hown
  rw [hu'] at h
  refine ⟨base, nodup_of_repeated hrepeated, hextras, hbase, hown, ?_⟩
  cases hignore : d.ignoreMissing with
  | true =>
    rw [hignore] at h
    cases h
    rfl
  | false =>
    rw [hignore] at h
    obtain ⟨f, hf, ht⟩ := checkMissing_remark h
    obtain rfl := Option.some.inj (hf.symm.trans hbase)
    exact ht

/-! ## Completed configurations -/

/-- A description whose font has glyphs: without any, those of a set that the face has. -/
def Description.completed (d : Description) (plain : GlyphSet) (f : Face) : Description :=
  if d.usesDefault then { d with glyphs := (defaultGlyphs plain f).map Char.toString } else d

theorem charsOf_toString (cs : List Char) : charsOf (cs.map Char.toString) = cs := by
  unfold charsOf
  induction cs with
  | nil => rfl
  | cons c cs ih =>
    rw [map_cons, flatMap_cons, ih]
    exact congrArg (· ++ cs) (String.toList_singleton c)

theorem settleSize_on {label : String} {size : Option Value}
    (h : (settleSize label f size).on s = (.ok v, t)) :
    t = s ∧ (size = some v ∨ ∃ n, v = .int n) := by
  unfold settleSize at h
  split at h
  · cases h
    refine ⟨rfl, ?_⟩
    cases size with
    | none => exact .inr ⟨20, rfl⟩
    | some v => exact .inl rfl
  · split at h
    · cases h
    · next first rest hsizes =>
        cases size with
        | none =>
          cases h
          exact ⟨rfl, .inr ⟨first, rfl⟩⟩
        | some v =>
          dsimp only at h
          split at h
          · cases h
            exact ⟨rfl, .inl rfl⟩
          · cases h

theorem Description.Reads.completed {known : GlyphLibrary} {plain : GlyphSet} (h : d.Reads v known)
    (hglyphs : w.get? "glyphs" = if d.usesDefault
      then some (.list ((defaultGlyphs plain f).map fun c => .str c.toString))
      else v.get? "glyphs")
    (hother : ∀ key, key ≠ "glyphs" → key ≠ "size" → w.get? key = v.get? key) :
    (d.completed plain f).Reads w known := by
  obtain ⟨⟨x, hx, hextras⟩, ⟨y, hy, hsets⟩, ⟨z, hz, hsource⟩, ⟨g, hg, hown⟩, ⟨i, hi, hignore⟩⟩ := h
  have hx' := (hother "extras" (by decide) (by decide)).trans hx
  have hy' := (hother "glyphsets" (by decide) (by decide)).trans hy
  have hz' := (hother "file" (by decide) (by decide)).trans hz
  have hi' := (hother "ignore_missing_glyphs" (by decide) (by decide)).trans hi
  unfold Description.completed
  cases hdefault : d.usesDefault with
  | true =>
    rw [hdefault] at hglyphs
    refine ⟨⟨x, hx', hextras⟩, ⟨y, hy', hsets⟩, ⟨z, hz', hsource⟩, ⟨_, hglyphs, ?_⟩,
      ⟨i, hi', hignore⟩⟩
    show _ = map Value.show (map _ _)
    rw [map_map]
    rfl
  | false =>
    rw [hdefault] at hglyphs
    exact ⟨⟨x, hx', hextras⟩, ⟨y, hy', hsets⟩, ⟨z, hz', hsource⟩, ⟨g, hglyphs.trans hg, hown⟩,
      ⟨i, hi', hignore⟩⟩

/-- A configuration, what it asks for, and its completion. -/
structure Completes (v w : Value) (d : Description) (base : Face) (s t : Session) : Prop where
  reads : d.Reads v s.glyphSets
  checked : d.Checked base s t
  completed : (d.completed s.glyphSets.plain base).Reads w s.glyphSets
  size : ∃ x, w.get? "size" = some x ∧ (v.get? "size" = some x ∨ ∃ n, x = .int n)
  other : ∀ key, key ≠ "glyphs" → key ≠ "size" → w.get? key = v.get? key

theorem complete_on (h : (complete v).on s = (.ok w, t)) : ∃ d base, Completes v w d base s t := by
  obtain ⟨d, u, hd, h⟩ := on_bind_eq_ok h
  obtain ⟨hreads, hu⟩ := Description.ofValue_on_iff.mp hd
  rw [hu] at h
  obtain ⟨_, s₁, hcheck, h⟩ := on_bind_eq_ok h
  obtain ⟨base, hchecked⟩ := Description.check_on hcheck
  have hface : (Cache.get d.source).on s₁ = (.ok base, s₁) :=
    Cache.get_on_iff.mpr ⟨(hchecked.face?_eq _).trans hchecked.face, rfl⟩
  rw [on_bind_ok _ hface, on_bind_ok _ (on_get s₁),
    hchecked.glyphSets] at h
  obtain ⟨size, u, hsettle, hreturn⟩ := on_bind_eq_ok h
  obtain ⟨hu, hsize⟩ := settleSize_on hsettle
  obtain ⟨hw, ht⟩ := Prod.mk.inj hreturn
  obtain rfl := Except.ok.inj hw
  obtain rfl : s₁ = t := hu.symm.trans ht
  obtain ⟨x, hx, -⟩ := hreads.source
  cases v with
  | dict es =>
    -- The glyphs are filled in first and the size after them, each under its own key.
    generalize hfilled : (if d.usesDefault
      then (Value.dict es).put "glyphs" (.list ((defaultGlyphs s.glyphSets.plain base).map
        fun c => .str c.toString))
      else .dict es) = filled at hsize
    obtain ⟨fs, rfl, hglyphs, hother⟩ : ∃ fs, filled = .dict fs
        ∧ Entries.get? fs "glyphs" = (if d.usesDefault
          then some (.list ((defaultGlyphs s.glyphSets.plain base).map fun c => .str c.toString))
          else (Value.dict es).get? "glyphs")
        ∧ ∀ key, key ≠ "glyphs" → Entries.get? fs key = (Value.dict es).get? key := by
      rw [← hfilled]
      split
      · exact ⟨_, rfl, Entries.get?_put_self es _ _, fun key hkey => Entries.get?_put_ne es _ hkey⟩
      · exact ⟨_, rfl, rfl, fun _ _ => rfl⟩
    have hrest : ∀ key, key ≠ "glyphs" → key ≠ "size" →
        Entries.get? (Entries.put fs "size" size) key = (Value.dict es).get? key :=
      fun key hkey hsize => (Entries.get?_put_ne fs _ hsize).trans (hother key hkey)
    refine ⟨d, base, hreads, hchecked, ?_, ⟨size, ?_, ?_⟩, hrest⟩
    · exact hreads.completed ((Entries.get?_put_ne fs _ (by decide)).trans hglyphs) hrest
    · exact Entries.get?_put_self fs _ _
    · exact hsize.imp_left fun h => (hother _ (by decide)).symm.trans h
  | _ => nomatch hx

/-! ## Numbers in accepted configurations -/

theorem wholeOf_eq (v : Value) : wholeOf v = match intOf? v with
    | some n => pure n
    | none => throw .wrongKind := by
  cases v <;> rfl

theorem exactly_gives {options : List Value} (h : (exactly options).Gives v) :
    v.isObject = true ∨ ∃ x ∈ options, Value.same v x = true := by
  obtain ⟨w, s, t, h⟩ := h
  unfold exactly at h
  split at h
  · next hany =>
      cases h
      rw [Bool.or_eq_true, any_eq_true] at hany
      exact hany
  · unfold unknownWord at h
    split at h <;> cases h

theorem intOf?_same {m n : Int} (hv : intOf? v = some m) (hsame : Value.same v (.int n) = true) :
    m = n := by
  cases v with
  | int k =>
    rw [Value.same, beq_iff_eq] at hsame
    exact (Option.some.inj hv).symm.trans hsame
  | bool b =>
    rw [Value.same, beq_iff_eq] at hsame
    exact (Option.some.inj hv).symm.trans hsame
  | _ => nomatch hv

def depths : List Int := [1, 2, 4, 8]

theorem toNat_depth : ∀ n ∈ depths, n.toNat ≤ 8 := by decide

theorem record_bpp (h : (record.run v).on s = (.ok w, t)) :
    ∃ x, w.get? "bpp" = some x ∧ ∀ n, intOf? x = some n → n ∈ depths := by
  obtain ⟨written, es, -, rfl, haccepted⟩ :=
    Record.run_accepted (r := record) (fun _ h => (by cases h)) h
  let f : Field := .defaulted "bpp" (.int 1) (exactly (depths.map Value.int))
  have hfield : record.field? "bpp" = some f := rfl
  obtain ⟨x, hx⟩ := Entries.exists_get?_of (haccepted.kept f hfield (.inl rfl))
  refine ⟨x, hx, fun n hn => ?_⟩
  obtain ⟨g, hg, hgives⟩ := haccepted.fits _ (Entries.mem_of_get? hx)
  obtain rfl := Option.some.inj (hfield.symm.trans hg)
  rcases exactly_gives hgives with hobject | ⟨y, hy, hsame⟩
  · cases x with
    | cpp e => cases hn
    | _ => cases hobject
  · obtain ⟨m, hm, rfl⟩ := mem_map.mp hy
    exact intOf?_same hn hsame ▸ hm

theorem integer_whole (v : Value) : (integer v).Yields fun x => ∃ n, intOf? x = some n :=
  Property.integer_sort (fun n => ⟨n, rfl⟩) (fun _ => ⟨_, rfl⟩) v

theorem record_size {x : Value} (h : (record.run v).on s = (.ok w, t))
    (hx : w.get? "size" = some x) : ∃ n, intOf? x = some n := by
  obtain ⟨written, es, -, rfl, haccepted⟩ :=
    Record.run_accepted (r := record) (fun _ h => (by cases h)) h
  have hfield : record.field? "size" = some (.optional "size" (intRange (some 1) none)) := rfl
  obtain ⟨g, hg, u, s', t', hgives⟩ := haccepted.fits _ (Entries.mem_of_get? hx)
  obtain rfl := Option.some.inj (hfield.symm.trans hg)
  exact Property.ranged_yields (integer_whole u) _ _ _ _ _ hgives

end Font

end Panel
