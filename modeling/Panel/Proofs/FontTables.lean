import Panel.Proofs.GlyphTables

/-! # Accepted fonts — the table that an accepted configuration leads to

    The rule for a font accepts a configuration, its identifiers are settled, and the font is
    created from it. -/

namespace Panel

variable {s t u : Session} {v w x : Value} {es : Entries} {base f : Face} {gs : List Drawn}
  {c : Char} {plain : GlyphSet} {name : String} {r : Record} {k path : String} {out : Entries}
  {config : Value} {data glyphs object : Ident} {cs : List Char} {src : Source}

theorem Test.allOf_pair_iff {t t' : Test} {u' : Session} : (allOf [t, t'] v).on s = (.ok x, u')
      ↔ ∃ w u, (t v).on s = (.ok w, u) ∧ (t' w).on u = (.ok x, u') := by
  constructor
  · intro h
    obtain ⟨w, u, hw, h⟩ := Check.on_bind_eq_ok h
    obtain ⟨x', u'', hx, h⟩ := Check.on_bind_eq_ok h
    cases h
    exact ⟨w, u, guarded_eq_ok hw, guarded_eq_ok hx⟩
  · rintro ⟨w, u, hw, hx⟩
    exact (Check.on_bind_ok _ (Check.on_tryCatch_ok _ hw)).trans
      (Check.on_bind_ok _ (Check.on_tryCatch_ok _ hx))

namespace Font

open Cpp List Test Record Check

/-! ## Accepted configurations -/

/-- An accepted configuration with settled identifiers, in a later session: the faces are still in
    use, every glyph gives a bitmap, and the names are free. -/
structure Ready (accepted config : Value) (data glyphs object : Ident) (s t : Session) : Prop where
  same : ∀ key, key ∉ ["id", "raw_data_id", "raw_glyph_id"] →
    config.get? key = accepted.get? key
  named : Named config data glyphs object t
  sets : t.glyphSets = s.glyphSets
  faces : ∀ src f, Cache.face? s src = some f → Cache.face? t src = some f
  complete : ∀ src f, Cache.face? t src = some f → f.Complete

variable {d : Description}

theorem Description.Reads.congr {known : GlyphLibrary} (h : d.Reads v known)
    (hsame : ∀ key, key ∉ ["id", "raw_data_id", "raw_glyph_id"] → w.get? key = v.get? key) :
    d.Reads w known := by
  obtain ⟨hextras, hsets, hsource, hglyphs, hignore⟩ := h
  refine ⟨?_, ?_, ?_, ?_, ?_⟩ <;> rwa [hsame _ (by decide)]

/-- What is known of an accepted configuration when its font is created. -/
structure Prepared (x config : Value) (d : Description) (base : Face) (s t u : Session) :
    Prop where
  checked : ∃ v s', (record.run x).on s = (.ok v, s') ∧ d.Reads v s'.glyphSets
    ∧ d.Checked base s' t
  reads : (d.completed t.glyphSets.plain base).Reads config u.glyphSets
  drawable : (d.completed t.glyphSets.plain base).Drawable base u
  bpp : ∃ y, config.get? "bpp" = some y ∧ ∀ n, Test.intOf? y = some n → n ∈ depths
  size : ∃ y n, config.get? "size" = some y ∧ Test.intOf? y = some n

theorem Description.completed_source (d : Description) (plain : GlyphSet) (f : Face) :
    (d.completed plain f).source = d.source := by
  unfold completed
  split <;> rfl

theorem Description.completed_extras (d : Description) (plain : GlyphSet) (f : Face) :
    (d.completed plain f).extras = d.extras := by
  unfold completed
  split <;> rfl

theorem Ready.prepared {accepted : Value} (haccept : (rule x).on s = (.ok accepted, t))
    (hready : Ready accepted config data glyphs object t u) :
    ∃ d base, Prepared x config d base s t u := by
  obtain ⟨v, s', hrecord, hcomplete⟩ := allOf_pair_iff.mp haccept
  obtain ⟨d, base, hd⟩ := complete_on hcomplete
  -- The faces that were checked are still the ones in use when the font is created.
  have hfaces : ∀ src f, Cache.face? s' src = some f → Cache.face? u src = some f :=
    fun src f hf => hready.faces src f ((hd.checked.face?_eq src).trans hf)
  refine ⟨d, base, ⟨v, s', hrecord, hd.reads, hd.checked⟩, ?_, ?_, ?_, ?_⟩
  · rw [hready.sets, hd.checked.glyphSets]
    exact hd.completed.congr hready.same
  · refine ⟨?_, ?_, hready.complete⟩
    · rw [d.completed_source]
      exact hfaces _ _ hd.checked.face
    · rw [d.completed_extras]
      intro e he
      obtain ⟨f, hf, -⟩ := hd.checked.extras e he
      exact ⟨f, hfaces _ f hf⟩
  · obtain ⟨y, hy, hdepth⟩ := record_bpp hrecord
    refine ⟨y, ?_, hdepth⟩
    rw [hready.same _ (by decide), hd.other _ (by decide) (by decide), hy]
  · obtain ⟨y, hy, hsize⟩ := hd.size
    have hy' := (hready.same "size" (by decide)).trans hy
    rcases hsize with hsize | ⟨n, rfl⟩
    · obtain ⟨n, hn⟩ := record_size hrecord hsize
      exact ⟨y, n, hy', hn⟩
    · exact ⟨_, n, hy', rfl⟩

/-- A font has been created from a configuration: the data of its glyphs, their table, and the
    object that is given the table and the number of rows. -/
structure Created (config : Value) (data glyphs object : Ident) (bpp size : Int) (gs : List Drawn)
    (s t : Session) : Prop where
  depth : bpp ∈ depths ∧ (config.get? "bpp").bind Test.intOf? = some bpp
  size : (config.get? "size").bind Test.intOf? = some size
  ends : (create config).on s = (.ok (), t)
  main : ∃ rest, t.main = s.main ++ tableLines data glyphs gs
    ++ [objectLine object (Expr.named glyphs.text :: .integer gs.length :: rest)]

/-- The depth is none of the numbers; something that equals one of them is accepted as well. -/
def Depthless (config : Value) : Prop := (config.get? "bpp").bind Test.intOf? = none

instance (config : Value) : Decidable (Depthless config) :=
  inferInstanceAs (Decidable ((config.get? "bpp").bind Test.intOf? = none))

theorem Prepared.create (h : Prepared x config d base s t u)
    (hnamed : Named config data glyphs object u) :
    (Depthless config ∧ ∃ u', (create config).on u = (.error .wrongKind, u')) ∨
      ∃ bpp size gs u', Created config data glyphs object bpp size gs u u'
        ∧ List.Forall₂ ((d.completed t.glyphSets.plain base).Draws (Cache.face? u) size bpp.toNat)
          (d.completed t.glyphSets.plain base).chars gs := by
  obtain ⟨z, size, hz, hsize⟩ := h.size
  obtain ⟨y, hy, hdepths⟩ := h.bpp
  rcases create_on h.reads h.drawable hnamed hy (fun bpp h => toNat_depth bpp (hdepths bpp h)) hz hsize
    with ⟨hbpp, hcreate⟩ | ⟨bpp, gs, rest, u', hbpp, hcreate, hdrawn, hmain⟩
  · refine .inl ⟨?_, _, hcreate⟩
    rw [Depthless, hy]
    exact hbpp
  · refine .inr ⟨bpp, size, gs, u', ⟨⟨hdepths bpp hbpp, ?_⟩, ?_, hcreate, rest, hmain⟩, hdrawn⟩
    · rw [hy]
      exact hbpp
    · rw [hz]
      exact hsize

/-! ## Tables -/

/-- A table of glyphs for the characters of a description, and the data that its rows divide among
    them. -/
structure Partition (d : Description) (faces : Source → Option Face) (size : Int) (bpp : Nat)
    (array : Expr) (gs : List Drawn) : Prop where
  increasing : gs.Pairwise fun g h => g.point < h.point
  points : ∀ point, (∃ g ∈ gs, g.point = point) ↔
    ∃ c : Char, c.toNat = point ∧ (c ∈ d.fromSets ∨ c ∈ d.own ∨ c ∈ d.borrowed)
  drawn : ∀ g ∈ gs, ∃ c src f, d.Supplies c src ∧ faces src = some f
    ∧ f.draw c.toNat size bpp = .ok g
  rows : (table array gs).length = gs.length ∧ ∀ i g, gs[i]? = some g →
    (table array gs)[i]? = some (tableRow array g (offset gs i))
  slices : ∀ i g, gs[i]? = some g →
    ((dataOf gs).drop (offset gs i)).take g.data.length = g.data
  apart : ∀ i j g, gs[i]? = some g → i < j → offset gs i + g.data.length ≤ offset gs j
  whole : ∀ k < (dataOf gs).length, ∃ i g, gs[i]? = some g
    ∧ offset gs i ≤ k ∧ k < offset gs i + g.data.length

section Drawn

variable {d : Description} {faces : Source → Option Face} {size : Int} {bpp : Nat}

theorem points_of_drawn (h : List.Forall₂ (d.Draws faces size bpp) cs gs) :
    gs.map (·.point) = cs.map Char.toNat := by
  induction h with
  | nil => rfl
  | cons hfirst _ ih =>
    obtain ⟨f, -, hdraw⟩ := hfirst
    rw [map_cons, map_cons, ih, Face.draw_point hdraw]

theorem exists_of_drawn (h : List.Forall₂ (d.Draws faces size bpp) cs gs) {g : Drawn}
    (hg : g ∈ gs) :
    ∃ c ∈ cs, d.Draws faces size bpp c g := by
  induction h with
  | nil => exact nomatch hg
  | cons hfirst _ ih =>
    rcases mem_cons.mp hg with rfl | hg
    · exact ⟨_, mem_cons_self, hfirst⟩
    · obtain ⟨c, hc, hdraws⟩ := ih hg
      exact ⟨c, mem_cons_of_mem _ hc, hdraws⟩

theorem Partition.of_drawn (array : Expr) (hlenders : d.borrowed.Nodup)
    (h : List.Forall₂ (d.Draws faces size bpp) d.chars gs) :
    Partition d faces size bpp array gs where
  increasing := by
    have hpoints : (gs.map (·.point)).Pairwise (· < ·) := by
      rw [points_of_drawn h, pairwise_map]
      exact d.chars_increasing
    exact pairwise_map.mp hpoints
  points point := by
    have hmem : (∃ g ∈ gs, g.point = point) ↔ point ∈ gs.map (·.point) := mem_map.symm
    rw [hmem, points_of_drawn h, mem_map]
    refine exists_congr fun c => ?_
    rw [Description.mem_chars, and_comm]
  drawn g hg := by
    obtain ⟨c, -, f, hface, hdraw⟩ := exists_of_drawn h hg
    exact ⟨c, d.sourceOf c, f, Description.sourceOf_supplies hlenders c, hface, hdraw⟩
  rows := ⟨table_length array gs, fun _ _ => table_getElem?⟩
  slices _ _ := data_slice
  apart _ _ _ := offset_apart
  whole _ := offset_covers

end Drawn

/-! ## Faces -/

/-- The face that a glyph of a table is drawn from, and what was checked for its character: the face
    has what is given one by one and what is taken from the plain set, and a lack among the
    characters that only sets ask for has been remarked. -/
structure Agrees (d : Description) (base : Face) (faces : Source → Option Face) (log : List String)
    (c : Char) (f : Face) : Prop where
  used : ∃ src, d.Supplies c src ∧ faces src = some f
  covers : c ∈ d.own ∨ c ∈ d.borrowed ∨ d.usesDefault = true → f.covers c.toNat = true
  remarks : c ∉ d.own → c ∉ d.borrowed → d.usesDefault = false →
    c ∈ d.fromSets ∧ f = base ∧ (base.covers c.toNat = false → d.ignoreMissing = true ∨
      ∃ cs, c ∈ cs ∧ log.getLast? = some ("WARNING: " ++ missingText d.source.label cs))

theorem Description.completed_own (plain : GlyphSet) (f : Face) :
    (d.completed plain f).own = if d.usesDefault then defaultGlyphs plain f else d.own := by
  unfold completed
  split
  · exact charsOf_toString _
  · rfl

theorem Description.completed_sets (d : Description) (plain : GlyphSet) (f : Face) :
    (d.completed plain f).sets = d.sets := by
  unfold completed
  split <;> rfl

theorem Description.Checked.remarked_lack (h : d.Checked base s t)
    (hset : c ∈ d.fromSets) (hnamed : c ∉ d.named) (hlack : base.covers c.toNat = false) :
    d.ignoreMissing = true ∨
      ∃ cs, c ∈ cs ∧ t.log.getLast? = some ("WARNING: " ++ missingText d.source.label cs) := by
  have honly : c ∈ d.onlyFromSets := by
    unfold Description.onlyFromSets
    rw [mem_eraseDups, mem_filter]
    exact ⟨hset, by simpa using hnamed⟩
  have hmem : c ∈ lacking base d.onlyFromSets := by
    rw [lacking, mem_filter]
    exact ⟨honly, by simpa using hlack⟩
  cases hignore : d.ignoreMissing with
  | true => exact .inl rfl
  | false =>
    refine .inr ⟨_, hmem, ?_⟩
    rw [h.remark, hignore, if_neg Bool.false_ne_true, remarked, if_neg (ne_nil_of_mem hmem)]
    exact getLast?_concat

theorem Description.completed_supplies (h : (d.completed plain f).Supplies c src) :
    d.Supplies c src := by
  unfold Supplies at h
  rwa [d.completed_extras, d.completed_source] at h

theorem Description.mem_completed_chars (h : c ∈ (d.completed plain f).chars) :
    c ∈ d.borrowed ∨ (d.usesDefault = true ∧ c ∈ defaultGlyphs plain f)
      ∨ d.usesDefault = false ∧ (c ∈ d.own ∨ c ∈ d.fromSets) := by
  rw [mem_chars, completed_own, fromSets, borrowed, completed_sets, completed_extras] at h
  cases hdefault : d.usesDefault with
  | true =>
    rw [hdefault, if_pos rfl] at h
    have hsets : d.sets = [] := isEmpty_iff.mp (Bool.and_eq_true_iff.mp hdefault).2
    rw [hsets] at h
    rcases h with h | h | h
    · exact nomatch h
    · exact .inr (.inl ⟨rfl, h⟩)
    · exact .inl h
  | false =>
    rw [hdefault, if_neg Bool.false_ne_true] at h
    rcases h with h | h | h
    · exact .inr (.inr ⟨rfl, .inr h⟩)
    · exact .inr (.inr ⟨rfl, .inl h⟩)
    · exact .inl h

theorem Description.Checked.agrees {faces : Source → Option Face}
    (h : d.Checked base s t) (hfaces : ∀ src f, Cache.face? s src = some f → faces src = some f)
    (hc : c ∈ (d.completed plain base).chars) (hsrc : d.Supplies c src) (hf : faces src = some f) :
    Agrees d base faces t.log c f := by
  by_cases hborrowed : c ∈ d.borrowed
  · -- The font that lends the character has been checked for it.
    obtain ⟨e, he, hce⟩ := mem_flatMap.mp hborrowed
    obtain ⟨f', hf', hcovers⟩ := h.extras e he
    have hsource : src = e.source := hsrc.1 e he hce
    have hsame : f = f' := by
      have hlender := hfaces _ _ hf'
      rw [← hsource, hf] at hlender
      exact Option.some.inj hlender
    exact ⟨⟨src, hsrc, hf⟩, fun _ => hsame ▸ hcovers c hce, fun _ hnot => absurd hborrowed hnot⟩
  · -- The font's own face was checked for the characters that are asked for one by one; what it
    -- lacks of a set was only remarked on.
    have hsource : src = d.source := hsrc.2 fun e he hce => hborrowed (mem_flatMap.mpr ⟨e, he, hce⟩)
    have hsame : f = base := by
      have hbase := hfaces _ _ h.face
      rw [← hsource, hf] at hbase
      exact Option.some.inj hbase
    subst hsame
    refine ⟨⟨src, hsrc, hf⟩, ?_, ?_⟩
    · rintro (hown | hlent | hdefault)
      · exact h.own c hown
      · exact absurd hlent hborrowed
      · rcases Description.mem_completed_chars hc with hlent | ⟨-, hplain⟩ | ⟨hnot, -⟩
        · exact absurd hlent hborrowed
        · exact (mem_filter.mp hplain).2
        · rw [hdefault] at hnot
          exact nomatch hnot
    · intro hown _ hdefault
      have hset : c ∈ d.fromSets := by
        rcases Description.mem_completed_chars hc with hlent | ⟨hnot, -⟩ | ⟨-, hrest⟩
        · exact absurd hlent hborrowed
        · rw [hdefault] at hnot
          exact nomatch hnot
        · exact hrest.resolve_left hown
      have hnamed : c ∉ d.named := by
        rw [Description.named, mem_append, not_or]
        exact ⟨hborrowed, hown⟩
      exact ⟨hset, rfl, h.remarked_lack hset hnamed⟩

/-! ## A sample -/

def dotFace (point : Nat) : Face :=
  ⟨[(point, ⟨1, 1, 1, [128], true, 64, 0, 1⟩)], 64, 0, 64, true, [], "Dots", "Regular"⟩

/-- Two files with faces that are in use, and a set of a character that neither face has. -/
def sampleSession : Session :=
  { files := [("bdf", []), ("BDF", [])]
    fontCache := [("file:/bdf", ⟨dotFace 65, []⟩), ("file:/BDF", ⟨dotFace 66, []⟩)]
    glyphSets := ⟨[⟨"c", ['C']⟩], ⟨"c", ['C']⟩⟩ }

def givenFile (name : String) : Value := .dict [("type", .str "local"), ("path", .str name)]

def foundFile (name : String) : Value :=
  .dict [("path", .str ("/" ++ name)), ("type", .str "local")]

/-- A font with a character of its own, one of another font and one of a set. -/
def sampleFont : Value := .dict
  [("id", .str "f"), ("file", givenFile "bdf"), ("glyphs", .str "A"), ("glyphsets", .str "c"),
    ("extras", .dict [("file", givenFile "BDF"), ("glyphs", .str "B")])]

def recordedFont : Value := .dict
  [("id", .ident (Ident.declaration (some "f") fontClass)), ("file", foundFile "bdf"),
    ("glyphs", .list [.str "A"]), ("glyphsets", .list [.str "c"]),
    ("extras", .list [.dict [("file", foundFile "BDF"), ("glyphs", .list [.str "B"])]]),
    ("ignore_missing_glyphs", .bool false), ("bpp", .int 1),
    ("raw_data_id", .ident (Ident.declaration none uint8)),
    ("raw_glyph_id", .ident (Ident.declaration none glyphClass))]

def acceptedFont : Value := recordedFont.put "size" (.int 20)

def sampleData : Ident := Ident.declaration (some "data") uint8

def sampleGlyphs : Ident := Ident.declaration (some "glyphs") glyphClass

def settledFont : Value :=
  (acceptedFont.put "raw_data_id" (.ident sampleData)).put "raw_glyph_id" (.ident sampleGlyphs)

set_option maxRecDepth 100000 in
theorem sampleFont_accepted : (rule sampleFont).on sampleSession
    = (.ok acceptedFont, remarked (.file "/bdf") ['C'] sampleSession) := rfl

theorem dotFace_complete (point : Nat) : (dotFace point).Complete := by
  intro p
  unfold Face.glyph
  split
  · next k g hfind =>
      have hmem : (k, g) ∈ (dotFace point).glyphs := mem_of_find?_eq_some hfind
      obtain ⟨rfl, rfl⟩ := Prod.mk.inj (mem_singleton.mp hmem)
      intro x hx y hy
      obtain rfl : x = 0 := Nat.lt_one_iff.mp hx
      obtain rfl : y = 0 := Nat.lt_one_iff.mp hy
      exact ⟨128, rfl⟩
  · exact fun x hx => absurd hx (Nat.not_lt_zero x)

theorem sampleFont_ready : Ready acceptedFont settledFont sampleData sampleGlyphs
    (Ident.declaration (some "f") fontClass) (remarked (.file "/bdf") ['C'] sampleSession)
    (remarked (.file "/bdf") ['C'] sampleSession) where
  same key hkey := by
    simp only [mem_cons, not_mem_nil, or_false, not_or] at hkey
    exact (Entries.get?_put_ne _ _ hkey.2.2).trans (Entries.get?_put_ne _ _ hkey.2.1)
  named := ⟨rfl, rfl, rfl, by decide, nofun⟩
  sets := rfl
  faces _ _ h := h
  complete src f h := by
    obtain ⟨l, hl, rfl⟩ := Option.map_eq_some_iff.mp h
    obtain ⟨⟨k, l⟩, hfind, rfl⟩ := Option.map_eq_some_iff.mp hl
    have hmem := mem_of_find?_eq_some hfind
    rw [remarked_fontCache] at hmem
    rcases mem_cons.mp hmem with hfirst | hmem
    · obtain ⟨-, rfl⟩ := Prod.mk.inj hfirst
      exact dotFace_complete 65
    · obtain ⟨-, rfl⟩ := Prod.mk.inj (mem_singleton.mp hmem)
      exact dotFace_complete 66

/-! ## Accepted fonts -/

/-- The table of an accepted font has one row for each of its characters, in the order of their code
    points, and its rows divide the data.  A depth that is no whole number ends the creation. -/
theorem create_partitions {x accepted config : Value} {data glyphs object : Ident}
    {s t u : Session} (haccept : (rule x).on s = (.ok accepted, t))
    (hready : Ready accepted config data glyphs object t u) :
    ∃ d, d.Reads config u.glyphSets ∧
      ((Depthless config ∧ ∃ u', (create config).on u = (.error .wrongKind, u')) ∨
        ∃ bpp size gs u', Created config data glyphs object bpp size gs u u'
          ∧ Partition d (Cache.face? u) size bpp.toNat (Expr.named data.text) gs) := by
  obtain ⟨d, base, hprepared⟩ := hready.prepared haccept
  refine ⟨d.completed t.glyphSets.plain base, hprepared.reads, ?_⟩
  have hlenders : (d.completed t.glyphSets.plain base).borrowed.Nodup := by
    obtain ⟨v, s', -, -, hchecked⟩ := hprepared.checked
    rw [Description.borrowed, d.completed_extras]
    exact (nodup_append.mp hchecked.distinct).1
  refine (hprepared.create hready.named).imp_right ?_
  rintro ⟨bpp, size, gs, u', hcreated, hdrawn⟩
  exact ⟨bpp, size, gs, u', hcreated, .of_drawn _ hlenders hdrawn⟩

theorem create_partitions_sampleFont :
    (rule sampleFont).on sampleSession
        = (.ok acceptedFont, remarked (.file "/bdf") ['C'] sampleSession)
      ∧ ∃ d bpp size gs t, Created settledFont sampleData sampleGlyphs
          (Ident.declaration (some "f") fontClass) bpp size gs
          (remarked (.file "/bdf") ['C'] sampleSession) t
        ∧ Partition d (Cache.face? (remarked (.file "/bdf") ['C'] sampleSession)) size bpp.toNat
          (Expr.named "data") gs := by
  obtain ⟨d, -, hnot | ⟨bpp, size, gs, t, h⟩⟩ :=
    create_partitions sampleFont_accepted sampleFont_ready
  · exact absurd hnot.1 (by decide)
  · exact ⟨sampleFont_accepted, d, bpp, size, gs, t, h⟩

/-- The rule and the creation of a font agree on the face of every glyph. -/
theorem create_agrees {x accepted config : Value} {data glyphs object : Ident}
    {s t u : Session} (haccept : (rule x).on s = (.ok accepted, t))
    (hready : Ready accepted config data glyphs object t u) :
    ∃ v s' d base, (record.run x).on s = (.ok v, s') ∧ d.Reads v s'.glyphSets
      ∧ Cache.face? u d.source = some base ∧
      ((Depthless config ∧ ∃ u', (create config).on u = (.error .wrongKind, u')) ∨
        ∃ bpp size gs u', Created config data glyphs object bpp size gs u u'
          ∧ ∀ g ∈ gs, ∃ c f, f.draw c.toNat size bpp.toNat = .ok g
            ∧ Agrees d base (Cache.face? u) t.log c f) := by
  obtain ⟨d, base, hprepared⟩ := hready.prepared haccept
  obtain ⟨v, s', hrecord, hreads, hchecked⟩ := hprepared.checked
  have hbase := hready.faces _ _ ((hchecked.face?_eq _).trans hchecked.face)
  refine ⟨v, s', d, base, hrecord, hreads, hbase, ?_⟩
  have hlenders : (d.completed t.glyphSets.plain base).borrowed.Nodup := by
    rw [Description.borrowed, d.completed_extras]
    exact (nodup_append.mp hchecked.distinct).1
  refine (hprepared.create hready.named).imp_right ?_
  rintro ⟨bpp, size, gs, u', hcreated, hdrawn⟩
  refine ⟨bpp, size, gs, u', hcreated, fun g hg => ?_⟩
  obtain ⟨c, hc, f, hface, hdraw⟩ := exists_of_drawn hdrawn hg
  refine ⟨c, f, hdraw, hchecked.agrees (fun src f hf => ?_) hc ?_ hface⟩
  · exact hready.faces src f ((hchecked.face?_eq src).trans hf)
  · exact Description.completed_supplies (Description.sourceOf_supplies hlenders c)

theorem create_agrees_sampleFont :
    (rule sampleFont).on sampleSession
        = (.ok acceptedFont, remarked (.file "/bdf") ['C'] sampleSession)
      ∧ ∃ d base bpp size gs t, Created settledFont sampleData sampleGlyphs
          (Ident.declaration (some "f") fontClass) bpp size gs
          (remarked (.file "/bdf") ['C'] sampleSession) t
        ∧ ∀ g ∈ gs, ∃ c f, f.draw c.toNat size bpp.toNat = .ok g
          ∧ Agrees d base (Cache.face? (remarked (.file "/bdf") ['C'] sampleSession))
            (remarked (.file "/bdf") ['C'] sampleSession).log c f := by
  obtain ⟨v, s', d, base, -, -, -, hnot | ⟨bpp, size, gs, t, h⟩⟩ :=
    create_agrees sampleFont_accepted sampleFont_ready
  · exact absurd hnot.1 (by decide)
  · exact ⟨sampleFont_accepted, d, base, bpp, size, gs, t, h⟩

end Font

end Panel
