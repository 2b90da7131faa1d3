import Panel.Proofs.FontRules
import Panel.Proofs.GlyphOrder
import Panel.Proofs.TriggerWiring

/-! # Glyph tables — the table of a font and the data that it points into -/

namespace Panel.Font

open Cpp List Code Check Cache

variable {g : Drawn} {bpp i : Nat} {f base : Face} {size : Int} {gs : List Drawn}
  {id data glyphs object : Ident} {j point : Nat} {c : Char} {es : List Extra}

/-! ## Bitmaps -/

def Glyph.place (g : Glyph) (x y : Nat) : Int :=
  y * g.pitch + (if g.mono then x / 8 else x : Nat)

def Glyph.Complete (g : Glyph) : Prop :=
  ∀ x < g.width.toNat, ∀ y < g.height.toNat, ∃ b, byteAt g.buffer (g.place x y) = .ok b

theorem Glyph.pixel_eq (g : Glyph) (bpp x y : Nat) :
    g.pixel bpp x y = (byteAt g.buffer (g.place x y)).bind fun b =>
      if g.mono then .ok (if b.testBit (7 - x % 8) then (1 <<< bpp) - 1 else 0)
      else if 256 >>> bpp = 0 then .error .zeroDivision else .ok (b / (256 >>> bpp)) := by
  unfold pixel place
  cases g.mono <;> rfl

theorem Glyph.pixel_ok {g : Glyph} {x y : Nat} (hbpp : bpp ≤ 8)
    (h : ∃ b, byteAt g.buffer (g.place x y) = .ok b) : ∃ p, g.pixel bpp x y = .ok p := by
  obtain ⟨b, hb⟩ := h
  have hscale : 256 >>> bpp ≠ 0 := by
    rw [Nat.shiftRight_eq_div_pow]
    exact Nat.ne_of_gt (Nat.div_pos (Nat.pow_le_pow_right (by decide) hbpp) (Nat.two_pow_pos bpp))
  rw [pixel_eq, hb]
  cases hmono : g.mono with
  | true => exact ⟨_, rfl⟩
  | false => exact ⟨b / (256 >>> bpp), if_neg hscale⟩

theorem mapM_ok {α β : Type} {f : α → Except Failure β} {xs : List α}
    (h : ∀ x ∈ xs, ∃ y, f x = .ok y) : ∃ ys, xs.mapM f = .ok ys := by
  induction xs with
  | nil => exact ⟨[], rfl⟩
  | cons x xs ih =>
    obtain ⟨y, hy⟩ := h x mem_cons_self
    obtain ⟨ys, hys⟩ := ih fun z hz => h z (mem_cons_of_mem x hz)
    exact ⟨y :: ys, by rw [mapM_cons, hy, hys]; rfl⟩

theorem Glyph.data_ok {g : Glyph} (h : g.Complete) (hbpp : bpp ≤ 8) :
    ∃ data, g.data bpp = .ok data := by
  have hpixels : ∃ ps, g.pixelList bpp = .ok ps := by
    refine mapM_ok fun ⟨x, y⟩ hmem => ?_
    obtain ⟨y', hy, hmem⟩ := mem_flatMap.mp hmem
    obtain ⟨x', hx, heq⟩ := mem_map.mp hmem
    obtain ⟨rfl, rfl⟩ := Prod.mk.inj heq
    exact pixel_ok hbpp (h x' (mem_range.mp hx) y' (mem_range.mp hy))
  obtain ⟨ps, hps⟩ := hpixels
  exact ⟨packed (ps.flatMap (bits bpp)), by unfold data; rw [hps]; rfl⟩

def Face.Complete (f : Face) : Prop := ∀ point, (f.glyph point).Complete

theorem Face.draw_eq (f : Face) (point : Nat) (size : Int) (bpp : Nat) :
    f.draw point size bpp = ((f.glyph point).data bpp).map fun data =>
      ⟨point, data, pixels (f.glyph point).advance, (f.glyph point).left,
        f.rise size - (f.glyph point).top, (f.glyph point).width, (f.glyph point).height⟩ := by
  unfold draw
  dsimp only
  cases (f.glyph point).data bpp <;> rfl

theorem Face.draw_ok (h : f.Complete) (hbpp : bpp ≤ 8) (point : Nat) (size : Int) :
    ∃ g, f.draw point size bpp = .ok g := by
  obtain ⟨data, hdata⟩ := Glyph.data_ok (h point) hbpp
  rw [draw_eq, hdata]
  exact ⟨_, rfl⟩

theorem Face.draw_point (h : f.draw point size bpp = .ok g) : g.point = point := by
  rw [draw_eq] at h
  cases hdata : (f.glyph point).data bpp with
  | error e =>
    rw [hdata] at h
    cases h
  | ok data =>
    rw [hdata] at h
    cases h
    rfl

/-! ## Drawing -/

/-- A later session in which faces have been asked for glyphs, and nothing has been written. -/
structure Asked (s t : Session) : Prop where
  faces : ∀ src, Cache.face? t src = Cache.face? s src
  main : t.main = s.main
  objects : t.objects = s.objects

namespace Asked

variable {s t u : Session}

theorem refl (s : Session) : Asked s s := ⟨fun _ => rfl, rfl, rfl⟩

theorem trans (hst : Asked s t) (htu : Asked t u) : Asked s u where
  faces src := (htu.faces src).trans (hst.faces src)
  main := htu.main.trans hst.main
  objects := htu.objects.trans hst.objects

theorem names (h : Asked s t) : t.names = s.names := congrArg (map _) h.objects

theorem note (s : Session) (key : String) (requests : List Request) :
    Asked s ((note key requests).on s).2 := by
  refine ⟨fun src => ?_, rfl, rfl⟩
  show Option.map _ (Option.map _ (find? _ (map _ s.fontCache))) = _
  unfold Cache.face? Cache.find?
  -- A note changes the requests of an entry, neither its key nor its face.
  rw [find?_map, Option.map_map, Option.map_map, Option.map_map]
  congr 1
  · funext ⟨k, l⟩
    dsimp only [Function.comp_apply]
    split <;> rfl
  · congr 1
    funext ⟨k, l⟩
    dsimp only [Function.comp_apply]
    split <;> rfl

theorem logError (s : Session) (text : String) : Asked s ((logError text).on s).2 :=
  ⟨fun _ => rfl, rfl, rfl⟩

end Asked

variable {s : Session}

theorem drawOne_on {src : Source} (hface : face? s src = some f)
    (hdraw : f.draw point size bpp = .ok g) :
    ∃ t, (drawOne src point size bpp).on s = (.ok g, t) ∧ Asked s t := by
  let noted := ((note src.key (f.requests point size bpp)).on s).2
  have hnoted : Asked s noted := .note s _ _
  unfold drawOne
  rw [on_bind_ok _ (get_on_iff.mpr ⟨hface, rfl⟩),
    on_bind_ok _ (rfl : (note src.key (f.requests point size bpp)).on s = (.ok (), noted)), hdraw]
  dsimp only
  split
  · exact ⟨_, rfl, hnoted.trans (.logError noted _)⟩
  · exact ⟨noted, rfl, hnoted⟩

def Description.Draws (d : Description) (faces : Source → Option Face) (size : Int) (bpp : Nat)
    (c : Char) (g : Drawn) : Prop :=
  ∃ f, faces (d.sourceOf c) = some f ∧ f.draw c.toNat size bpp = .ok g

variable {d : Description}

theorem drawAll_on (cs : List Char) (h : ∀ c ∈ cs, ∃ g, d.Draws (face? s) size bpp c g) :
    ∃ gs t, (drawAll d size bpp cs).on s = (.ok gs, t) ∧ Asked s t
      ∧ List.Forall₂ (d.Draws (face? s) size bpp) cs gs := by
  induction cs generalizing s with
  | nil => exact ⟨[], s, rfl, .refl s, .nil⟩
  | cons c cs ih =>
    obtain ⟨g, f, hface, hdraw⟩ := h c mem_cons_self
    obtain ⟨u, hu, hasked⟩ := drawOne_on hface hdraw
    have hfaces : face? u = face? s := funext hasked.faces
    obtain ⟨gs, t, hgs, hrest, hall⟩ := ih (s := u) fun x hx => by
      rw [hfaces]
      exact h x (mem_cons_of_mem c hx)
    refine ⟨g :: gs, t, ?_, hasked.trans hrest, .cons ⟨f, hface, hdraw⟩ (hfaces ▸ hall)⟩
    unfold drawAll
    rw [on_bind_ok _ hu, on_bind_ok _ hgs]
    rfl

/-! ## The characters of a font -/

theorem nodup_eraseDups (cs : List Char) : cs.eraseDups.Nodup := by
  induction hn : cs.length using Nat.strongRecOn generalizing cs with
  | ind n ih =>
    cases cs with
    | nil => exact nodup_nil
    | cons c cs =>
      rw [eraseDups_cons, nodup_cons, mem_eraseDups, mem_filter]
      refine ⟨fun h => ?_, ih _ ?_ _ rfl⟩
      · simp at h
      · have hle := length_filter_le (fun b => !b == c) cs
        rw [← hn, length_cons]
        omega

namespace Description

variable {d : Description}

theorem mem_chars : c ∈ d.chars ↔ c ∈ d.fromSets ∨ c ∈ d.own ∨ c ∈ d.borrowed := by
  unfold chars
  rw [mem_sorted, mem_eraseDups, mem_append, mem_append, or_assoc]

theorem chars_increasing (d : Description) : d.chars.Pairwise fun a b => a.toNat < b.toNat :=
  sorted_increasing (nodup_eraseDups _)

/-- Where a character comes from: the font that lists it, or else the font itself. -/
def Supplies (d : Description) (c : Char) (src : Source) : Prop :=
  (∀ e ∈ d.extras, c ∈ e.chars → src = e.source)
    ∧ ((∀ e ∈ d.extras, c ∉ e.chars) → src = d.source)

theorem lender_unique (h : (es.flatMap (·.chars)).Nodup) {e e' : Extra} (he : e ∈ es)
    (he' : e' ∈ es) (hc : c ∈ e.chars) (hc' : c ∈ e'.chars) : e = e' := by
  induction es with
  | nil => exact nomatch he
  | cons x es ih =>
    rw [flatMap_cons, nodup_append] at h
    obtain ⟨-, hes, hapart⟩ := h
    have hlater : ∀ y ∈ es, c ∈ y.chars → c ∉ x.chars := fun y hy hcy hcx =>
      hapart c hcx c (mem_flatMap.mpr ⟨y, hy, hcy⟩) rfl
    rcases mem_cons.mp he with rfl | hmem <;> rcases mem_cons.mp he' with rfl | hmem'
    · rfl
    · exact absurd hc (hlater e' hmem' hc')
    · exact absurd hc' (hlater e hmem hc)
    · exact ih hes hmem hmem'

theorem sourceOf_supplies (h : d.borrowed.Nodup) (c : Char) : d.Supplies c (d.sourceOf c) := by
  unfold sourceOf
  cases hfind : d.extras.reverse.find? (·.chars.contains c) with
  | none =>
    have hnone : ∀ e ∈ d.extras, c ∉ e.chars := fun e he hc =>
      find?_eq_none.mp hfind e (mem_reverse.mpr he) (contains_iff_mem.mpr hc)
    exact ⟨fun e he hc => absurd hc (hnone e he), fun _ => rfl⟩
  | some e =>
    have hmem : e ∈ d.extras := mem_reverse.mp (mem_of_find?_eq_some hfind)
    have hc : c ∈ e.chars := by
      have hcontains := find?_some (p := fun e : Extra => e.chars.contains c) hfind
      exact contains_iff_mem.mp hcontains
    exact ⟨fun e' he' hc' => congrArg Extra.source (lender_unique h hmem he' hc hc'),
      fun hnone => absurd hc (hnone e hmem)⟩

end Description

/-! ## Rows and data -/

/-- Where the data of a glyph begins: after the data of the glyphs before it. -/
def offset (gs : List Drawn) (i : Nat) : Nat := ((gs.take i).map (·.data.length)).sum

def dataOf (gs : List Drawn) : List Nat := gs.flatMap (·.data)

theorem offset_cons (g : Drawn) (gs : List Drawn) (i : Nat) :
    offset (g :: gs) (i + 1) = g.data.length + offset gs i := by
  unfold offset
  rw [take_succ_cons, map_cons, sum_cons]

theorem offset_succ (h : gs[i]? = some g) : offset gs (i + 1) = offset gs i + g.data.length := by
  induction gs generalizing i with
  | nil => exact nomatch h
  | cons x gs ih =>
    cases i with
    | zero =>
      obtain rfl := Option.some.inj h
      rw [offset_cons, Nat.add_comm]
      rfl
    | succ i =>
      rw [offset_cons, offset_cons, ih h, Nat.add_assoc]

theorem offset_mono (gs : List Drawn) (h : i ≤ j) : offset gs i ≤ offset gs j := by
  have htake : gs.take j = gs.take i ++ (gs.take j).drop i := by
    have hsplit := (take_append_drop i (gs.take j)).symm
    rwa [take_take, Nat.min_eq_left h] at hsplit
  unfold offset
  rw [htake, map_append, sum_append]
  exact Nat.le_add_right _ _

theorem offset_apart (h : gs[i]? = some g) (hij : i < j) :
    offset gs i + g.data.length ≤ offset gs j :=
  offset_succ h ▸ offset_mono gs hij

theorem offset_covers {k : Nat} (h : k < (dataOf gs).length) :
    ∃ i g, gs[i]? = some g ∧ offset gs i ≤ k ∧ k < offset gs i + g.data.length := by
  induction gs generalizing k with
  | nil => exact absurd h (Nat.not_lt_zero k)
  | cons x gs ih =>
    by_cases hx : k < x.data.length
    · exact ⟨0, x, rfl, Nat.zero_le k, by rwa [show offset (x :: gs) 0 = 0 from rfl, Nat.zero_add]⟩
    · have hlength : (dataOf (x :: gs)).length = x.data.length + (dataOf gs).length := by
        unfold dataOf
        rw [flatMap_cons, length_append]
      obtain ⟨i, g, hg, hlow, hhigh⟩ := ih (k := k - x.data.length) (by omega)
      refine ⟨i + 1, g, hg, ?_, ?_⟩ <;> rw [offset_cons] <;> omega

theorem table_length (array : Expr) (gs : List Drawn) : (table array gs).length = gs.length := by
  have hoffsets : ∀ (gs : List Drawn) (start : Nat), (offsets start gs).length = gs.length := by
    intro gs
    induction gs with
    | nil => exact fun _ => rfl
    | cons g gs ih => exact fun start => congrArg (· + 1) (ih _)
  unfold table
  rw [length_zipWith, hoffsets, Nat.min_self]

theorem table_getElem? {array : Expr} (h : gs[i]? = some g) :
    (table array gs)[i]? = some (tableRow array g (offset gs i)) := by
  have hoffsets : ∀ (gs : List Drawn) (start i : Nat) (g : Drawn), gs[i]? = some g →
      (offsets start gs)[i]? = some (start + offset gs i) := by
    intro gs
    induction gs with
    | nil => exact nofun
    | cons x gs ih =>
      intro start i g h
      cases i with
      | zero => rfl
      | succ i =>
        rw [offset_cons, ← Nat.add_assoc]
        exact ih _ i g h
  unfold table
  rw [getElem?_zipWith, h, hoffsets gs 0 i g h, Nat.zero_add]

theorem data_slice (h : gs[i]? = some g) :
    ((dataOf gs).drop (offset gs i)).take g.data.length = g.data := by
  induction gs generalizing i with
  | nil => exact nomatch h
  | cons x gs ih =>
    have hdata : dataOf (x :: gs) = x.data ++ dataOf gs := flatMap_cons
    cases i with
    | zero =>
      obtain rfl := Option.some.inj h
      rw [hdata]
      exact take_left
    | succ i =>
      rw [hdata, offset_cons, ← drop_drop, drop_left]
      exact ih h

/-! ## What is written -/

theorem expressItems?_map_cpp (es : List Expr) : expressItems? (es.map Value.cpp) = .ok es := by
  induction es with
  | nil => rfl
  | cons e es ih =>
    have hitem : expressItems? (.cpp e :: es.map Value.cpp)
        = (expressItems? (es.map Value.cpp)).bind fun es => .ok (e :: es) := by
      cases hrest : expressItems? (es.map Value.cpp) <;>
        simp only [expressItems?, express?, hrest] <;> rfl
    rw [map_cons, hitem, ih]
    rfl

theorem express_array (es : List Expr) : express (.list (es.map Value.cpp)) = pure (.array es) := by
  unfold express
  rw [express?, expressItems?_map_cpp]
  rfl

def arrayLine (type name : String) (items : List Expr) : Stmt :=
  .item (.expr (.define ("static const " ++ type) "" name (.array items)))

/-- A session with one more line in the main program and one more object. -/
def withLine (line : Stmt) (id : Ident) (e : Expr) (s : Session) : Session :=
  { s with main := s.main ++ [line], objects := s.objects ++ [⟨id, e⟩] }

theorem addRegistered_on (x e : Expr) (h : id.name ∉ s.names) :
    (do addToMain x; register id e; return e : Check Expr).on s
      = (.ok e, withLine (.item (.expr x)) id e s) := by
  have hfree := register_free (s := { s with main := s.main ++ [.item (.expr x)] }) e h
  exact on_bind_ok (fun _ => pure e) hfree

theorem romArray_on (items : List Expr) (h : id.name ∉ s.names) :
    (romArray id (.list (items.map Value.cpp))).on s
      = (.ok (Expr.named id.text), withLine (arrayLine id.typeText (id.text ++ "[] PROGMEM") items)
          id (Expr.named id.text) s) := by
  unfold romArray
  rw [express_array, pure_bind]
  exact addRegistered_on _ _ h

theorem constantArray_on {name : String} (type : CppType) (items : List Expr)
    (h : some name ∉ s.names) :
    (constantArray name type (.list (items.map Value.cpp))).on s
      = (.ok (Expr.named name), withLine (arrayLine type.name (name ++ "[]") items)
          ⟨some name, some type, true, true⟩ (Expr.named name) s) := by
  let id : Ident := ⟨some name, some type, true, true⟩
  have hfree : id.name ∉ s.names := h
  unfold constantArray
  rw [express_array, pure_bind]
  exact addRegistered_on _ _ hfree

def objectLine (id : Ident) (args : List Expr) : Stmt :=
  .item (.expr (.assign (.raw id.text)
    (.object (.call (.raw ("new " ++ id.typeText)) [] args) .arrow)))

theorem newObject_on {args : List Value} {es : List Expr}
    (hargs : arguments? args = .ok es) (h : id.name ∉ s.names) :
    ∃ t, (newObject id args).on s = (.ok (Expr.pointer id.text), t)
      ∧ t.main = s.main ++ [objectLine id es] := by
  have hnew : newOf id.typeText args
      = pure (.object (.call (.raw ("new " ++ id.typeText)) [] es) .arrow) := by
    unfold newOf arguments
    rw [hargs]
    rfl
  let declared : Session :=
    { s with globals := s.globals ++ [.item (.expr (.declare id.typeText "*" id.text))] }
  refine ⟨withLine (objectLine id es) id (Expr.pointer id.text) declared, ?_, rfl⟩
  unfold newObject
  rw [hnew, pure_bind]
  exact addRegistered_on (s := declared) _ _ h

/-! ## Creation -/

/-- A configuration with identifiers for its objects, under names that are still free. -/
structure Named (v : Value) (data glyphs object : Ident) (s : Session) : Prop where
  dataId : v.get? "raw_data_id" = some (.ident data)
  glyphsId : v.get? "raw_glyph_id" = some (.ident glyphs)
  objectId : v.get? "id" = some (.ident object)
  distinct : [data.name, some glyphs.text, object.name].Nodup
  free : ∀ n ∈ [data.name, some glyphs.text, object.name], n ∉ s.names

namespace Named

variable {v : Value} {data glyphs object : Ident} {s t : Session}

theorem glyphs_fresh (h : Named v data glyphs object s) :
    some glyphs.text ∉ s.names ++ [data.name] := by
  have hdata : data.name ≠ some glyphs.text := fun heq =>
    (nodup_cons.mp h.distinct).1 (heq ▸ mem_cons_self)
  rw [mem_append, mem_singleton, not_or]
  exact ⟨h.free _ (by simp), Ne.symm hdata⟩

theorem object_fresh (h : Named v data glyphs object s) :
    object.name ∉ s.names ++ [data.name] ++ [some glyphs.text] := by
  obtain ⟨hdata, hrest⟩ := nodup_cons.mp h.distinct
  have hglyphs := (nodup_cons.mp hrest).1
  simp only [mem_cons, not_mem_nil, or_false, not_or] at hdata hglyphs
  simp only [mem_append, mem_singleton, not_or]
  exact ⟨⟨h.free _ (by simp), Ne.symm hdata.2⟩, Ne.symm hglyphs⟩

end Named

/-- A description whose fonts are in use, and whose faces can be drawn. -/
structure Description.Drawable (d : Description) (base : Face) (s : Session) : Prop where
  base : Cache.face? s d.source = some base
  extras : ∀ e ∈ d.extras, ∃ f, Cache.face? s e.source = some f
  complete : ∀ src f, Cache.face? s src = some f → f.Complete

theorem Description.Drawable.draws (h : d.Drawable base s) (hbpp : bpp ≤ 8) (size : Int)
    (c : Char) :
    ∃ g, d.Draws (face? s) size bpp c g := by
  have hface : ∃ f, face? s (d.sourceOf c) = some f := by
    unfold sourceOf
    split
    · next e he => exact h.extras e (mem_reverse.mp (mem_of_find?_eq_some he))
    · exact ⟨base, h.base⟩
  obtain ⟨f, hf⟩ := hface
  obtain ⟨g, hg⟩ := Face.draw_ok (h.complete _ f hf) hbpp c.toNat size
  exact ⟨g, f, hf, hg⟩

theorem getExtras_on (h : ∀ e ∈ es, ∃ f, face? s e.source = some f) :
    (es.forM fun e => discard (get e.source)).on s = (.ok (), s) := by
  induction es with
  | nil => rfl
  | cons e es ih =>
    obtain ⟨f, hf⟩ := h e mem_cons_self
    have hget : (get e.source).on s = (.ok f, s) := get_on_iff.mpr ⟨hf, rfl⟩
    have hdiscard : (discard (get e.source) : Check Unit).on s = (.ok (), s) := by
      show (Functor.mapConst () (get e.source)).on s = _
      rw [LawfulFunctor.map_const]
      show ((fun _ => ()) <$> get e.source : Check Unit).on s = _
      rw [map_eq_pure_bind, on_bind_ok _ hget]
      rfl
    exact (on_bind_ok _ hdiscard).trans (ih fun x hx => h x (mem_cons_of_mem e hx))

variable {v : Value}

theorem arguments?_of_whole (glyphs : Expr) (count : Int) (ms : List Int) {n : Int}
    (h : Test.intOf? v = some n) :
    ∃ rest, arguments? (.cpp glyphs :: .int count :: ms.map Value.int ++ [v])
      = .ok (glyphs :: .integer count :: rest) := by
  -- Nulls at the end are left out, but the last argument is a whole number.
  have hkept : ∀ vs : List Value, withoutTrailingNulls (vs ++ [v]) = vs ++ [v] := by
    intro vs
    unfold withoutTrailingNulls
    rw [reverse_append, reverse_singleton, singleton_append, dropWhile_cons]
    cases v with
    | null => nomatch h
    | _ => rw [if_neg Bool.false_ne_true, reverse_cons, reverse_reverse]
  have hlast : ∃ e, express? v = .ok e := by
    cases v with
    | int m => exact ⟨_, rfl⟩
    | bool m => exact ⟨_, rfl⟩
    | _ => nomatch h
  obtain ⟨rest, hrest⟩ : ∃ rest, (ms.map Value.int ++ [v]).mapM express? = .ok rest := by
    refine mapM_ok fun x hx => ?_
    rcases mem_append.mp hx with hx | hx
    · obtain ⟨m, -, rfl⟩ := mem_map.mp hx
      exact ⟨_, rfl⟩
    · rw [mem_singleton.mp hx]
      exact hlast
  refine ⟨rest, ?_⟩
  unfold arguments?
  rw [hkept, cons_append, cons_append, mapM_cons, mapM_cons, hrest]
  rfl

theorem measures_on {x : Value} (hx : v.get? "file" = some x) (hdraw : d.Drawable base s)
    (hbpp : bpp ≤ 8) (size : Int) :
    ∃ ms t, (measures v d.source base size bpp).on s = (.ok ms, t) ∧ Asked s t := by
  have hcomplete := hdraw.complete _ base hdraw.base
  obtain ⟨small, hsmall⟩ := Face.draw_ok hcomplete hbpp 'x'.toNat size
  obtain ⟨capital, hcapital⟩ := Face.draw_ok hcomplete hbpp 'X'.toNat size
  obtain ⟨t₁, ht₁, hasked₁⟩ := drawOne_on hdraw.base hsmall
  obtain ⟨t₂, ht₂, hasked₂⟩ := drawOne_on ((hasked₁.faces d.source).trans hdraw.base) hcapital
  unfold measures
  rw [on_bind_ok _ ht₁, on_bind_ok _ ht₂]
  dsimp only
  split
  · rw [required_eq hx, pure_bind]
    exact ⟨_, _, rfl, (hasked₁.trans hasked₂).trans (.logError t₂ _)⟩
  · exact ⟨_, t₂, rfl, hasked₁.trans hasked₂⟩

def tableLines (data glyphs : Ident) (gs : List Drawn) : List Stmt :=
  [arrayLine data.typeText (data.text ++ "[] PROGMEM")
      ((dataOf gs).map fun (b : Nat) => Expr.hex b),
    arrayLine glyphClass.name (glyphs.text ++ "[]") (table (Expr.named data.text) gs)]

theorem writeTable_on (h : Named v data glyphs object s) (gs : List Drawn) :
    ∃ t, (writeTable v gs).on s = (.ok (Expr.named glyphs.text), t) ∧ t.fontCache = s.fontCache
      ∧ t.names = s.names ++ [data.name] ++ [some glyphs.text]
      ∧ t.main = s.main ++ tableLines data glyphs gs := by
  -- The data is named first, since the table of glyphs points into it.
  have hrom := romArray_on ((dataOf gs).map fun (b : Nat) => Expr.hex b)
    (h.free data.name (by simp))
  rw [map_map] at hrom
  generalize ht : withLine _ data _ s = t at hrom
  have hnames : t.names = s.names ++ [data.name] := ht ▸ map_append
  have hconst := constantArray_on glyphClass (table (Expr.named data.text) gs)
    (hnames ▸ h.glyphs_fresh)
  generalize hu : withLine _ _ _ t = u at hconst
  have hwrite : (writeTable v gs).on s = (.ok (Expr.named glyphs.text), u) := by
    unfold writeTable
    rw [on_bind_ok _ (Automation.identAt_on_iff.mpr ⟨h.dataId, rfl⟩)]
    refine (on_bind_ok _ hrom).trans ?_
    rw [on_bind_ok _ (Automation.identAt_on_iff.mpr ⟨h.glyphsId, rfl⟩)]
    exact hconst
  refine ⟨u, hwrite, ?_, ?_, ?_⟩
  · rw [← hu, ← ht]
    rfl
  · rw [← hu, ← hnames]
    exact map_append
  · rw [← hu, ← ht]
    exact append_assoc _ _ _

section Create

variable {v x y : Value} {d : Description} {base : Face} {t : Session}

def noted (t : Session) : Session := { t with defines := addTo t.defines ("USE_FONT", none) }

theorem Description.Drawable.of_faces {t' : Session} (h : d.Drawable base t)
    (hfaces : ∀ src, face? t' src = face? t src) : d.Drawable base t' where
  base := (hfaces _).trans h.base
  extras e he := (h.extras e he).imp fun _ hf => (hfaces _).trans hf
  complete src f hf := h.complete src f ((hfaces src).symm.trans hf)

/-- A depth that is no whole number ends the creation; with another one the glyphs are drawn, the
    arrays are written, the letters are measured and the object is made. -/
theorem create_on (hreads : d.Reads v t.glyphSets) (hdraw : d.Drawable base t)
    (hnamed : Named v data glyphs object t) (hx : v.get? "bpp" = some x)
    (hdepth : ∀ bpp, Test.intOf? x = some bpp → bpp.toNat ≤ 8) (hy : v.get? "size" = some y)
    (hsize : Test.intOf? y = some size) :
    (Test.intOf? x = none ∧ (create v).on t = (.error .wrongKind, noted t))
    ∨ ∃ bpp gs rest u, Test.intOf? x = some bpp ∧ (create v).on t = (.ok (), u)
      ∧ List.Forall₂ (d.Draws (Cache.face? t) size bpp.toNat) d.chars gs
      ∧ u.main = t.main ++ tableLines data glyphs gs ++
        [objectLine object (Expr.named glyphs.text :: .integer gs.length :: rest)] := by
  have hnote : (define "USE_FONT" none).on t = (.ok (), noted t) := rfl
  have hd : (Description.ofValue v).on (noted t) = (.ok d, noted t) :=
    Description.ofValue_on_iff.mpr ⟨hreads, rfl⟩
  have hdraw : d.Drawable base (noted t) := hdraw.of_faces fun _ => rfl
  unfold create
  rw [on_bind_ok _ hnote, on_bind_ok _ hd, on_bind_ok _ (Cache.get_on_iff.mpr ⟨hdraw.base, rfl⟩),
    on_bind_ok _ (getExtras_on hdraw.extras), required_eq hx, pure_bind, required_eq hy, pure_bind,
    wholeOf_eq, wholeOf_eq, hsize]
  cases hbpp : Test.intOf? x with
  | none => exact .inl ⟨rfl, rfl⟩
  | some bpp =>
    have hdepth := hdepth bpp hbpp
    obtain ⟨gs, t₁, hgs, hasked, hdrawn⟩ := drawAll_on d.chars fun c _ => hdraw.draws hdepth size c
    have hnames : t₁.names = t.names := hasked.names
    obtain ⟨t₂, ht₂, hcache, hnames₂, hmain⟩ := writeTable_on
      { hnamed with free := hnames ▸ hnamed.free } gs
    have hdraw₂ : d.Drawable base t₂ := hdraw.of_faces fun src => by
      rw [← hasked.faces src, Cache.face?, Cache.face?, Cache.find?, Cache.find?, hcache]
    obtain ⟨z, hz, -⟩ := hreads.source
    obtain ⟨ms, t₃, hms, hasked₃⟩ := measures_on hz hdraw₂ hdepth size
    obtain ⟨rest, hrest⟩ := arguments?_of_whole (Expr.named glyphs.text) gs.length ms hbpp
    have hfree : object.name ∉ t₃.names := by
      rw [hasked₃.names, hnames₂, hnames]
      exact hnamed.object_fresh
    obtain ⟨u, hu, hmain'⟩ := newObject_on hrest hfree
    refine .inr ⟨bpp, gs, rest, u, rfl, ?_, hdrawn, ?_⟩
    · dsimp only
      rw [pure_bind, pure_bind, on_bind_ok _ hgs, on_bind_ok _ ht₂, on_bind_ok _ hms,
        on_bind_ok _ (Automation.identAt_on_iff.mpr ⟨hnamed.objectId, rfl⟩), on_bind_ok _ hu]
      rfl
    · rw [hmain', hasked₃.main, hmain, hasked.main]
      rfl

end Create

end Panel.Font
