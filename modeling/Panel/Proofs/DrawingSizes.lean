import Panel.Proofs.FontRules
import Panel.Kinds.Vector

/-! # Sizes of drawings — where in a text the measures of a drawing come from

    A text is searched from its start, whatever elements it is made of: the first place counts, be it
    in the outermost element or in another one.  So the size is that of the root if nothing else in
    the text reads like a measure.  A view box of the root is found if none is before it, and in
    single quotes only if there is none in double quotes at all; it is cut at blanks, not at commas. -/

namespace Panel.Kinds

open List Check Text

variable {α : Type} {find : Option Char → List Char → Option α} {a : α} {s t : Session}
  {size : Int × Int}

/-! ## Places -/

/-- A place of a text: the character before it and what comes after. -/
abbrev Place := Option Char × List Char

/-- The places of a text, from the start on. -/
def places : Option Char → List Char → List Place
  | before, [] => [(before, [])]
  | before, c :: cs => (before, c :: cs) :: places (some c) cs

theorem firstFound_eq (before : Option Char) (cs : List Char) :
    firstFound find before cs = (places before cs).findSome? fun p => find p.1 p.2 := by
  induction cs generalizing before with
  | nil => rw [places, findSome?_singleton, firstFound]
  | cons c cs ih =>
    rw [places, findSome?_cons, firstFound, ih]
    rfl

/-- What is read at the first place of a text where anything is. -/
def FirstAt (find : Option Char → List Char → Option α) (text : String) (p : Place) (a : α) : Prop :=
  ∃ earlier later, places none text.toList = earlier ++ p :: later ∧ find p.1 p.2 = some a
    ∧ ∀ q ∈ earlier, find q.1 q.2 = none

theorem firstFound_eq_some_iff {text : String} :
    firstFound find none text.toList = some a ↔ ∃ p, FirstAt find text p a := by
  rw [firstFound_eq, findSome?_eq_some_iff]
  constructor
  · rintro ⟨earlier, p, later, h⟩
    exact ⟨p, earlier, later, h⟩
  · rintro ⟨p, earlier, later, h⟩
    exact ⟨earlier, p, later, h⟩

/-! ## The root -/

/-- An attribute with the blanks before it. -/
structure Attribute where
  space : List Char
  name : String
  left : List Char
  right : List Char
  quote : Char
  value : List Char
  apart : space ≠ []
  blank : ∀ c ∈ space ++ (left ++ right), isBlank c = true
  named : '>' ∉ name.toList
  quotes : quote = '"' ∨ quote = '\''
  closed : quote ∉ value

namespace Attribute

variable (x : Attribute) {rest : List Char}

def spelled : List Char :=
  x.name.toList ++ (x.left ++ '=' :: (x.right ++ x.quote :: (x.value ++ [x.quote])))

/-- The number that the value begins with. -/
def number : String := String.ofList (leadingNumber x.value)

theorem valueAfter?_spelled (rest : List Char) :
    valueAfter? x.name (x.spelled ++ rest) = some (x.quote :: (x.value ++ x.quote :: rest)) := by
  have hblank : ∀ c ∈ x.left ++ x.right, isBlank c = true := fun c hc =>
    x.blank c (mem_append_right _ hc)
  have hfront : x.name.toList.isPrefixOf (x.spelled ++ rest) = true := by
    rw [spelled, append_assoc, isPrefixOf_iff_prefix]
    exact prefix_append _ _
  have hleft : ((x.spelled ++ rest).drop x.name.length).dropWhile isBlank
      = '=' :: (x.right ++ x.quote :: (x.value ++ x.quote :: rest)) := by
    rw [spelled, append_assoc, ← String.length_toList, drop_left, append_assoc,
      dropWhile_append_of_pos fun c hc => hblank c (mem_append_left _ hc), cons_append,
      dropWhile_cons_of_neg (by decide)]
    simp
  have hright : (x.right ++ x.quote :: (x.value ++ x.quote :: rest)).dropWhile isBlank
      = x.quote :: (x.value ++ x.quote :: rest) := by
    rw [dropWhile_append_of_pos fun c hc => hblank c (mem_append_right _ hc)]
    rcases x.quotes with h | h <;> rw [h] <;> exact dropWhile_cons_of_neg (by decide)
  rw [valueAfter?, if_pos hfront, hleft]
  exact congrArg some hright

theorem quotedAfter?_spelled (quote : Char) : quotedAfter? x.name quote (x.spelled ++ rest)
    = if x.quote = quote then some (String.ofList x.value) else none := by
  have hvalue : (x.value ++ x.quote :: rest).takeWhile (· != x.quote) = x.value := by
    have hopen : ∀ c ∈ x.value, (c != x.quote) = true := by
      intro c hc
      refine bne_iff_ne.mpr fun heq => x.closed ?_
      rwa [← heq]
    rw [takeWhile_append_of_pos hopen, takeWhile_cons_of_neg (by simp), append_nil]
  rw [quotedAfter?, x.valueAfter?_spelled]
  by_cases hquote : x.quote = quote
  · subst hquote
    simp [hvalue]
  · simp [hquote]

theorem number_eq {before : Option Char} {digits : String}
    (h : numberAfter? x.name before (x.spelled ++ rest) = some digits) : digits = x.number := by
  have hquote : ((digitValue? x.quote).isSome || x.quote == '.') = false := by
    rcases x.quotes with h | h <;> rw [h] <;> decide
  have hdigits : leadingNumber (x.value ++ x.quote :: rest) = leadingNumber x.value := by
    unfold leadingNumber
    induction x.value with
    | nil => exact takeWhile_cons_of_neg (by rw [hquote]; decide)
    | cons c cs ih => simp only [cons_append, takeWhile_cons, ih]
  have hbody : unquoted (x.quote :: (x.value ++ x.quote :: rest)) = x.value ++ x.quote :: rest := by
    rcases x.quotes with h | h <;> rw [h] <;> rfl
  rw [numberAfter?, x.valueAfter?_spelled, Option.map_some, hbody, hdigits] at h
  repeat' split at h
  · cases h
  · cases h
  · cases h
  · next heq =>
      cases h
      rw [number, Option.some.inj heq]

end Attribute

/-- A text in which the start of the root is known. -/
structure Drawing where
  prolog : List Char
  attributes : List Attribute
  rest : List Char

namespace Drawing

variable (d : Drawing)

def listed (xs : List Attribute) : List Char := xs.flatMap fun x => x.space ++ x.spelled

def text : String :=
  String.ofList (d.prolog ++ ("<svg".toList ++ (listed d.attributes ++ d.rest)))

/-- An attribute of the root begins at a place, after others. -/
def At (x : Attribute) (earlier : List Place) (p : Place) : Prop :=
  ∃ xs ys, d.attributes = xs ++ x :: ys
    ∧ earlier.length = (d.prolog ++ ("<svg".toList ++ (listed xs ++ x.space))).length
    ∧ p.2 = x.spelled ++ (listed ys ++ d.rest)

/-- Nothing but the root's own attributes reads like a measure. -/
def Alone : Prop :=
  ∀ earlier p later, places none d.text.toList = earlier ++ p :: later →
    (∀ quote box, quotedAfter? "viewBox" quote p.2 = some box →
      ∃ x, d.At x earlier p ∧ x.name = "viewBox")
    ∧ ∀ word ∈ ["width", "height"], ∀ digits, numberAfter? word p.1 p.2 = some digits →
      ∃ x, d.At x earlier p ∧ x.name = word

variable {d} {x : Attribute} {earlier : List Place} {p : Place}

theorem At.mem (h : d.At x earlier p) : x ∈ d.attributes := by
  obtain ⟨xs, ys, hattributes, -⟩ := h
  rw [hattributes]
  exact mem_append_right _ mem_cons_self

theorem At.quoted (h : d.At x earlier p) (hname : x.name = "viewBox") (quote : Char) :
    quotedAfter? "viewBox" quote p.2
      = if x.quote = quote then some (String.ofList x.value) else none := by
  obtain ⟨xs, ys, -, -, hp⟩ := h
  rw [hp, ← hname, x.quotedAfter?_spelled]

end Drawing

/-! ## Measures -/

/-- The whole part of the number that a text reads as. -/
def whole? (text : String) : Option Int := (readFloat? text).bind truncate?

theorem wholeMeasure_on_iff {text : String} {n : Int} :
    (wholeMeasure text).on s = (.ok (some n), t) ↔ whole? text = some n ∧ t = s := by
  unfold wholeMeasure whole?
  cases readFloat? text with
  | none =>
    constructor
    · intro h
      cases h
    · rintro ⟨h, -⟩
      cases h
  | some x =>
    rw [Option.bind_some]
    dsimp only
    cases truncate? x with
    | some m =>
      constructor
      · intro h
        cases h
        exact ⟨rfl, rfl⟩
      · rintro ⟨h, rfl⟩
        cases h
        rfl
    | none =>
      constructor
      · intro h
        dsimp only at h
        split at h <;> cases h
      · rintro ⟨h, -⟩
        cases h

theorem measures_still (w h : String) : (measures w h).Still := by
  have hwhole : ∀ x, (wholeMeasure x).Still := fun x => by
    unfold wholeMeasure
    repeat' split
    all_goals simp
  refine (hwhole w).bind fun n => ?_
  cases n with
  | none => exact .of_pure _
  | some n => exact (hwhole h).bind fun _ => .of_pure _

/-- The measures of a drawing, as they are written. -/
def Measured (w h : String) (size : Int × Int) : Prop :=
  whole? w = some size.1 ∧ whole? h = some size.2

theorem measures_on_iff {w h : String} :
    (measures w h).on s = (.ok (some size), t) ↔ Measured w h size ∧ t = s := by
  constructor
  · intro hrun
    obtain ⟨m, u, hm, hrun⟩ := on_bind_eq_ok hrun
    cases m with
    | none => cases hrun
    | some m =>
      obtain ⟨n, v, hn, hrun⟩ := on_bind_eq_ok hrun
      cases n with
      | none => cases hrun
      | some n =>
        cases hrun
        obtain ⟨hw, hu⟩ := wholeMeasure_on_iff.mp hm
        obtain ⟨hh, hv⟩ := wholeMeasure_on_iff.mp hn
        exact ⟨⟨hw, hh⟩, hv.trans hu⟩
  · rintro ⟨⟨hw, hh⟩, rfl⟩
    rw [measures, on_bind_ok _ (wholeMeasure_on_iff.mpr ⟨hw, rfl⟩)]
    exact on_bind_ok _ (wholeMeasure_on_iff.mpr ⟨hh, rfl⟩)

variable {text box w h : String} {p : Place}

/-- A view box is found at a place of a text. -/
def BoxAt (text : String) (p : Place) (box : String) : Prop :=
  FirstAt (fun _ => quotedAfter? "viewBox" '"') text p box
  ∨ (∀ q ∈ places none text.toList, quotedAfter? "viewBox" '"' q.2 = none)
    ∧ FirstAt (fun _ => quotedAfter? "viewBox" '\'') text p box

theorem viewBox?_eq_some_iff : viewBox? text.toList = some box ↔ ∃ p, BoxAt text p box := by
  refine (Option.orElse_eq_some _ _ _).trans ?_
  rw [firstFound_eq_some_iff, firstFound_eq_some_iff, firstFound_eq, findSome?_eq_none_iff]
  constructor
  · rintro (⟨p, hfirst⟩ | ⟨hnone, p, hfirst⟩)
    · exact ⟨p, .inl hfirst⟩
    · exact ⟨p, .inr ⟨hnone, hfirst⟩⟩
  · rintro ⟨p, hfirst | ⟨hnone, hfirst⟩⟩
    · exact .inl ⟨p, hfirst⟩
    · exact .inr ⟨hnone, p, hfirst⟩

theorem boxSize?_cases (text : String) : boxSize? text = pure none
    ∨ ∃ p box x y w h, BoxAt text p box ∧ words box = [x, y, w, h]
      ∧ boxSize? text = measures w h := by
  unfold boxSize?
  split
  · next x y w h hwords =>
      obtain ⟨box, hbox, hwords⟩ := Option.map_eq_some_iff.mp hwords
      obtain ⟨p, hplace⟩ := viewBox?_eq_some_iff.mp hbox
      exact .inr ⟨p, box, x, y, w, h, hplace, hwords, rfl⟩
  · exact .inl rfl

/-- Two measures are those of a view box, or the first numbers after the names. -/
def Stated (text w h : String) : Prop :=
  (∃ p box a b, BoxAt text p box ∧ words box = [a, b, w, h])
  ∨ (∃ p, FirstAt (numberAfter? "width") text p w) ∧ ∃ p, FirstAt (numberAfter? "height") text p h

theorem drawingSize?_stated (hsize : (drawingSize? text).on s = (.ok (some size), t)) :
    ∃ w h, Measured w h size ∧ Stated text w h := by
  have hstill : (boxSize? text).Still := by
    rcases boxSize?_cases text with hnone | ⟨_, _, _, _, w, h, -, -, heq⟩
    · exact hnone ▸ .of_pure _
    · exact heq ▸ measures_still w h
  obtain ⟨found, hfound, hrest⟩ := hstill.on_bind_eq_ok hsize
  cases found with
  | some size' =>
    cases hrest
    rcases boxSize?_cases text with hnone | ⟨p, box, x, y, w, h, hbox, hwords, heq⟩
    · rw [hnone] at hfound
      cases hfound s
    · exact ⟨w, h, (measures_on_iff.mp (heq ▸ hfound s)).1, .inl ⟨p, box, x, y, hbox, hwords⟩⟩
  | none =>
    dsimp only [namedSize?] at hrest
    split at hrest
    · next w h hw hh =>
        exact ⟨w, h, (measures_on_iff.mp hrest).1,
          .inr ⟨firstFound_eq_some_iff.mp hw, firstFound_eq_some_iff.mp hh⟩⟩
    · cases hrest

theorem drawingSize?_of_box (hbox : BoxAt text p box) {x y : String}
    (hwords : words box = [x, y, w, h]) (hsize : Measured w h size) :
    (drawingSize? text).on s = (.ok (some size), s) := by
  have hmeasures : boxSize? text = measures w h := by
    rw [boxSize?, viewBox?_eq_some_iff.mpr ⟨p, hbox⟩, Option.map_some, hwords]
  exact on_bind_ok _ (hmeasures ▸ measures_on_iff.mpr ⟨hsize, rfl⟩)

/-- A box that blanks do not cut into four, or whose third part is no number, is passed over. -/
theorem drawingSize?_unread (hbox : BoxAt text p box)
    (hunread : ∀ a b w h, words box = [a, b, w, h] → readFloat? w = none) :
    drawingSize? text = namedSize? text := by
  have hnone : boxSize? text = pure none := by
    rw [boxSize?, viewBox?_eq_some_iff.mpr ⟨p, hbox⟩, Option.map_some]
    generalize words box = parts at hunread
    split
    · next w h heq =>
        have hw : wholeMeasure w = pure none := by
          unfold wholeMeasure
          rw [hunread _ _ _ _ (Option.some.inj heq)]
        rw [measures, hw, pure_bind]
    · rfl
  rw [drawingSize?, hnone, pure_bind]

/-- No view box takes the place of one in these quotes: none is at an earlier place, and if the
    quotes are single ones, none is in double quotes. -/
def Leads (text : String) (earlier : List Place) (quote : Char) : Prop :=
  (∀ q ∈ earlier, quotedAfter? "viewBox" quote q.2 = none)
  ∧ (quote ≠ '"' → ∀ q ∈ places none text.toList, quotedAfter? "viewBox" '"' q.2 = none)

theorem Drawing.At.boxAt {d : Drawing} {x : Attribute} {earlier later : List Place}
    (hplace : d.At x earlier p) (hplaces : places none d.text.toList = earlier ++ p :: later)
    (hname : x.name = "viewBox") (hleads : Leads d.text earlier x.quote) :
    BoxAt d.text p (String.ofList x.value) := by
  have hfirst : FirstAt (fun _ => quotedAfter? "viewBox" x.quote) d.text p (String.ofList x.value) :=
    ⟨earlier, later, hplaces, (hplace.quoted hname _).trans (if_pos rfl), hleads.1⟩
  rcases x.quotes with hquote | hquote
  · exact .inl (hquote ▸ hfirst)
  · refine .inr ⟨hleads.2 ?_, hquote ▸ hfirst⟩
    rw [hquote]
    decide

/-- The size of a drawing and its root.  If nothing but the attributes of the root reads like a
    measure, the size comes from them.  A view box of the root is what the size comes from if no other
    takes its place and blanks cut it into four, of which the last two are measures; if they do not, or
    commas are left at the numbers, it is passed over.  In general the size comes from the first view
    box of the whole text, or from the first numbers after the names. -/
theorem drawingSize?_root (d : Drawing) (s t : Session) (size : Int × Int) :
    (d.Alone → (drawingSize? d.text).on s = (.ok (some size), t) →
      ∃ w h, Measured w h size
        ∧ ((∃ x ∈ d.attributes, x.name = "viewBox"
              ∧ ∃ a b, words (String.ofList x.value) = [a, b, w, h])
          ∨ (∃ x ∈ d.attributes, x.name = "width" ∧ w = x.number)
            ∧ ∃ x ∈ d.attributes, x.name = "height" ∧ h = x.number))
    ∧ (∀ x earlier p later, places none d.text.toList = earlier ++ p :: later → d.At x earlier p →
      x.name = "viewBox" → Leads d.text earlier x.quote →
      (∀ a b w h, words (String.ofList x.value) = [a, b, w, h] → Measured w h size →
        (drawingSize? d.text).on s = (.ok (some size), s))
      ∧ ((∀ a b w h, words (String.ofList x.value) = [a, b, w, h] → readFloat? w = none) →
        drawingSize? d.text = namedSize? d.text))
    ∧ ((drawingSize? d.text).on s = (.ok (some size), t) →
      ∃ w h, Measured w h size ∧ Stated d.text w h) := by
  refine ⟨fun halone hsize => ?_, fun x earlier p later hplaces hplace hname hleads => ?_,
    drawingSize?_stated⟩
  · obtain ⟨w, h, hmeasures, hstated⟩ := drawingSize?_stated hsize
    refine ⟨w, h, hmeasures, ?_⟩
    rcases hstated with ⟨p, box, a, b, hbox, hwords⟩ | ⟨⟨_, hw⟩, _, hh⟩
    · left
      obtain ⟨quote, earlier, later, hplaces, hfound, -⟩ : ∃ quote,
          FirstAt (fun _ => quotedAfter? "viewBox" quote) d.text p box := by
        rcases hbox with hfirst | ⟨-, hfirst⟩ <;> exact ⟨_, hfirst⟩
      obtain ⟨x, hplace, hname⟩ := (halone earlier p later hplaces).1 quote box hfound
      replace hfound := (hplace.quoted hname quote).symm.trans hfound
      split at hfound
      · exact ⟨x, hplace.mem, hname, a, b, Option.some.inj hfound ▸ hwords⟩
      · cases hfound
    · have hnumber : ∀ word ∈ ["width", "height"], ∀ p digits,
          FirstAt (numberAfter? word) d.text p digits →
          ∃ x ∈ d.attributes, x.name = word ∧ digits = x.number := by
        rintro word hword p digits ⟨earlier, later, hplaces, hfound, -⟩
        obtain ⟨x, hplace, hname⟩ := (halone earlier p later hplaces).2 word hword digits hfound
        refine ⟨x, hplace.mem, hname, ?_⟩
        obtain ⟨xs, ys, -, -, hp⟩ := hplace
        rw [hp, ← hname] at hfound
        exact x.number_eq hfound
      exact .inr ⟨hnumber _ (by decide) _ _ hw, hnumber _ (by decide) _ _ hh⟩
  · have hbox := hplace.boxAt hplaces hname hleads
    exact ⟨fun a b w h hwords hsize => drawingSize?_of_box hbox hwords hsize,
      drawingSize?_unread hbox⟩

def drawn (quote : Char) (box rest : String) (hquote : quote = '"' ∨ quote = '\'')
    (hclosed : quote ∉ box.toList) : Drawing where
  prolog := []
  attributes := [⟨[' '], "viewBox", [], [], quote, box.toList, by decide,
    fun c hc => (mem_singleton.mp hc : c = ' ') ▸ rfl, by decide, hquote, hclosed⟩]
  rest := rest.toList

def plainBox : Drawing := drawn '"' "0 0 10 20" "/>" (.inl rfl) (by decide)

def commaBox : Drawing := drawn '"' "0,0,10,20" "/>" (.inl rfl) (by decide)

def mixedBox : Drawing := drawn '"' "0, 0, 10, 20" "/>" (.inl rfl) (by decide)

def singleBox : Drawing :=
  drawn '\'' "0 0 10 20" "><svg viewBox=\"0 0 1 2\"/>" (.inr rfl) (by decide)

def strokes : Drawing := ⟨[], [], "><path stroke-width=\"2\" height=\"3\"/>".toList⟩

theorem plainBox_alone : plainBox.Alone := by
  intro earlier p later hplaces
  have hp : (p, earlier.length) ∈ (places none plainBox.text.toList).zipIdx := by
    simp [hplaces, mem_zipIdx_iff_getElem?]
  have hall : ((places none plainBox.text.toList).zipIdx.all fun e =>
      (e.2 == 5 || valueAfter? "viewBox" e.1.2 == none) && (valueAfter? "width" e.1.2 == none
        && valueAfter? "height" e.1.2 == none)) = true := by decide +kernel
  have hhere := all_eq_true.mp hall _ hp
  simp only [Bool.and_eq_true, Bool.or_eq_true, beq_iff_eq] at hhere
  obtain ⟨hbox, hwidth, hheight⟩ := hhere
  constructor
  · intro quote box hfound
    rcases hbox with hplace | hnone
    · refine ⟨_, ⟨[], [], rfl, hplace, ?_⟩, rfl⟩
      rw [mem_zipIdx_iff_getElem?, hplace] at hp
      exact congrArg Prod.snd (Option.some.inj hp).symm
    · rw [quotedAfter?, hnone] at hfound
      cases hfound
  · intro word hword digits hfound
    have hnone : valueAfter? word p.2 = none := by
      rcases mem_pair.mp hword with rfl | rfl
      · exact hwidth
      · exact hheight
    rw [numberAfter?, hnone] at hfound
    split at hfound <;> cases hfound

/-- The size is that of the box if this is cut by blanks; commas hide it, and in single quotes it
    loses to one inside.  Without any, the width of a stroke is taken for that of the drawing. -/
theorem drawingSize?_root_boxes :
    ((drawingSize? plainBox.text).on {} = (.ok (some (10, 20)), {})
      ∧ ∃ x ∈ plainBox.attributes, x.name = "viewBox")
    ∧ (drawingSize? commaBox.text).on {} = (.ok none, {})
    ∧ (drawingSize? mixedBox.text).on {} = (.ok none, {})
    ∧ (drawingSize? singleBox.text).on {} = (.ok (some (1, 2)), {})
    ∧ (drawingSize? strokes.text).on {} = (.ok (some (2, 3)), {}) ∧ strokes.attributes = [] := by
  have hsize : (drawingSize? plainBox.text).on {} = (.ok (some (10, 20)), {}) := by
    refine ((drawingSize?_root plainBox {} {} (10, 20)).2.1 _ _ _ _
      (take_append_drop 5 _).symm ⟨[], [], rfl, rfl, rfl⟩ rfl ?_).1 _ _ _ _ rfl ⟨rfl, rfl⟩
    exact ⟨by decide +kernel, nofun⟩
  obtain ⟨w, h, -, ⟨x, hx, hname, -⟩ | ⟨⟨x, hx, hname, -⟩, -⟩⟩ :=
    (drawingSize?_root plainBox {} {} (10, 20)).1 plainBox_alone hsize
  · exact ⟨⟨hsize, x, hx, hname⟩, rfl, rfl, rfl, rfl, rfl⟩
  · obtain rfl := mem_singleton.mp hx
    exact absurd hname (by decide)

end Panel.Kinds
