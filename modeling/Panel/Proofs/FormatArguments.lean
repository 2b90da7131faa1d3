import Mathlib
import Panel.Proofs.FontRules
import Panel.Proofs.FormatPattern

/-! # Arguments of formats — conversions that are counted, and arguments that are read

    A format is accepted by the number of its conversions, and these are counted by a pattern.  What is
    read when the text is made is another matter: a format is made of plain characters, of percent
    signs and of conversions, and a conversion reads an argument for itself and one for every star. -/

namespace Panel.Printf

open List

variable {cs flags point rest size width : List Char} {c : Char}

/-! ## The grammar of formats -/

inductive Flag where
  | minus
  | plus
  | space
  | alternate
  | zero
  deriving DecidableEq, Repr

def Flag.char : Flag → Char
  | .minus => '-'
  | .plus => '+'
  | .space => ' '
  | .alternate => '#'
  | .zero => '0'

def digits (ds : List (Fin 10)) : List Char := ds.map fun (d : Fin 10) => Nat.digitChar d

/-- A least width: an argument, or a number that does not begin with zero. -/
inductive Width where
  | none
  | star
  | number (first : Fin 9) (more : List (Fin 10))
  deriving DecidableEq, Repr

def Width.text : Width → List Char
  | .none => []
  | .star => ['*']
  | .number first more => digits (first.succ :: more)

/-- A precision: an argument, or digits, of which there may be none. -/
inductive Precision where
  | none
  | star
  | number (ds : List (Fin 10))
  deriving DecidableEq, Repr

def Precision.text : Precision → List Char
  | .none => []
  | .star => ['.', '*']
  | .number ds => '.' :: digits ds

/-- The length of an argument. -/
inductive Length where
  | none
  | hh
  | h
  | l
  | ll
  | j
  | z
  | t
  | capital
  deriving DecidableEq, Repr

def Length.text : Length → List Char
  | .none => []
  | .hh => ['h', 'h']
  | .h => ['h']
  | .l => ['l']
  | .ll => ['l', 'l']
  | .j => ['j']
  | .z => ['z']
  | .t => ['t']
  | .capital => ['L']

theorem Length.text_subset (length : Length) : length.text ⊆ trailing := by
  cases length <;> decide

def letters : List Char := "diouxXfFeEgGaAcspn".toList

/-- A conversion. -/
structure Conversion where
  flags : List Flag
  width : Width
  precision : Precision
  length : Length
  letter : { c : Char // c ∈ letters }
  deriving DecidableEq, Repr

namespace Conversion

def modifiers (c : Conversion) : List Char :=
  c.flags.map Flag.char ++ c.width.text ++ (c.precision.text ++ c.length.text)

def body (c : Conversion) : List Char := c.modifiers ++ [c.letter.val]

def stars (c : Conversion) : Nat :=
  (if c.width = .star then 1 else 0) + (if c.precision = .star then 1 else 0)

/-- The conversion is one that is counted.  The letter `F`, four lengths, a point without digits and
    a sixth flag are not known, unless the flags from the sixth on pass for digits of the width. -/
def Seen (c : Conversion) : Prop :=
  c.letter.val ≠ 'F' ∧ c.length ∈ [.none, .h, .l, .ll] ∧ c.precision ≠ .number []
    ∧ (c.flags.length ≤ 5 ∨ (∀ f ∈ c.flags.drop 5, f = .zero) ∧ c.width ≠ .star)

instance (c : Conversion) : Decidable c.Seen :=
  inferInstanceAs (Decidable (_ ∧ _ ∧ _ ∧ (_ ∨ _ ∧ _)))

end Conversion

/-- A part of a format. -/
inductive Item where
  | plain (c : { c : Char // c ≠ '%' ∧ c ≠ '\x00' })
  | percent
  | conversion (c : Conversion)
  deriving DecidableEq, Repr

namespace Item

def text : Item → List Char
  | .plain c => [c.val]
  | .percent => ['%', '%']
  | .conversion c => '%' :: c.body

def consumed : Item → Nat
  | .plain _ => 0
  | .percent => 0
  | .conversion c => 1 + c.stars

def overlooked : Item → Nat
  | .plain _ => 0
  | .percent => 0
  | .conversion c => (if c.Seen then 0 else 1) + c.stars

end Item

def written (items : List Item) : List Char := items.flatMap Item.text

/-- The percent signs that are written out, but counted with the text after them. -/
def feigned (rest : List Char) : List Item → Nat
  | [] => 0
  | .percent :: items => (if Counted (written items ++ rest) then 1 else 0) + feigned rest items
  | _ :: items => feigned rest items

/-! ### Conversions that are counted -/

theorem isDigit_of_mem_digits {ds : List (Fin 10)} : ∀ c ∈ digits ds, IsDigit c := by
  have hall : ∀ d : Fin 10, IsDigit (Nat.digitChar d) := by
    unfold IsDigit
    decide
  intro c hc
  obtain ⟨d, -, rfl⟩ := mem_map.mp hc
  exact hall d

theorem Flag.isFlag (f : Flag) : IsFlag f.char := by
  unfold IsFlag
  cases f <;> decide

theorem Flag.eq_zero_of_isDigit {f : Flag} (h : IsDigit f.char) : f = .zero := by
  cases f
  case zero => rfl
  all_goals exact absurd h (not_isDigit_of_mem (by decide))

theorem Width.isCount (w : Width) : w.text = [] ∨ IsCount w.text := by
  cases w with
  | none => exact .inl rfl
  | star => exact .inr (.inl rfl)
  | number first more => exact .inr (.inr ⟨cons_ne_nil _ _, isDigit_of_mem_digits⟩)

theorem Width.isDigit {w : Width} (h : w ≠ .star) : ∀ c ∈ w.text, IsDigit c := by
  cases w with
  | none => exact nofun
  | star => exact absurd rfl h
  | number first more => exact isDigit_of_mem_digits

theorem Precision.isCount {p : Precision} (h : p ≠ .number []) :
    p.text = [] ∨ ∃ count, p.text = '.' :: count ∧ IsCount count := by
  cases p with
  | none => exact .inl rfl
  | star => exact .inr ⟨['*'], rfl, .inl rfl⟩
  | number ds =>
    have hne : ds ≠ [] := fun hnil => h (congrArg Precision.number hnil)
    exact .inr ⟨_, rfl, .inr ⟨fun hnil => hne (map_eq_nil_iff.mp hnil), isDigit_of_mem_digits⟩⟩

theorem Conversion.modifiers_not_foreign (c : Conversion) : ∀ x ∈ c.modifiers, x ∉ foreign := by
  intro x hx
  rcases mem_append.mp hx with hx | hx <;> rcases mem_append.mp hx with hx | hx
  · obtain ⟨f, -, rfl⟩ := mem_map.mp hx
    exact f.isFlag.not_foreign
  · rcases c.width.isCount with hnil | hcount
    · rw [hnil] at hx
      cases hx
    · exact hcount.not_foreign x hx
  · by_cases hlone : c.precision = .number []
    · rw [hlone] at hx
      obtain rfl := mem_singleton.mp hx
      decide
    · rcases Precision.isCount hlone with hnil | ⟨count, htext, hcount⟩
      · rw [hnil] at hx
        cases hx
      · rw [htext] at hx
        rcases mem_cons.mp hx with rfl | hx
        · decide
        · exact hcount.not_foreign x hx
  · have hall : ∀ x ∈ trailing, x ∉ foreign := forall_mem_of_all (by decide)
    exact hall x (c.length.text_subset hx)

theorem Conversion.Seen.marks {c : Conversion} (h : c.Seen) : Marks c.modifiers := by
  obtain ⟨-, hlength, hprecision, hflags⟩ := h
  have hsizes : ∀ length ∈ [Length.none, .h, .l, .ll], length.text ∈ sizes := by decide
  have hisFlag : ∀ fs : List Flag, ∀ x ∈ fs.map Flag.char, IsFlag x := by
    intro fs x hx
    obtain ⟨f, -, rfl⟩ := mem_map.mp hx
    exact f.isFlag
  by_cases hfew : c.flags.length ≤ 5
  · exact ⟨_, _, _, _, ⟨by rwa [length_map], hisFlag _, c.width.isCount,
      Precision.isCount hprecision, hsizes _ hlength⟩, rfl⟩
  · obtain ⟨hzero, hstar⟩ := hflags.resolve_left hfew
    -- The flags from the sixth on are zeros, and go with the width.
    refine ⟨(c.flags.take 5).map Flag.char, (c.flags.drop 5).map Flag.char ++ c.width.text, _, _,
      ⟨?_, hisFlag _, .inr (.inr ⟨?_, ?_⟩), Precision.isCount hprecision, hsizes _ hlength⟩, ?_⟩
    · rw [length_map, length_take]
      omega
    · refine fun hnil => hfew ?_
      exact drop_eq_nil_iff.mp (map_eq_nil_iff.mp (append_eq_nil_iff.mp hnil).1)
    · intro x hx
      rcases mem_append.mp hx with hx | hx
      · obtain ⟨f, hf, rfl⟩ := mem_map.mp hx
        rw [hzero f hf]
        unfold IsDigit
        decide
      · exact Width.isDigit hstar x hx
    · rw [Conversion.modifiers, ← append_assoc ((c.flags.take 5).map Flag.char),
        ← map_append, take_append_drop]

def Leading (c : Char) : Prop := IsFlag c ∨ IsDigit c ∨ c = '*'

theorem not_leading (h : c ∈ trailing) : ¬ Leading c := by
  have hall : ∀ c ∈ trailing, c ∉ "-+0 #".toList ∧ c ≠ '*' := forall_mem_of_all (by decide)
  obtain ⟨hflag, hstar⟩ := hall c h
  rintro (hc | hc | rfl)
  · exact hflag hc
  · exact not_isDigit_of_trailing h hc
  · exact hstar rfl

theorem IsCount.leading (h : cs = [] ∨ IsCount cs) : ∀ c ∈ cs, Leading c := by
  intro c hc
  rcases h with rfl | rfl | ⟨-, hdigits⟩
  · cases hc
  · exact .inr (.inr (mem_singleton.mp hc))
  · exact .inr (.inl (hdigits c hc))

/-- Between the flags and the width on one side, and the precision and the length on the other, a
    conversion is cut as the pattern cuts it. -/
theorem Conversion.modifiers_cut {c : Conversion} (hmods : Modifiers flags width point size)
    (h : c.modifiers = flags ++ width ++ (point ++ size)) :
    c.flags.map Flag.char ++ c.width.text = flags ++ width
      ∧ c.precision.text ++ c.length.text = point ++ size := by
  refine append_cut Leading ?_ ?_ ?_ ?_ h
  · intro x hx
    rcases mem_append.mp hx with hx | hx
    · obtain ⟨f, -, rfl⟩ := mem_map.mp hx
      exact .inl f.isFlag
    · exact IsCount.leading c.width.isCount x hx
  · intro x hx
    rcases mem_append.mp hx with hx | hx
    · exact .inl (hmods.flags x hx)
    · exact IsCount.leading hmods.width x hx
  · intro x hx
    refine not_leading ?_
    cases hp : c.precision with
    | none =>
      rw [hp] at hx
      exact c.length.text_subset (mem_of_mem_head? hx)
    | star | number ds =>
      rw [hp] at hx
      obtain rfl := Option.some.inj hx
      decide
  · intro x hx
    refine not_leading ?_
    rcases hmods.point with rfl | ⟨count, rfl, -⟩
    · exact head_mem_trailing hmods.size x hx
    · obtain rfl := Option.some.inj hx
      decide

theorem Conversion.flags_seen {c : Conversion} (hfew : flags.length ≤ 5)
    (hwidth : width = [] ∨ IsCount width)
    (h : c.flags.map Flag.char ++ c.width.text = flags ++ width) :
    c.flags.length ≤ 5 ∨ (∀ f ∈ c.flags.drop 5, f = .zero) ∧ c.width ≠ .star := by
  refine or_iff_not_imp_left.mpr fun hmany => ?_
  -- The flags from the sixth on stand in the width of the pattern.
  have hcut : width = (c.flags.drop flags.length).map Flag.char ++ c.width.text := by
    have hdrop := congrArg (drop flags.length) h
    rw [drop_left, drop_append_of_le_length (by rw [length_map]; omega), ← map_drop] at hdrop
    exact hdrop.symm
  have hsixth : ∀ f ∈ c.flags.drop 5, f.char ∈ width := by
    intro f hf
    rw [hcut]
    have hmem : f ∈ c.flags.drop flags.length := by
      rw [show 5 = flags.length + (5 - flags.length) by omega, ← drop_drop] at hf
      exact mem_of_mem_drop hf
    exact mem_append_left _ (mem_map_of_mem hmem)
  obtain ⟨f, hf⟩ : ∃ f, f ∈ c.flags.drop 5 :=
    exists_mem_of_ne_nil _ fun hnil => hmany (drop_eq_nil_iff.mp hnil)
  have hnotStar : ∀ f : Flag, f.char ≠ '*' := by
    intro f
    cases f <;> decide
  have hdigits : ∀ x ∈ width, IsDigit x := by
    rcases hwidth with rfl | rfl | ⟨-, hdigits⟩
    · cases hsixth f hf
    · exact absurd (mem_singleton.mp (hsixth f hf)) (hnotStar f)
    · exact hdigits
  refine ⟨fun f hf => Flag.eq_zero_of_isDigit (hdigits _ (hsixth f hf)), fun hstar => ?_⟩
  refine not_isDigit_of_mem (c := '*') (by decide) (hdigits '*' ?_)
  rw [hcut, hstar]
  exact mem_append_right _ mem_cons_self

theorem Conversion.precision_seen {c : Conversion} (hsize : size ∈ sizes)
    (hpoint : point = [] ∨ ∃ count, point = '.' :: count ∧ IsCount count)
    (h : c.precision.text ++ c.length.text = point ++ size) :
    c.length ∈ [Length.none, .h, .l, .ll] ∧ c.precision ≠ .number [] := by
  have hknown : ∀ length : Length, length.text ∈ sizes → length ∈ [.none, .h, .l, .ll] := by
    intro length
    cases length <;> decide
  have hlength : ∀ length : Length, '.' ∉ length.text ∧ '*' ∉ length.text := by
    intro length
    cases length <;> decide
  have hsizes : ∀ size ∈ sizes, '.' ∉ size := by decide
  obtain ⟨hdot, hstar⟩ := hlength c.length
  have hstarDigit : ¬ IsDigit '*' := not_isDigit_of_mem (by decide)
  rcases hpoint with rfl | ⟨count, rfl, hcount⟩
  · cases hp : c.precision with
    | none =>
      rw [hp] at h
      have htext : c.length.text = size := h
      exact ⟨hknown _ (htext ▸ hsize), nofun⟩
    | star | number ds =>
      rw [hp] at h
      have hmem : '.' ∈ [] ++ size := h ▸ mem_cons_self
      exact absurd hmem (hsizes size hsize)
  · cases hp : c.precision with
    | none =>
      rw [hp] at h
      have htext : c.length.text = '.' :: (count ++ size) := h
      exact absurd (htext ▸ mem_cons_self) hdot
    | star =>
      rw [hp] at h
      have hrest : '*' :: c.length.text = count ++ size := (cons.inj h).2
      rcases hcount with rfl | ⟨hne, hdigits⟩
      · have htext : c.length.text = size := (cons.inj hrest).2
        exact ⟨hknown _ (htext ▸ hsize), nofun⟩
      · obtain ⟨d, ds, rfl⟩ := exists_cons_of_ne_nil hne
        obtain ⟨rfl, -⟩ := cons.inj hrest
        exact absurd (hdigits '*' mem_cons_self) hstarDigit
    | number ds =>
      rw [hp] at h
      have hrest : digits ds ++ c.length.text = count ++ size := (cons.inj h).2
      rcases hcount with rfl | ⟨hne, hdigits⟩
      · have hmem : '*' ∈ digits ds ++ c.length.text := hrest ▸ mem_cons_self
        rcases mem_append.mp hmem with hmem | hmem
        · exact absurd (isDigit_of_mem_digits '*' hmem) hstarDigit
        · exact absurd hmem hstar
      · obtain ⟨hds, htext⟩ := append_cut IsDigit isDigit_of_mem_digits hdigits
          (fun x hx => not_isDigit_of_trailing (c.length.text_subset (mem_of_mem_head? hx)))
          (fun x hx => not_isDigit_of_trailing (head_mem_trailing hsize x hx)) hrest
        refine ⟨hknown _ (htext ▸ hsize), fun hnil => hne ?_⟩
        rw [← hds, Precision.number.inj hnil]
        rfl

theorem counted_conversion (c : Conversion) (more : List Char) :
    Counted (c.body ++ more) ↔ c.Seen := by
  have hletters : ∀ x ∈ letters, x ∈ foreign ∧ (x ≠ 'F' → x ∈ conversionLetters) :=
    forall_mem_of_all (by decide)
  obtain ⟨hforeign, hknown⟩ := hletters c.letter.val c.letter.property
  have hbody : c.body ++ more = c.modifiers ++ c.letter.val :: more := by
    rw [Conversion.body, append_assoc]
    rfl
  rw [hbody, counted_iff]
  constructor
  · rintro ⟨marks, x, rest, hmarks, hx, h⟩
    have hx' : x ∈ foreign := mem_cons_of_mem _ (mem_cons_of_mem _ hx)
    obtain ⟨hcut, hletter⟩ := append_cut (· ∉ foreign) c.modifiers_not_foreign hmarks.not_foreign
      (fun y hy => by obtain rfl := Option.some.inj hy; exact not_not_intro hforeign)
      (fun y hy => by obtain rfl := Option.some.inj hy; exact not_not_intro hx') h
    obtain ⟨flags, width, point, size, hmods, rfl⟩ := hmarks
    obtain ⟨hleading, hrest⟩ := Conversion.modifiers_cut hmods hcut
    obtain ⟨hlength, hprecision⟩ := Conversion.precision_seen hmods.size hmods.point hrest
    refine ⟨fun hF => ?_, hlength, hprecision, Conversion.flags_seen hmods.few hmods.width hleading⟩
    have hnone : 'F' ∉ conversionLetters := by decide
    obtain ⟨hx'', -⟩ := cons.inj hletter
    exact hnone (hF ▸ hx''.symm ▸ hx)
  · exact fun hseen => ⟨_, _, more, hseen.marks, hknown hseen.1, rfl⟩

/-! ## Accepted formats -/

theorem not_counted_percent (more : List Char) : ¬ Counted ('%' :: more) := by
  rw [counted_iff]
  rintro ⟨marks, c, rest, hmarks, hc, h⟩
  refine hmarks.not_percent hc ?_
  cases marks with
  | nil => exact mem_singleton.mpr (cons.inj h).1
  | cons x marks =>
    rw [(cons.inj h).1]
    exact mem_cons_self

theorem Conversion.not_percent (c : Conversion) : '%' ∉ c.body := by
  intro hmem
  rcases mem_append.mp hmem with hmem | hmem
  · exact c.modifiers_not_foreign '%' hmem mem_cons_self
  · have hnone : '%' ∉ letters := by decide
    exact hnone (mem_singleton.mp hmem ▸ c.letter.property)

theorem counted_written (items : List Item) (rest : List Char) :
    counted (written items ++ rest) + (items.map Item.overlooked).sum
      = (items.map Item.consumed).sum + feigned rest items + counted rest := by
  induction items with
  | nil => simp [written, feigned]
  | cons item items ih =>
    have hwritten : written (item :: items) ++ rest = item.text ++ (written items ++ rest) := by
      rw [written, flatMap_cons, append_assoc]
      rfl
    rw [hwritten, map_cons, map_cons, sum_cons, sum_cons]
    cases item with
    | plain c =>
      have hplain : '%' ∉ [c.val] := fun h => c.property.1 (mem_singleton.mp h).symm
      have hskip := counted_append hplain (written items ++ rest)
      show counted ([c.val] ++ _) + (0 + _) = 0 + _ + feigned rest items + _
      rw [hskip]
      omega
    | percent =>
      show (if '%' = '%' ∧ Counted ('%' :: (written items ++ rest)) then 1 else 0)
        + ((if '%' = '%' ∧ Counted (written items ++ rest) then 1 else 0)
          + counted (written items ++ rest)) + (0 + _)
        = 0 + _ + ((if Counted (written items ++ rest) then 1 else 0) + feigned rest items) + _
      simp only [not_counted_percent, true_and, and_false, if_false]
      omega
    | conversion c =>
      show (if '%' = '%' ∧ Counted (c.body ++ (written items ++ rest)) then 1 else 0)
        + counted (c.body ++ (written items ++ rest)) + ((if c.Seen then 0 else 1) + c.stars + _)
        = 1 + c.stars + _ + feigned rest items + _
      rw [counted_append c.not_percent]
      simp only [counted_conversion, true_and]
      split <;> omega

/-- A format is accepted if it has as many arguments as conversions are counted, and if a text for
    what is no number stands by a single `%f`. -/
theorem checkFormat_on_iff {v w : Value} {s t : Session} :
    (checkFormat v).on s = (.ok w, t) ↔ w = v ∧ t = s ∧ ∃ format text args,
      v.get? "format" = some format ∧ format.text? = some text ∧ v.get? "args" = some args
      ∧ Test.length? args = some (counted text.toList)
      ∧ (((v.get? "if_nan").getD .null).truthy → (conversions ['f'] text).length = 1) := by
  constructor
  · intro h
    obtain ⟨format, hformat, h⟩ := Check.on_required_bind_eq_ok h
    cases htext : format.text? with
    | none =>
      rw [htext] at h
      cases h
    | some text =>
      rw [htext] at h
      obtain ⟨args, hargs, h⟩ := Check.on_required_bind_eq_ok h
      cases hlength : Test.length? args with
      | none =>
        rw [hlength] at h
        cases h
      | some n =>
        rw [hlength] at h
        dsimp only at h
        rw [conversions_eq (Subset.refl _), length_found] at h
        split at h
        · cases h
        · next hcount =>
            split at h
            · cases h
            · next hnan =>
                cases h
                obtain rfl : counted text.toList = n := by simpa using hcount
                exact ⟨rfl, rfl, format, text, args, hformat, htext, hargs, hlength,
                  by simpa using hnan⟩
  · rintro ⟨rfl, rfl, format, text, args, hformat, htext, hargs, hlength, hnan⟩
    unfold checkFormat
    rw [required_eq hformat, pure_bind, htext]
    dsimp only
    rw [required_eq hargs, pure_bind, hlength]
    dsimp only
    rw [conversions_eq (Subset.refl _), length_found, if_neg (by simp),
      if_neg (by simpa using hnan)]
    rfl

/-- A format is accepted by the number of its arguments.  They are as many as are read for its
    parts, without those that are overlooked (the stars, and conversions that the pattern does not
    know), and with one for each percent sign whose text after it passes for a conversion, and for
    what is counted behind the parts (behind a zero, where a text that is passed to C ends). -/
theorem checkFormat_arguments (v w : Value) (s t : Session) :
    (checkFormat v).on s = (.ok w, t) ↔ w = v ∧ t = s ∧ ∃ format text args n,
      v.get? "format" = some format ∧ format.text? = some text
      ∧ v.get? "args" = some args ∧ Test.length? args = some n
      ∧ (((v.get? "if_nan").getD .null).truthy → (conversions ['f'] text).length = 1)
      ∧ ∀ items rest, text.toList = written items ++ rest →
          n + (items.map Item.overlooked).sum
            = (items.map Item.consumed).sum + feigned rest items + counted rest := by
  rw [checkFormat_on_iff]
  constructor
  · rintro ⟨hw, ht, format, text, args, hformat, htext, hargs, hlength, hnan⟩
    refine ⟨hw, ht, format, text, args, _, hformat, htext, hargs, hlength, hnan,
      fun items rest h => ?_⟩
    rw [h]
    exact counted_written items rest
  · rintro ⟨hw, ht, format, text, args, n, hformat, htext, hargs, hlength, hnan, hbalance⟩
    -- Read as no parts at all, a text is all rest.
    have hn : n = counted text.toList := by
      have hnone := hbalance [] text.toList rfl
      simpa [feigned] using hnone
    exact ⟨hw, ht, format, text, args, hformat, htext, hargs, hn ▸ hlength, hnan⟩

def percentWord : Value := .dict [("format", .str "%% d"), ("args", .list [.str "x"])]

theorem checkFormat_percentWord :
    (checkFormat percentWord).on {} = (.ok percentWord, {})
    ∧ "%% d".toList = written [.percent, .plain ⟨' ', by decide⟩, .plain ⟨'d', by decide⟩]
    ∧ ([Item.percent, .plain ⟨' ', by decide⟩, .plain ⟨'d', by decide⟩].map Item.consumed).sum
      = 0 := by
  refine ⟨?_, rfl, rfl⟩
  refine (checkFormat_arguments _ _ {} {}).mpr ⟨rfl, rfl, _, _, _, 1, rfl, rfl, rfl, rfl, nofun, ?_⟩
  intro items rest h
  have hone : counted "%% d".toList = 1 := by decide
  rw [← hone, h]
  exact counted_written items rest

/-! ## Numbers that may be missing -/

def otherLetters : List Char := conversionLetters.filter (· ≠ 'f')

/-- Each conversion has one letter, which is `f` or another one. -/
theorem length_found_eq_add (cs : List Char) : (found conversionLetters cs).length
      = (found ['f'] cs).length + (found otherLetters cs).length := by
  have hothers : otherLetters ⊆ conversionLetters := fun _ hx => (mem_filter.mp hx).1
  have hfloat : ['f'] ⊆ conversionLetters := by decide
  rw [found_eq_filter hfloat, found_eq_filter hothers, length_eq_length_filter_add (endsIn ['f'])]
  congr 2
  refine filter_congr fun m hm => ?_
  obtain ⟨marks, c, -, hc, rfl⟩ := mem_found (Subset.refl _) hm
  rw [endsIn_ofList, endsIn_ofList]
  simp [otherLetters, hc]

/-- A format that is accepted with a text for what is no number has a single `%f` and one argument
    more than conversions with other letters, and all of its arguments are asked to be finite at once. -/
theorem checkFormat_missing (v w : Value) (s t : Session) (h : (checkFormat v).on s = (.ok w, t))
    (hnan : ((v.get? "if_nan").getD .null).truthy = true) :
    ∃ format text args n, v.get? "format" = some format ∧ format.text? = some text
      ∧ v.get? "args" = some args ∧ Test.length? args = some (n + 1)
      ∧ (conversions ['f'] text).length = 1 ∧ (conversions otherLetters text).length = n
      ∧ ∀ xs missing, args = .list xs → ((v.get? "if_nan").getD .null).text? = some missing →
        (Property.formFormat v format).on s = (.ok (.literal ("(std::isfinite("
          ++ String.intercalate "," (xs.map Value.show) ++ ") ? " ++ ("str_sprintf("
          ++ Text.cppString text ++ ", " ++ String.intercalate "," (xs.map Value.show) ++ ").c_str()")
          ++ " : " ++ Text.cppString missing ++ ")")), s) := by
  obtain ⟨-, -, format, text, args, hformat, htext, hargs, hlength, hone⟩ := checkFormat_on_iff.mp h
  have hf := hone hnan
  rw [← length_found, length_found_eq_add, ← conversions_eq (by decide), hf, Nat.add_comm,
    ← conversions_eq (by decide)] at hlength
  refine ⟨format, text, args, _, hformat, htext, hargs, hlength, hf, rfl, ?_⟩
  rintro xs missing rfl hmissing
  cases hgiven : v.get? "if_nan" with
  | none =>
    rw [hgiven] at hnan
    cases hnan
  | some x =>
    rw [hgiven] at hnan hmissing
    have hmissing : x.text? = some missing := hmissing
    rw [Property.formFormat, Check.on_bind_ok _ (required_on_iff.mpr ⟨hargs, rfl⟩)]
    simp only [Property.joinedArgs, Property.quotedText, Property.orMissing, pure_bind, htext, hgiven,
      if_pos (show x.truthy = true from hnan), hmissing]
    rfl

def twoNumbers : Value :=
  .dict [("format", .str "%d %f"), ("args", .list [.str "a", .str "b"]), ("if_nan", .str "x")]

theorem checkFormat_missing_twoNumbers :
    (checkFormat twoNumbers).on {} = (.ok twoNumbers, {})
    ∧ (Property.formFormat twoNumbers (.str "%d %f")).on {} = (.ok (.literal
        "(std::isfinite(a,b) ? str_sprintf(\"%d %f\", a,b).c_str() : \"x\")"), {}) := by
  have h : (checkFormat twoNumbers).on {} = (.ok twoNumbers, {}) :=
    checkFormat_on_iff.mpr ⟨rfl, rfl, _, _, _, rfl, rfl, rfl, rfl, fun _ => by decide⟩
  obtain ⟨format, text, args, n, hformat, htext, hargs, -, -, -, hform⟩ :=
    checkFormat_missing twoNumbers twoNumbers {} {} h rfl
  obtain rfl : .str "%d %f" = format := Option.some.inj hformat
  obtain rfl : "%d %f" = text := Option.some.inj htext
  refine ⟨h, (hform _ "x" (Option.some.inj hargs).symm rfl).trans ?_⟩
  cbv

end Panel.Printf
