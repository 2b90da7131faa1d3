import Mathlib.Data.List.Induction
import Mathlib.Data.List.Nodup
import Panel.Code.Macro
import Panel.Proofs.Entries
import Panel.Proofs.Questions

/-! # Definitions in the header — a text that only the last values decide

    The macros are set in any order, some of them several times.  The header has a line for every
    macro, with its last value, and the lines are sorted. -/

namespace Panel.Code

open List

variable {macros before calls : List (String × String)} {s : Session} {m : String × String}

/-! ## The table of macros -/

def putMacros (macros news : List (String × String)) : List (String × String) :=
  news.foldl (fun ms m => putMacro ms m.1 m.2) macros

theorem putMacros_append (macros first second : List (String × String)) :
    putMacros macros (first ++ second) = putMacros (putMacros macros first) second :=
  foldl_append

theorem putMacro_eq (macros : List (String × String)) (name value : String) :
    putMacro macros name value = putBy (·.1) macros (name, value) := by
  induction macros with
  | nil => rfl
  | cons m macros ih => grind [putMacro, putBy]

def lastValue? (news : List (String × String)) (name : String) : Option String :=
  macroValue? news.reverse name

theorem macroValue?_putMacros (macros news : List (String × String)) (name : String) :
    macroValue? (putMacros macros news) name
      = (lastValue? news name).or (macroValue? macros name) := by
  unfold macroValue? putMacros lastValue?
  simp only [putMacro_eq]
  rw [find?_foldl (find?_putBy _), macroValue?]
  cases news.reverse.find? (·.1 == name) <;> rfl

theorem macroValue?_putMacro (macros : List (String × String)) (name value name' : String) :
    macroValue? (putMacro macros name value) name'
      = if name = name' then some value else macroValue? macros name' := by
  rw [putMacro_eq, macroValue?, find?_putBy]
  split <;> rfl

/-- What is reported when a macro is set after others. -/
def complaint? (before : List (String × String)) (m : String × String) : Option String :=
  (lastValue? before m.1).bind fun old =>
    if old = m.2 then none
    else some ("ERROR: Redefinition of " ++ m.1 ++ " - was " ++ old ++ " now " ++ m.2)

def complaints (before : List (String × String)) : List (String × String) → List String
  | [] => []
  | m :: calls => (complaint? before m).toList ++ complaints (before ++ [m]) calls

theorem macroValue?_table (calls : List (String × String)) (name : String) :
    macroValue? (putMacros [] calls) name = lastValue? calls name := by
  rw [macroValue?_putMacros]
  exact Option.or_none

theorem defineMacro_on (hmacros : s.macros = putMacros [] before)
    (m : String × String) : ∃ t, (defineMacro m.1 m.2).on s = (.ok (), t)
      ∧ t.macros = putMacros [] (before ++ [m])
      ∧ t.log = s.log ++ (complaint? before m).toList := by
  have hvalue : macroValue? s.macros m.1 = lastValue? before m.1 := by
    rw [hmacros, macroValue?_table]
  have hputs : putMacro s.macros m.1 m.2 = putMacros [] (before ++ [m]) := by
    rw [hmacros, putMacros_append]
    rfl
  unfold defineMacro complaint?
  rw [Check.on_bind_ok _ (Check.on_get s), hvalue, ← hputs]
  cases lastValue? before m.1 with
  | none => exact ⟨_, rfl, rfl, (append_nil _).symm⟩
  | some old =>
    dsimp only [Option.bind_some]
    by_cases hold : old = m.2
    · rw [if_pos hold, if_neg (by simpa using hold)]
      exact ⟨_, rfl, rfl, (append_nil _).symm⟩
    · rw [if_neg hold, if_pos (by simpa using hold)]
      refine ⟨_, rfl, rfl, ?_⟩
      simp only [String.append_assoc]
      rfl

theorem defineMacros_on (before calls : List (String × String))
    (hmacros : s.macros = putMacros [] before) :
    ∃ t, (forM calls fun m => defineMacro m.1 m.2).on s = (.ok (), t)
      ∧ t.macros = putMacros [] (before ++ calls) ∧ t.log = s.log ++ complaints before calls := by
  induction calls generalizing before s with
  | nil => exact ⟨s, rfl, by rw [append_nil, hmacros], (append_nil _).symm⟩
  | cons m calls ih =>
    obtain ⟨t, hset, htable, hlog⟩ := defineMacro_on hmacros m
    obtain ⟨u, hrest, htable', hlog'⟩ := ih _ htable
    refine ⟨u, ?_, by rw [htable', append_assoc]; rfl, by
      rw [hlog', hlog, append_assoc, complaints]⟩
    rw [List.forM_cons, Check.on_bind_ok _ hset, hrest]

theorem nodup_putMacros (calls : List (String × String)) :
    ((putMacros [] calls).map Prod.fst).Nodup := by
  induction calls using reverseRecOn with
  | nil => exact nodup_nil
  | append_singleton calls m ih =>
    rw [putMacros_append]
    show ((putMacro (putMacros [] calls) m.1 m.2).map Prod.fst).Nodup
    rw [putMacro_eq, keys_putBy]
    split
    · exact ih
    · next hname => exact concat_eq_append ▸ ih.concat hname

theorem mem_of_lastValue? {name value : String} (h : lastValue? calls name = some value) :
    (name, value) ∈ calls := mem_reverse.mp (mem_of_lookup h)

theorem mem_iff_macroValue? (h : (macros.map Prod.fst).Nodup) (m : String × String) :
    m ∈ macros ↔ macroValue? macros m.1 = some m.2 := (lookup_eq_some_iff h).symm

theorem filter_name (h : (macros.map Prod.fst).Nodup) (name : String) :
    (macros.filter (·.1 = name)).Perm ((macroValue? macros name).map (name, ·)).toList := by
  refine (perm_ext_iff_of_nodup (h.of_map.filter _) ?_).mpr fun m => ?_
  · cases macroValue? macros name <;> simp
  · rw [mem_filter, Option.mem_toList, Option.map_eq_some_iff, mem_iff_macroValue? h]
    grind

/-- Tables with the same values are the same but for the order. -/
theorem putMacros_perm {calls' : List (String × String)}
    (h : ∀ name, lastValue? calls' name = lastValue? calls name) :
    (putMacros [] calls').Perm (putMacros [] calls) := by
  refine (perm_ext_iff_of_nodup (nodup_putMacros _).of_map (nodup_putMacros _).of_map).mpr
    fun m => ?_
  rw [mem_iff_macroValue? (nodup_putMacros _), mem_iff_macroValue? (nodup_putMacros _),
    macroValue?_table, macroValue?_table, h]

/-- The lines of a table, sorted. -/
def sortedLines (macros : List (String × String)) : List String :=
  (macros.map fun m => macroLine m.1 (some m.2)).mergeSort fun a b => decide (a ≤ b)

theorem sortedLines_perm (macros : List (String × String)) :
    (sortedLines macros).Perm (macros.map fun m => macroLine m.1 (some m.2)) :=
  mergeSort_perm _ _

theorem sortedLines_congr {macros' : List (String × String)} (h : macros'.Perm macros) :
    sortedLines macros' = sortedLines macros := by
  have hsorted : ∀ macros, (sortedLines macros).Pairwise fun a b => decide (a ≤ b) = true :=
    fun macros => by
      refine pairwise_mergeSort (fun a b c hab hbc => decide_eq_true ?_) (fun a b => ?_) _
      · exact String.le_trans (of_decide_eq_true hab) (of_decide_eq_true hbc)
      · simpa using String.le_total a b
  refine Perm.eq_of_pairwise (fun a b _ _ hab hba => ?_) (hsorted macros') (hsorted macros)
    ((sortedLines_perm macros').trans ((h.map _).trans (sortedLines_perm macros).symm))
  exact String.le_antisymm (of_decide_eq_true hab) (of_decide_eq_true hba)

theorem header_eq (macros : List (String × String)) :
    header macros = "#pragma once\n" ++ String.intercalate "\n" (sortedLines macros) ++ "\n" :=
  rfl

/-! ## The text -/

/-- The definition in a line: the word, a name, a space and the value. -/
def definition? (line : List Char) : Option (String × String) :=
  (line.dropPrefix? "#define ".toList).map fun rest =>
    (String.ofList (rest.takeWhile (· ≠ ' ')),
      String.ofList ((rest.dropWhile (· ≠ ' ')).drop 1))

def definitions (text : String) : List (String × String) :=
  (text.toList.splitOn '\n').filterMap definition?

/-- A name and a value that a line can be read back to. -/
def Legible (m : String × String) : Prop :=
  (' ' ∉ m.1.toList ∧ '\n' ∉ m.1.toList) ∧ '\n' ∉ m.2.toList
  deriving Decidable

theorem definition?_macroLine (h : Legible m) :
    definition? (macroLine m.1 (some m.2)).toList = some m := by
  have hline : (macroLine m.1 (some m.2)).toList
      = "#define ".toList ++ (m.1.toList ++ ' ' :: m.2.toList) := by
    simp [macroLine]
  have hname : ∀ c ∈ m.1.toList, decide (c ≠ ' ') = true := fun c hc =>
    decide_eq_true fun heq => h.1.1 (heq ▸ hc)
  rw [hline, definition?, dropPrefix?_eq_some_iff.mpr ⟨_, rfl, beq_self_eq_true _⟩, Option.map_some,
    takeWhile_append_of_pos hname, dropWhile_append_of_pos hname]
  simp

theorem newline_notMem_macroLine (h : Legible m) : '\n' ∉ (macroLine m.1 (some m.2)).toList := by
  simp [macroLine, h.1.2, h.2]

theorem filterMap_splitOn {lines : List (List Char)} (h : ∀ line ∈ lines, '\n' ∉ line) :
    (splitOn '\n' (['\n'].intercalate lines)).filterMap definition?
      = lines.filterMap definition? := by
  cases lines with
  | nil => rfl
  | cons line lines => rw [splitOn_intercalate _ h (cons_ne_nil _ _)]

/-- The definitions in a header are those of the table. -/
theorem definitions_header (h : ∀ m ∈ macros, Legible m) :
    (definitions (header macros)).Perm macros := by
  have hlines : ∀ line ∈ (sortedLines macros).map String.toList, '\n' ∉ line := by
    intro line hline
    obtain ⟨text, htext, rfl⟩ := mem_map.mp hline
    obtain ⟨m, hm, rfl⟩ := mem_map.mp ((sortedLines_perm macros).mem_iff.mp htext)
    exact newline_notMem_macroLine (h m hm)
  have htext : (header macros).toList = "#pragma once".toList ++ '\n' ::
      (['\n'].intercalate ((sortedLines macros).map String.toList) ++ '\n' :: []) := by
    rw [header_eq]
    simp [String.toList_intercalate]
  have hpragma : (splitOnP (· == '\n') "#pragma once".toList).filterMap definition? = [] := by
    rw [splitOnP_eq_singleton (by simp)]
    rfl
  have hend : (splitOnP (· == '\n') []).filterMap definition? = [] := rfl
  have hread : definitions (header macros)
      = ((sortedLines macros).map String.toList).filterMap definition? := by
    rw [definitions, htext, splitOn, splitOnP_append_cons _ _ (by decide),
      splitOnP_append_cons _ _ (by decide), filterMap_append, filterMap_append, hpragma,
      hend, nil_append, append_nil]
    exact filterMap_splitOn hlines
  rw [hread]
  refine (((sortedLines_perm macros).map String.toList).filterMap definition?).trans (.of_eq ?_)
  rw [map_map, filterMap_map]
  exact (filterMap_congr fun m hm => definition?_macroLine (h m hm)).trans filterMap_some

/-- Setting macros in any order: the header has the last value of every macro and no other
    definition, what is reported are the values that replace others, and another order with the same
    last values leaves the same text. -/
theorem defineMacros_header (calls : List (String × String)) (hcalls : ∀ m ∈ calls, Legible m)
    {s : Session} (hmacros : s.macros = []) :
    ∃ t, (forM calls fun m => defineMacro m.1 m.2).on s = (.ok (), t)
      ∧ t.log = s.log ++ complaints [] calls
      ∧ (∀ name, (definitions (header t.macros)).filter (·.1 = name)
        = ((lastValue? calls name).map (name, ·)).toList)
      ∧ ∀ (calls' : List (String × String)) (s' : Session), s'.macros = [] →
        (∀ name, lastValue? calls' name = lastValue? calls name) →
        ∃ t', (forM calls' fun m => defineMacro m.1 m.2).on s' = (.ok (), t')
          ∧ header t'.macros = header t.macros := by
  obtain ⟨t, hset, htable, hlog⟩ := defineMacros_on [] calls hmacros
  rw [nil_append] at htable
  refine ⟨t, hset, hlog, fun name => ?_, fun calls' s' hmacros' hlast => ?_⟩
  · have hlegible : ∀ m ∈ putMacros [] calls, Legible m := by
      intro m hm
      rw [mem_iff_macroValue? (nodup_putMacros calls), macroValue?_table] at hm
      exact hcalls m (mem_of_lastValue? hm)
    have hperm := ((definitions_header hlegible).filter (·.1 = name)).trans
      (filter_name (nodup_putMacros calls) name)
    rw [macroValue?_table] at hperm
    rw [htable]
    cases hlast : lastValue? calls name with
    | none =>
      rw [hlast] at hperm
      exact hperm.eq_nil
    | some value =>
      rw [hlast] at hperm
      exact perm_singleton.mp hperm
  · obtain ⟨t', hset', htable', -⟩ := defineMacros_on [] calls' hmacros'
    refine ⟨t', hset', ?_⟩
    rw [header_eq, header_eq, htable, htable', nil_append, sortedLines_congr (putMacros_perm hlast)]

theorem defineMacros_header_twice :
    ∃ t, (forM [("A", "1"), ("B", "1"), ("A", "2")] fun m => defineMacro m.1 m.2).on {}
        = (.ok (), t)
      ∧ t.log = ["ERROR: Redefinition of A - was 1 now 2"]
      ∧ (definitions (header t.macros)).filter (·.1 = "A") = [("A", "2")] := by
  obtain ⟨t, hset, hlog, hdefined, -⟩ := defineMacros_header
    [("A", "1"), ("B", "1"), ("A", "2")] (by decide) (s := {}) rfl
  exact ⟨t, hset, hlog, hdefined "A"⟩

end Panel.Code
