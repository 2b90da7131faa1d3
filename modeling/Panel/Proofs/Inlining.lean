import Panel.Property.Text
import Panel.Proofs.Work

/-! # Inlining — lambdas that are written as the expression they return

    Whether a body is one return statement is guessed from its first word and its last character,
    and whether an expression is a string literal from its first and last character. -/

namespace Panel

open Cpp List

namespace Code

variable {body e : String} {c : Closure}

/-! ## Return statements -/

/-- Reads over code, with the quote of the literal it is in, if any: nothing if a semicolon stands
    outside of all literals, or else the quote of a literal that is still open at the end. -/
def scan : Option Char → List Char → Option (Option Char)
  | open?, [] => some open?
  | some q, '\\' :: _ :: cs => scan (some q) cs
  | some q, c :: cs => scan (if c == q then none else some q) cs
  | none, c :: cs =>
    if c == ';' then none else scan (if c == '"' || c == '\'' then some c else none) cs

/-- What follows `return` up to the last character is one expression: the word does not go on, no
    other statement begins, and every literal is closed. -/
def Single (rest : String) : Prop :=
  (∀ x ∈ rest.toList.head?, Text.isWord x = false) ∧ scan none rest.toList = some none

/-- Code that is a single return statement, and the expression it returns. -/
def Returns (code e : String) : Prop :=
  ∃ rest, code = "return" ++ rest ++ ";" ∧ Single rest ∧ Text.trim rest = e

/-- A closure is written as a bare expression. -/
def Replaced (c : Closure) (e : String) : Prop :=
  inlined c = .raw e ∨ ∃ type, inlined c = .cast type (.raw e)

def calledByName (c : Closure) : Expr :=
  .call (.closure c) [] (c.params.map fun p => Expr.named p.name)

theorem returned?_eq_some_iff :
    returned? body = some e ↔ ∃ rest, Text.trim body = "return" ++ rest ++ ";" ∧ Text.trim rest = e := by
  constructor
  · intro h
    unfold returned? at h
    dsimp only at h
    split at h
    · next hends =>
        obtain ⟨hfront, hback⟩ := Bool.and_eq_true_iff.mp hends
        obtain ⟨start, hstart⟩ := Text.hasSuffix_iff.mp hback
        have hshort : "return".toList <+: start.toList := by
          have hfront := isPrefixOf_iff_prefix.mp hfront
          rw [hstart, String.toList_append] at hfront
          refine (prefix_concat_iff.mp hfront).resolve_left fun h => ?_
          exact absurd (congrArg getLast? h) (by simp; decide)
        obtain ⟨rest, rfl⟩ := Text.hasPrefix_iff.mp ( isPrefixOf_iff_prefix.mpr hshort)
        rw [hstart] at h
        refine ⟨rest, hstart, ?_⟩
        rw [← Option.some.inj h]
        exact congrArg Text.trim (Text.between_append "return" rest ';').symm
    · cases h
  · rintro ⟨rest, hbody, rfl⟩
    have hfront : Text.hasPrefix "return" (Text.trim body) = true :=
      Text.hasPrefix_iff.mpr ⟨rest ++ ";", hbody.trans (String.append_assoc)⟩
    have hback : Text.hasSuffix ";" (Text.trim body) = true := Text.hasSuffix_iff.mpr ⟨_, hbody⟩
    unfold returned?
    dsimp only
    rw [hfront, hback, hbody]
    exact congrArg (some <| Text.trim ·) (Text.between_append "return" rest ';')

theorem replaced_iff : Replaced c e ↔ returned? c.body = some e := by
  unfold Replaced inlined
  cases returned? c.body with
  | none => simp
  | some e' =>
    cases c.result with
    | none => simp
    | some t => by_cases hclass : t.isClass <;> simp [hclass]

/-- A closure whose body is a single return statement is written as the expression that is returned.
    So is every other body that begins with these letters and ends with a semicolon, though its
    first word may be longer and further statements may follow; all others are called. -/
theorem inlined_cases (c : Closure) :
    (∃ e, Replaced c e ∧ Returns (Text.trim c.body) e)
    ∨ (∃ rest, Text.trim c.body = "return" ++ rest ++ ";" ∧ ¬Single rest
      ∧ Replaced c (Text.trim rest) ∧ ∀ e, ¬Returns (Text.trim c.body) e)
    ∨ (inlined c = calledByName c ∧ ∀ e, ¬Replaced c e ∧ ¬Returns (Text.trim c.body) e) := by
  cases hbody : returned? c.body with
  | none =>
    refine .inr (.inr ⟨?_, fun e => ⟨fun h => ?_, ?_⟩⟩)
    · unfold inlined
      rw [hbody]
      rfl
    · cases hbody.symm.trans (replaced_iff.mp h)
    · rintro ⟨rest, hrest, -, he⟩
      cases hbody.symm.trans (returned?_eq_some_iff.mpr ⟨rest, hrest, he⟩)
  | some e =>
    obtain ⟨rest, hrest, he⟩ := returned?_eq_some_iff.mp hbody
    have hreplaced : Replaced c (Text.trim rest) := replaced_iff.mpr (hbody.trans (congrArg some he.symm))
    by_cases hsingle : Single rest
    · exact .inl ⟨_, hreplaced, rest, hrest, hsingle, rfl⟩
    · refine .inr (.inl ⟨rest, hrest, hsingle, hreplaced, ?_⟩)
      rintro e ⟨rest', hrest', hsingle', -⟩
      -- The word and the semicolon leave no choice for what is between them.
      have hsame : rest = rest' := by
        rw [← Text.between_append "return" rest ';', ← Text.between_append "return" rest' ';']
        exact congrArg (fun s => Text.dropEnd 1 (Text.drop 6 s)) (hrest.symm.trans hrest')
      exact hsingle (hsame ▸ hsingle')

/-- The rest of a longer word is taken for the expression, and so are two statements. -/
example : inlined ⟨[], "=", some stdString, "return_code();"⟩ = .raw "_code()"
    ∧ inlined ⟨[], "=", some stdString, "return a; b();"⟩ = .raw "a; b()" := ⟨rfl, rfl⟩

/-! ## String literals -/

theorem quotedPart?_append {quote : Char} {cs part rest : List Char}
    (h : quotedPart? quote cs = some (part, rest)) :
    cs = part ++ rest ∧ part.getLast? = some quote := by
  fun_induction quotedPart? quote cs generalizing part with
  | case1 => cases h
  | case2 c cs ih =>
    obtain ⟨⟨p, r⟩, hp, heq⟩ := Option.map_eq_some_iff.mp h
    cases heq
    obtain ⟨rfl, hlast⟩ := ih hp
    exact ⟨rfl, by simp [getLast?_cons, hlast]⟩
  | case3 => cases h
  | case4 c cs _ _ hquote =>
    cases h
    exact ⟨rfl, congrArg some (beq_iff_eq.mp hquote)⟩
  | case5 c cs _ _ _ ih =>
    obtain ⟨⟨p, r⟩, hp, heq⟩ := Option.map_eq_some_iff.mp h
    cases heq
    obtain ⟨rfl, hlast⟩ := ih hp
    exact ⟨rfl, by simp [getLast?_cons, hlast]⟩

end Code

namespace Property

/-- One string literal: the quote that closes it is its last character. -/
def IsLiteral (text : String) : Prop :=
  ∃ inner, text.toList = '"' :: inner ∧ Code.quotedPart? '"' inner = some (inner, [])

def Quoted (text : String) : Prop := Text.hasPrefix "\"" text = true ∧ Text.hasSuffix "\"" text = true

theorem IsLiteral.quoted {text : String} (h : IsLiteral text) : Quoted text := by
  obtain ⟨inner, htext, hpart⟩ := h
  obtain ⟨front, hfront⟩ := getLast?_eq_some_iff.mp (Code.quotedPart?_append hpart).2
  refine ⟨?_, ?_⟩
  · unfold Text.hasPrefix
    rw [htext]
    rfl
  · unfold Text.hasSuffix
    rw [htext, hfront]
    simp

/-- What a lambda that is given as a text becomes.  Its expression stays as it is if it ends with a
    call of `c_str` or is one string literal, but also if it merely begins and ends with a quote, as a
    sum of literals does; all others are converted. -/
theorem emitText_lambda (params : List Param) (body : String) :
    emitText params (.lambda body) = (do
      let c ← Code.closure body (← Code.lambdaParams params) "=" (some stdString)
      return asCString (Code.inlined c))
    ∧ ∀ e : Expr,
      (asCString e = .cpp e ∧ (Text.hasSuffix "c_str()" e.render = true ∨ IsLiteral e.render))
      ∨ (asCString e = .cpp e ∧ Quoted e.render ∧ ¬IsLiteral e.render
        ∧ Text.hasSuffix "c_str()" e.render = false)
      ∨ (asCString e = .literal ("(" ++ e.render ++ ").c_str()") ∧ ¬Quoted e.render
        ∧ ¬IsLiteral e.render ∧ Text.hasSuffix "c_str()" e.render = false) := by
  refine ⟨rfl, fun e => ?_⟩
  unfold asCString
  dsimp only
  by_cases hcall : Text.hasSuffix "c_str()" e.render = true
  · exact .inl ⟨by rw [hcall]; rfl, .inl hcall⟩
  · rw [Bool.not_eq_true] at hcall
    by_cases hquoted : Quoted e.render
    · have hkept : ∀ v : Value, (if (Text.hasSuffix "c_str()" e.render
          || Text.hasSuffix "\"" e.render && Text.hasPrefix "\"" e.render) = true
          then .cpp e else v) = .cpp e := fun v => by
        rw [hquoted.1, hquoted.2, Bool.and_true, Bool.or_true, if_pos rfl]
      by_cases hliteral : IsLiteral e.render
      · exact .inl ⟨hkept _, .inr hliteral⟩
      · exact .inr (.inl ⟨hkept _, hquoted, hliteral, hcall⟩)
    · refine .inr (.inr ⟨if_neg fun h => ?_, hquoted, fun h => hquoted h.quoted, hcall⟩)
      rw [hcall, Bool.false_or, Bool.and_eq_true] at h
      exact hquoted ⟨h.2, h.1⟩

/-- A sum of texts that begins and ends with a literal is not converted. -/
example : (asCString (.raw "\"a\" + x + \"b\"")).show = "\"a\" + x + \"b\"" := by rfl

end Property

end Panel
