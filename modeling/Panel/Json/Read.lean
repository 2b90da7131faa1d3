import Panel.Value
import Panel.Text.Pattern

/-! # JSON — texts as values

    A reader for JSON that also takes `NaN` and the infinities.  It walks over the characters that
    are left and keeps its place beside them, so that a fault can say where it is. -/

namespace Panel.Json

open Text

/-- A fault: what is wrong, and where. -/
structure Fault where
  words : String
  place : Nat
  deriving BEq, DecidableEq, Repr, Inhabited

def Fault.message (f : Fault) (text : String) : String :=
  let before := text.toList.take f.place
  let line := before.countP (· == '\n') + 1
  let column := (before.reverse.takeWhile (· != '\n')).length + 1
  f.words ++ ": line " ++ toString line ++ " column " ++ toString column ++ " (char "
    ++ toString f.place ++ ")"

/-- What is left of a text: the place and the characters from there on. -/
structure Rest where
  place : Nat
  chars : List Char

def Rest.skip (r : Rest) (n : Nat) : Rest := ⟨r.place + n, r.chars.drop n⟩

def Rest.trim (r : Rest) : Rest :=
  r.skip (r.chars.takeWhile fun c => c == ' ' || c == '\t' || c == '\n' || c == '\r').length

def Rest.head? (r : Rest) : Option Char := r.chars.head?

def Rest.fault {α : Type} (r : Rest) (words : String) : Except Fault α := .error ⟨words, r.place⟩

/-! ## Texts -/

def escaped? : Char → Option Char
  | '"' => some '"'
  | '\\' => some '\\'
  | '/' => some '/'
  | 'b' => some '\x08'
  | 'f' => some '\x0c'
  | 'n' => some '\n'
  | 'r' => some '\r'
  | 't' => some '\t'
  | _ => none

def fourDigits? (cs : List Char) : Option Nat :=
  let digits := (cs.take 4).map fun c => if c.toNat < 128 then hexValue? c else none
  if digits.length == 4 then
    digits.foldl (fun n d => n.bind fun n => d.map (n * 16 + ·)) (some 0)
  else none

/-- The code unit of an escape whose digits begin at the rest; something must follow them. -/
def unit (r : Rest) : Except Fault Nat :=
  if r.chars.length ≤ 4 then .error ⟨"Invalid \\uXXXX escape", r.place - 1⟩
  else
    match fourDigits? r.chars with
    | some n => .ok n
    | none => .error ⟨"Invalid \\uXXXX escape", r.place - 1⟩

/-- The second half of a pair that begins with a code unit, if it follows. -/
def lowHalf? (r : Rest) : Option Nat :=
  match r.chars with
  | '\\' :: 'u' :: cs =>
    match fourDigits? cs with
    | some n => if 0xDC00 ≤ n && n ≤ 0xDFFF then some n else none
    | none => none
  | _ => none

/-- The rest of a text after its opening quote, in as many steps as given. -/
def textWithin (start : Nat) : Nat → Rest → List Char → Except Fault (String × Rest)
  | 0, _, _ => .error ⟨"Unterminated string starting at", start⟩
  | n + 1, r, seen =>
    match r.chars with
    | [] => .error ⟨"Unterminated string starting at", start⟩
    | '"' :: _ => .ok (String.ofList seen.reverse, r.skip 1)
    | ['\\'] => .error ⟨"Unterminated string starting at", start⟩
    | '\\' :: 'u' :: _ => do
      let high ← unit (r.skip 2)
      let after := r.skip 6
      match if 0xD800 ≤ high && high ≤ 0xDBFF then lowHalf? after else none with
      | some low =>
        let code := 0x10000 + (high - 0xD800) * 1024 + (low - 0xDC00)
        textWithin start n (after.skip 6) (Char.ofNat code :: seen)
      | none => textWithin start n after (Char.ofNat high :: seen)
    | '\\' :: c :: _ =>
      match escaped? c with
      | some d => textWithin start n (r.skip 2) (d :: seen)
      | none => .error ⟨"Invalid \\escape", r.place⟩
    | c :: _ =>
      if c.toNat ≤ 0x1f then r.fault "Invalid control character at"
      else textWithin start n (r.skip 1) (c :: seen)

/-- A text whose opening quote is the first character of the rest. -/
def text (r : Rest) : Except Fault (String × Rest) :=
  textWithin r.place (r.chars.length + 1) (r.skip 1) []

/-! ## Numbers -/

def digitsOf (cs : List Char) : List Char := cs.takeWhile isAsciiDigit

/-- The characters of the fraction at the front: a point and digits, or nothing. -/
def fraction (cs : List Char) : List Char :=
  match cs with
  | '.' :: rest => if (digitsOf rest).isEmpty then [] else '.' :: digitsOf rest
  | _ => []

/-- The characters of the exponent at the front, or nothing. -/
def exponent (cs : List Char) : List Char :=
  match cs with
  | e :: rest =>
    if e == 'e' || e == 'E' then
      let sign := match rest with
        | '+' :: _ => ['+']
        | '-' :: _ => ['-']
        | _ => []
      let digits := digitsOf (rest.drop sign.length)
      if digits.isEmpty then [] else e :: sign ++ digits
    else []
  | [] => []

def number (r : Rest) : Except Fault (Value × Rest) :=
  let sign := if r.head? == some '-' then ['-'] else []
  let body := r.chars.drop sign.length
  let whole := match body with
    | '0' :: _ => ['0']
    | _ => digitsOf body
  if whole.isEmpty then r.fault "Expecting value"
  else
    let frac := fraction (body.drop whole.length)
    let expo := exponent (body.drop (whole.length + frac.length))
    let all := sign ++ whole ++ frac ++ expo
    let word := String.ofList all
    let value := if frac.isEmpty && expo.isEmpty
      then .int ((readInt? word).getD 0)
      else .float ((readFloat? word).getD 0.0)
    .ok (value, r.skip all.length)

/-! ## Values -/

def words : List (String × Value) :=
  [("null", .null), ("true", .bool true), ("false", .bool false), ("NaN", .float (0.0 / 0.0)),
    ("Infinity", .float (1.0 / 0.0)), ("-Infinity", .float (-1.0 / 0.0))]

mutual

/-- A value at the front, nested as deep as given. -/
def value : Nat → Rest → Except Fault (Value × Rest)
  | 0, r => r.fault "Expecting value"
  | n + 1, r =>
    match r.chars with
    | '"' :: _ => do
      let (s, r) ← text r
      return (.str s, r)
    | '\x7b' :: _ =>
      let r := (r.skip 1).trim
      if r.head? == some '\x7d' then .ok (.dict [], r.skip 1) else members n r []
    | '[' :: _ =>
      let r := (r.skip 1).trim
      if r.head? == some ']' then .ok (.list [], r.skip 1) else items n r []
    | _ =>
      match words.find? fun w => w.1.toList.isPrefixOf r.chars with
      | some (w, v) => .ok (v, r.skip w.length)
      | none => number r

def members : Nat → Rest → Entries → Except Fault (Value × Rest)
  | 0, r, _ => r.fault "Expecting value"
  | n + 1, r, seen => do
    if r.head? != some '"' then r.fault "Expecting property name enclosed in double quotes"
    else
      let (key, r) ← text r
      let r := r.trim
      if r.head? != some ':' then r.fault "Expecting ':' delimiter"
      else
        let (v, r) ← value n (r.skip 1).trim
        let r := r.trim
        let seen := Entries.put seen key v
        if r.head? == some '\x7d' then return (.dict seen, r.skip 1)
        else if r.head? != some ',' then r.fault "Expecting ',' delimiter"
        else members n (r.skip 1).trim seen

def items : Nat → Rest → List Value → Except Fault (Value × Rest)
  | 0, r, _ => r.fault "Expecting value"
  | n + 1, r, seen => do
    let (v, r) ← value n r
    let r := r.trim
    if r.head? == some ']' then return (.list (seen ++ [v]), r.skip 1)
    else if r.head? != some ',' then r.fault "Expecting ',' delimiter"
    else items n (r.skip 1).trim (seen ++ [v])

end

def read (s : String) : Except Fault Value := do
  let cs := s.toList
  if cs.head? == some '\ufeff' then .error ⟨"Unexpected UTF-8 BOM (decode using utf-8-sig)", 0⟩
  else
    let (v, r) ← value (2 * cs.length + 2) (Rest.mk 0 cs).trim
    let r := r.trim
    if r.chars.isEmpty then return v else r.fault "Extra data"

end Panel.Json
