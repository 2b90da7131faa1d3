import Panel.Text.Decimal

/-! # Small patterns — amounts with units, sizes and references inside texts -/

namespace Panel.Text

def isAsciiDigit (c : Char) : Bool := '0' ≤ c && c ≤ '9'

/-- The longest run of characters of a class, and the rest. -/
def spanWhile (p : Char → Bool) (cs : List Char) : List Char × List Char :=
  (cs.takeWhile p, cs.dropWhile p)

/-- A sign, digits, a point and digits, each of them optional, and the rest. -/
def amount (cs : List Char) : List Char × List Char :=
  let (s, cs) := match cs with
    | '-' :: r => (['-'], r)
    | '+' :: r => (['+'], r)
    | r => ([], r)
  let (whole, cs) := spanWhile isAsciiDigit cs
  let (point, cs) := match cs with
    | '.' :: r => (['.'], r)
    | r => ([], r)
  let (frac, cs) := spanWhile isAsciiDigit cs
  (s ++ whole ++ point ++ frac, cs)

/-- A text without one line feed at its end. -/
def withoutFinalNewline (cs : List Char) : List Char :=
  match cs.reverse with
  | '\n' :: r => r.reverse
  | _ => cs

def amountThenWord? (cs : List Char) : Option (String × String) :=
  let (number, rest) := amount cs
  let word := rest.dropWhile isBlank
  if word.all isWord then some (String.ofList number, String.ofList word) else none

/-- An amount and a word after it make up the text. -/
def amountWithUnit? (s : String) : Option (String × String) :=
  match amountThenWord? s.toList with
  | some r => some r
  | none => amountThenWord? (withoutFinalNewline s.toList)

/-- An amount, a word and one of the endings make up the text. -/
def amountBefore? (endings : List String) (s : String) : Option (String × String) :=
  let cs := withoutFinalNewline s.toList
  endings.findSome? fun e =>
    if hasSuffix e (String.ofList cs) then amountThenWord? (cs.take (cs.length - e.length))
    else none

/-- A run of decimal digits of any script as a number, and the rest. -/
def plainDigits (cs : List Char) : Option Nat × List Char :=
  let run := cs.takeWhile fun c => (digitValue? c).isSome
  if run.isEmpty then (none, cs)
  else (some (ofDigits (run.filterMap digitValue?)), cs.drop run.length)

/-- Digits, one of the signs `marks`, digits, with blanks between: the numbers and the rest. -/
def sizePair? (marks : List Char) (s : String) : Option (Nat × Nat × List Char) :=
  match plainDigits (s.toList.dropWhile isBlank) with
  | (some a, rest) =>
    match rest.dropWhile isBlank with
    | m :: rest =>
      if marks.contains m then
        match plainDigits (rest.dropWhile isBlank) with
        | (some b, rest) => some (a, b, rest.dropWhile isBlank)
        | _ => none
      else none
    | [] => none
  | _ => none

/-- The argument of a call that begins after its opening bracket: characters of the class
    between blanks, then the closing bracket. -/
def callArgument? (p : Char → Bool) (cs : List Char) : Option (String × List Char) :=
  let (name, rest) := spanWhile p (cs.dropWhile isBlank)
  match rest.dropWhile isBlank with
  | ')' :: after => if name.isEmpty then none else some (String.ofList name, after)
  | _ => none

def isEntityChar (c : Char) : Bool := c.isAlphanum || c == '_' || c == '.'

/-- Is it a name, a point, and more names and points? -/
def isEntityName (s : String) : Bool :=
  match spanWhile (fun c => c.isAlphanum || c == '_') s.toList with
  | (head, '.' :: tail) => !head.isEmpty && !tail.isEmpty
  | _ => false

/-- The dotted names that stand in `id(…)` calls. -/
def entityCalls : List Char → List String
  | [] => []
  | 'i' :: 'd' :: '(' :: cs =>
    match callArgument? isEntityChar cs with
    | some (name, _) =>
      if isEntityName name then name :: entityCalls cs else entityCalls cs
    | none => entityCalls cs
  | _ :: cs => entityCalls cs

end Panel.Text
