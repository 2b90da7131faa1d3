import Panel.Property.Measure
import Panel.Access

/-! # Texts — fixed, formatted, or with the time of a clock -/

namespace Panel

open Cpp Code Text

/-! ## Format texts -/

/-- Drops a number of digits or a star, if one is there. -/
def afterCount (cs : List Char) : List Char :=
  match cs with
  | '*' :: rest => rest
  | _ => cs.dropWhile fun c => (digitValue? c).isSome

/-- Drops a point and a precision, if both are there. -/
def afterPrecision (cs : List Char) : List Char :=
  match cs with
  | '.' :: '*' :: rest => rest
  | '.' :: rest =>
    let after := rest.dropWhile fun c => (digitValue? c).isSome
    if after.length < rest.length then after else cs
  | _ => cs

/-- What may follow the precision: each length modifier dropped, or none. -/
def afterSize (cs : List Char) : List (List Char) :=
  let dropped := ["h", "l", "ll", "w", "I", "I32", "I64"].filterMap fun m =>
    if m.toList.isPrefixOf cs then some (cs.drop m.length) else none
  dropped ++ [cs]

def conversionLetters : List Char := "cCdiouxXeEfgGaAnpsSZ".toList

/-- The rest after a conversion that begins after its percent sign and ends in one of the
    letters. -/
def conversionEnd? (letters : List Char) (cs : List Char) : Option (List Char) :=
  let flags := cs.takeWhile fun c => "-+0 #".toList.contains c
  let tries := (List.range (min flags.length 5 + 1)).reverse
  tries.findSome? fun k =>
    let rest := cs.drop k
    let counts := [afterCount rest, rest]
    counts.findSome? fun afterWidth =>
      [afterPrecision afterWidth, afterWidth].findSome? fun afterPoint =>
        (afterSize afterPoint).findSome? fun tail =>
          match tail with
          | c :: after => if letters.contains c then some after else none
          | [] => none

/-- The conversions of a format text, in order, in as many steps as it has characters. -/
def conversionsWithin (letters : List Char) : Nat → List Char → List String
  | 0, _ => []
  | _ + 1, [] => []
  | n + 1, c :: cs =>
    if c == '%' then
      match conversionEnd? letters cs with
      | some after =>
        String.ofList (c :: cs.take (cs.length - after.length))
          :: conversionsWithin letters n after
      | none => conversionsWithin letters n cs
    else conversionsWithin letters n cs

/-- The conversions of a format text that end in one of the letters. -/
def conversions (letters : List Char) (format : String) : List String :=
  conversionsWithin letters format.length format.toList

/-- A format with its arguments: as many conversions as arguments, and a single `%f` if there is a
    text for values that are no numbers. -/
def checkFormat : Test := fun v => do
  let format ← required v "format"
  match format.text? with
  | none => throw .wrongKind
  | some s =>
    let found := conversions conversionLetters s
    match Test.length? (← required v "args") with
    | none => throw .wrongKind
    | some n =>
      if found.length != n then
        refuse ("Found " ++ toString found.length ++ " printf-patterns ("
          ++ String.intercalate ", " found ++ "), but " ++ toString n ++ " args were given!")
      if ((v.get? "if_nan").getD .null).truthy && (conversions ['f'] s).length != 1 then
        refuse "Use of 'if_nan' requires a single valid printf-pattern of type %f"
      return v

/-! ## The property -/

namespace Property

/-- Arguments one after the other: those of a list, the keys of a dictionary or the letters of a
    text. -/
def joinedArgs : Value → Check String
  | .list xs => pure (String.intercalate "," (xs.map Value.show))
  | .dict es => pure (String.intercalate "," (es.map (·.1)))
  | other =>
    match other.text? with
    | some s => pure (String.intercalate "," (s.toList.map fun c => String.ofList [c]))
    | none => throw .wrongKind

def quotedText (x : Value) : Check String :=
  match x.text? with
  | some s => pure (cppString s)
  | none => throw .wrongKind

/-- The call, or a text in its place where the arguments are no numbers. -/
def orMissing (args call : String) : Option Value → Check Value
  | some missing =>
    if missing.truthy then do
      return .literal ("(std::isfinite(" ++ args ++ ") ? " ++ call ++ " : "
        ++ (← quotedText missing) ++ ")")
    else return .literal call
  | none => return .literal call

def formFormat (v format : Value) : Check Value := do
  let args ← joinedArgs (← required v "args")
  let call := "str_sprintf(" ++ (← quotedText format) ++ ", " ++ args ++ ").c_str()"
  orMissing args call (v.get? "if_nan")

/-- The time of a clock, which is a lambda or an object. -/
def clockOf (params : List Param) : Value → Build Expr
  | .lambda body => do
    return Expr.object (inlined (← closure body params "=" (some calendarTime))) .dot
  | .ident id => do return (← resolve id).method "now" []
  | _ => throw .noAttribute

def formTime (params : List Param) (v format : Value) : Build Value := do
  let source ← clockOf params (← required v "time")
  let shown ← methodOf source "strftime" [format]
  return .cpp (shown.method "c_str" [])

def asCString (e : Expr) : Value :=
  let text := e.render
  if hasSuffix "c_str()" text || (hasSuffix "\"" text && hasPrefix "\"" text) then
    .cpp e
  else .literal ("(" ++ text ++ ").c_str()")

def emitText (params : List Param) (v : Value) : Build Value := do
  let params ← lambdaParams params
  let format := (v.get? "format").getD .null
  let timeFormat := (v.get? "time_format").getD .null
  if format.truthy then formFormat v format
  else if timeFormat.truthy then formTime params v timeFormat
  else
    match v with
    | .null => return .null
    | .lambda body =>
      return asCString (inlined (← closure body params "=" (some stdString)))
    | _ => return .cpp (.quoted v.show)

def text : Property where
  validate := fun v => if v.has "format" then pure v else validateWith none Test.text v
  emitWith := emitText

def acceptOption : Test := fun v => do
  let s := trim (← Test.textOf v)
  if s.toList.contains '\n' then refuse "Options strings must not contain newlines"
  return .str s

end Property

end Panel
