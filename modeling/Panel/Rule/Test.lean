import Panel.Session
import Panel.Text.Similarity
import Panel.Text.Pattern

/-! # Tests — the elementary rules that a configuration value can be held to

    A test accepts a value, usually in a normal form, or refuses it with issues. -/

namespace Panel

open Cpp Text

abbrev Test := Value → Check Value

namespace Test

/-! ## Combinations -/

/-- In its place inside a larger rule, a value that cannot be converted is an issue. -/
def guarded (t : Test) : Test := fun v =>
  tryCatch (t v) fun
    | .badValue _ => refuse "not a valid value"
    | .notExpression => refuse "not a valid value"
    | .badEncoding => refuse "not a valid value"
    | e => throw e

def below (step : Step) (t : Test) : Test := fun v =>
  tryCatch (t v) fun e => throw (e.within [step])

/-- The tests in turn, each on what the one before gives. -/
def allOf : List Test → Test
  | [], v => pure v
  | t :: ts, v => do allOf ts (← guarded t v)

/-- Tries the tests in turn; if none accepts, the refusal that lies deepest stands, the first of
    those. -/
def anyOfFrom (best : Option Failure) : List Test → Test
  | [], _ =>
    match best with
    | some e => throw e
    | none => refuse "no valid value found"
  | t :: ts, v =>
    tryCatch (guarded t v) fun
      | .refused issues =>
        let e := Failure.refused issues
        let deeper : Bool := match best with
          | some b => decide (b.path.length < e.path.length)
          | none => true
        anyOfFrom (if deeper then some e else best) ts v
      | e => throw e

/-- The first of the tests that accepts. -/
def anyOf (ts : List Test) : Test := anyOfFrom none ts

/-- Every item of a list in turn.  A refusal inside an item ends the walk at once; refusals of
    items themselves are collected. -/
def itemsFrom (t : Test) : Nat → List Value → List Value → List Issue → Check (List Value)
  | _, [], done, [] => pure done.reverse
  | _, [], _, i :: others => throw (.refused ⟨i, others⟩)
  | i, v :: vs, done, issues => do
    let outcome : Except Failure Value ← tryCatch (.ok <$> guarded t v) fun e => pure (.error e)
    match outcome with
    | .ok w => itemsFrom t (i + 1) vs (w :: done) issues
    | .error (.refused found) =>
      let e := (Failure.refused found).within [.index i]
      if e.path.length > 1 then throw e
      else match e with
        | .refused more => itemsFrom t (i + 1) vs done (issues ++ more.toList)
        | other => throw other
    | .error e => throw e

def listOf (t : Test) : Test
  | .list xs => do return .list (← itemsFrom t 0 xs [] [])
  | _ => refuse "expected a list"

def noLambda (v : Value) : Check Unit :=
  if v.isLambda then refuse "This option is not templatable!" else pure ()

/-- A list of values, or a single one standing for a list of one. -/
def ensureList (t : Test) : Test := fun v => do
  noLambda v
  match v with
  | .null => return .list []
  | .dict [] => return .list []
  | .list xs => return .list (← itemsFrom t 0 xs [] [])
  | _ => return .list [← guarded t v]

/-! ## Scalars -/

def kindName : Value → String
  | .null => "NoneType"
  | .bool _ => "bool"
  | .int _ => "int"
  | .float _ => "float"
  | .str _ => "str"
  | .placed _ _ _ => "str"
  | .choice _ _ => "str"
  | .list _ => "list"
  | .dict _ => "dict"
  | .lambda _ => "esphome.core.Lambda"
  | .period .milli _ => "esphome.core.TimePeriodMilliseconds"
  | .period .second _ => "esphome.core.TimePeriodSeconds"
  | .period .micro _ => "esphome.core.TimePeriodMicroseconds"
  | .period .minute _ => "esphome.core.TimePeriodMinutes"
  | .period .free _ => "esphome.core.TimePeriod"
  | .ident _ => "esphome.core.ID"
  | .cpp (.object _ _) => "esphome.cpp_generator.MockObj"
  | .cpp (.raw _) => "esphome.cpp_generator.RawExpression"
  | .cpp _ => "esphome.cpp_generator.Expression"
  | .probe => "object"

def text : Test := fun v => do
  noLambda v
  match v with
  | .dict _ => refuse "string value cannot be dictionary or list."
  | .list _ => refuse "string value cannot be dictionary or list."
  | .bool _ =>
    refuse "Auto-converted this value to boolean, please wrap the value in quotes."
  | .null => refuse "string value is None"
  | .str _ => return v
  | .placed _ _ _ => return v
  | .choice _ _ => return v
  | other => return .str other.show

def textOf (v : Value) : Check String := do
  return (← text v).show

def strictText : Test := fun v => do
  noLambda v
  if v.isText then return v
  else refuse ("Must be string, got <class '" ++ kindName v
    ++ "'>. did you forget putting quotes around the value?")

def boolean : Test := fun v => do
  noLambda v
  match v with
  | .bool _ => return v
  | _ =>
    let shown := match v.text? with
      | some s => lower s
      | none => v.show
    if v.isText && ["true", "yes", "on", "enable"].contains shown then return .bool true
    else if v.isText && ["false", "no", "off", "disable"].contains shown then return .bool false
    else refuse ("Expected boolean value, but cannot convert " ++ shown
      ++ " to a boolean. Please use 'true' or 'false'")

def truncated (x : Float) : Check Int :=
  match truncate? x with
  | some n => pure n
  | none =>
    if x.isNaN then throw (.badValue "cannot convert float NaN to integer")
    else throw .tooLarge

/-- An integer, a whole number, or a text of one, hexadecimal after `0x`. -/
def integer : Test := fun v => do
  noLambda v
  match v with
  | .int _ => return v
  | .bool _ => return v
  | .float x =>
    let n ← truncated x
    if isWhole x then return .int n
    else refuse ("This option only accepts integers with no fractional part. Please remove "
      ++ "the fractional part from " ++ floatText x)
  | _ =>
    let s := lower (← strictText v).show
    let n? := if hasPrefix "0x" s then readHex? s else readInt? s
    match n? with
    | some n => return .int n
    | none => refuse ("Expected integer, but cannot parse " ++ s ++ " as an integer")

/-- The integer that a value counts as. -/
def intOf? : Value → Option Int
  | .int n => some n
  | .bool b => some (if b then 1 else 0)
  | _ => none

/-- The double that a number counts as. -/
def floatOf? : Value → Option Float
  | .float x => some x
  | .int n => some (Float.ofInt n)
  | .bool b => some (if b then 1.0 else 0.0)
  | _ => none

def number : Test := fun v =>
  match v with
  | .float _ => pure v
  | .bool b => pure (.float (if b then 1.0 else 0.0))
  | .int n =>
    match floatOfInt? n with
    | some x => pure (.float x)
    | none => throw .tooLarge
  | _ =>
    match v.text?.bind readFloat? with
    | some x => pure (.float x)
    | none => refuse "expected float"

/-- How two numbers compare: at least, with nothing at least a NaN. -/
def atLeast? (v w : Value) : Option Bool :=
  match v, w with
  | .period _ a, .period _ b => some (decide (b ≤ a))
  | _, _ =>
    match intOf? v, intOf? w with
    | some m, some n => some (decide (n ≤ m))
    | _, _ =>
      match floatOf? v, floatOf? w with
      | some x, some y => some (decide (y ≤ x))
      | _, _ => none

def within (low high : Option Value) : Test := fun v => do
  let noOrder := refuse "invalid value or type (must have a partial ordering)"
  if v.isObject then return v
  match low with
  | none => pure ()
  | some l =>
    match atLeast? v l with
    | some true => pure ()
    | some false => refuse ("value must be at least " ++ l.show)
    | none => noOrder
  match high with
  | none => pure ()
  | some h =>
    match atLeast? h v with
    | some true => pure ()
    | some false => refuse ("value must be at most " ++ h.show)
    | none => noOrder
  return v

def intRange (low high : Option Int) : Test :=
  allOf [integer, within (low.map .int) (high.map .int)]

def natural : Test := intRange (some 0) none

def floatRange (low high : Value) : Test :=
  allOf [number, within (some low) (some high)]

/-- A share between minus one and one, as a number or in percent. -/
def signedShare : Test := fun v => do
  let n ← match v.text? with
    | none => pure v
    | some s =>
      if hasSuffix "%" s then
        match readFloat? (trimRight (dropEnd 1 s)) with
        | some x => pure (.float (x / 100.0))
        | none => refuse "invalid number"
      else match readFloat? s with
        | some x => pure (.float x)
        | none => refuse "invalid number"
  let tooHigh := refuse
    "Percentage must not be higher than 100%. Please put a percent sign after the number!"
  if n.isObject then tooHigh
  match atLeast? n (.int 1), atLeast? (.int (-1)) n with
  | some above, some below =>
    if above && !Value.same n (.int 1) then tooHigh
    if below && !Value.same n (.int (-1)) then
      refuse ("Percentage must not be smaller than -100%. Please put a percent sign after "
        ++ "the number!")
    floatRange (.int (-1)) (.int 1) n
  | _, _ => throw .wrongKind

/-- A share between zero and one, as a number or in percent. -/
def percentage : Test := fun v => do
  floatRange (.int 0) (.int 1) (← signedShare v)

/-! ## Words from a list -/

/-- How a word is brought into the form that the options have. -/
structure WordForm where
  lower : Bool := false
  upper : Bool := false
  space : String := " "

def optionsText (options : List String) : String :=
  String.intercalate ", " (options.map fun o => "'" ++ o ++ "'")

/-- The refusal of a word that is no option. -/
def unknownWord {α : Type} (word : String) (options : List String) : Check α :=
  match closeMatches word options with
  | [] => refuse ("Unknown value '" ++ word ++ "', valid options are " ++ optionsText options ++ ".")
  | near => refuse ("Unknown value '" ++ word ++ "', did you mean " ++ optionsText near ++ "?")

/-- One of the words, in the form given. -/
def wordOf (form : WordForm) (options : List String) (v : Value) : Check String := do
  let s ← textOf v
  let s := respace form.space s
  let s := if form.lower then lower s else s
  let s := if form.upper then upper s else s
  if options.contains s then return s else unknownWord s options

def lowerWord (options : List String) : Test := fun v => do
  return .str (← wordOf { lower := true } options v)

def upperWord (options : List String) : Test := fun v => do
  return .str (← wordOf { upper := true } options v)

def exactly (options : List Value) : Test := fun v =>
  if v.isObject || options.any (Value.same v ·) then pure v
  else unknownWord v.show (options.map Value.show)

/-- One of the words in upper case, carrying what it is mapped to. -/
def choiceOf (mapping : List (String × String)) : Test := fun v => do
  let key ← wordOf { upper := true } (mapping.map (·.1)) v
  match mapping.find? (·.1 == key) with
  | some (_, mapped) => return .choice key mapped
  | none => throw (.missingKey key)

/-! ## Identifiers -/

def reservedNames : List String :=
  ["alignas", "alignof", "and", "and_eq", "asm", "auto", "bitand", "bitor", "bool", "break",
    "case", "catch", "char", "char16_t", "char32_t", "class", "compl", "concept", "const",
    "constexpr", "const_cast", "continue", "decltype", "default", "delete", "do", "double",
    "dynamic_cast", "else", "enum", "explicit", "export", "extern", "false", "float", "for",
    "friend", "goto", "if", "inline", "int", "long", "mutable", "namespace", "new", "noexcept",
    "not", "not_eq", "nullptr", "operator", "or", "or_eq", "private", "protected", "public",
    "register", "reinterpret_cast", "requires", "return", "short", "signed", "sizeof", "static",
    "static_assert", "static_cast", "struct", "switch", "template", "this", "thread_local",
    "throw", "true", "try", "typedef", "typeid", "typename", "union", "unsigned", "using",
    "virtual", "void", "volatile", "wchar_t", "while", "xor", "xor_eq", "App", "pinMode",
    "delay", "delayMicroseconds", "digitalRead", "digitalWrite", "INPUT", "OUTPUT", "uint8_t",
    "uint16_t", "uint32_t", "uint64_t", "int8_t", "int16_t", "int32_t", "int64_t", "close",
    "pause", "sleep", "open", "setup", "loop"]

def idName : Test := fun v => do
  let t ← text v
  let s := t.show
  match s.toList with
  | [] => refuse "ID must not be empty"
  | c :: cs =>
    if isDigit c then refuse "First character in ID cannot be a digit."
    if (c :: cs).contains '-' then
      refuse "Dashes are not supported in IDs, please use underscores instead."
    match (c :: cs).find? fun d => !(d.isAlphanum || d == '_') with
    | some d =>
      refuse ("IDs must only consist of upper/lowercase characters, the underscorecharacter "
        ++ "and numbers. The character '" ++ String.ofList [d] ++ "' cannot be used")
    | none => pure ()
    if reservedNames.contains s then
      refuse ("ID '" ++ s ++ "' is reserved internally and cannot be used")
    if (← get).loaded.contains s then
      refuse ("ID '" ++ s ++ "' conflicts with the name of an esphome integration, please use "
        ++ "another ID name.")
    return t

def useId (type : CppType) : Test := fun v => do
  noLambda v
  match v with
  | .null => return .ident (Ident.reference none type)
  | .ident id =>
    if !id.declared && id.type == some type then return v
    else return .ident (Ident.reference (some (← idName v).show) type)
  | _ => return .ident (Ident.reference (some (← idName v).show) type)

def declareId (type : CppType) : Test := fun v => do
  noLambda v
  match v with
  | .null => return .ident (Ident.declaration none type)
  | _ => return .ident (Ident.declaration (some (← idName v).show) type)

/-- Refuses a value unless the integration is loaded. -/
def requires (name : String) : Test := fun v => do
  if (← get).loaded.contains name then return v
  else refuse ("This option requires component " ++ name)

/-- Notes that an integration is needed, and refuses a value unless it is loaded. -/
def needsComponent (name : String) : Test := fun v => do
  modify fun s => { s with components := addTo s.components name }
  requires name v

/-! ## Code -/

/-- A lambda, or a text that becomes one.  Names of remote entities are refused. -/
def lambda : Test := fun v => do
  let body ← match v with
    | .lambda body => pure body
    | _ => pure (← strictText v).show
  match entityCalls body.toList with
  | [] => return .lambda body
  | names =>
    refuse ("Lambda contains reference to entity-id-style ID "
      ++ String.intercalate " " (names.map fun n => "'" ++ n ++ "'")
      ++ ". The id() wrapper only works for ESPHome-internal types. For importing states "
      ++ "from Home Assistant use the 'homeassistant' sensor platforms.")

def returningLambda : Test := fun v => do
  match ← lambda v with
  | .lambda body =>
    if hasPart "return" body then return .lambda body
    else refuse ("Lambda doesn't contain a 'return' statement, but the lambda is expected to "
      ++ "return a value. \nPlease make sure the lambda contains at least one return "
      ++ "statement.")
  | other => return other

/-- A lambda that returns, or a value that passes the test. -/
def templatable (t : Test) : Test := fun v =>
  if v.isLambda then returningLambda v else guarded t v

/-! ## Shapes -/

/-- The number of items, entries or characters of a value. -/
def length? : Value → Option Nat
  | .list xs => some xs.length
  | .dict es => some es.length
  | v => v.text?.map String.length

def lengthWithin (low high : Nat) : Test := fun v =>
  match length? v with
  | none => refuse "invalid value or type"
  | some n =>
    if n < low then refuse ("length of value must be at least " ++ toString low)
    else if high < n then refuse ("length of value must be at most " ++ toString high)
    else pure v

def atMostOneKey (keys : List String) : Test
  | .dict es =>
    if (es.filter fun (k, _) => keys.contains k).length > 1 then
      refuse ("Cannot specify more than one of " ++ String.intercalate ", " keys ++ ".")
    else pure (.dict es)
  | _ => refuse "expected dictionary"

/-- At least one of the keys is given. -/
def atLeastOneKey (keys : List String) : Test
  | .dict es =>
    if es.any fun (k, _) => keys.contains k then pure (.dict es)
    else refuse ("Must contain at least one of " ++ String.intercalate ", " keys ++ ".")
  | _ => refuse "expected dictionary"

def never (message : String) : Test := fun _ => refuse message

def isBool : Test
  | .bool b => pure (.bool b)
  | _ => refuse "expected bool"

def metric : List (String × Float) :=
  [("E", 1e18), ("P", 1e15), ("T", 1e12), ("G", 1e9), ("M", 1e6), ("k", 1e3), ("da", 10.0),
    ("d", 1e-1), ("c", 1e-2), ("m", 0.001), ("µ", 1e-6), ("u", 1e-6), ("n", 1e-9), ("p", 1e-12),
    ("f", 1e-15), ("a", 1e-18), ("", 1.0)]

/-- An angle in degrees, with or without its unit. -/
def angle : Test := fun v => do
  let plain : Option Value ← tryCatch (some <$> number v) fun
    | .refused _ => pure none
    | e => throw e
  match plain with
  | some x => return x
  | none =>
    match amountBefore? ["°", "deg"] (← textOf v) with
    | none => refuse ("Expected angle with unit, got " ++ v.show)
    | some (number, scale) =>
      match readFloat? number with
      | none => throw (.badValue ("could not convert string to float: " ++ quoted number))
      | some x =>
        match metric.find? (·.1 == scale) with
        | some (_, m) => return .float (x * m)
        | none => refuse ("Invalid angle suffix " ++ scale)

def convertInt (v : Value) : Check Int :=
  match v with
  | .int n => pure n
  | .bool b => pure (if b then 1 else 0)
  | .float x => truncated x
  | _ =>
    match v.text? with
    | some s =>
      match readInt? s with
      | some n => pure n
      | none =>
        throw (.badValue ("invalid literal for int() with base 10: " ++ quoted s))
    | none => throw .wrongKind

/-- A width and a height, as a list or as `WxH`. -/
def dimensions : Test := fun v => do
  let pair (a b : Value) : Check Value := do
    let bad : Failure → Check Int := fun
      | .badValue _ => refuse "Width and height dimensions must be integers"
      | e => throw e
    let w ← tryCatch (convertInt a) bad
    let h ← tryCatch (convertInt b) bad
    if w ≤ 0 || h ≤ 0 then refuse "Width and height must at least be 1"
    return .list [.int w, .int h]
  match v with
  | .list [a, b] => pair a b
  | .list xs =>
    refuse ("Dimensions must have a length of two, not " ++ toString xs.length)
  | _ =>
    match sizePair? ['x', 'X'] (← textOf v) with
    | some (w, h, _) => pair (.int w) (.int h)
    | none =>
      refuse "Invalid value '\x7b\x7d' for dimensions. Only WIDTHxHEIGHT is allowed."

end Test

end Panel
