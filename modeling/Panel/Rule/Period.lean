import Panel.Rule.Test

/-! # Time periods — amounts of time with a unit -/

namespace Panel

open Test Text

namespace Period

/-- The amounts of a period, from days down to microseconds. -/
structure Parts where
  days : Int := 0
  hours : Int := 0
  minutes : Int := 0
  seconds : Int := 0
  millis : Int := 0
  micros : Int := 0

def Parts.total (p : Parts) : Int :=
  ((((p.days * 24 + p.hours) * 60 + p.minutes) * 60 + p.seconds) * 1000 + p.millis) * 1000
    + p.micros

/-- The nearest whole number, halves to even. -/
def rounded (x : Float) : Check Int :=
  match roundEven? x with
  | some n => pure n
  | none =>
    if x.isNaN then throw (.badValue "cannot convert float NaN to integer") else throw .tooLarge

/-- Splits an amount into a whole number and the fraction left for the next smaller unit.  An
    amount within a thousandth of a whole number is that number. -/
def split (amount : Value) : Check (Int × Option Float) := do
  match amount with
  | .int n => return (n, none)
  | .float x =>
    let n ← rounded x
    if (x - Float.ofInt n).abs < 0.001 then return (n, none)
    else
      let whole ← truncated x
      return (whole, some (x - Float.ofInt whole))
  | _ => throw .wrongKind

/-- Adds a fraction, counted in the next smaller unit, to the amount of that unit. -/
def carry (amount : Option Value) (fraction : Option Float) (factor : Float) : Option Value :=
  match fraction with
  | none => amount
  | some f =>
    match amount with
    | some (.int n) => some (.float (Float.ofInt n + f * factor))
    | some (.float x) => some (.float (x + f * factor))
    | _ => some (.float (f * factor))

def unitAmount (amount : Option Value) : Check (Int × Option Float) :=
  match amount with
  | none => pure (0, none)
  | some v => split v

def ofAmounts (get? : String → Option Value) : Check Parts := do
  let (days, f) ← unitAmount (get? "days")
  let (hours, f) ← unitAmount (carry (get? "hours") f 24)
  let (minutes, f) ← unitAmount (carry (get? "minutes") f 60)
  let (seconds, f) ← unitAmount (carry (get? "seconds") f 60)
  let (millis, f) ← unitAmount (carry (get? "milliseconds") f 1000)
  let (micros, f) ← unitAmount (carry (get? "microseconds") f 1000)
  match f with
  | some _ => throw (.badValue "Maximum precision is microseconds")
  | none => return { days, hours, minutes, seconds, millis, micros }

/-- The units and the amounts they stand for. -/
def units : List (String × String) :=
  [("us", "microseconds"), ("microseconds", "microseconds"), ("ms", "milliseconds"),
    ("milliseconds", "milliseconds"), ("s", "seconds"), ("sec", "seconds"),
    ("seconds", "seconds"), ("min", "minutes"), ("minutes", "minutes"), ("h", "hours"),
    ("hours", "hours"), ("d", "days"), ("days", "days")]

def ofUnitText (v : Value) : Check Parts := do
  noLambda v
  let noUnit (shown : String) : Check Parts :=
    refuse ("Don't know what '" ++ shown ++ "' means as it has no time *unit*! Did you mean '"
      ++ shown ++ "s'?")
  let read (s : String) : Check Parts :=
    match amountWithUnit? s with
    | none => refuse ("Expected time period with unit, got " ++ s)
    | some (number, unit) =>
      match units.find? (·.1 == unit) with
      | none => unknownWord unit (units.map (·.1))
      | some (_, name) =>
        match readFloat? number with
        | none =>
          throw (.badValue ("could not convert string to float: " ++ quoted number))
        | some x => ofAmounts fun u => if u == name then some (.float x) else none
  match v with
  | .int n => noUnit (toString n)
  | .bool b => noUnit (Value.bool b).show
  | .period _ _ => read v.show
  | _ =>
    match v.text? with
    | some s => read s
    | none => refuse "Expected string for time period with unit."

/-- A period from a clock text `HH:MM` or `HH:MM:SS`. -/
def ofClockText (v : Value) : Check Parts := do
  let bad : Check Parts :=
    refuse ("Expected time period with unit, got " ++ v.show)
  match v.text? with
  | none => bad
  | some s =>
    match (parts ':' s).mapM readInt? with
    | some [h, m] => return { hours := h, minutes := m }
    | some [h, m, sec] => return { hours := h, minutes := m, seconds := sec }
    | _ => bad

def unitNames : List String :=
  ["days", "hours", "minutes", "seconds", "milliseconds", "microseconds"]

/-- Checks the amounts of a dictionary one by one, collecting what is wrong. -/
def amountsFrom : Entries → Entries → List Issue → Check Entries
  | [], done, [] => pure done.reverse
  | [], _, i :: others => throw (.refused ⟨i, others⟩)
  | (k, v) :: es, done, issues => do
    if !unitNames.contains k then
      amountsFrom es done (issues ++ [⟨[.key k], "extra keys not allowed"⟩])
    else
      let outcome : Except Failure Value ←
        tryCatch (.ok <$> guarded number v) fun e => pure (.error e)
      match outcome with
      | .ok x => amountsFrom es ((k, x) :: done) issues
      | .error (.refused more) =>
        match (Failure.refused more).within [.key k] with
        | .refused found => amountsFrom es done (issues ++ found.toList)
        | e => throw e
      | .error e => throw e

def ofDict (v : Value) : Check Parts := do
  match v with
  | .dict es =>
    let es ← amountsFrom es [] []
    if es.isEmpty then
      refuse ("Must contain at least one of " ++ String.intercalate ", " unitNames ++ ".")
    ofAmounts (Entries.get? es)
  | _ => refuse "expected a dictionary"

/-- Tries the ways to read a period in turn; the deepest refusal stands. -/
def firstOf (best : Option Failure) : List (Value → Check Parts) → Value → Check Parts
  | [], _ => throw (best.getD (.invalid "no valid value found"))
  | f :: fs, v =>
    let retry (e : Failure) : Check Parts :=
      let deeper : Bool := match best with
        | some b => decide (b.path.length < e.path.length)
        | none => true
      firstOf (if deeper then some e else best) fs v
    tryCatch (f v) fun
      | .refused issues => retry (.refused issues)
      | .badValue _ => retry (.invalid "not a valid value")
      | e => throw e

def parts (v : Value) : Check Parts :=
  firstOf none [ofUnitText, ofClockText, ofDict] v

def positive (v : Value) : Check Parts := do
  let p ← parts v
  if p.total < 0 then refuse "value must be at least 0s"
  return p

def milliseconds : Test := fun v => do
  let p ← positive v
  if p.micros != 0 then refuse "Maximum precision is milliseconds"
  return .period .milli p.total

def seconds : Test := fun v => do
  let p ← positive v
  if p.micros != 0 || p.millis != 0 then refuse "Maximum precision is seconds"
  return .period .second p.total

/-- A period between two updates, or `never`. -/
def updateInterval : Test := fun v =>
  if v.isObject || v.text? == some "never" then pure (.int 4294967295) else milliseconds v

end Period

end Panel
