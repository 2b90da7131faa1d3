import Panel.Session

/-! # The configuration header of the graphics library -/

namespace Panel

namespace Code

/-- Reports something that may be wrong. -/
def logWarning (text : String) : Check Unit :=
  modify fun s => { s with log := s.log ++ ["WARNING: " ++ text] }

def logError (text : String) : Check Unit :=
  modify fun s => { s with log := s.log ++ ["ERROR: " ++ text] }

/-- Keeps a remark to be reported at the end, once. -/
def warn (text : String) : Check Unit :=
  modify fun s => { s with warnings := addTo s.warnings text }

/-- Puts a value under a name: in place if the name is there, else at the end. -/
def putMacro : List (String × String) → String → String → List (String × String)
  | [], name, value => [(name, value)]
  | (n, v) :: rest, name, value =>
    if n == name then (n, value) :: rest else (n, v) :: putMacro rest name value

def macroValue? (macros : List (String × String)) (name : String) : Option String :=
  (macros.find? (·.1 == name)).map (·.2)

def defineMacro (name : String) (value : String) : Check Unit := do
  match macroValue? (← get).macros name with
  | some old =>
    if old != value then
      logError ("Redefinition of " ++ name ++ " - was " ++ old ++ " now " ++ value)
  | none => pure ()
  modify fun s => { s with macros := putMacro s.macros name value }

def enableMacro (name : String) : Check Unit := defineMacro name "1"

def macroLine (name : String) (value : Option String) : String :=
  match value with
  | some v => "#define " ++ name ++ " " ++ v
  | none => "#define " ++ name

/-- The text of the header: every definition, sorted. -/
def header (macros : List (String × String)) : String :=
  let lines := macros.map fun (n, v) => macroLine n (some v)
  "#pragma once\n" ++ String.intercalate "\n" (lines.mergeSort fun a b => decide (a ≤ b)) ++ "\n"

/-- The note under a key, made with the default if there is none. -/
def noteAt (key : String) (fallback : Value) : Check Value := do
  match Entries.get? (← get).notes key with
  | some v => return v
  | none =>
    modify fun s => { s with notes := s.notes ++ [(key, fallback)] }
    return fallback

end Code

end Panel
