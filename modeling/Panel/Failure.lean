import Panel.Value

/-! # Failures — why a description is refused or code cannot be generated

    A description is refused with one or more issues, each at a path.  Everything else that can go
    wrong ends the work with a single cause. -/

namespace Panel

/-- One step of a path into a configuration. -/
inductive Step where
  | key (name : String)
  | index (n : Nat)
  deriving BEq, DecidableEq, Repr, Inhabited

/-- One reason why a description is refused. -/
structure Issue where
  path : List Step
  message : String
  deriving BEq, DecidableEq, Repr, Inhabited

/-- Why a description is refused: one reason or more. -/
structure Issues where
  first : Issue
  others : List Issue
  deriving BEq, DecidableEq, Repr, Inhabited

namespace Issues

def toList (issues : Issues) : List Issue := issues.first :: issues.others

def map {α : Type} (issues : Issues) (f : Issue → α) : List α := issues.toList.map f

end Issues

/-- The cause of a failure. -/
inductive Failure where
  /-- The description breaks the rules at the places given. -/
  | refused (issues : Issues)
  /-- The work cannot be done, for the reason given. -/
  | rejected (message : String)
  /-- A key that must be there is missing. -/
  | missingKey (key : String)
  /-- A value cannot be converted. -/
  | badValue (message : String)
  /-- A value of the wrong shape was used as a C++ expression. -/
  | notExpression
  /-- An operation does not apply to a value of this kind. -/
  | wrongKind
  /-- A value has no such attribute. -/
  | noAttribute
  | noIndex
  | tooLarge
  /-- A condition that must always hold is broken. -/
  | brokenPromise
  /-- A file does not exist. -/
  | noFile
  /-- A sequence that must hold something is empty. -/
  | exhausted
  /-- A byte sequence is no text. -/
  | badEncoding
  | zeroDivision
  /-- A name was looked for that is bound to nothing. -/
  | unbound
  /-- The work waits for an object that never appears. -/
  | pending
  | tooDeep
  deriving BEq, DecidableEq, Repr, Inhabited

namespace Failure

/-- A refusal with one issue at the place itself. -/
def invalid (message : String) : Failure := .refused ⟨⟨[], message⟩, []⟩

/-- A refusal with one issue below the place. -/
def invalidAt (path : List Step) (message : String) : Failure := .refused ⟨⟨path, message⟩, []⟩

def within (path : List Step) : Failure → Failure
  | .refused ⟨first, others⟩ =>
    let below (i : Issue) : Issue := { i with path := path ++ i.path }
    .refused ⟨below first, others.map below⟩
  | other => other

/-- The path of a refusal is that of its first issue. -/
def path : Failure → List Step
  | .refused issues => issues.first.path
  | _ => []

end Failure

end Panel
