import Panel.Rule.Test
import Panel.Code.Lambda

/-! # Naming — every declaration gets a name, every reference its declaration

    The identifiers of a configuration are visited depth first, in order. -/

namespace Panel

open Cpp

/-- An identifier and its place. -/
structure Found where
  id : Ident
  path : List Step
  deriving Inhabited

namespace Naming

/-! ## Identifiers of a configuration -/

mutual

/-- The identifiers of a value, depth first. -/
def found (path : List Step) : Value → List Found
  | .ident id => [⟨id, path⟩]
  | .lambda body => (Code.references body).map fun n => ⟨⟨some n, none, false, true⟩, path⟩
  | .list xs => foundItems path 0 xs
  | .dict es => foundEntries path es
  | _ => []

def foundItems (path : List Step) (i : Nat) : List Value → List Found
  | [] => []
  | v :: vs => found (path ++ [.index i]) v ++ foundItems path (i + 1) vs

def foundEntries (path : List Step) : Entries → List Found
  | [] => []
  | (k, v) :: es => found (path ++ [.key k]) v ++ foundEntries path es

end

/-! ## Declarations -/

def stepText : Step → String
  | .key k => k
  | .index n => toString n

def sameName (a : Ident) (b : Found) : Bool := b.id.name.isSome && a.name == b.id.name

/-- The declarations that count, and the issues of those that repeat a name. -/
def declarations : List Found → List Found → List Issue → List Found × List Issue
  | [], kept, issues => (kept, issues)
  | f :: fs, kept, issues =>
    if !f.id.declared then declarations fs kept issues
    else
      match kept.find? (sameName f.id) with
      | some first =>
        let place := String.intercalate "->" (first.path.map stepText)
        declarations fs kept
          (issues ++ [⟨f.path, "ID " ++ f.id.text ++ " redefined! Check " ++ place⟩])
      | none => declarations fs (kept ++ [f]) issues

def typeStem (id : Ident) : String :=
  let base := Text.lower (id.typeText.replace "::" "_")
  String.ofList (base.toList.filter fun c => c.isAlphanum || c == '_')

/-- The first of `stem`, `stem_2`, `stem_3`, … that is not used; one of the first `n` is free when
    fewer than `n` names are used. -/
def uniqueFrom (stem : String) (used : List String) : Nat → Nat → String
  | 0, k => stem ++ "_" ++ toString k
  | n + 1, k =>
    let name := if k ≤ 1 then stem else stem ++ "_" ++ toString k
    if used.contains name then uniqueFrom stem used n (k + 1) else name

/-- A name made from the type of an identifier that is not used. -/
def madeUp (id : Ident) (used : List String) : String :=
  uniqueFrom (typeStem id) used (used.length + 1) 1

/-- Fills in the names of declarations that have none, in order. -/
def nameAll (taken : List String) : List Found → List Found → List Found
  | done, [] => done
  | done, f :: fs =>
    match f.id.name with
    | some _ => nameAll taken (done ++ [f]) fs
    | none =>
      let used := (done ++ fs).filterMap (·.id.name) ++ taken
      nameAll taken (done ++ [{ f with id := { f.id with name := some (madeUp f.id used) } }]) fs

/-! ## References -/

/-- The declarations that a reference without a name can stand for. -/
def candidates (declared : List Found) (type : CppType) : List Ident :=
  (declared.map (·.id)).filter fun d =>
    match d.type with
    | some t => t.isClass && t.inheritsFrom type
    | none => false

/-- The candidate that a reference without a name stands for: the only one; of clocks the first. -/
def chosen? (declared : List Found) (type : CppType) : Option Ident :=
  match candidates declared type with
  | [d] => some d
  | d :: _ => if type.name == realTimeClock.name then some d else none
  | [] => none

def namedIssue? (declared : List Found) (name : String) (id : Ident) : Option String :=
  match (declared.map (·.id)).find? fun d => d.name == some name with
  | none => some (unknown declared name)
  | some d =>
    if !d.manual then some (unknown declared name)
    else
      match d.type, id.type with
      | some t, some u =>
        if t.isClass && u.isClass && !t.inheritsFrom u then
          some ("ID '" ++ name ++ "' of type " ++ t.name ++ " doesn't inherit from " ++ u.name
            ++ ". Please double check your ID is pointing to the correct value")
        else none
      | _, _ => none
where
  unknown (declared : List Found) (name : String) : String :=
    let manual := (declared.filter (·.id.manual)).filterMap (·.id.name)
    let similar := match Text.closeMatches name manual with
      | [] => ""
      | ms => " These IDs look similar: "
          ++ String.intercalate ", " (ms.map fun m => "\"" ++ m ++ "\"") ++ "."
    "Couldn't find ID '" ++ name ++ "'. Please check you have defined an ID with that name in "
      ++ "your configuration." ++ similar

/-- What is wrong with a reference that has no name. -/
def unnamedIssue? (declared : List Found) (last : String) (type : CppType) : Option String :=
  if (chosen? declared type).isSome then none
  else
    match candidates declared type with
    | [] =>
      some ("Couldn't find any component that can be used for '" ++ type.name
        ++ "'. Are you missing a hub declaration?")
    | ds =>
      let manual := (ds.filter (·.manual)).map fun d => "'" ++ d.text ++ "'"
      let advice :=
        if manual.isEmpty then
          "You must assign an explicit ID to the parent component you want to use."
        else (if manual.length > 1 then "Some are " else "One is ")
          ++ String.intercalate ", " manual
      some ("Too many candidates found for '" ++ last ++ "' type '" ++ type.name ++ "' " ++ advice)

/-- What is wrong with an identifier that refers to a declaration. -/
def referenceIssue? (declared : List Found) (f : Found) : Option Issue :=
  if f.id.declared then none
  else
    let message := match f.id.name, f.id.type with
      | some name, _ => namedIssue? declared name f.id
      | none, some type => unnamedIssue? declared ((f.path.getLast?.map stepText).getD "") type
      | none, none => none
    message.map fun m => ⟨f.path, m⟩

/-! ## The configuration with names -/

/-- An identifier with its name: declarations take the next of the names, references that of the
    declaration they stand for. -/
def filledIdent (declared : List Found) (id : Ident) (names : List String) :
    Ident × List String :=
  match id.name with
  | some _ => (id, names)
  | none =>
    if id.declared then ({ id with name := names.head? }, names.tail)
    else
      match id.type.bind (chosen? declared) with
      | some d => ({ id with name := d.name }, names)
      | none => (id, names)

mutual

def filled (declared : List Found) : Value → List String → Value × List String
  | .ident id, names =>
    let (id, names) := filledIdent declared id names
    (.ident id, names)
  | .list xs, names =>
    let (xs, names) := filledItems declared xs names
    (.list xs, names)
  | .dict es, names =>
    let (es, names) := filledEntries declared es names
    (.dict es, names)
  | v, names => (v, names)

def filledItems (declared : List Found) : List Value → List String → List Value × List String
  | [], names => ([], names)
  | v :: vs, names =>
    let (v, names) := filled declared v names
    let (vs, names) := filledItems declared vs names
    (v :: vs, names)

def filledEntries (declared : List Found) : Entries → List String → Entries × List String
  | [], names => ([], names)
  | (k, v) :: es, names =>
    let (v, names) := filled declared v names
    let (es, names) := filledEntries declared es names
    ((k, v) :: es, names)

end

/-- The names that were made up, in order. -/
def madeUpNames (before after : List Found) : List String :=
  (before.zip after).filterMap fun (b, a) => if b.id.name.isNone then a.id.name else none

def isComponent (id : Ident) : Bool :=
  match id.type with
  | some t => t.isClass && t.inheritsFrom component
  | none => false

/-- The references of a value with the names of what they stand for. -/
def resolved (declared : List Found) (v : Value) : Value := (filled declared v []).1

/-- A reference with the name of what it stands for. -/
def resolvedIdent (declared : List Found) (id : Ident) : Ident := (filledIdent declared id []).1

/-- Settles the names of the session's configuration; the answer is what is declared. -/
def settle : Check (List Found) := do
  let s ← get
  let all := foundEntries [] s.config
  let (before, repeated) := declarations all [] []
  let declared := nameAll (Test.reservedNames ++ s.loaded) [] before
  let issues := repeated ++ all.filterMap (referenceIssue? declared)
  if let i :: others := issues then throw (.refused ⟨i, others⟩)
  let (config, _) := filledEntries declared s.config (madeUpNames before declared)
  modify fun s =>
    { s with
      config := config
      declared := declared.filterMap (·.id.name)
      componentIds := (declared.filter fun f => isComponent f.id).filterMap (·.id.name)
      focused := s.focused.map (resolvedIdent declared)
      refreshed := s.refreshed.map (resolvedIdent declared)
      updated := s.updated.map fun (k, vs) => (k, vs.map (resolved declared)) }
  return declared

/-- A declaration with a name of its own, as if it were the only one. -/
def alone (s : Session) (id : Ident) : Ident :=
  match id.name with
  | some _ => id
  | none => { id with name := some (madeUp id (Test.reservedNames ++ s.loaded)) }

/-- A dictionary whose identifier at a key has a name of its own. -/
def settleAt (s : Session) (key : String) (config : Value) : Value :=
  match config.get? key with
  | some (.ident id) => config.put key (.ident (alone s id))
  | _ => config

/-! ## Places -/

/-- The place of the declaration of an identifier. -/
def placeOf (declared : List Found) (id : Ident) : Check (List Step) :=
  match declared.find? fun f => f.id.name == some id.text with
  | some f => pure f.path
  | none => throw (.missingKey ("ID " ++ id.text ++ " not found in configuration"))

/-- The value at a place; an empty dictionary if there is none. -/
def valueAt (v : Value) : List Step → Value
  | [] => v
  | .key k :: path =>
    match v.get? k with
    | some w => valueAt w path
    | none => .dict []
  | .index i :: path =>
    match v with
    | .list xs =>
      match xs[i]? with
      | some w => valueAt w path
      | none => .dict []
    | _ => .dict []

end Naming

end Panel
