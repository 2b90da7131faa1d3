import Panel.Rule.Test

/-! # Records — rules for dictionaries -/

namespace Panel

/-- Whether a key must be there. -/
inductive Presence where
  | required
  | optional
  | generated
  | exclusive (group : String) (message : Option String)
  deriving BEq, DecidableEq, Repr, Inhabited

/-- One key of a record. -/
structure Field where
  key : String
  presence : Presence
  default? : Option Value
  test : Test

namespace Field

def required (key : String) (test : Test) : Field := ⟨key, .required, none, test⟩

def optional (key : String) (test : Test) : Field := ⟨key, .optional, none, test⟩

def defaulted (key : String) (v : Value) (test : Test) : Field := ⟨key, .optional, some v, test⟩

/-- A key whose identifier is made up if it is not given. -/
def generated (key : String) (test : Test) : Field := ⟨key, .generated, some .null, test⟩

/-- A key of which only one of a group may be there. -/
def exclusive (key group : String) (message : Option String) (test : Test) : Field :=
  ⟨key, .exclusive group message, none, test⟩

end Field

/-- A rule for a dictionary. -/
structure Record where
  fields : List Field
  extras : List Test := []

namespace Record

/-- A record without checks of the whole. -/
def of (fields : List Field) : Record := { fields }

def field? (r : Record) (key : String) : Option Field :=
  r.fields.find? (·.key == key)

/-- Puts a field at the end, in place of the one with the same key. -/
def put (fields : List Field) (f : Field) : List Field :=
  fields.filter (·.key != f.key) ++ [f]

def extend (r : Record) (more : List Field) : Record :=
  { r with fields := more.foldl put r.fields }

def check (r : Record) (t : Test) : Record :=
  { r with extras := r.extras ++ [t] }

/-- The groups of which only one key may be there. -/
def groups (r : Record) : List String :=
  r.fields.foldl (fun gs f =>
    match f.presence with
    | .exclusive g _ => addTo gs g
    | _ => gs) []

/-- The issue of a group with two keys or more: the second of them in field order says why. -/
def groupIssue? (r : Record) (es : Entries) (group : String) : Option Issue :=
  let found := r.fields.filterMap fun f =>
    match f.presence with
    | .exclusive g m => if g == group && Entries.has es f.key then some m else none
    | _ => none
  match found with
  | _ :: message :: _ =>
    some ⟨[.key ("<" ++ group ++ ">")],
      message.getD ("two or more values in the same group of exclusion '" ++ group ++ "'")⟩
  | _ => none

/-- The entries to look at: those given, then the defaults that are missing. -/
def completed (r : Record) (es : Entries) : Entries :=
  es ++ r.fields.filterMap fun f =>
    if Entries.has es f.key then none else f.default?.map fun v => (f.key, v)

/-- Looks at entries one by one, collecting values and issues. -/
def walk (r : Record) : Entries → Entries → List Issue → Check (Entries × List Issue)
  | [], done, issues => pure (done.reverse, issues)
  | (k, v) :: es, done, issues => do
    match r.field? k with
    | none => walk r es done (issues ++ [⟨[.key k], "extra keys not allowed"⟩])
    | some f =>
      let outcome : Except Failure Value ←
        tryCatch (.ok <$> Test.guarded f.test v) fun e => pure (.error e)
      match outcome with
      | .ok w => walk r es ((k, w) :: done) issues
      | .error (.refused found) =>
        walk r es done
          (issues ++ found.map fun i => { i with path := .key k :: i.path })
      | .error e => throw e

/-- The issues of keys that must be there and are not. -/
def missing (r : Record) (es : Entries) : List Issue :=
  r.fields.filterMap fun f =>
    if f.presence == .required && !Entries.has es f.key then
      some ⟨[.key f.key], "required key not provided"⟩
    else none

def runExtras : List Test → Test
  | [], v => pure v
  | t :: ts, v => do runExtras ts (← Test.guarded t v)

def run (r : Record) : Test
  | .dict es => do
    match r.groups.filterMap (r.groupIssue? es) with
    | [] => pure ()
    | i :: others => throw (.refused ⟨i, others⟩)
    let (done, issues) ← r.walk (r.completed es) [] []
    match issues ++ r.missing es with
    | [] => runExtras r.extras (.dict done)
    | i :: others => throw (.refused ⟨i, others⟩)
  | _ => refuse "expected a dictionary"

end Record

namespace Test

/-- A value for one key may stand for the whole dictionary. -/
def maybeSimple (key : String) (t : Test) : Test := fun v =>
  if v.has key then guarded t v else guarded t (.dict [(key, v)])

/-- A dictionary whose rule depends on the word at a key; the key ends up last. -/
def typed (key : String) (cases : List (String × Test)) (form : WordForm)
    (fallback : Option String) : Test
  | .dict es => do
    let choice := match Entries.get? es key with
      | some v => some v
      | none => fallback.map .str
    match choice with
    | none => refuse (key ++ " not specified!")
    | some .null => refuse (key ++ " not specified!")
    | some v =>
      let word ← if form.lower || form.upper
        then wordOf form (cases.map (·.1)) v
        else Value.show <$> exactly (cases.map fun c => .str c.1) v
      match cases.find? (·.1 == word) with
      | none => throw (.missingKey word)
      | some (_, t) =>
        match ← t (.dict (Entries.without es key)) with
        | .dict done => return .dict (Entries.put done key (.str word))
        | _ => throw .wrongKind
  | _ => refuse "Value must be dict"

/-- Does a container hold a key, or a text a part? -/
def contains (v : Value) (key : String) : Check Bool :=
  match v with
  | .dict es => pure (Entries.has es key)
  | .list xs => pure (xs.any fun x => Value.same x (.str key))
  | .cpp (.object _ _) => pure true
  | _ =>
    match v.text? with
    | some s => pure (Text.hasPart key s)
    | none => throw .wrongKind

end Test

end Panel
