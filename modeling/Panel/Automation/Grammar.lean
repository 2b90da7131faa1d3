import Panel.Rule.Record
import Panel.Layout.Basic

/-! # Automations in a configuration — what happens when a trigger fires

    Widgets hold automations, automations hold actions, and actions refer to widgets again.  A
    `Grammar` is what one of these rules needs of the others; the knot is tied elsewhere. -/

namespace Panel

open Cpp Test

/-- The rules that refer to each other. -/
structure Grammar where
  /-- The widgets of a container, with the fields that it adds to them. -/
  widgets : ChildFields → Test
  /-- A widget of a kind, with further fields. -/
  container : Kind → List Field → Test
  actions : Test
  /-- A condition, or a list of which all must hold. -/
  condition : Test
  conditions : Test

namespace Failure

def beginsWith (front path : List Step) : Bool := front.isPrefixOf path

/-- Takes steps off the front of the path of a refusal, which is that of its first issue. -/
def lifted (front : List Step) : Failure → Failure
  | .refused ⟨i, rest⟩ =>
    if beginsWith front i.path then
      .refused ⟨{ i with path := i.path.drop front.length }, rest⟩
    else .refused ⟨i, rest⟩
  | other => other

/-- Does the first issue of a refusal say this? -/
def mentions (e : Failure) (words : String) : Bool :=
  match e with
  | .refused issues => Text.hasPart words issues.first.message
  | _ => false

end Failure

namespace Automation

/-- Runs a test as if the given steps were not part of the path. -/
def lifting (front : List Step) (t : Test) : Test := fun v =>
  tryCatch (t v) fun e => throw (e.lifted front)

/-- A rule of an action or condition: the type of the object it becomes, and the test of its
    options. -/
structure Rule where
  type : CppType
  test : Test

def titled (noun : String) : String :=
  match noun.toList with
  | c :: cs => String.ofList (c.toUpper :: cs)
  | [] => ""

/-- Checks the identifier of an accepted entry, or makes one up. -/
def withTypeId (type : CppType) (es : Entries) : Check Value := do
  let given := (Entries.get? es "type_id").getD .null
  let id ← tryCatch (guarded (declareId type) given) fun e =>
    throw (e.within [.key "type_id"])
  return .dict (Entries.put es "type_id" id)

/-- One entry: a name with its options, or a name alone. -/
def entry (noun : String) (rule? : String → Option Rule) : Test := fun v => do
  let v : Value := match v.text? with
    | some s => .dict [(s, .dict [])]
    | none => v
  match v with
  | .dict es =>
    match es.filter fun e => e.1 != "type_id" with
    | [] => refuse ("Key missing from " ++ noun ++ "! Got " ++ v.show)
    | (key, options) :: others =>
      match rule? key with
      | none =>
        throw (.invalidAt [.key key]
          ("Unable to find " ++ noun ++ " with the name '" ++ key ++ "'"))
      | some rule =>
        match others with
        | (second, _) :: _ =>
          refuse ("Cannot have two " ++ noun ++ "s in one item. Key '" ++ key
            ++ "' overrides '" ++ second ++ "'! Did you forget to indent the block inside "
            ++ "the " ++ key ++ "?")
        | [] =>
          let options : Value := match options with
            | .null => .dict []
            | other => other
          let done ← below (.key key) (guarded rule.test) options
          withTypeId rule.type (Entries.put es key done)
  | _ => refuse (titled noun ++ " must consist of key-value mapping! Got " ++ v.show)

def entries (noun : String) (rule? : String → Option Rule) : Test :=
  ensureList (entry noun rule?)

/-- One condition, or a list of which all must hold. -/
def oneCondition (rule? : String → Option Rule) : Test := fun v =>
  match v with
  | .list _ => lifting [.key "and"] (entry "condition" rule?) (.dict [("and", v)])
  | _ => entry "condition" rule? v

/-- The fields of an automation whose trigger has a type. -/
def record (g : Grammar) (trigger : CppType) : Record := .of
  [.generated "automation_id" (declareId automation),
    .required "then" g.actions,
    .generated "trigger_id" (declareId trigger)]

/-- The actions alone stand for an automation. -/
def actionsOnly (r : Record) : Test := fun v =>
  lifting [.key "then"] r.run (.dict [("then", v)])

/-- Automations in any of their forms.  A list is first read as actions, then as automations; of
    the two refusals the one that fits what was meant stands, or both. -/
def automations (r : Record) : Test := fun v => do
  match v with
  | .list _ =>
    tryCatch (do return .list [← actionsOnly r v]) fun
      | .refused first =>
        tryCatch (listOf r.run v) fun
          | .refused second =>
            let e := Failure.refused first
            let f := Failure.refused second
            if f.mentions "extra keys not allowed" && f.path.length == 2 then throw e
            else if e.mentions "Unable to find action" then throw f
            else throw (.refused ⟨first.first, first.others ++ second.toList⟩)
          | f => throw f
      | e => throw e
  | .dict es =>
    if Entries.has es "then" then return .list [← r.run v]
    else return .list [← actionsOnly r v]
  | _ => return .list [← r.run v]

def single (r : Record) : Test := fun v => do
  match ← automations r v with
  | .list [a] => return a
  | _ => refuse "Cannot have more than 1 automation for templates"

end Automation

end Panel
