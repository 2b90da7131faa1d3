import Panel.Automation.Grammar
import Panel.Widget.Traits

/-! # Widgets in a configuration — the options that all kinds share -/

namespace Panel

open Cpp Automation Constants

namespace Schema

def alignTo : Record := .of
  [.required "id" (Test.useId lvObj),
    .required "align" alignments.oneOf.validate,
    .defaulted "x" (.int 0) Property.pixelsOrPercent.validate,
    .defaulted "y" (.int 0) Property.pixelsOrPercent.validate]

def triggerType (t : Traits) : CppType :=
  trigger.template ((t.params.map (·.type.name)) ++ [eventPointer.name])

def automationFields (g : Grammar) (t : Traits) : List Field :=
  let test := automations (record g (triggerType t))
  let names := eventOptions ++ swipeOptions
    ++ (if t.hasValueEvent then ["on_value"] else [])
  names.map (fun n => .optional n test)
    ++ [.optional "on_boot" (automations (record g startupTrigger))]

/-- A widget of a kind without the options of its own. -/
def objectRecord (g : Grammar) (t : Traits) : Record :=
  (((parts t.parts).extend [.optional "align_to" alignTo.run]).extend (automationFields g t)).extend
    [.optional "state" setStates.run, .optional "group" (Test.useId lvGroup)]

def updateRecord (type : CppType) (partNames : List String) : Record :=
  (parts partNames).extend
    [.required "id" (targets type), .optional "state" setStates.run]

def noteUpdate (k : Kind) : Test := fun v => do
  modify fun s =>
    { s with
      updated :=
        if s.updated.any (·.1 == k) then
          s.updated.map fun (j, vs) => if j == k then (j, vs ++ [v]) else (j, vs)
        else s.updated ++ [(k, [v])] }
  return v

end Schema

end Panel
