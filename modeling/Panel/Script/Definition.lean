import Panel.Script.Word
import Panel.Schema.Style
import Panel.Code.Lambda

/-! # Scripts for definitions — macros, uses, remarks and single expressions -/

namespace Panel.Script

open Cpp Code

/-- The type of the result of a function, by word. -/
def resultType? (name : String) : Option CppType :=
  if name == "uint32" then some uint32 else namedType? name

def definition : Command → Check Value
  | [.str "define", .str name] => do
    enableMacro name
    return .null
  | [.str "define", .str name, v] => do
    defineMacro name v.show
    return .null
  | [.str "warning", .str text] => do
    warn text
    return .null
  | [.str "remap", .str name] => return .str (← currentProperty name)
  | [.str "conf"] => return .str (header (← get).macros)
  | .str "use" :: names => do
    noteUses (names.map word)
    return Report.sorted (← get).uses
  | .str "join" :: names :: rest => return rendered (joinEnums (wordsOf names) (word (rest.headD .null)))
  | [.str "macro", .str name, v] => return .str (macroLine name ((given? v).map Value.show))
  | [.str "lambda", .str body, params, .str result] =>
    let closure := ⟨(wordsOf params).map fun p => ⟨int, p⟩, "", resultType? result, body⟩
    return rendered (inlined closure)
  | [.str "cast", type, v] => return rendered (← castOf type.show v)
  | [.str "addr", v] => return .str ("&" ++ v.show)
  | [.str "literal", v] => return Property.literal v
  | [.str "data", .str "lv_defines"] => return Report.macros (← get)
  | [.str "data", .str "warnings"] => return Report.sorted (← get).warnings
  | [.str "data", .str "remapped_uses"] => return Report.sorted (← get).remapped
  | .str "data" :: .str key :: rest => noteAt key (rest.headD (.dict []))
  | _ => throw .noAttribute

end Panel.Script
