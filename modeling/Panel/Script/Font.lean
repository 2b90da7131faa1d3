import Panel.Script.Word
import Panel.Font.Cache

/-! # Scripts for the font cache -/

namespace Panel.Script

def fontCache : Command → Check Value
  | [.str "set", key, path] => do
    Font.Cache.load (← Font.Source.ofValue key) (word path)
    return .null
  | [.str "del", key] => do
    Font.Cache.erase (← Font.Source.ofValue key)
    return .null
  | [.str "get", key] => do
    let face ← Font.Cache.get (← Font.Source.ofValue key)
    return if face.family == "b''" then .null else .str face.family
  | [.str "in", key] => return .bool (← Font.Cache.has key)
  | [.str "name", key] => return .str (← Font.Source.ofValue key).label
  | .str "missing" :: key :: points :: rest => do
    Font.checkMissing (← Font.Source.ofValue key) ((items points).map whole)
      (isTrue (rest.headD .null))
    return .null
  | _ => throw .noAttribute

end Panel.Script
