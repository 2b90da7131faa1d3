import Panel.Script.Word
import Panel.Registry
import Panel.Style.Theme
import Panel.Input
import Panel.Naming

/-! # Scripts for styles — sheets, themes, gradients and layers one by one -/

namespace Panel.Script

open Cpp Style

def style : Command → Build Unit
  | [.str "create", config] => do
    let _ ← create (Widget.keyOf (member config "id")) (member config "style")
  | [.str "named", name] => do
    let _ ← Style.Named.sheet ⟨word name, .null⟩
  | [.str "theme", config] => applyTheme (.dict [("theme", config)])
  | [.str "gradients", gradients] => do
    let all ← Style.gradients gradients
    let s ← get
    applyGradients
      (.dict [("gradients", .list ((items all).map (Naming.settleAt s "id")))])
  | [.str "style_definitions", config] => applyDefinitions config
  | [.str "top_layer", config] =>
    applyTopLayer (Generator.ofValue config) (Expr.pointer "comp") config
  | [.str "keypad_focus", config] => Input.applyObjectFocus config
  | [.str "encoder_focus", config] => Input.applyInitialFocus config
  | [.str "has_props", config] => do
    Code.addLine (if ← setsAny config then "// True" else "// False")
  | _ => throw .noAttribute

def styles (cs : List Command) : Build Unit :=
  Code.inBlock Code.Context.setup fun _ => Kinds.forItems style cs

/-- The styles of the themes, by kind, part and state. -/
def themes (s : Session) : Value :=
  .dict (s.themes.map fun (kind, parts) => (kind, .dict (parts.map fun (part, states) =>
    (part, .dict (states.map fun (state, e) => (state, rendered e))))))

end Panel.Script
