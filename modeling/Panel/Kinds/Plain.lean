import Panel.Widget.Design

/-! # Plain widgets — objects, containers, switches, lights and lines -/

namespace Panel

open Cpp Code Property

namespace Kinds

def obj : Design := {}

def switch : Design := {}

def dropdownList : Design := {}

def tile : Design := {}

def matrixButton : Design := {}

/-- Containers fill their parent unless they say otherwise. -/
def container : Design :=
  Design.distinct (fun _ => .of
    [.defaulted "height" (.str "100%") size.validate,
      .defaulted "width" (.str "100%") size.validate]) []

def led : Design :=
  { Design.same fun _ => .of
      [.optional "color" color.validate,
        .optional "brightness" percentage.validate] with
    options := fun _ w config => do
      callFor "lv_led_set_color" w config "color" color
      callFor "lv_led_set_brightness" w config "brightness" percentage }

/-! ## Lines -/

def coordinate : CppType := CppType.plain "lv_coord_t"

def emitCoordinate (v : Value) : Build Value := do
  match v with
  | .lambda body => return .cpp (inlined (← closure body [] "=" (some coordinate)))
  | _ => return .cpp (← express v)

def emitPoint (p : Value) : Build Value := do
  let x ← emitCoordinate (← required p "x")
  let y ← emitCoordinate (← required p "y")
  return .list [x, y]

def emitPoints : List Value → Build (List Value)
  | [] => pure []
  | p :: ps => do
    let q ← emitPoint p
    return q :: (← emitPoints ps)

def line : Design :=
  { Design.same fun _ => .of [.required "points" (Test.ensureList Schema.pointValue)] with
    options := fun _ w config => do
      let points ← emitPoints (← Widget.walked (← required config "points"))
      runMethod w.var "set_points" [.list points] }

end Kinds

end Panel
