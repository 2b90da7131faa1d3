import Panel.Code.Macro
import Panel.Widget.Traits

/-! # Reports — what a finished session holds, as plain data -/

namespace Panel

open Cpp

namespace Report

def texts (xs : List String) : Value := .list (xs.map Value.str)

/-- A set of texts as a value, sorted. -/
def sorted (xs : List String) : Value := texts (xs.mergeSort fun a b => decide (a ≤ b))

/-- Does the first row come before the second, word by word? -/
def rowBefore : List String → List String → Bool
  | [], _ => true
  | _ :: _, [] => false
  | a :: as, b :: bs => if a == b then rowBefore as bs else decide (a ≤ b)

def statements (ss : List Stmt) : Value := texts (statementTexts ss)

/-- What is known of a widget: its key, its variable, its object and its kind. -/
def row (w : Widget) : List String :=
  [if w.key == "" then "None" else w.key, w.var.render, w.obj.render, w.kind.name]

/-- The macros of the library's header, with their values. -/
def macros (s : Session) : Value := .dict (s.macros.map fun (name, v) => (name, .str v))

/-- The parts of a report that go by a name; an unknown name has none. -/
def part (s : Session) : String → Entries
  | "globals" => [("globals", statements s.globals)]
  | "main" => [("main", statements s.main)]
  | "defines" => [("defines", sorted (s.defines.map fun (name, v) => Code.macroLine name v))]
  | "lv_conf" => [("lv_conf", texts (Text.parts '\n' (Code.header s.macros)).dropLast)]
  | "flags" => [("flags", sorted s.flags)]
  | "libraries" => [("libraries", texts (s.libraries.map fun (name, v) => name ++ "@" ++ v))]
  | "uses" =>
    [("uses", sorted s.uses), ("components", sorted s.components),
      ("styles_used", sorted s.stylesUsed), ("fonts", sorted s.fontsUsed)]
  | "widgets" => [("widgets", .list (((s.widgets.map row).mergeSort rowBefore).map texts))]
  | _ => []

/-- The parts in the order of a report. -/
def order : List String :=
  ["globals", "main", "defines", "lv_conf", "flags", "libraries", "uses", "widgets"]

def parts (s : Session) (names : List String) : Entries :=
  (order.filter names.contains).flatMap (part s)

/-- The remarks for the user, if there are any. -/
def log (s : Session) : Entries := if s.log.isEmpty then [] else [("log", sorted s.log)]

/-- What was downloaded from where, if anything. -/
def downloads (s : Session) : Entries :=
  if s.downloads.isEmpty then []
  else [("downloads", .list (s.downloads.map fun (address, path) => texts [address, path]))]

end Report

end Panel
