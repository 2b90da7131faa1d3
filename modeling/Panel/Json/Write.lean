import Panel.Value

/-! # JSON — values as texts

    The text of a value that is made of scalars, texts, lists and dictionaries.  It has only ASCII
    characters; any other is written as the code units of its UTF-16 form. -/

namespace Panel.Json

def unitText (n : Nat) : String := "\\u" ++ Text.zeroPad 4 (Text.inBase 16 n)

def charText (c : Char) : String :=
  let n := c.toNat
  match c with
  | '"' => "\\\""
  | '\\' => "\\\\"
  | '\n' => "\\n"
  | '\r' => "\\r"
  | '\t' => "\\t"
  | '\x08' => "\\b"
  | '\x0c' => "\\f"
  | _ =>
    if 32 ≤ n ∧ n < 127 then c.toString
    else if n < 0x10000 then unitText n
    else unitText (0xD800 + (n - 0x10000) / 0x400) ++ unitText (0xDC00 + (n - 0x10000) % 0x400)

def quote (s : String) : String := "\"" ++ String.join (s.toList.map charText) ++ "\""

mutual

/-- The text of a value; what JSON has no form for is written as it is shown. -/
def write : Value → String
  | .null => "null"
  | .bool b => if b then "true" else "false"
  | .int n => toString n
  | .float x => Text.floatText x
  | .list vs => "[" ++ String.intercalate ", " (writeItems vs) ++ "]"
  | .dict es => "\x7b" ++ String.intercalate ", " (writeMembers es) ++ "\x7d"
  | other => quote other.show

def writeItems : List Value → List String
  | [] => []
  | v :: vs => write v :: writeItems vs

def writeMembers : List (String × Value) → List String
  | [] => []
  | (k, v) :: es => (quote k ++ ": " ++ write v) :: writeMembers es

end

end Panel.Json
