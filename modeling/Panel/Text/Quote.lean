import Panel.Text.Chars

/-! # Quoting — texts inside generated code and inside messages -/

namespace Panel.Text

/-- Digits of a number in a base up to 16, in lower case. -/
def inBase (base n : Nat) : String :=
  String.ofList (Nat.toDigits base n)

/-- One byte of a C++ string literal: octal unless it is printable and not a quote or backslash. -/
def cppByte (b : UInt8) : List Char :=
  if 32 ≤ b && b < 127 && b != 34 && b != 92 then [Char.ofNat b.toNat]
  else '\\' :: (zeroPad 3 (inBase 8 b.toNat)).toList

def cppString (s : String) : String :=
  "\"" ++ String.ofList (s.toUTF8.data.toList.flatMap cppByte) ++ "\""

/-- Characters that are shown as they are: no controls, separators other than the blank, format
    marks, private or unassigned characters. -/
def isShown (c : Char) : Bool :=
  let n := c.toNat
  !(n < 32 || (0x7F ≤ n && n ≤ 0xA0) || n == 0xAD || (0x600 ≤ n && n ≤ 0x605) || n == 0x61C
    || n == 0x6DD || n == 0x70F || n == 0x1680 || n == 0x180E || (0x2000 ≤ n && n ≤ 0x200F)
    || (0x2028 ≤ n && n ≤ 0x202F) || (0x205F ≤ n && n ≤ 0x206F) || n == 0x3000
    || (0xD800 ≤ n && n ≤ 0xF8FF) || n == 0xFEFF || (0xFFF0 ≤ n && n ≤ 0xFFFB)
    || 0xE0000 ≤ n)

def codeEscape (c : Char) : String :=
  let n := c.toNat
  if n < 0x100 then "\\x" ++ zeroPad 2 (inBase 16 n)
  else if n < 0x10000 then "\\u" ++ zeroPad 4 (inBase 16 n)
  else "\\U" ++ zeroPad 8 (inBase 16 n)

def quotedChar (quote c : Char) : String :=
  if c == quote || c == '\\' then String.ofList ['\\', c]
  else if c == '\n' then "\\n"
  else if c == '\r' then "\\r"
  else if c == '\t' then "\\t"
  else if isShown c then String.ofList [c]
  else codeEscape c

/-- A text between single quotes, or double ones if it holds a single quote and no double one. -/
def quoted (s : String) : String :=
  let quote := if s.toList.contains '\'' && !s.toList.contains '"' then '"' else '\''
  String.ofList [quote] ++ String.join (s.toList.map (quotedChar quote)) ++ String.ofList [quote]

def byteEscape (c : Char) : String :=
  if c == '\\' then "\\\\"
  else if c == '\n' then "\\n"
  else if c == '\r' then "\\r"
  else if c == '\t' then "\\t"
  else if 32 ≤ c.toNat && c.toNat < 127 then String.ofList [c]
  else codeEscape c

/-- The escapes of a text, shown as a byte string. -/
def escapedBytes (s : String) : String :=
  "b" ++ quoted (String.join (s.toList.map byteEscape))

end Panel.Text
