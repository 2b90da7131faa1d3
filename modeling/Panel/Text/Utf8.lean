import Panel.Text.Quote

/-! # UTF-8 — bytes as text, and why they are none -/

namespace Panel.Text.Utf8

/-- What is wrong with a byte sequence. -/
inductive Reason where
  | start
  | continuation
  | ended
  deriving BEq, DecidableEq, Repr, Inhabited

/-- A fault: what is wrong, the first byte of it, its place, and how many bytes it covers. -/
structure Fault where
  reason : Reason
  byte : UInt8
  place : Nat
  width : Nat
  deriving BEq, DecidableEq, Repr, Inhabited

def Reason.text : Reason → String
  | .start => "invalid start byte"
  | .continuation => "invalid continuation byte"
  | .ended => "unexpected end of data"

def Fault.message (f : Fault) : String :=
  if f.width == 1 then
    "'utf-8' codec can't decode byte 0x" ++ zeroPad 2 (inBase 16 f.byte.toNat) ++ " in position "
      ++ toString f.place ++ ": " ++ f.reason.text
  else
    "'utf-8' codec can't decode bytes in position " ++ toString f.place ++ "-"
      ++ toString (f.place + f.width - 1) ++ ": " ++ f.reason.text

/-- A first byte: how many bytes follow it, the range of the second byte, and its own bits. -/
structure Lead where
  count : Nat
  low : Nat
  high : Nat
  bits : Nat

/-- What a first byte asks for; none if no character begins with it. -/
def lead? (b : Nat) : Option Lead :=
  if b < 0x80 then some ⟨0, 0, 0, b⟩
  else if b < 0xC2 then none
  else if b < 0xE0 then some ⟨1, 0x80, 0xBF, b - 0xC0⟩
  else if b == 0xE0 then some ⟨2, 0xA0, 0xBF, 0⟩
  else if b == 0xED then some ⟨2, 0x80, 0x9F, 0xD⟩
  else if b < 0xF0 then some ⟨2, 0x80, 0xBF, b - 0xE0⟩
  else if b == 0xF0 then some ⟨3, 0x90, 0xBF, 0⟩
  else if b < 0xF4 then some ⟨3, 0x80, 0xBF, b - 0xF0⟩
  else if b == 0xF4 then some ⟨3, 0x80, 0x8F, 4⟩
  else none

/-- The bytes that follow a first one: the code point, or why it ends and after how many. -/
def follow : Nat → Nat → Nat → Nat → Nat → List UInt8 → Except (Reason × Nat) Nat
  | 0, _, _, _, bits, _ => .ok bits
  | _ + 1, _, _, seen, _, [] => .error (.ended, seen)
  | n + 1, low, high, seen, bits, b :: bs =>
    if low ≤ b.toNat && b.toNat ≤ high then
      follow n 0x80 0xBF (seen + 1) (bits * 64 + (b.toNat - 0x80)) bs
    else .error (.continuation, seen)

/-- Decodes bytes from a place on, skipping those that belong to the character before. -/
def decodeFrom (place : Nat) : Nat → List UInt8 → Except Fault (List Char)
  | _, [] => .ok []
  | skip + 1, _ :: bs => decodeFrom (place + 1) skip bs
  | 0, b :: bs =>
    match lead? b.toNat with
    | none => .error ⟨.start, b, place, 1⟩
    | some l =>
      match follow l.count l.low l.high 1 l.bits bs with
      | .error (reason, width) => .error ⟨reason, b, place, width⟩
      | .ok code => do
        let rest ← decodeFrom (place + 1) l.count bs
        return Char.ofNat code :: rest

def decode (bytes : List UInt8) : Except Fault String :=
  (decodeFrom 0 0 bytes).map String.ofList

def plainBreaks : List Char → List Char
  | [] => []
  | '\r' :: '\n' :: cs => '\n' :: plainBreaks cs
  | '\r' :: cs => '\n' :: plainBreaks cs
  | c :: cs => c :: plainBreaks cs

def plainLines (s : String) : String := String.ofList (plainBreaks s.toList)

end Panel.Text.Utf8
