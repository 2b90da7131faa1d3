import Panel.Access
import Panel.Code.Macro
import Panel.Rule.Record

/-! # Font sources — where a font comes from, and the faces in use -/

namespace Panel.Font

/-- Where a font comes from. -/
inductive Source where
  | family (name : String) (italic : Int) (weight : String)
  | web (url : String)
  | file (path : String)
  deriving BEq, DecidableEq, Repr, Inhabited

namespace Source

def label : Source → String
  | .family name italic weight => name ++ ":" ++ toString italic ++ ":" ++ weight
  | .web url => url
  | .file path => path

def kind : Source → String
  | .family _ _ _ => "gfont"
  | .web _ => "url"
  | .file _ => "file"

def key (s : Source) : String := s.kind ++ ":" ++ s.label

def ofValue (v : Value) : Check Source := do
  if ← Test.contains v "family" then
    let name ← required v "family"
    let italic ← Test.convertInt (← required v "italic")
    let weight ← required v "weight"
    return .family name.show italic weight.show
  if ← Test.contains v "url" then return .web (← required v "url").show
  return .file (← required v "path").show

/-- Why the face of a source cannot be used. -/
def invalid (s : Source) : String :=
  let name := match s.kind.toList with
    | c :: cs => String.ofList (c.toUpper :: cs)
    | [] => ""
  name ++ " " ++ s.label ++ " is not a valid font file"

end Source

/-! ## Faces in use -/

namespace Cache

def find? (s : Session) (src : Source) : Option Loaded :=
  (s.fontCache.find? (·.1 == src.key)).map (·.2)

/-- The face in use for a source, which must be there. -/
def get (src : Source) : Check Face := do
  match find? (← MonadState.get) src with
  | some l => return l.face
  | none => throw (.missingKey src.key)

/-- Is a font in use? A description that lacks a key describes no font. -/
def has (v : Value) : Check Bool := do
  let src : Option Source ← tryCatch (some <$> Source.ofValue v) fun
    | .missingKey _ => pure none
    | e => throw e
  match src with
  | some src => return (find? (← MonadState.get) src).isSome
  | none => return false

/-- Puts an entry in its place, or at the end. -/
def put (entries : List (String × Loaded)) (key : String) (l : Loaded) : List (String × Loaded) :=
  if entries.any (·.1 == key) then entries.map fun e => if e.1 == key then (key, l) else e
  else entries ++ [(key, l)]

def baseName (path : String) : String := (Text.parts '/' path).getLastD ""

def load (src : Source) (path : String) : Check Unit := do
  let s ← MonadState.get
  match s.faces.find? (·.1 == baseName path) with
  | some (_, some face) => set { s with fontCache := put s.fontCache src.key ⟨face, []⟩ }
  | _ => refuse src.invalid

def erase (src : Source) : Check Unit := do
  let s ← MonadState.get
  if (find? s src).isNone then throw (.missingKey src.key)
  set { s with fontCache := s.fontCache.filter (·.1 != src.key) }

def note (key : String) (requests : List Request) : Check Unit :=
  modify fun s => { s with
    fontCache := s.fontCache.map fun (k, l) =>
      if k == key then (k, { l with requests := requests.reverse ++ l.requests }) else (k, l) }

end Cache

/-! ## Missing glyphs -/

/-- Orders texts by their bytes: below zero, zero or above. -/
def compareBytes : List UInt8 → List UInt8 → Int
  | [], [] => 0
  | [], _ :: _ => -1
  | _ :: _, [] => 1
  | x :: xs, y :: ys => if x < y then -1 else if y < x then 1 else compareBytes xs ys

def compareText (x y : String) : Int := compareBytes x.toUTF8.data.toList y.toUTF8.data.toList

def sorted (cs : List Char) : List Char :=
  cs.mergeSort fun a b => compareText a.toString b.toString ≤ 0

def shownChar (c : Char) : String := c.toString ++ " (" ++ Text.escapedBytes c.toString ++ ")"

def charOf (point : Int) : Except Failure Char :=
  if 0 ≤ point ∧ point < 0x110000 then .ok (Char.ofNat point.toNat)
  else .error (.badValue "chr() arg not in range(0x110000)")

/-- The characters of the code points that a face does not have. -/
def missing (f : Face) (points : List Int) : Except Failure (List Char) :=
  (points.filter fun p => p < 0 || !f.covers p.toNat).mapM charOf

/-- Says which glyphs a font lacks, but no more than ten of them. -/
def missingText (label : String) (cs : List Char) : String :=
  let count := cs.length
  let shown := String.intercalate "\n    " (((sorted cs).take 10).map shownChar)
  let more := if count > 10 then "\n    and " ++ toString (count - 10) ++ " more." else ""
  "Font " ++ label ++ " is missing " ++ toString count ++ " glyph" ++ (if count = 1 then "" else "s")
    ++ ":\n    " ++ shown ++ more

/-- Refuses a font that lacks a glyph, or only remarks it. -/
def checkMissing (src : Source) (points : List Int) (onlyRemark : Bool) : Check Unit := do
  let face ← Cache.get src
  match missing face points with
  | .error e => throw e
  | .ok [] => return
  | .ok cs =>
    let message := missingText src.label cs
    if onlyRemark then Code.logWarning message else refuse message

end Panel.Font
