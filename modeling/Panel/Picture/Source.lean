import Panel.Access
import Panel.Rule.File
import Panel.Rule.Record

/-! # Sources of pictures — files beside the configuration, addresses and icons -/

namespace Panel.Picture

open Test Text Files

def beginsWith (bytes : List UInt8) (start : List UInt8) : Bool := start.isPrefixOf bytes

def holds (part : List UInt8) : List UInt8 → Bool
  | [] => part.isEmpty
  | b :: bytes => beginsWith (b :: bytes) part || holds part bytes

/-- Does a vector picture begin within the first bytes? -/
def isVector (bytes : List UInt8) : Bool := holds "<svg".toUTF8.data.toList (bytes.take 1024)

/-- A number of four bytes, most significant first. -/
def word32 (bytes : List UInt8) : Nat := bytes.foldl (fun n b => 256 * n + b.toNat) 0

/-- Walks over the chunks of a file until the first with image data; `fuel` bounds their number. -/
def reachesData : Nat → List UInt8 → Bool
  | 0, _ => false
  | fuel + 1, bytes =>
    let size := word32 (bytes.take 4)
    let name := (bytes.drop 4).take 4
    if bytes.length < 8 then false
    else if name == "IDAT".toUTF8.data.toList then true
    else if bytes.length < size + 12 then false
    else reachesData fuel (bytes.drop (size + 12))

/-- Does a file hold pixels?  It has the signature, a header and image data. -/
def isPicture (bytes : List UInt8) : Bool :=
  beginsWith bytes [0x89, 0x50, 0x4e, 0x47, 0x0d, 0x0a, 0x1a, 0x0a]
    && beginsWith (bytes.drop 12) "IHDR".toUTF8.data.toList
    && reachesData bytes.length (bytes.drop 8)

/-- Does the file at a path hold a vector picture?  No path is no picture. -/
def isVectorAt (v : Value) : Check Bool := do
  if !v.truthy then return false
  match v.text? with
  | none => throw .wrongKind
  | some path =>
    match fileAt? (← get) path with
    | some bytes => return isVector bytes
    | none => throw .noFile

/-- The text of a value, or the text at a key of it. -/
def textAt (key : String) (v : Value) : Check Value :=
  match v with
  | .dict _ => required v key
  | _ => pure v

def localPath (v : Value) : Check String := do
  match (← textAt "path" v).text? with
  | some name => return pathOf (← get) name
  | none => throw .wrongKind

def cachePath (v : Value) : Check String := do
  match (← textAt "url" v).text? with
  | some url => return cacheFolder (← get) "image" ++ "/" ++ cacheKey url
  | none => throw .noAttribute

def collections : List (String × String) :=
  [("mdi", "https://raw.githubusercontent.com/Templarian/MaterialDesign/master/svg/"),
    ("mdil", "https://raw.githubusercontent.com/Pictogrammers/MaterialDesignLight/refs/heads/master/svg/"),
    ("memory", "https://raw.githubusercontent.com/Pictogrammers/Memory/refs/heads/main/src/svg/")]

def downloadIcon (v : Value) (collection : String) : Check String := do
  let icon ← textAt "icon" v
  match collections.find? (·.1 == collection) with
  | none => throw (.missingKey collection)
  | some (_, address) =>
    match icon.text? with
    | none => throw .wrongKind
    | some name =>
      let path := cacheFolder (← get) "image" ++ "/" ++ collection ++ "/" ++ name ++ ".svg"
      let path := tidy path
      download (address ++ name ++ ".svg") path
      return path

def downloadFrom (v : Value) : Check String := do
  let url ← textAt "url" v
  let path ← cachePath url
  download url.show path
  return path

def isIconName (s : String) : Bool :=
  s != "" && s.toList.all fun c => c.isAlphanum || c == '-'

/-- A picture by a single text: an icon of a collection, an address, or a file. -/
def shorthand : Test := fun v => do
  let text := (← strictText v).show
  match parts ':' (trim text) with
  | [collection, icon] =>
    if collections.any (·.1 == collection) then
      if !isIconName icon then refuse ("Could not parse mdi icon name from '" ++ text ++ "'.")
      return .str (← downloadIcon (.str icon) collection)
  | _ => pure ()
  if hasPrefix "http://" text || hasPrefix "https://" text then
    return .str (← downloadFrom (.str text))
  return .str (← localPath (← file (.str text)))

def described : Test :=
  let icon (collection : String) : String × Test :=
    (collection, allOf [(Record.of [Field.required "icon" text]).run,
      fun v => .str <$> downloadIcon v collection])
  typed "source"
    ([("local", allOf [(Record.of [Field.required "path" file]).run,
        fun v => .str <$> localPath v]),
      ("web", allOf [(Record.of [Field.required "url" text]).run,
        fun v => .str <$> downloadFrom v])]
      ++ collections.map fun c => icon c.1)
    {} none

def source : Test := anyOf [shorthand, described]

end Panel.Picture
