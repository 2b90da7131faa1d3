import Panel.Code.Program
import Panel.Font.Bitmap
import Panel.Font.Cache
import Panel.Rule.File
import Panel.Rule.Period

/-! # Rules for fonts — the configuration of a font and the glyphs it asks for -/

namespace Panel.Font

open Cpp Test Text Files

/-! ## Sources -/

def endings : List String := [".ttf", ".woff", ".otf", "bdf", ".pcf"]

/-- A font file beside the configuration; the result is its path. -/
def fontFile : Test := fun v => do
  match v.text? with
  | none => throw .noAttribute
  | some name =>
    if hasSuffix ".zip" (lower name) then
      refuse ("Please unzip the font archive '" ++ name
        ++ "' first and then use the .ttf files inside.")
    if !(endings.any fun e => hasSuffix e (lower name)) then
      refuse ("Only " ++ String.intercalate ", " endings ++ " files are supported.")
    let file ← file v
    return .str (pathOf (← get) file.show)

/-- Loads the face of a file, if it is not in use yet. -/
def addLocal : Test := fun v => do
  if ← Cache.has v then return v
  let path := tidy (← required v "path").show
  if (fileAt? (← get) path).isNone then refuse ("File '" ++ path ++ "' not found.")
  Cache.load (← Source.ofValue v) path
  return v

def weights : List (String × Nat) :=
  [("thin", 100), ("extra-light", 200), ("light", 300), ("regular", 400), ("medium", 500),
    ("semi-bold", 600), ("bold", 700), ("extra-bold", 800), ("black", 900)]

def weightName : Test := fun v => do
  let name ← wordOf { lower := true, space := "-" } (weights.map (·.1)) v
  match weights.find? (·.1 == name) with
  | some (_, n) => return .int n
  | none => throw (.missingKey name)

def refresh : Test := fun v =>
  match v.text?.map lower with
  | some "always" => Period.seconds (.str "0s")
  | some "never" => Period.seconds (.str "1000y")
  | _ => Period.seconds v

/-- What follows a marker, blanks and another text. -/
def afterBlanks? (marker : String) (cs : List Char) : Option (List Char) :=
  let (blanks, rest) := spanWhile isBlank cs
  if blanks.isEmpty || !marker.toList.isPrefixOf rest then none
  else some (rest.drop marker.length)

/-- The longest front of a line that a closing bracket and the name of the format follow. -/
def addressEnd? (cs : List Char) : Nat → Option (List Char)
  | 0 => none
  | n + 1 =>
    match cs.drop (n + 1) with
    | ')' :: rest =>
      if (afterBlanks? "format('truetype');" rest).isSome then some (cs.take (n + 1))
      else addressEnd? cs n
    | _ => addressEnd? cs n

/-- The first address of a font on a page. -/
def addressOn? : List Char → Option String
  | [] => none
  | c :: cs =>
    let here := if "src:".toList.isPrefixOf (c :: cs) then
        (afterBlanks? "url(" ((c :: cs).drop 4)).bind fun rest =>
          addressEnd? rest (rest.takeWhile (· != '\n')).length
      else none
    match here with
    | some address => some (String.ofList address)
    | none => addressOn? cs

/-- Fetches a font from the service, if it is not in use yet. -/
def fetchFamily : Test := fun v => do
  if ← Cache.has v then return v
  let family := (← required v "family").show
  let weight := (← required v "weight").show
  let italic ← required v "italic"
  let name := family ++ ":ital,wght@" ++ toString (← convertInt italic) ++ "," ++ weight
  let url := "https://fonts.googleapis.com/css2?family=" ++ name
  let s ← get
  let path := cacheFolder s "font" ++ "/" ++ family ++ "@" ++ weight ++ "@" ++ italic.show
    ++ "@v1.ttf"
  let _ ← required v "refresh"
  if !s.recent then
    modify fun s => { s with downloads := s.downloads ++ [(url, "")] }
    match s.page with
    | .fails reason =>
      refuse ("Could not download font at " ++ url
        ++ ", please check the fonts exists at google fonts (" ++ reason ++ ")")
    | .text page =>
      match addressOn? page.toList with
      | none =>
        refuse ("Could not extract ttf file from gfonts response for " ++ name
          ++ ", please report this.")
      | some address =>
        download address path
        if (fileAt? (← get) path).isNone then throw .noFile
  Cache.load (← Source.ofValue v) path
  return v

/-- Fetches a font from an address, if it is not in use yet. -/
def fetchWeb : Test := fun v => do
  if ← Cache.has v then return v
  let url := (← required v "url").show
  let path := cacheFolder (← get) "font" ++ "/" ++ cacheKey url ++ "/font.ttf"
  download url path
  Cache.load (← Source.ofValue v) path
  return v

def remote : Record := .of
  [.defaulted "weight" (.str "regular") (anyOf [integer, weightName]),
    .defaulted "italic" (.bool false) boolean,
    .defaulted "refresh" (.str "1d") (allOf [text, refresh])]

def described : Test :=
  typed "type"
    [("local", allOf [(Record.of [.required "path" fontFile]).run, addLocal]),
      ("gfonts", allOf
        [(remote.extend [.required "family" strictText]).run, fetchFamily]),
      ("web", allOf [(remote.extend [.required "url" strictText]).run, fetchWeb])]
    {} none

/-- The family and the weight of a short form of a font of the service. -/
def familyOf? (text : String) : Option (String × Option String) :=
  let (family, rest) := spanWhile (· != '@') (text.toList.drop "gfonts://".length)
  if family.isEmpty then none
  else match rest with
    | [] => some (String.ofList family, none)
    | _ :: weight =>
      let weight := withoutFinalNewline weight
      if weight.isEmpty || weight.contains '\n' then none
      else some (String.ofList family, some (String.ofList weight))

/-- A font by a single text: of the service, of an address, or of a file. -/
def shorthand : Test := fun v => do
  let text := (← strictText v).show
  if hasPrefix "gfonts://" text then
    match familyOf? text with
    | none => refuse "Could not parse gfonts shorthand syntax, please check it"
    | some (family, weight) =>
      let front : Entries := [("type", .str "gfonts"), ("family", .str family)]
      described (.dict (front ++ weight.toList.map fun w => ("weight", .str w)))
  else if hasPrefix "http://" text || hasPrefix "https://" text then
    described (.dict [("type", .str "web"), ("url", .str text)])
  else described (.dict [("type", .str "local"), ("path", .str text)])

def source : Test := fun v => if v.isText then shorthand v else described v

/-! ## Glyphs -/

def glyphSet : Test := fun v => do
  exactly ((← get).glyphSets.sets.map fun s => .str s.name) v

/-- Characters that come from another font. -/
structure Extra where
  source : Source
  chars : List Char
  deriving BEq, DecidableEq, Repr, Inhabited

/-- What a font is asked for. -/
structure Description where
  source : Source
  sets : List GlyphSet
  /-- The characters by name; none at all is something else than no characters. -/
  glyphs : List String
  extras : List Extra
  ignoreMissing : Bool
  deriving BEq, DecidableEq, Repr, Inhabited

def textsOf (v : Value) : List String := (v.items?.getD []).map Value.show

def charsOf (texts : List String) : List Char := texts.flatMap String.toList

def extraOf (v : Value) : Check Extra := do
  return ⟨← Source.ofValue (← required v "file"), charsOf (textsOf (← required v "glyphs"))⟩

namespace Description

def ofValue (v : Value) : Check Description := do
  let extras ← ((← required v "extras").items?.getD []).mapM extraOf
  let sets := (textsOf (← required v "glyphsets")).filterMap (← get).glyphSets.find?
  return ⟨← Source.ofValue (← required v "file"), sets, textsOf (← required v "glyphs"), extras,
    (← required v "ignore_missing_glyphs").truthy⟩

def own (d : Description) : List Char := charsOf d.glyphs

def fromSets (d : Description) : List Char := d.sets.flatMap (·.chars)

def borrowed (d : Description) : List Char := d.extras.flatMap (·.chars)

def named (d : Description) : List Char := d.borrowed ++ d.own

/-- The characters that are given more than once. -/
def repeated (d : Description) : List Char :=
  (d.named.filter fun c => d.named.count c > 1).eraseDups

/-- The characters that only sets ask for. -/
def onlyFromSets (d : Description) : List Char :=
  (d.fromSets.filter fun c => !d.named.contains c).eraseDups

/-- Does the description name no characters for the font itself? -/
def usesDefault (d : Description) : Bool := d.glyphs.isEmpty && d.sets.isEmpty

/-- The font that a character comes from: the last one that claims it, or else the font itself. -/
def sourceOf (d : Description) (c : Char) : Source :=
  match d.extras.reverse.find? (·.chars.contains c) with
  | some e => e.source
  | none => d.source

/-- All characters of the font, in order. -/
def chars (d : Description) : List Char :=
  sorted (d.fromSets ++ d.own ++ d.borrowed).eraseDups

end Description

def pointsOf (cs : List Char) : List Int := cs.map fun c => (c.toNat : Int)

/-- No character is asked for twice, and every font has those that are given one by one.  A set may
    have characters that the font lacks. -/
def Description.check (d : Description) : Check Unit := do
  if !d.repeated.isEmpty then
    refuse ("Found duplicate glyph" ++ (if d.repeated.length = 1 then "" else "s") ++ ": "
      ++ String.intercalate ", " (d.repeated.map shownChar))
  d.extras.forM fun e => checkMissing e.source (pointsOf e.chars) false
  checkMissing d.source (pointsOf d.own) false
  if !d.ignoreMissing then checkMissing d.source (pointsOf d.onlyFromSets) true

/-- The characters of a font that names none: those of a set that the face has. -/
def defaultGlyphs (set : GlyphSet) (f : Face) : List Char := set.chars.filter fun c => f.covers c.toNat

/-- A size in 64ths of a pixel, a number of any kind, in whole pixels. -/
def pixelsOf (size : Value) : Check Value :=
  match intOf? size, size with
  | some n, _ => pure (.int (pixels n))
  | none, .float x => pure (.float ((x + 63.0) / 64.0).floor)
  | none, _ => throw .wrongKind

/-- The size of a font that a face can have; a face that cannot be scaled has sizes of its own. -/
def settleSize (label : String) (f : Face) (size : Option Value) : Check Value := do
  if f.scalable then return size.getD (.int 20)
  match f.sizes.map pixels with
  | [] => refuse ("Font " ++ label ++ " has no available sizes")
  | first :: rest =>
    match size with
    | none => return .int first
    | some v =>
      if (first :: rest).any fun n => Value.same v (.int n) then return v
      let shown := String.intercalate ", " ((first :: rest).map toString)
      refuse ("Font " ++ label ++ " only has size" ++ (if shown.length = 1 then "" else "s") ++ " "
        ++ shown ++ " available")

/-- Completes a font: its glyphs are there, and it has glyphs and a size. -/
def complete : Test := fun v => do
  let d ← Description.ofValue v
  d.check
  let face ← Cache.get d.source
  let glyphs := defaultGlyphs (← get).glyphSets.plain face
  let v := if d.usesDefault
    then v.put "glyphs" (.list (glyphs.map fun c => .str c.toString))
    else v
  let size ← settleSize d.source.label face (v.get? "size")
  return v.put "size" size

def record : Record := .of
  [.required "id" (declareId fontClass),
    .required "file" source,
    .defaulted "glyphs" (.list []) (ensureList strictText),
    .defaulted "glyphsets" (.list []) (ensureList glyphSet),
    .defaulted "ignore_missing_glyphs" (.bool false) boolean,
    .optional "size" (intRange (some 1) none),
    .defaulted "bpp" (.int 1) (exactly [.int 1, .int 2, .int 4, .int 8]),
    .defaulted "extras" (.list []) (ensureList (Record.of
      [.required "file" source, .required "glyphs" (ensureList strictText)]).run),
    .generated "raw_data_id" (declareId uint8),
    .generated "raw_glyph_id" (declareId glyphClass)]

def rule : Test := allOf [record.run, complete]

end Panel.Font
