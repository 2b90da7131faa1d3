import Panel.Picture.Format
import Panel.Picture.Source

/-! # Rules for pictures — the configuration of the pictures of a display

    Pictures are given as a list, or as a dictionary that groups them by format and transparency and
    has defaults for all of them. -/

namespace Panel.Picture

open Cpp Test Text

/-! ## Options -/

def transparencyWord (names : List String) : Test := fun v =>
  match v with
  | .bool _ => lowerWord names (.str v.show)
  | _ => lowerWord names v

def formatWord (names : List String) : Test := fun v => do
  let name ← upperWord names v
  match Retired.ofName? name.show with
  | some old =>
    refuse ("Image type " ++ old.name ++ " is removed; replace with " ++ old.advice)
  | none => return name

def transparencyNames : List String := Transparency.all.map (·.name)

def identity : List Field :=
  [.required "id" (declareId Cpp.image),
    .required "file" source,
    .generated "raw_data_id" (declareId uint8)]

/-- The options but for the transparency: the key, the default, and the test. -/
def shapeOptions : List (String × Option Value × Test) :=
  [("resize", none, dimensions),
    ("dither", some (.str "NONE"), upperWord ["NONE", "FLOYDSTEINBERG"]),
    ("invert_alpha", some (.bool false), boolean),
    ("byte_order", none, upperWord ["BIG_ENDIAN", "LITTLE_ENDIAN"])]

def options : List (String × Option Value × Test) :=
  shapeOptions
    ++ [("transparency", some (.str Transparency.solid.name), transparencyWord transparencyNames)]

def withDefaults (os : List (String × Option Value × Test)) : List Field :=
  os.map fun (key, fallback, test) =>
    match fallback with
    | some v => Field.defaulted key v test
    | none => Field.optional key test

/-- Options that stay away if they are not given. -/
def withoutDefaults (os : List (String × Option Value × Test)) : List Field :=
  os.map fun (key, _, test) => Field.optional key test

def Format.options (f : Format) : List String :=
  (Picture.options.map (·.1)).filter (fun key => key != "byte_order" || f.hasByteOrder)
    ++ ["raw_data_id"]

/-! ## Settings -/

/-- The format of a name, which must be known. -/
def formatNamed (name : Value) : Check Format :=
  match Format.ofName? name.show, Retired.ofName? name.show with
  | some f, _ => pure f
  | none, some _ => throw .noAttribute
  | none, none => throw (.missingKey name.show)

def lowered (v : Value) : Check String :=
  match v.text? with
  | some s => pure (lower s)
  | none => throw .noAttribute

def checkFile (path : List Step) : Test := fun v => do
  match v.get? "file" with
  | some file =>
    if file.truthy then
      let file := Files.tidy file.show
      if !(← isVectorAt (.str file)) then
        if !((Files.fileAt? (← get) file).any isPicture) then
          throw (Failure.invalidAt path ("File can't be opened as image: " ++ file))
  | none => pure ()
  return v

def orderMessage (name : Value) : String :=
  "Image format '" ++ name.show ++ "' does not support byte order configuration"

/-- Do the options of a picture go together, and can its file be read? -/
def checkSettings (path : List Step) : Test := fun v => do
  let name ← required v "type"
  let format ← formatNamed name
  let transparency ← lowered ((v.get? "transparency").getD (.str Transparency.solid.name))
  if !format.allows (Transparency.ofName transparency) then
    refuse ("Image format '" ++ name.show ++ "' cannot have transparency: " ++ transparency)
  else if ((v.get? "invert_alpha").getD (.bool false)).truthy
      && transparency != Transparency.alphaChannel.name && !format.invertsShades then
    refuse "No alpha channel to invert"
  else if (v.given? "byte_order").isSome && !format.hasByteOrder then
    throw (Failure.invalidAt path (orderMessage name))
  else checkFile path v

/-! ## Records -/

def entry : Record :=
  .of (identity ++ withDefaults options ++ [.required "type" (formatWord formatNames)])

/-- A picture whose options may come from the defaults. -/
def plainEntry (format : Field) : Record :=
  .of (identity ++ withoutDefaults options ++ [format])

def presetEntry (format : String) (t : Transparency) : Record :=
  .of (identity ++ withoutDefaults shapeOptions
    ++ [.defaulted "transparency" (.str t.name) (transparencyWord [t.name]),
      .defaulted "type" (.str format) (formatWord [format])])

def groupTransparencies (format : String) : List Transparency :=
  match Format.ofName? format with
  | some f => f.transparencies
  | none => Transparency.all

/-- The pictures below a format: by transparency, or as a list. -/
def formatGroup (format : String) : Test :=
  anyOf
    [(Record.of ((groupTransparencies format).map fun t =>
        Field.optional t.name (ensureList (presetEntry format t).run))).run,
      ensureList
        (plainEntry (.defaulted "type" (.str format) (formatWord [format]))).run]

/-- The defaults, the list of pictures, and the groups. -/
def grouped : Record :=
  .of ([.defaulted "defaults" (.dict [])
      (Record.of (withDefaults options ++ [.optional "type" (formatWord formatNames)])).run,
    .defaulted "images" (.list [])
      (ensureList (plainEntry (.optional "type" (formatWord formatNames))).run)]
    ++ formatNames.map fun f => .optional (lower f) (formatGroup f))

/-! ## The grouped form as a list -/

/-- The value of an option: that of the picture, or else the default, or nothing. -/
def optionOf (image defaults : Value) (key : String) : Value :=
  match image.get? key with
  | some v => v
  | none => (defaults.get? key).getD .null

def applyDefaults (image defaults : Value) (path : List Step) : Check Value := do
  let name := optionOf image defaults "type"
  match name with
  | .null =>
    throw (Failure.invalidAt path
      "Type is required either in the image config or in the defaults")
  | _ => pure ()
  let format ← formatNamed name
  let fromOptions : Entries := format.options.map fun key => (key, optionOf image defaults key)
  let id ← required image "id"
  let file ← required image "file"
  let data ← required image "raw_data_id"
  let config : Entries :=
    [("id", id), ("file", file), ("raw_data_id", data), ("type", name)].foldl
      (fun es (k, v) => Entries.put es k v) fromOptions
  checkSettings path (.dict config)

def applyToAll (defaults : Value) (path : List Step) : Nat → List Value → Check (List Value)
  | _, [] => pure []
  | i, image :: images => do
    let first ← applyDefaults image defaults (path ++ [.index i])
    return first :: (← applyToAll defaults path (i + 1) images)

/-- Pictures below the transparencies of a format, with the defaults. -/
def applyToGroups (defaults : Value) (key : String) (known : List Transparency) :
    Entries → Check (List Value)
  | [] => pure []
  | (k, v) :: es => do
    let first ← if known.any (·.name == k) then
      applyToAll defaults [.key key, .key k] 0 (v.items?.getD [])
    else pure []
    return first ++ (← applyToGroups defaults key known es)

/-- Pictures below the formats, with the defaults. -/
def applyToFormats (defaults : Value) : Entries → Check (List Value)
  | [] => pure []
  | (k, v) :: es => do
    let first ← if formatNames.contains (upper k) then
      match v with
      | .list images => applyToAll defaults [.key k] 0 images
      | .dict groups => applyToGroups defaults k (groupTransparencies (upper k)) groups
      | _ => pure []
    else pure []
    return first ++ (← applyToFormats defaults es)

def flatten : Test := fun v => do
  let defaults ← required v "defaults"
  let images ← applyToAll defaults [.key "images"] 0
    (((v.get? "images").bind Value.items?).getD [])
  let rest ← applyToFormats defaults (v.entries?.getD [])
  return .list (images ++ rest)

def rule : Test := fun v =>
  let single := ensureList (allOf [entry.run, checkSettings []])
  match v with
  | .list _ => single v
  | .dict es =>
    if Entries.has es "id" || Entries.has es "file" then single v
    else allOf [grouped.run, flatten] v
  | _ => refuse "Badly formed image configuration, expected a list or a dictionary"

/-! ## Byte order -/

/-- Is the byte order of an entry among its keys? -/
def namesOwnKey (v : Value) : Check Bool :=
  match v with
  | .dict es =>
    match Entries.get? es "byte_order" with
    | none => pure false
    | some (.list _) => throw .wrongKind
    | some (.dict _) => throw .wrongKind
    | some order => pure (order.text?.any fun k => Entries.has es k)
  | _ => throw .noAttribute

/-- An entry whose byte order is not left open. -/
def withByteOrder (v : Value) : Value :=
  if ((v.get? "byte_order").getD .null).truthy then v
  else v.put "byte_order" (.str "LITTLE_ENDIAN")

/-- Where the display library is in use, a byte order that is left open is little endian. -/
def settleByteOrder (whole : Value) : Test := fun v => do
  match v with
  | .list entries =>
    if !whole.has "lvgl" then return v
    if ← entries.allM namesOwnKey then return v
    if !entries.all Value.isDict then throw .noAttribute
    return .list (entries.map withByteOrder)
  | _ => throw .wrongKind

end Panel.Picture
