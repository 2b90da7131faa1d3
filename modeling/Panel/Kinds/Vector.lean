import Panel.Kinds.Range
import Panel.Files
import Panel.Json.Read

/-! # Vector graphics — drawings and animations that are rendered on the device

    Both come from a path on the device or from a file that is built in; the measures of a file are
    read from it unless they are given. -/

namespace Panel

open Cpp Code Property Text Files

namespace Kinds

/-! ## Measures of a drawing -/

/-- What follows a word and an equals sign. -/
def valueAfter? (word : String) (cs : List Char) : Option (List Char) :=
  if word.toList.isPrefixOf cs then
    match (cs.drop word.length).dropWhile isBlank with
    | '=' :: rest => some (rest.dropWhile isBlank)
    | _ => none
  else none

/-- What stands in quotes after a word and an equals sign, where the word begins. -/
def quotedAfter? (word : String) (quote : Char) (cs : List Char) : Option String :=
  match valueAfter? word cs with
  | some (c :: body) =>
    if c == quote && body.contains quote then some (String.ofList (body.takeWhile (· != quote)))
    else none
  | _ => none

/-- The first place where something is found, given the character before it. -/
def firstFound {α : Type} (find : Option Char → List Char → Option α) :
    Option Char → List Char → Option α
  | before, [] => find before []
  | before, c :: cs =>
    match find before (c :: cs) with
    | some a => some a
    | none => firstFound find (some c) cs

def unquoted : List Char → List Char
  | '"' :: cs => cs
  | '\'' :: cs => cs
  | cs => cs

/-- The number that a text begins with. -/
def leadingNumber (cs : List Char) : List Char :=
  cs.takeWhile fun c => (digitValue? c).isSome || c == '.'

/-- The number after a word, an equals sign and perhaps a quote; the word must stand alone. -/
def numberAfter? (word : String) (before : Option Char) (cs : List Char) : Option String :=
  if (before.map isWord).getD false then none
  else
    match (valueAfter? word cs).map fun value => leadingNumber (unquoted value) with
    | none | some [] => none
    | some digits => some (String.ofList digits)

/-- A measure as a whole number; none if the text is no number. -/
def wholeMeasure (s : String) : Check (Option Int) :=
  match readFloat? s with
  | none => pure none
  | some x =>
    match truncate? x with
    | some n => pure (some n)
    | none => if x.isNaN then pure none else throw .tooLarge

/-- Two measures; none if one of them is no number. -/
def measures (width height : String) : Check (Option (Int × Int)) := do
  match ← wholeMeasure width with
  | none => return none
  | some w => return (← wholeMeasure height).map fun h => (w, h)

/-- The view box that is found in a text: the first in double quotes, or else in single ones. -/
def viewBox? (cs : List Char) : Option String :=
  (firstFound (fun _ => quotedAfter? "viewBox" '"') none cs).orElse fun _ =>
    firstFound (fun _ => quotedAfter? "viewBox" '\'') none cs

def boxSize? (text : String) : Check (Option (Int × Int)) :=
  match (viewBox? text.toList).map words with
  | some [_, _, w, h] => measures w h
  | _ => pure none

def namedSize? (text : String) : Check (Option (Int × Int)) :=
  let cs := text.toList
  match firstFound (numberAfter? "width") none cs, firstFound (numberAfter? "height") none cs with
  | some w, some h => measures w h
  | _, _ => return none

/-- The measures that a drawing states: those of its view box, or its width and height. -/
def drawingSize? (text : String) : Check (Option (Int × Int)) := do
  match ← boxSize? text with
  | some size => return some size
  | none => namedSize? text

/-! ## Sources -/

def drawingPath : Test := fun v => do
  let v ← Test.text v
  let s := v.show
  if !Text.hasPrefix "/" s then
    refuse ("SVG src must be an absolute path starting with '/', got: '" ++ s
      ++ "'. Example: '/sdcard/icons/home.svg'")
  if !Text.hasSuffix ".svg" (lower s) then
    refuse ("SVG src must be an .svg file, got: '" ++ s ++ "'")
  return v

def animationPath : Test := fun v => do
  let v ← Test.text v
  let s := v.show
  if !Text.hasPrefix "/" s then
    refuse ("Lottie src must be an absolute file path starting with '/', got: '" ++ s
      ++ "'. Example: '/sdcard/animation.json' or '/littlefs/animation.json'")
  if !Text.hasSuffix ".json" s then
    refuse ("Lottie src must be a JSON file (ending with .json), got: '" ++ s ++ "'")
  return v

def builtInFile (noun : String) : Test := fun v => do
  let name ← Test.textOf v
  let s ← get
  let path := pathOf s name
  if (fileAt? s path).isNone then refuse (noun ++ " file not found: " ++ path)
  return .str path

/-- There is one source, and measures with a path on the device. -/
def checkSource (config : Value) : Check Unit := do
  let onDevice ← Test.contains config "src"
  let builtIn ← Test.contains config "file"
  if onDevice && builtIn then
    refuse ("Cannot specify both 'src' and 'file'. Use 'src' for filesystem path or 'file' for "
      ++ "embedded.")
  if !onDevice && !builtIn then
    refuse "Must specify either 'src' (filesystem path) or 'file' (embedded in firmware)."
  if onDevice && !(config.has "width" && config.has "height") then
    refuse ("'width' and 'height' are required when using 'src' (filesystem path). Cannot "
      ++ "auto-detect dimensions at compile time.")

/-- The words for a failure while a file is read. -/
def readingWords : Failure → String
  | .tooLarge => "cannot convert float infinity to integer"
  | _ => ""

/-- Checks the source of a drawing and adds the measures of its file. -/
def checkDrawing : Test := fun config => do
  checkSource config
  if !config.has "file" then return config
  let path := (← required config "file").show
  let bad (words : String) : Check (Option (Int × Int)) :=
    refuse ("Error reading SVG file " ++ path ++ ": " ++ words)
  let size ← match readText (← get) path with
    | .error words => bad words
    | .ok text => tryCatch (drawingSize? text) fun e => bad (readingWords e)
  match config.has "width", config.has "height" with
  | true, true => return config
  | false, false =>
    match size with
    | some (w, h) => return (config.put "svg_width" (.int w)).put "svg_height" (.int h)
    | none =>
      refuse ("Cannot auto-detect dimensions from SVG file " ++ path ++ ". Please specify "
        ++ "'width' and 'height' manually, or add a viewBox attribute to the SVG.")
  | _, _ => refuse "Specify both 'width' and 'height', or neither (for auto-detect)."

/-- A measure of an animation as a whole number, or why it is none. -/
def animationMeasure (v : Value) : Except String Int :=
  match v with
  | .int n => .ok n
  | .bool b => .ok (if b then 1 else 0)
  | .float x =>
    match truncate? x with
    | some n => .ok n
    | none =>
      if x.isNaN then .error "cannot convert float NaN to integer"
      else .error "cannot convert float infinity to integer"
  | .str s =>
    match readInt? s with
    | some n => .ok n
    | none => .error ("invalid literal for int() with base 10: " ++ quoted s)
  | other =>
    .error ("int() argument must be a string, a bytes-like object or a real number, not '"
      ++ Test.kindName other ++ "'")

/-- The measures that an animation states, or why it has none. -/
def animationSize (path : String) (animation : Value) (isGiven : Bool) :
    Except String (Option (Int × Int)) := do
  match animation with
  | .dict es =>
    match Entries.given? es "w", Entries.given? es "h" with
    | some w, some h =>
      if isGiven then return none
      else return some (← animationMeasure w, ← animationMeasure h)
    | _, _ => .error ("Lottie JSON file missing 'w' or 'h' dimensions: " ++ path)
  | other => .error ("'" ++ Test.kindName other ++ "' object has no attribute 'get'")

/-- Checks the source of an animation and adds the measures of its file. -/
def checkAnimation : Test := fun config => do
  checkSource config
  if !config.has "file" then return config
  let path := (← required config "file").show
  let bad (words : String) : Check Value :=
    refuse ("Error reading Lottie file " ++ path ++ ": " ++ words)
  match readText (← get) path with
  | .error words => bad words
  | .ok text =>
    match Json.read text with
    | .error fault =>
      refuse ("Invalid JSON in Lottie file " ++ path ++ ": " ++ fault.message text)
    | .ok animation =>
      match animationSize path animation (config.has "width" && config.has "height") with
      | .error words => bad words
      | .ok none => return config
      | .ok (some (w, h)) =>
        return (config.put "lottie_width" (.int w)).put "lottie_height" (.int h)

/-! ## Designs -/

def svgRecord : Record :=
  (Record.of
    [.optional "width" size.validate, .optional "height" size.validate,
      .optional "src" drawingPath, .optional "file" (builtInFile "SVG"),
      .generated "raw_data_id" (Test.declareId uint8)]).check checkDrawing

def lottieRecord : Record :=
  (Record.of
    [.optional "width" size.validate, .optional "height" size.validate,
      .optional "src" animationPath, .optional "file" (builtInFile "Lottie"),
      .defaulted "loop" (.bool true) Test.boolean, .defaulted "auto_start" (.bool true) Test.boolean,
      .generated "raw_data_id" (Test.declareId uint8)]).check checkAnimation

def includeOnce (included : Session → Bool) (mark : Session → Session) (header : String) :
    Check Unit := do
  if !included (← get) then
    modify fun s =>
      let s := mark s
      { s with globals := s.globals ++ [.item (.raw ("#include \"" ++ header ++ "\""))] }

def truthWord (b : Bool) : String := if b then "true" else "false"

/-- Does an option count as set, or has it the default if it is not given? -/
def isOn (config : Value) (key : String) (fallback : Bool) : Bool :=
  ((config.get? key).map Value.truthy).getD fallback

/-- Builds a file in as an array of bytes that ends in a zero: the array and its length without
    it. -/
def buildIn (config : Value) (path : Value) : Check (Expr × Nat) := do
  match fileAt? (← get) path.show with
  | none => throw .noFile
  | some bytes => do
    let id ← identAt config "raw_data_id"
    let array ← romArray id (.list ((bytes ++ [0]).map fun (b : UInt8) => .int b.toNat))
    return (array, bytes.length)

def svg : Design :=
  { Design.distinct (fun _ => svgRecord) [] with
    options := fun _ w config => do
      noteUses ["CANVAS", "SVG", "THORVG_INTERNAL", "VECTOR_GRAPHIC"]
      let stem := if config.has "svg_width" then "svg_" else ""
      let width ← required config (stem ++ "width")
      let height ← required config (stem ++ "height")
      run "lv_obj_set_size" [.cpp w.obj, width, height]
      includeOnce (·.svgIncluded) (fun s => { s with svgIncluded := true })
        "esphome/components/lvgl/svg_loader.h"
      let size := width.show ++ ", " ++ height.show
      let hidden := truthWord (isOn config "hidden" false)
      match setAt? config "src", setAt? config "file" with
      | some src, _ =>
        addLine ("\n    esphome::lvgl::svg_setup_and_render_file(" ++ w.obj.render ++ ", \""
          ++ src.show ++ "\", " ++ size ++ ", " ++ hidden ++ ");")
      | none, some path => do
        let (array, length) ← buildIn config path
        addLine ("\n    esphome::lvgl::svg_setup_and_render(" ++ w.obj.render
          ++ ", (const char *)" ++ array.render ++ ", " ++ toString length ++ ", " ++ size ++ ", "
          ++ hidden ++ ");")
      | none, none => pure () }

def lottie : Design :=
  { Design.distinct (fun _ => lottieRecord)
      [.optional "src" animationPath, .optional "loop" Test.boolean] with
    options := fun _ w config => do
      noteUses ["LOTTIE", "THORVG_INTERNAL", "VECTOR_GRAPHIC"]
      let isGiven := config.has "width" && config.has "height"
      let stem := if !isGiven && config.has "lottie_width" then "lottie_" else ""
      let width ← required config (stem ++ "width")
      let height ← required config (stem ++ "height")
      run "lv_obj_set_size" [.cpp w.obj, width, height]
      includeOnce (·.lottieIncluded) (fun s => { s with lottieIncluded := true })
        "esphome/components/lvgl/lottie_loader.h"
      let tail := width.show ++ ", " ++ height.show ++ ", " ++ truthWord (isOn config "loop" true)
        ++ ", " ++ truthWord (isOn config "auto_start" true) ++ ", "
        ++ truthWord (isOn config "hidden" false) ++ ");"
      let front := "\n    esphome::lvgl::lottie_init(" ++ w.obj.render ++ ", "
      match setAt? config "src", setAt? config "file" with
      | some src, _ => addLine (front ++ "nullptr, 0, \"" ++ src.show ++ "\", " ++ tail)
      | none, some path => do
        let (array, length) ← buildIn config path
        addLine (front ++ array.render ++ ", " ++ toString length ++ ", nullptr, " ++ tail)
      | none, none => pure () }

/-! ## Actions -/

def lottieAction (name : String) (work : Widget → Build Unit) : Behaviour where
  name := "lvgl.lottie." ++ name
  type := objUpdateAction
  rule := fun _ => oneTarget Kind.lottie.traits.type
  build := fun _ config id params => do
    let widgets ← Widget.targets config "id"
    Automation.widgetAction widgets work id params []

def stopLottie (w : Widget) : Build Unit :=
  run "lv_anim_delete" [.cpp w.obj, .literal "NULL"]

def lottieActions : List Behaviour :=
  [lottieAction "start" fun w => do
      let animation ← call "lv_lottie_get_anim" [.cpp w.obj]
      run "lv_anim_start" [.cpp animation],
    lottieAction "stop" stopLottie,
    lottieAction "pause" stopLottie]

end Kinds

end Panel
