import Panel.Property.Measure
import Panel.Cpp.Library

/-! # Sources — pictures, gradients and fonts that a widget refers to -/

namespace Panel

open Cpp Test

def noteUses (names : List String) : Check Unit :=
  modify fun s => { s with uses := names.foldl addTo s.uses }

def builtinFonts : List String :=
  (List.range 21).map (fun i => "montserrat_" ++ toString (8 + 2 * i))
    ++ ["dejavu_16_persian_hebrew", "simsun_16_cjk", "unscii_8", "unscii_16"]

def isBuiltinFont (v : Value) : Bool :=
  match v.text? with
  | some s => builtinFonts.contains (Text.lower s)
  | none => false

namespace Property

/-- The identifier of a picture on a card, or a path there. -/
def acceptImage : Test := fun v => do
  let asId : Option Value ← tryCatch (some <$> useId sdImage v) fun
    | .refused _ => pure none
    | e => throw e
  match asId with
  | some id =>
    noteUses ["img", "label"]
    return id
  | none =>
    modify fun s => { s with components := addTo s.components "image" }
    match v.text? with
    | some s =>
      if Text.hasPrefix "/" s then
        noteUses ["img", "label"]
        return v
    | none => pure ()
    refuse ("Invalid image source: " ++ v.show
      ++ ". Must be an image/sd_image/svg_file ID or a file path starting with '/'")

def image : Property := plain acceptImage Cpp.image.ptr (some "image")

def imageList : Property :=
  plain (ensureList acceptImage) (CppType.plain "std::vector<image::Image *>") (some "image")

def gradient : Property :=
  mapped (useId lvGradient) lvGradient fun v => pure (.literal v.show)

/-- A built-in font by name, or the identifier of a font. -/
def acceptFont : Test := fun v => do
  if asksChoices v then return .list (builtinFonts.map .str)
  if isBuiltinFont v then
    let name ← lowerWord builtinFonts v
    modify fun s => { s with fontsUsed := addTo s.fontsUsed name.show }
    return name
  else
    noteUses ["font"]
    let id ← useId fontClass v
    match id with
    | .ident i => modify fun s => { s with clientFonts := addTo s.clientFonts i }
    | _ => pure ()
    needsComponent "font" id

def font : Property where
  validate := validateWith none acceptFont
  emitWith params v :=
    if isBuiltinFont v then pure (.literal ("&lv_font_" ++ v.show))
    else if v.isText then pure (.literal v.show)
    else (plain acceptFont fontClass.ptr none).emitWith params v

end Property

end Panel
