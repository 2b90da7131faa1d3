import Panel.Session
import Panel.Cpp.Library

/-! # Outside objects — what other components declare and a panel refers to -/

namespace Panel

open Cpp

def domainType? : String → Option CppType
  | "display" => some display
  | "image" => some image
  | "font" => some fontClass
  | "color" => some colour
  | "binary_sensor" => some binarySensor
  | "sensor" => some sensor
  | "rotary_encoder" => some rotaryEncoder
  | "touchscreen" => some touchscreen
  | "time" => some realTimeClock
  | "sd_image" => some sdImage
  | "svg_file" => some svgFile
  | "globals" => some globalsComponent
  | "group" => some lvGroup
  | "style" => some lvStyle
  | "gradient" => some lvGradient
  | "section" => some lvScaleSection
  | "lvgl" => some lvglComponent
  | _ => none

abbrev Domain := String × List Entries

def outsideIdent (domain : String) (entry : Entries) : Ident :=
  ⟨(Entries.get? entry "id").map Value.show, domainType? domain, true, true⟩

/-- An entry with its identifier in place of the plain name. -/
def outsideEntry (domain : String) (entry : Entries) : Value :=
  .dict (Entries.put entry "id" (.ident (outsideIdent domain entry)))

def outsideMeasures (entries : List Entries) : List (String × Value) :=
  entries.filterMap fun e =>
    if Entries.has e "width" then
      (Entries.get? e "id").map fun name => (name.show, .dict e)
    else none

/-- A session in which the domains are loaded and their objects declared. -/
def Session.withOutside (s : Session) (env : List Domain) : Session :=
  { s with
    loaded := env.foldl (fun xs d => addTo xs d.1) s.loaded
    config := s.config ++ env.map fun (d, entries) => (d, .list (entries.map (outsideEntry d)))
    declared := s.declared ++ env.flatMap fun (d, entries) =>
      entries.map fun e => (outsideIdent d e).text
    imageData := s.imageData ++ env.flatMap fun (_, entries) => outsideMeasures entries }

def Session.registerOutside (s : Session) (env : List Domain) : Session :=
  { s with
    objects := s.objects ++ env.flatMap fun (d, entries) =>
      entries.map fun e => ⟨outsideIdent d e, Expr.pointer (outsideIdent d e).text⟩ }

end Panel
