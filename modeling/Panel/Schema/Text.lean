import Panel.Rule.Record
import Panel.Property.Text

/-! # Text options — a text, a format with arguments, or the time of a clock -/

namespace Panel

open Cpp Test

namespace Schema

def timeText : Record := .of
  [.required "time_format" text,
    .generated "time" (templatable (useId realTimeClock))]

def formatText : Record := .of
  [.required "format" text,
    .defaulted "args" (.list []) (ensureList lambda),
    .optional "if_nan" text]

def checkedFormat : Test := allOf [formatText.run, checkFormat]

def textValue : Test := fun v =>
  match v with
  | .null => refuse "No text specified"
  | .dict es => if Entries.has es "time_format" then timeText.run v else checkedFormat v
  | _ => templatable text v

def textFields : List Field := [.optional "text" textValue]

def targets (type : CppType) : Test :=
  ensureList (maybeSimple "id" (Record.of [.required "id" (useId type)]).run)

def point : Record := .of
  [.required "x" (templatable integer), .required "y" (templatable integer)]

/-- A point, or its coordinates in one text. -/
def pointValue : Test := fun v =>
  match v with
  | .dict _ => point.run v
  | .cpp (.object _ _) => throw .wrongKind
  | _ =>
    match v.text? with
    | none => throw .noAttribute
    | some s =>
      match (Text.parts ',' s).mapM Text.readInt? with
      | some [x, y] => pure (.dict [("x", .int x), ("y", .int y)])
      | _ => refuse "Invalid point format, should be <x_int>, <y_int>"

end Schema

end Panel
