import Panel.Kinds.Range

/-! # Calendars -/

namespace Panel

open Cpp Code Property Test

namespace Kinds

/-- A date, of which parts may be missing. -/
def datePart (presence : Presence) : List Field :=
  [⟨"year", presence, none, intRange (some 1970) (some 2099)⟩,
    ⟨"month", presence, none, intRange (some 1) (some 12)⟩,
    ⟨"day", presence, none, intRange (some 1) (some 31)⟩]

def dateRecord (isRequired : Bool) : Record :=
  .of (datePart (if isRequired then .required else .optional))

/-- A date whose parts may be lambdas. -/
def flexibleDate : Record := .of
  [.optional "year" (templatable integer),
    .optional "month" (templatable integer),
    .optional "day" (templatable integer)]

def calendarChanges : Record := .of
  [.optional "today_date" (dateRecord false).run,
    .optional "showed_date" (dateRecord false).run,
    .optional "highlighted_dates" (ensureList (dateRecord true).run)]

def calendarRecord : Record :=
  calendarChanges.extend
    [.defaulted "header_mode" (.str "arrow") (lowerWord ["arrow", "dropdown", "none"]),
      .optional "day_names" (allOf [ensureList text, lengthWithin 7 7])]

/-- The years that the header offers, the latest first. -/
def yearList : String :=
  String.intercalate "\\n" ((List.range 17).map fun (i : Nat) => toString (2036 - i))

def datePartOf (date : Value) (key : String) (fallback : Int) : Build Value :=
  integer.emit ((date.get? key).getD (.int fallback))

def dateText (date : Value) : Check String := do
  let year ← required date "year"
  let month ← required date "month"
  let day ← required date "day"
  return "\x7b" ++ year.show ++ ", " ++ month.show ++ ", " ++ day.show ++ "\x7d"

/-- Writes the dates that are highlighted, as an array with a name of its own. -/
def applyHighlighted (w : Widget) (config : Value) (ending : String) : Check Unit := do
  match itemsAt config "highlighted_dates" with
  | [] => pure ()
  | dates => do
    let name := (← required config "id").show ++ ending
    let texts ← dates.mapM dateText
    add (.raw ("static lv_calendar_date_t " ++ name ++ "[] = \x7b"
      ++ String.intercalate ", " texts ++ "\x7d"))
    run "lv_calendar_set_highlighted_dates"
      [.cpp w.obj, .cpp (.raw name), .int dates.length]

def applyHeader (w : Widget) (config : Value) : Check Unit := do
  let header := (config.get? "header_mode").getD (.str "arrow")
  if header.text? == some "arrow" then
    noteUses ["CALENDAR_HEADER_ARROW"]
    run "lv_calendar_header_arrow_create" [.cpp w.obj]
  else if header.text? == some "dropdown" then
    noteUses ["CALENDAR_HEADER_DROPDOWN"]
    run "lv_calendar_header_dropdown_create" [.cpp w.obj]
    let name := (← required config "id").show ++ "_year_list"
    add (.raw ("static const char * " ++ name ++ " = \"" ++ yearList ++ "\""))
    run "lv_calendar_header_dropdown_set_year_list" [.cpp w.obj, .cpp (.raw name)]

def applyDayNames (w : Widget) (config : Value) : Check Unit := do
  match itemsAt config "day_names" with
  | [] => pure ()
  | names => do
    let name := (← required config "id").show ++ "_day_names"
    let texts := names.map fun n => "\"" ++ n.show ++ "\""
    add (.raw ("static const char * " ++ name ++ "[] = \x7b"
      ++ String.intercalate ", " texts ++ "\x7d"))
    run "lv_calendar_set_day_names" [.cpp w.obj, .cpp (.raw name)]

def calendar : Design :=
  { Design.distinct (fun _ => calendarRecord) calendarChanges.fields with
    options := fun _ w config => do
      needComponents ["CALENDAR"]
      applyHeader w config
      applyDayNames w config
      match setAt? config "today_date" with
      | some today => do
        let year ← datePartOf today "year" 2024
        let month ← datePartOf today "month" 1
        let day ← datePartOf today "day" 1
        run "lv_calendar_set_today_date" [.cpp w.obj, year, month, day]
      | none => pure ()
      match setAt? config "showed_date" with
      | some showed => do
        let year ← datePartOf showed "year" 2024
        let month ← datePartOf showed "month" 1
        run "lv_calendar_set_month_shown" [.cpp w.obj, year, month]
      | none => pure ()
      applyHighlighted w config "_highlighted_dates" }

/-! ## Updates -/

/-- A whole number, or a lambda that gives one. -/
def emitWhole (v : Value) : Build Value := do
  match v with
  | .lambda body => return .cpp (inlined (← closure body [] "=" (some int32)))
  | other => return other

/-- A part of a date that may be a lambda, or its default. -/
def flexiblePart (date : Value) (key : String) (fallback : Int) : Build Value := do
  match date.given? key with
  | some (.lambda body) => emitWhole (.lambda body)
  | some v => integer.emit v
  | none => integer.emit (.int fallback)

/-- Writes a call with a year, only for years that are known if a lambda gives part of the date. -/
def callWithYear (function name : String) (w : Widget) (hasLambda : Bool) (year : Value)
    (rest : List Value) : Build Unit := do
  if hasLambda then
    withLocal name int32.name (some year) "" fun var =>
      guardedBy (some (Expr.named (var.render ++ " > 0")))
        (run function ([.cpp w.obj, .cpp var] ++ rest) : Check Unit)
  else run function ([.cpp w.obj, year] ++ rest)

def anyLambda (date : Value) (keys : List String) : Bool :=
  keys.any fun k => ((date.get? k).map Value.isLambda).getD false

def updateCalendar : Behaviour where
  name := "lvgl.calendar.update"
  type := objUpdateAction
  rule := fun _ => (Record.of
    [.required "id" (useId Kind.calendar.traits.type),
      .optional "today_date" flexibleDate.run,
      .optional "showed_date" flexibleDate.run,
      .optional "highlighted_dates" (ensureList (dateRecord true).run)]).run
  build := fun _ config id params => do
    let widgets ← Widget.targets config "id"
    Automation.widgetAction widgets (fun w => do
      match setAt? config "today_date" with
      | some today => do
        let year ← flexiblePart today "year" 2024
        let month ← flexiblePart today "month" 1
        let day ← flexiblePart today "day" 1
        callWithYear "lv_calendar_set_today_date" "_td_y" w
          (anyLambda today ["year", "month", "day"]) year [month, day]
      | none => pure ()
      match setAt? config "showed_date" with
      | some showed => do
        let year ← flexiblePart showed "year" 2024
        let month ← flexiblePart showed "month" 1
        callWithYear "lv_calendar_set_month_shown" "_sd_y" w
          (anyLambda showed ["year", "month"]) year [month]
      | none => pure ()
      applyHighlighted w config "_hl_dates_upd") id params []

end Kinds

end Panel
