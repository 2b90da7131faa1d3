import Panel.Registry
import Panel.Style.Theme
import Panel.Input
import Panel.Component.Welcome

/-! # The panel component in a configuration -/

namespace Panel

open Cpp Property Test Automation Schema

namespace Component

def distinctNames (vs : List Value) : Bool :=
  let names := vs.map Widget.keyOf
  names.eraseDups.length == names.length

/-- The displays that a panel is shown on; if none is named there must be one. -/
def displays : Test := fun v => do
  let named ← ensureList (useId display) v
  let all ← match named with
    | .list (x :: xs) => pure (x :: xs)
    | _ => do pure [← useId display v]
  if !distinctNames all then refuse "Display IDs must be unique"
  return .list all

def theme (g : Grammar) : Test := fun v =>
  (Record.of (Kind.all.map fun k => .optional k.name fun w =>
    ((objectRecord g k.traits).extend fullStyle.fields).run w)).run v

/-- Levels of messages of the library, by the levels of the program. -/
def logLevels : List (String × String) :=
  [("VERBOSE", "TRACE"), ("DEBUG", "TRACE"), ("INFO", "INFO"), ("WARN", "WARN"),
    ("ERROR", "ERROR"), ("NONE", "NONE")]

def plainTriggers : List String := ["on_pause", "on_resume", "on_draw_start", "on_draw_end"]

/-- Automations that start when nothing is touched for a time. -/
def idleAutomations (g : Grammar) : Test :=
  automations ((record g idleTrigger).extend
    [.required "timeout" (templatable Period.milliseconds)])

def styleDefinition : Record :=
  (Record.of [.required "id" (declareId lvStyle)]).extend fullStyle.fields

def pollingFields (interval : String) : List Field :=
  [.optional "setup_priority" number,
    .defaulted "update_interval" (.str interval) Period.updateInterval]

def panelFields (g : Grammar) : List Field :=
  pollingFields "1s"
    ++ [.generated "id" (declareId lvglComponent),
      .generated "displays" displays,
      .defaulted "color_depth" (.int 16) (exactly [.int 16]),
      .defaulted "default_font" (.str "montserrat_14") font.validate,
      .defaulted "full_refresh" (.bool false) boolean,
      .defaulted "update_when_display_idle" (.bool false) boolean,
      .defaulted "draw_rounding" (.int 2) natural,
      .defaulted "buffer_size" (.int 0) percentage,
      .defaulted "log_level" (.str "ERROR") (upperWord (logLevels.map (·.1))),
      .defaulted "byte_order" (.str "big_endian") (lowerWord ["big_endian", "little_endian"]),
      .optional "style_definitions" (ensureList styleDefinition.run),
      .optional "on_idle" (idleAutomations g),
      .optional "pages" (ensureList (g.container .page []))]
    ++ plainTriggers.map (fun name => .optional name
      (single (record g plainTrigger)))
    ++ [.optional "msgboxes" (ensureList (Kinds.messageBox g)),
      .defaulted "page_wrap" (.bool true) boolean.validate,
      .optional "top_layer" (g.container .obj []),
      .optional "bottom_layer" (g.container .obj []),
      .defaulted "transparency_key" (.int 0x000400) color.validate,
      .optional "theme" (theme g),
      .optional "gradients" Style.gradients,
      .defaulted "touchscreens" .null Input.touchscreens,
      .defaulted "encoders" .null Input.encoders,
      .defaulted "keypads" .null Input.keypads,
      .generated "default_group" (declareId lvGroup),
      .defaulted "resume_on_input" (.bool true) boolean,
      .defaulted "use_ppa" (.bool false) boolean]
    ++ background.fields

/-- A panel without widgets and pages shows the welcome page. -/
def withWelcome : Test := fun v => do
  if v.has "widgets" || v.has "pages" then return v
  let page ← anyWidgets (Grammar.ofValue Welcome.page) (.fixed []) Welcome.page
  return v.put "widgets" page

def panel (g : Grammar) : Test := allOf
  [g.container .obj (panelFields g), atMostOneKey ["pages", "layout"], withWelcome]

def rule : Test := fun v => do
  let g := Grammar.ofValue v
  if !v.truthy || v.isDict then return .list [← panel g v]
  listOf (panel g) v

end Component

end Panel
