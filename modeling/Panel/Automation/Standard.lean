import Panel.Automation.Behaviour

/-! # Standard behaviours — code of one's own, delays, branches, log lines, and connectives -/

namespace Panel

open Cpp Code Test

namespace Automation

/-! ## Actions -/

def runCode : Behaviour where
  name := "lambda"
  type := lambdaAction
  rule := fun _ => lambda
  build := fun _ config id params => do
    match config with
    | .lambda body =>
      let c ← closure body params "=" (some void)
      newEntry id params [.cpp (.closure c)]
    | _ => throw .noAttribute

def templated (v : Value) (params : List Param) (type : CppType) : Build Value := do
  match v with
  | .lambda body => return .cpp (.closure (← closure body params "=" (some type)))
  | other => return other

def delay : Behaviour where
  name := "delay"
  type := delayAction
  rule := fun _ => templatable Period.milliseconds
  build := fun _ config id params => do
    let var ← newEntry id params []
    registerComponent var (.dict [])
    let time ← templated config params uint32
    addToMain (← methodOf var "set_delay" [time])
    return var

/-- Builds the actions of a branch, if it is there. -/
def addBranch (g : Generator) (var : Expr) (config : Value) (key : String) (params : List Param) :
    Build Unit := do
  match config.get? key with
  | some actions =>
    let built ← g.actions actions params
    addToMain (var.method ("add_" ++ key) [.array built])
  | none => pure ()

def branch : Behaviour where
  name := "if"
  type := ifAction
  rule := fun g => allOf
    [(Record.of
        [.required "condition" g.condition, .optional "then" g.actions,
          .optional "else" g.actions]).run,
      atLeastOneKey ["then", "else"]]
  build := fun g config id params => do
    let condition ← required config "condition"
    let built ← g.condition condition params
    let var ← newEntry id params [.cpp built]
    addBranch g var config "then" params
    addBranch g var config "else" params
    return var

/-- Levels of log lines, with the functions that write them. -/
def logLevels : List (String × String) :=
  [("ERROR", "ESP_LOGE"), ("WARN", "ESP_LOGW"), ("INFO", "ESP_LOGI"), ("DEBUG", "ESP_LOGD"),
    ("VERBOSE", "ESP_LOGV"), ("VERY_VERBOSE", "ESP_LOGVV")]

def logStatement (config : Value) : Check String := do
  let level ← required config "level"
  let format ← required config "format"
  let tag ← required config "tag"
  let args := ((config.get? "args").bind Value.items?).getD []
  match logLevels.find? (·.1 == level.show) with
  | none => throw (.missingKey level.show)
  | some (_, function) =>
    let call ← callOf function
      ([tag, format] ++ args.map fun a => .cpp (.raw a.show))
    return call.render ++ ";"

def writeLog : Behaviour where
  name := "logger.log"
  type := lambdaAction
  rule := fun _ => maybeSimple "format" (allOf
    [(Record.of
        [.required "format" text,
          .defaulted "args" (.list []) (ensureList lambda),
          .defaulted "level" (.str "DEBUG") (upperWord (logLevels.map (·.1))),
          .defaulted "tag" (.str "main") text]).run,
      checkFormat])
  build := fun _ config id params => do
    let body ← logStatement config
    let c ← closure body params "=" (some void)
    newEntry id params [.cpp (.closure c)]

def standardActions : List Behaviour := [runCode, delay, branch, writeLog]

/-! ## Conditions -/

def codeHolds : Behaviour where
  name := "lambda"
  type := lambdaCondition
  rule := fun _ => returningLambda
  build := fun _ config id params => do
    match config with
    | .lambda body =>
      let c ← closure body params "=" (some bool)
      newEntry id params [.cpp (.closure c)]
    | _ => throw .noAttribute

def buildConditions (g : Generator) (params : List Param) : List Value → Build (List Expr)
  | [] => pure []
  | v :: vs => do
    let e ← g.condition v params
    return e :: (← buildConditions g params vs)

def connective (name : String) (type : CppType) : Behaviour where
  name := name
  type := type
  rule := fun g => g.conditions
  build := fun g config id params => do
    let built ← buildConditions g params (config.items?.getD [])
    newEntry id params [.cpp (.array built)]

def negation : Behaviour where
  name := "not"
  type := notCondition
  rule := fun g => g.condition
  build := fun g config id params => do
    let built ← g.condition config params
    newEntry id params [.cpp built]

def standardConditions : List Behaviour :=
  [codeHolds, connective "and" andCondition, connective "or" orCondition, negation]

end Automation

end Panel
