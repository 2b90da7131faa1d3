import Panel.Code.Block

/-! # The program — objects, definitions and components of generated code -/

namespace Panel

open Cpp Expr

namespace Code

/-- Adds a statement with an expression to the main program, whatever the current block is. -/
def addToMain (e : Expr) : Check Unit := addMain (.item (.expr e))

def addGlobal (e : Expr) : Check Unit :=
  modify fun s => { s with globals := s.globals ++ [.item (.expr e)] }

def register (id : Ident) (e : Expr) : Check Unit := do
  if ((← get).objects.any fun v => v.id.name == id.name) then
    throw (.rejected ("ID " ++ id.text ++ " is already registered"))
  modify fun s => { s with objects := s.objects ++ [⟨id, e⟩] }

def pointerTo (id : Ident) (rhs : Expr) : Check Expr := do
  addGlobal (.declare id.typeText "*" id.text)
  addToMain (.assign (.raw id.text) rhs)
  register id (pointer id.text)
  return pointer id.text

def newOf (type : String) (args : List Value) : Check Expr := do
  return .object (.call (.raw ("new " ++ type)) [] (← arguments args)) .arrow

def newObject (id : Ident) (args : List Value) : Check Expr := do
  pointerTo id (← newOf id.typeText args)

/-- A global pointer to a new object of the identifier's type with template arguments. -/
def newTemplate (id : Ident) (template : List CppType) (args : List Value) : Check Expr := do
  let id := { id with type := id.type.map fun t => t.template (template.map (·.name)) }
  pointerTo id (← newOf id.typeText args)

def globalPointer (type : String) (id : Ident) : Check Expr := do
  addGlobal (.declare type "*" id.text)
  register id (pointer id.text)
  return pointer id.text

def globalVariable (type : String) (id : Ident) : Check Expr := do
  addGlobal (.declare type "" id.text)
  register id (named id.text)
  return named id.text

def newVariable (id : Ident) (rhs : Value) : Check Expr := do
  let rhs ← express rhs
  addGlobal (.declare id.typeText "" id.text)
  addToMain (.assign (.raw id.text) rhs)
  register id (named id.text)
  return named id.text

def constantArray (name : String) (type : CppType) (rhs : Value) : Check Expr := do
  let rhs ← express rhs
  addToMain (.define ("static const " ++ type.name) "" (name ++ "[]") rhs)
  register ⟨some name, some type, true, true⟩ (named name)
  return named name

/-- An array of constants in read-only memory. -/
def romArray (id : Ident) (rhs : Value) : Check Expr := do
  let rhs ← express rhs
  addToMain (.define ("static const " ++ id.typeText) "" (id.text ++ "[] PROGMEM") rhs)
  register id (named id.text)
  return named id.text

def define (name : String) (value : Option String) : Check Unit :=
  modify fun s => { s with defines := addTo s.defines (name, value) }

def addFlag (flag : String) : Check Unit :=
  modify fun s => { s with flags := addTo s.flags flag }

def addLibrary (name version : String) : Check Unit :=
  modify fun s => { s with libraries := addTo s.libraries (name, version) }

def registerComponent (var : Expr) (config : Value) : Check Unit := do
  let name := var.render
  if !(← get).componentIds.contains name then
    throw (.badValue ("Component ID " ++ name ++ " was not declared to inherit from Component, or "
      ++ "was registered twice. Please create a bug report with your configuration."))
  modify fun s => { s with componentIds := s.componentIds.erase name }
  match config.get? "setup_priority" with
  | some v => addToMain (← methodOf var "set_setup_priority" [v])
  | none => pure ()
  match config.get? "update_interval" with
  | some v => addToMain (← methodOf var "set_update_interval" [v])
  | none => pure ()
  addToMain (var.method "set_component_source" [.quoted (← get).source])
  addToMain ((named "App").method "register_component" [var])

def setParent (var parent : Expr) : Check Unit :=
  addToMain (var.method "set_parent" [parent])

end Code

/-- The type arguments of an automation with the given parameters. -/
def templateOf (params : List Param) : List CppType := params.map (·.type)

end Panel
