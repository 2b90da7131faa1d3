import Panel.Failure
import Panel.Widget.Kind
import Panel.Picture.Frame
import Panel.Font.Face
import Panel.Font.GlyphSet

/-! # Sessions — everything that one piece of work reads and changes -/

namespace Panel

open Cpp

/-! ## State -/

/-- A widget under construction or complete. -/
structure Widget where
  key : String
  var : Expr
  kind : Kind
  config : Value
  obj : Expr
  scale : Value
  rangeFrom : Value
  rangeTo : Value
  /-- The enclosing object that is shown and hidden in its place. -/
  outer : Option Expr
  moveToFront : Bool
  /-- For a button of a matrix: the matrix variable and the index. -/
  cell : Option (Expr × Nat)
  deriving Inhabited

/-- How a code block ends up in the program. -/
inductive ContextForm where
  | main
  | lambda
  | setup
  deriving BEq, DecidableEq, Repr, Inhabited

/-- A code block under construction. -/
structure Context where
  form : ContextForm
  previous : Option Nat
  level : Int
  code : List Stmt
  params : List Param
  result : Option CppType
  capture : String
  deriving Inhabited

/-- A needle of a scale: its variable, and the length of a line needle. -/
structure Needle where
  name : String
  length : Option Value
  deriving Inhabited

/-- The answer of the remote font service. -/
inductive RemotePage where
  | fails (reason : String)
  | text (page : String)
  deriving Inhabited

/-- The named object registry entry. -/
structure Variable where
  id : Ident
  value : Expr
  deriving Inhabited

/-- The state of one piece of work. -/
structure Session where
  platform : String := "esp32"
  loaded : List String := []
  folder : String := ""
  home : String := ""
  files : List (String × List UInt8) := []
  pictures : List (String × List Picture.Frame) := []
  remote : List (String × List UInt8) := []
  recent : Bool := true
  page : RemotePage := .fails "no network"
  faces : List (String × Option Font.Face) := []
  glyphSets : Font.GlyphLibrary := {}
  downloads : List (String × String) := []
  rendered : List (Option (Int × Int)) := []
  config : Entries := []
  /-- The names that the configuration declares. -/
  declared : List String := []
  uses : List String := ["FONT_PLACEHOLDER", "LOG", "STYLE", "THEME_DEFAULT", "USER_DATA"]
  fontsUsed : List String := []
  clientFonts : List Ident := []
  components : List String := []
  imagesUsed : List Ident := []
  focused : List Ident := []
  refreshed : List Ident := []
  stylesUsed : List String := []
  stretched : List String := []
  updated : List (Kind × List Value) := []
  warnings : List String := []
  remapped : List String := []
  macros : List (String × String) := []
  notes : Entries := []
  fontCache : List (String × Font.Loaded) := []
  log : List String := []
  objects : List Variable := []
  globals : List Stmt := []
  main : List Stmt := []
  defines : List (String × Option String) := []
  flags : List String := []
  libraries : List (String × String) := []
  componentIds : List String := []
  widgets : List Widget := []
  completed : Bool := false
  themes : List (String × List (String × List (String × Expr))) := []
  namedStyles : List (String × Expr) := []
  layers : List (String × String) := []
  needles : List (String × Needle) := []
  svgIncluded : Bool := false
  lottieIncluded : Bool := false
  imageData : List (String × Value) := []
  /-- The module that components are registered from. -/
  source : String := "lvgl"
  contexts : List Context := []
  current : Option Nat := none
  /-- How many addresses have been handed out for names. -/
  addresses : Nat := 0
  /-- Objects that pieces of work have built, under the names of the pieces. -/
  built : List (String × List Expr) := []
  deriving Inhabited

def addTo {α : Type} [BEq α] (xs : List α) (x : α) : List α :=
  if xs.contains x then xs else xs ++ [x]

/-! ## Work that may fail -/

/-- Work that may fail; the state it reached is kept either way. -/
abbrev Check (α : Type) := ExceptT Failure (StateM Session) α

/-- Fails with a message at the place itself. -/
def refuse {α : Type} (message : String) : Check α :=
  throw (Failure.invalid message)

def Check.on {α : Type} (c : Check α) (s : Session) : Except Failure α × Session :=
  c.run.run s

/-! ## Work that may wait -/

/-- The outcome of a step of work: an end, or a point where it waits until the session is ready
    for it to go on. -/
inductive Job (α : Type) where
  | done (result : Except Failure α) (state : Session)
  | waiting (state : Session) (ready : Session → Bool) (resume : Session → Job α)

def Job.bind {α β : Type} : Job α → (α → Session → Job β) → Job β
  | .done (.ok a) s, f => f a s
  | .done (.error e) s, _ => .done (.error e) s
  | .waiting s ready resume, f => .waiting s ready fun t => (resume t).bind f

def Job.recover {α : Type} : Job α → (Failure → Session → Job α) → Job α
  | .done (.ok a) s, _ => .done (.ok a) s
  | .done (.error e) s, f => f e s
  | .waiting s ready resume, f => .waiting s ready fun t => (resume t).recover f

def Build (α : Type) := Session → Job α

namespace Build

instance : Monad Build where
  pure a := fun s => .done (.ok a) s
  bind x f := fun s => (x s).bind f

instance : MonadStateOf Session Build where
  get := fun s => .done (.ok s) s
  set t := fun _ => .done (.ok ()) t
  modifyGet f := fun s => let (a, t) := f s; .done (.ok a) t

instance : MonadExceptOf Failure Build where
  throw e := fun s => .done (.error e) s
  tryCatch x f := fun s => (x s).recover f

/-- Work that only may fail is work that never waits. -/
def ofCheck {α : Type} (c : Check α) : Build α := fun s =>
  let (r, t) := c.on s
  .done r t

instance : MonadLift Check Build := ⟨ofCheck⟩

/-- Waits until the session gives an answer; looks at it once before waiting. -/
def waitFor {α : Type} (answer : Session → Option (Except Failure α)) : Build α := fun s =>
  match answer s with
  | some r => .done r s
  | none => .waiting s (fun t => (answer t).isSome) fun t =>
    match answer t with
    | some r => .done r t
    | none => .done (.error .pending) t

def now {α : Type} (b : Build α) (s : Session) : Except Failure α × Session :=
  match b s with
  | .done r t => (r, t)
  | .waiting t _ _ => (.error .pending, t)

end Build

end Panel
