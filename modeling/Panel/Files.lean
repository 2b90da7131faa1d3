import Panel.Session
import Panel.Text.Utf8

/-! # Files beside the configuration

    Names are relative to the folder of the configuration; a name that begins with a slash stands
    for itself. -/

namespace Panel.Files

open Text

def pathOf (s : Session) (name : String) : String :=
  if hasPrefix "/" name then name else s.folder ++ "/" ++ name

def holdsFolder (s : Session) (parts : List String) : Bool :=
  parts.isEmpty
    || s.files.any fun f => hasPrefix (String.intercalate "/" parts ++ "/") f.1

/-- Walks along the parts of a name; the folders on the way must be there. -/
def walk (s : Session) : List String → List String → Option (List String)
  | [], seen => some seen
  | part :: parts, seen =>
    if part == "" || part == "." then walk s parts seen
    else if !holdsFolder s seen then none
    else if part == ".." then
      if seen.isEmpty then none else walk s parts seen.dropLast
    else walk s parts (seen ++ [part])

/-- The name below the folder of the configuration that a full name stands for. -/
def below? (s : Session) (path : String) : Option (List String) :=
  if path == s.folder then some []
  else if hasPrefix (s.folder ++ "/") path then
    walk s (parts '/' (removePrefix (s.folder ++ "/") path)) []
  else none

def fileAt? (s : Session) (path : String) : Option (List UInt8) :=
  match below? s path with
  | some parts => (s.files.find? (·.1 == String.intercalate "/" parts)).map (·.2)
  | none => none

def isFolder (s : Session) (path : String) : Bool :=
  match below? s path with
  | some parts => holdsFolder s parts
  | none => false

/-- A file as a text with plain line breaks, or why it cannot be read. -/
def readText (s : Session) (path : String) : Except String String :=
  match fileAt? s path with
  | none => .error ("[Errno 2] No such file or directory: " ++ quoted path)
  | some bytes =>
    match Text.Utf8.decode bytes with
    | .ok t => .ok (Text.Utf8.plainLines t)
    | .error fault => .error fault.message

end Panel.Files
