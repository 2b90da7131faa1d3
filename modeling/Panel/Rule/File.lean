import Panel.Files
import Panel.Rule.Test
import Panel.Text.Digest

/-! # Files of a configuration — files that must be there, and files that are fetched -/

namespace Panel

open Text Files

namespace Files

/-- The parts of a path without the empty ones, single dots, and what double dots undo. -/
def normalParts : List String → List String → List String
  | [], done => done.reverse
  | part :: parts, done =>
    if part == "" || part == "." then normalParts parts done
    else if part == ".." then normalParts parts done.tail
    else normalParts parts (part :: done)

def normal (path : String) : String :=
  let parts := String.intercalate "/" (normalParts (parts '/' path) [])
  if hasPrefix "/" path then "/" ++ parts else parts

/-- A path without repeated separators and single dots. -/
def tidy (path : String) : String :=
  let parts := String.intercalate "/" ((parts '/' path).filter fun p => p != "" && p != ".")
  if hasPrefix "/" path then "/" ++ parts else if parts == "" then "." else parts

def cacheFolder (s : Session) (kind : String) : String := s.folder ++ "/ext/" ++ kind

def cacheKey (address : String) : String :=
  String.ofList ((Text.Digest.hexDigest address).toList.take 8)

/-- The name of a place beside the configuration. -/
def place (s : Session) (path : String) : String :=
  removePrefix (s.folder ++ "/") (normal path)

def download (address path : String) : Check Unit :=
  modify fun s =>
    let s := { s with downloads := s.downloads ++ [(address, path)] }
    match s.remote.find? (·.1 == address) with
    | some (_, content) =>
      let name := place s path
      { s with files := s.files.filter (·.1 != name) ++ [(name, content)] }
    | none => s

end Files

namespace Test

def file : Test := fun v => do
  let name ← textOf v
  let s ← get
  let path := pathOf s name
  if (fileAt? s path).isSome then return .str name
  if isFolder s path then
    refuse ("Path '" ++ path ++ "' is not a file (full path: " ++ normal path ++ ").")
  refuse ("Could not find file '" ++ path ++ "'. Please make sure it exists (full path: "
    ++ normal path ++ ").")

end Test

end Panel
