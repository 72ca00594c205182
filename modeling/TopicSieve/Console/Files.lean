import TopicSieve.Message.Reader

/-!
A tree of files held in memory. Paths are followed part by part, as a file system follows them, from
the root of the tree whether or not they begin with a slash. Nothing lies above the root.
-/

namespace TopicSieve

/-- Files and empty directories by the parts of their paths. A directory that holds something needs
no entry of its own. -/
structure Files where
  entries : List (List Text × Option Bytes)
deriving Repr, DecidableEq

inductive Place where
  | missing
  | file (content : Bytes)
  | directory
deriving Repr, DecidableEq

namespace Files

def empty : Files := ⟨[]⟩

def pathParts (path : Text) : List Text := Text.splitOn '/' path

def ofList (files : List (Text × Bytes)) : Files where
  entries := files.map fun (path, content) =>
    if path.getLast? = some '/' then (pathParts path.dropLast, none)
    else (pathParts path, some content)

def placeAt (files : Files) (names : List Text) : Place :=
  let isAt (entry : List Text × Option Bytes) : Bool := entry.1 == names
  let isBelow (entry : List Text × Option Bytes) : Bool := names.isPrefixOf entry.1
  match (files.entries.find? isAt).bind Prod.snd with
  | some content => .file content
  | none => if names.isEmpty || files.entries.any isBelow then .directory else .missing

def longestName : Nat := 255

def follow (files : Files) (names : List Text) : List Text → Except InputFault (List Text)
  | [] => .ok names
  | part :: rest =>
      match files.placeAt names with
      | .missing => .error .notFound
      | .file _ => .error .notDirectory
      | .directory =>
          if part.isEmpty || part == "." then follow files names rest
          else if part == ".." then
            if names.isEmpty then .error .notFound else follow files names.dropLast rest
          else if longestName < Text.byteLength part then
            .error (.other "File name too long (os error 36)")
          else follow files (names ++ [part]) rest

/-- Opens a path. Directories can be opened, but not read. -/
def openPath (files : Files) (path : Text) : Except InputFault OpenFile :=
  if path.contains '\x00' then .error (.other "file name contained an unexpected NUL byte")
  else if path.isEmpty then .error .notFound
  else do
    let names ← files.follow [] (pathParts path)
    match files.placeAt names with
    | .missing => .error .notFound
    | .file content => .ok (.content content)
    | .directory => .ok (.unreadable .isDirectory)

end Files

end TopicSieve
