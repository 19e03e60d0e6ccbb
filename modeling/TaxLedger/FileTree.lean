/-!
# File trees

A directory of text files and directories, as the readers of a configuration, of a list of heights or
of asset lists see it. A path that leads nowhere and a path that leads to the wrong kind of entry are
told apart.
-/

namespace TaxLedger

/-- A text file, or a directory of named entries in no particular order. -/
inductive FileTree where
  | file (text : String)
  | directory (entries : List (String × FileTree))
  deriving Inhabited

inductive FileError where
  | missing
  | notADirectory
  | isADirectory
  deriving DecidableEq, Repr, Inhabited

namespace FileError

def message : FileError → String
  | .missing => "No such file or directory (os error 2)"
  | .notADirectory => "Not a directory (os error 20)"
  | .isADirectory => "Is a directory (os error 21)"

end FileError

namespace FileTree

/-- The entry that the names lead to, one directory after the other. -/
def get? : List String → FileTree → Except FileError FileTree
  | [], tree => .ok tree
  | _ :: _, .file _ => .error .notADirectory
  | name :: rest, .directory entries =>
    match entries.lookup name with
    | some tree => tree.get? rest
    | none => .error .missing

def readText (tree : FileTree) (path : List String) : Except FileError String :=
  match tree.get? path with
  | .ok (.file text) => .ok text
  | .ok (.directory _) => .error .isADirectory
  | .error e => .error e

def readDirectory (tree : FileTree) (path : List String) :
    Except FileError (List (String × FileTree)) :=
  match tree.get? path with
  | .ok (.directory entries) => .ok entries
  | .ok (.file _) => .error .notADirectory
  | .error e => .error e

/-- The entries with the one called `name` changed by `f`, or made by it from an empty directory. -/
def alterEntry (name : String) (f : FileTree → FileTree) :
    List (String × FileTree) → List (String × FileTree)
  | [] => [(name, f (.directory []))]
  | (k, tree) :: rest =>
    if k = name then (k, f tree) :: rest else (k, tree) :: alterEntry name f rest

def insert (entry : FileTree) : List String → FileTree → FileTree
  | [], _ => entry
  | name :: rest, .directory entries => .directory (alterEntry name (insert entry rest) entries)
  | name :: rest, .file _ => .directory [(name, insert entry rest (.directory []))]

/-- Makes a file at a path or replaces the one that is there. The directory it is in is there already. -/
def writeText (text : String) (path : List String) (tree : FileTree) : Except FileError FileTree :=
  match tree.get? path with
  | .ok (.directory _) => .error .isADirectory
  | .ok (.file _) => .ok (insert (.file text) path tree)
  | .error e =>
    match tree.readDirectory path.dropLast with
    | .ok _ => .ok (insert (.file text) path tree)
    | .error _ => .error e

/-- The names of a path written with slashes; empty names and single points lead nowhere else. -/
def pathNames (path : String) : List String :=
  ((path.splitOn "/").filter fun name => name != "" && name != ".")

end FileTree

end TaxLedger
