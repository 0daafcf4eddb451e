/-! What a path leads to, and the folder in which a relative path is followed. -/

namespace TabularQuery

inductive Source
  | missing
  | unreadable (reason : String)
  | content (bytes : List UInt8)
  deriving DecidableEq

def Source.directory : Source := .unreadable "Is a directory (os error 21)"

/-- A folder of named files. Nothing is known of the folders above it except that they are
there. -/
structure Folder where
  files : List (String × List UInt8)

namespace Folder

inductive Location
  | inside
  | above
  | file (bytes : List UInt8)

/-- One component of a path. An empty component stands at a doubled or final slash. -/
def follow (folder : Folder) (location : Location) (component : String) : Option Location :=
  match location with
  | .file _ => none
  | .inside =>
    if component = "" ∨ component = "." then some .inside
    else if component = ".." then some .above
    else (folder.files.lookup component).map .file
  | .above => if component = "" ∨ component = "." ∨ component = ".." then some .above else none

/-- The length in bytes from which a path is not followed, however far it would lead. -/
def pathLimit : Nat := 4096

def locate (folder : Folder) (path : String) : Option Location :=
  if path = "" ∨ path.toList.contains '\x00' ∨ pathLimit ≤ path.utf8ByteSize then none
  else
    let start := if path.toList.head? = some '/' then Location.above else .inside
    (path.splitOn "/").foldlM folder.follow start

def source (folder : Folder) (path : String) : Source :=
  match folder.locate path with
  | none => .missing
  | some (.file bytes) => .content bytes
  | some _ => .directory

end Folder
end TabularQuery
