import IniSettings.Storage.Contents

/-!
# Entries of directories

An entry is a file with its contents or a directory with the entries in it. What lies in an entry
is found by the names on the way to it.
-/

namespace IniSettings

inductive Entry where
  | file (contents : Contents)
  | directory (entries : List (String × Entry))

abbrev Location := List String

namespace Entry

def emptyDirectory : Entry :=
  .directory []

def child? (name : String) : Entry → Option Entry
  | .file _ => none
  | .directory entries => entries.lookup name

def get? (entry : Entry) : Location → Option Entry
  | [] => some entry
  | name :: rest =>
    match entry.child? name with
    | none => none
    | some child => child.get? rest

def assign (name : String) (entry : Entry) : List (String × Entry) → List (String × Entry)
  | [] => [(name, entry)]
  | (other, old) :: rest =>
    if other = name then (name, entry) :: rest else (other, old) :: assign name entry rest

/-- Puts an entry at a location. The directories on the way are made if need be. -/
def put : Entry → Location → (placed : Entry) → Entry
  | _, [], placed => placed
  | .file contents, _, _ => .file contents
  | .directory entries, name :: rest, placed =>
    let child := (entries.lookup name).getD emptyDirectory
    .directory (assign name (child.put rest placed) entries)

def erase : Location → Entry → Entry
  | [], entry => entry
  | _, .file contents => .file contents
  | [name], .directory entries => .directory (entries.filter fun found => found.1 != name)
  | name :: rest, .directory entries =>
    match entries.lookup name with
    | none => .directory entries
    | some child => .directory (assign name (erase rest child) entries)

mutual

def listing : Entry → List (Location × Entry)
  | .file _ => []
  | .directory entries => listEach entries

def listEach : List (String × Entry) → List (Location × Entry)
  | [] => []
  | (name, entry) :: rest =>
    ([name], entry) :: (listing entry).map (fun found => (name :: found.1, found.2)) ++
      listEach rest

end

end Entry

end IniSettings
