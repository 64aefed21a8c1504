import IniSettings.Storage.Entry
import IniSettings.Storage.Script

/-!
# A tree of directories

Directories and files with a working directory, which answers calls as a file system does. A path
is walked name by name; a dot stays, two dots go up, and all names but the last have to be
directories. Opening a file for writing makes the directories that it lies in.
-/

namespace IniSettings

structure Tree where
  root : Entry
  workingDirectory : Location
  writing : Option Location

abbrev Trail := List (String × Entry)

namespace Tree

/-- An empty working directory under the root. -/
def fresh : Tree :=
  ⟨.directory [("work", .emptyDirectory)], ["work"], none⟩

def put (tree : Tree) (location : Location) (entry : Entry) : Tree :=
  { tree with root := tree.root.put location entry }

def moveEntry (tree : Tree) (source target : Location) : Tree :=
  match tree.root.get? source with
  | none => tree
  | some entry => { tree with root := (tree.root.erase source).put target entry }

/-! ## Walking a path -/

def reached (tree : Tree) : Trail → Entry
  | [] => tree.root
  | (_, entry) :: _ => entry

def start (tree : Tree) : Trail :=
  tree.workingDirectory.foldl
    (fun trail name =>
      match (tree.reached trail).child? name with
      | none => trail
      | some entry => (name, entry) :: trail)
    []

inductive Last where
  | name (name : String)
  /-- A dot, two dots or the root: the directory that was reached. -/
  | here
deriving DecidableEq, Repr

structure Target where
  /-- The directory reached before the last part, or with it if that is no name. -/
  trail : Trail
  last : Last
  /-- A slash follows the last part. -/
  slashed : Bool

def Target.directory (target : Target) : Location :=
  (target.trail.map Prod.fst).reverse

def Target.location (target : Target) : Location :=
  match target.last with
  | .name name => target.directory ++ [name]
  | .here => target.directory

def nameLimit : Nat := 255

def pathLimit : Nat := 4096

def lookup (tree : Tree) (trail : Trail) (name : String) : Except IoError (Option Entry) :=
  if name.utf8ByteSize > nameLimit then .error .nameTooLong
  else .ok ((tree.reached trail).child? name)

def enter (tree : Tree) (trail : Trail) (name : String) : Except IoError Trail :=
  if name = "." then .ok trail
  else if name = ".." then .ok trail.tail
  else
    match tree.lookup trail name with
    | .error error => .error error
    | .ok none => .error .noEntry
    | .ok (some (.file _)) => .error .notDirectory
    | .ok (some entry) => .ok ((name, entry) :: trail)

def walk (tree : Tree) (trail : Trail) (slashed : Bool) : List String → Except IoError Target
  | [] => .ok ⟨trail, .here, slashed⟩
  | [name] =>
    if name = "." ∨ name = ".." then
      (tree.enter trail name).map fun trail => ⟨trail, .here, slashed⟩
    else .ok ⟨trail, .name name, slashed⟩
  | name :: rest => do
    let trail ← tree.enter trail name
    walk tree trail slashed rest

def checkCharacters (path : Path) : Except IoError Unit :=
  if path.text.toList.contains '\x00' then .error .nulInPath else .ok ()

def checkLength (path : Path) : Except IoError Unit :=
  if path.text = "" then .error .noEntry
  else if path.text.utf8ByteSize ≥ pathLimit then .error .nameTooLong
  else .ok ()

def locate (tree : Tree) (path : Path) : Except IoError Target := do
  checkCharacters path
  checkLength path
  let pieces := (Path.splitAtSlashes path.text.toList).filter fun piece => piece != []
  let trail := if path.text.toList.head? = some '/' then [] else tree.start
  let slashed := path.text.toList.getLast? = some '/'
  tree.walk trail slashed (pieces.map String.ofList)

/-- The entry that a path leads to, which must be a directory if a slash follows. -/
def find (tree : Tree) (path : Path) : Except IoError (Option Entry) := do
  let target ← tree.locate path
  match target.last with
  | .here => return some (tree.reached target.trail)
  | .name name =>
    let entry ← tree.lookup target.trail name
    match entry with
    | some (.file _) => if target.slashed then throw .notDirectory else return entry
    | _ => return entry

def isDirectory (tree : Tree) (path : Path) : Bool :=
  match tree.find path with
  | .ok (some (.directory _)) => true
  | _ => false

/-! ## Directories -/

def makeDirectory (tree : Tree) (path : Path) : Except IoError Tree := do
  let target ← tree.locate path
  match target.last with
  | .here => throw .entryExists
  | .name name =>
    match ← tree.lookup target.trail name with
    | some _ => throw .entryExists
    | none => return tree.put target.location .emptyDirectory

/-- Makes the directories, which are given from the shortest path to the longest. One that is
there already is kept. -/
def makeEach (tree : Tree) : List Path → Except IoError Unit × Tree
  | [] => (.ok (), tree)
  | path :: rest =>
    match tree.makeDirectory path with
    | .ok made => makeEach made rest
    | .error error =>
      if error = .entryExists ∧ tree.isDirectory path then makeEach tree rest
      else (.error error, tree)

/-- Looks from the path upwards for a directory that can be made or is there, and makes those that
were missing on the way. Neither the root nor the empty path has to be made. A path has fewer paths
above it than characters. -/
def makeFrom (tree : Tree) (missing : List Path) : (fuel : Nat) → Path → Except IoError Unit × Tree
  | 0, _ => makeEach tree missing
  | fuel + 1, path =>
    match path.parent? with
    | none => makeEach tree missing
    | some parent =>
      match tree.makeDirectory path with
      | .ok made => makeEach made missing
      | .error .noEntry => makeFrom tree (path :: missing) fuel parent
      | .error error =>
        if error = .entryExists ∧ tree.isDirectory path then makeEach tree missing
        else (.error error, tree)

def makeDirectories (tree : Tree) (path : Path) : Except IoError Unit × Tree :=
  makeFrom tree [] (path.text.length + 1) path

/-! ## Calls -/

def read (tree : Tree) (path : Path) : Except IoError Bytes := do
  match ← tree.find path with
  | none => throw .noEntry
  | some (.directory _) => throw .isDirectory
  | some (.file contents) => return contents.bytes

/-- Where a file can be opened for writing. -/
def openable (tree : Tree) (path : Path) : Except IoError Location := do
  let target ← tree.locate path
  match target.last with
  | .here => throw .isDirectory
  | .name name =>
    if target.slashed then throw .isDirectory
    else
      match ← tree.lookup target.trail name with
      | some (.directory _) => throw .isDirectory
      | _ => return target.location

def openFile (tree : Tree) (path : Path) : Except IoError Unit × Tree :=
  match tree.openable path with
  | .error error => (.error error, tree)
  | .ok location => (.ok (), { tree.put location (.file .empty) with writing := some location })

def create (tree : Tree) (path : Path) : Except IoError Unit × Tree :=
  match path.parent? with
  | none => tree.openFile path
  | some parent =>
    if parent.text = "" then tree.openFile path
    else
      match tree.makeDirectories parent with
      | (.error error, tree) => (.error error, tree)
      | (.ok (), tree) => tree.openFile path

def write (tree : Tree) (bytes : Bytes) : Except IoError Nat × Tree :=
  match tree.writing with
  | none => (.error .notOpen, tree)
  | some location =>
    match tree.root.get? location with
    | some (.file contents) =>
      (.ok bytes.length, tree.put location (.file (contents.append bytes)))
    | _ => (.error .notOpen, tree)

def flush (tree : Tree) : Except IoError Unit :=
  if tree.writing.isNone then .error .notOpen else .ok ()

/-- Where a file can be removed. -/
def removable (tree : Tree) (path : Path) : Except IoError Location := do
  let target ← tree.locate path
  match target.last with
  | .here => throw .isDirectory
  | .name name =>
    match ← tree.lookup target.trail name with
    | none => throw .noEntry
    | some (.directory _) => throw .isDirectory
    | some (.file _) => if target.slashed then throw .notDirectory else return target.location

def remove (tree : Tree) (path : Path) : Except IoError Unit × Tree :=
  match tree.removable path with
  | .error error => (.error error, tree)
  | .ok location => (.ok (), { tree with root := tree.root.erase location })

/-- From where and to where an entry can be moved. -/
def movable (tree : Tree) (source target : Path) : Except IoError (Location × Location) := do
  checkCharacters source
  checkCharacters target
  let source ← tree.locate source
  let target ← tree.locate target
  match source.last, target.last with
  | .name name, .name newName =>
    match ← tree.lookup source.trail name with
    | none => throw .noEntry
    | some (.file _) =>
      let found ← tree.lookup target.trail newName
      if source.slashed ∨ target.slashed then throw .notDirectory
      else if target.location.isPrefixOf source.directory then throw .notEmpty
      else
        match found with
        | some (.directory _) => throw .isDirectory
        | _ => return (source.location, target.location)
    | some (.directory _) =>
      let found ← tree.lookup target.trail newName
      if source.location.isPrefixOf target.directory then throw .invalidArgument
      else if target.location.isPrefixOf source.directory then throw .notEmpty
      else if source.location = target.location then return (source.location, target.location)
      else
        match found with
        | some (.file _) => throw .notDirectory
        | some (.directory (_ :: _)) => throw .notEmpty
        | _ => return (source.location, target.location)
  | _, _ => throw .busy

def rename (tree : Tree) (source target : Path) : Except IoError Unit × Tree :=
  match tree.movable source target with
  | .error error => (.error error, tree)
  | .ok (source, target) =>
    (.ok (), if source = target then tree else tree.moveEntry source target)

instance : Backend Tree where
  answer
    | .read path, tree => (tree.read path, tree)
    | .create path, tree => tree.create path
    | .write bytes, tree => tree.write bytes
    | .flush, tree => (tree.flush, tree)
    | .close, tree => ((), { tree with writing := none })
    | .remove path, tree => tree.remove path
    | .rename source target, tree => tree.rename source target

/-! ## Setting up and looking at a tree -/

def insert (tree : Tree) (path : Path) (bytes : Bytes) : Tree :=
  match tree.create path with
  | (.error _, tree) => tree
  | (.ok (), opened) =>
    match opened.writing with
    | none => opened
    | some location => { opened.put location (.file (.ofBytes bytes)) with writing := tree.writing }

def listing (tree : Tree) : List (Location × Entry) :=
  (tree.reached tree.start).listing

end Tree

end IniSettings
