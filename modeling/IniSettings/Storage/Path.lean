/-!
# Paths

A path is kept as it was written, since messages show it so, and compared by its components:
repeated slashes, a slash at the end and inner dots do not count. `Path.temporary` is the sibling
that a file is written to before it is moved into place.
-/

namespace IniSettings

structure Path where
  text : String
deriving DecidableEq, Repr

namespace Path

inductive Component where
  | root
  | current
  | parent
  | normal (name : String)
deriving DecidableEq, Repr

def splitAtSlashes : List Char → List (List Char)
  | [] => [[]]
  | c :: rest =>
    if c = '/' then [] :: splitAtSlashes rest
    else
      match splitAtSlashes rest with
      | [] => [[c]]
      | piece :: pieces => (c :: piece) :: pieces

def isIdle (piece : List Char) : Bool :=
  piece == [] || piece == ['.']

inductive Lead where
  | none
  | root
  | current
deriving DecidableEq, Repr

def Lead.text : Lead → List Char
  | .none => []
  | .root => ['/']
  | .current => ['.']

def split (path : Path) : Lead × List (List Char) :=
  match splitAtSlashes path.text.toList with
  | [] => (.none, [])
  | first :: rest =>
    if first = [] ∧ rest ≠ [] then (.root, rest)
    else if first = ['.'] then (.current, rest)
    else (.none, first :: rest)

def componentOf (piece : List Char) : Component :=
  if piece = ['.', '.'] then .parent else .normal (String.ofList piece)

/-- The components of a path. Two paths are the same if these are. -/
def components (path : Path) : List Component :=
  let (lead, pieces) := path.split
  let inner := (pieces.filter fun piece => !isIdle piece).map componentOf
  match lead with
  | .none => inner
  | .root => .root :: inner
  | .current => .current :: inner

def Same (path other : Path) : Prop :=
  path.components = other.components

instance (path other : Path) : Decidable (path.Same other) :=
  inferInstanceAs (Decidable (_ = _))

/-- The pieces without the idle ones at the end. -/
def trimIdle (pieces : List (List Char)) : List (List Char) :=
  (pieces.reverse.dropWhile isIdle).reverse

def join (lead : Lead) (pieces : List (List Char)) : Path :=
  let inner := ['/'].intercalate pieces
  match lead with
  | .current => ⟨String.ofList (lead.text ++ if pieces.isEmpty then [] else '/' :: inner)⟩
  | _ => ⟨String.ofList (lead.text ++ inner)⟩

/-- The path without its last component. The root and the empty path have no parent. -/
def parent? (path : Path) : Option Path :=
  let (lead, pieces) := path.split
  match trimIdle pieces with
  | [] => if lead = .current then some ⟨""⟩ else none
  | piece :: more => some (join lead (trimIdle (piece :: more).dropLast))

/-- The last component, if it is a name. -/
def fileName? (path : Path) : Option String :=
  match path.components.getLast? with
  | some (.normal name) => some name
  | _ => none

def push (path : Path) (name : String) : Path :=
  if path.text = "" ∨ path.text.toList.getLast? = some '/' then ⟨path.text ++ name⟩
  else ⟨path.text ++ "/" ++ name⟩

/-- The path with another file name. The name is put after a path that has none. -/
def withFileName (path : Path) (name : String) : Path :=
  match path.fileName? with
  | none => path.push name
  | some _ => (path.parent?.getD ⟨""⟩).push name

def temporary (path : Path) : Path :=
  path.withFileName (path.fileName?.getD "" ++ ".tmp")

end Path

end IniSettings
