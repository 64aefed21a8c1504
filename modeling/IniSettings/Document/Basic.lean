import IniSettings.Abort

/-!
# Documents

A document is an ordered map of sections, a section an ordered map from keys to values. A new key
goes to the end, a key that is there keeps its place, and what is removed leaves the order of the
rest as it was.
-/

namespace IniSettings

structure Section where
  name : String
  pairs : List (String × String)
deriving DecidableEq, Repr

structure Document where
  sections : List Section
deriving DecidableEq, Repr

namespace Section

def empty (name : String) : Section :=
  ⟨name, []⟩

def keys (content : Section) : List String :=
  content.pairs.map Prod.fst

def get? (content : Section) (key : String) : Option String :=
  content.pairs.lookup key

def contains (content : Section) (key : String) : Bool :=
  (content.get? key).isSome

def size (content : Section) : Nat :=
  content.pairs.length

def isEmpty (content : Section) : Bool :=
  content.pairs.isEmpty

/-- The pairs in which `key` has the value, at its old place or at the end. -/
def assignPair (key value : String) : List (String × String) → List (String × String)
  | [] => [(key, value)]
  | (other, old) :: rest =>
    if other = key then (key, value) :: rest else (other, old) :: assignPair key value rest

def assign (content : Section) (key value : String) : Section :=
  { content with pairs := assignPair key value content.pairs }

/-- Gives `key` the value. No line of the file could hold an empty key, so there is none. -/
def set (content : Section) (key value : String) : Except Abort Section :=
  if key = "" then .error .emptyKey else .ok (content.assign key value)

def remove (content : Section) (key : String) : Option String × Section :=
  (content.get? key,
    { content with pairs := content.pairs.eraseP fun pair => pair.1 == key })

end Section

namespace Document

def empty : Document :=
  ⟨[]⟩

def size (document : Document) : Nat :=
  document.sections.length

def isEmpty (document : Document) : Bool :=
  document.sections.isEmpty

def names (document : Document) : List String :=
  document.sections.map Section.name

def section? (document : Document) (name : String) : Option Section :=
  document.sections.find? fun content => content.name == name

def openSection (document : Document) (name : String) : Document × Nat :=
  match document.sections.findIdx? fun content => content.name == name with
  | some index => (document, index)
  | none => (⟨document.sections ++ [Section.empty name]⟩, document.sections.length)

def modifyAt (document : Document) (index : Nat) (change : Section → Section) : Document :=
  ⟨document.sections.modify index change⟩

def setAt (document : Document) (index : Nat) (key value : String) : Except Abort Document :=
  match document.sections[index]? with
  | none => .ok document
  | some content =>
    (content.set key value).map fun changed => document.modifyAt index fun _ => changed

/-- Gives a key of a section a value, in a section that is created if need be. The section is
there even if the key is refused. -/
def set (document : Document) (name key value : String) : Except Abort Unit × Document :=
  let (document, index) := document.openSection name
  match document.setAt index key value with
  | .error abort => (.error abort, document)
  | .ok changed => (.ok (), changed)

def remove (document : Document) (name key : String) : Option String × Document :=
  match document.sections.findIdx? fun content => content.name == name with
  | none => (none, document)
  | some index =>
    (((document.section? name).bind fun content => content.get? key),
      document.modifyAt index fun content => (content.remove key).2)

inductive Edit where
  | insert (name : String)
  | set (name key value : String)
  | remove (name key : String)
deriving DecidableEq, Repr

def edit (document : Document) : Edit → Document
  | .insert name => (document.openSection name).1
  | .set name key value => (document.set name key value).2
  | .remove name key => (document.remove name key).2

/-- The document that a sequence of edits makes. -/
def build (edits : List Edit) : Document :=
  edits.foldl edit empty

end Document

end IniSettings
