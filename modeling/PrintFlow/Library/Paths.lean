import Mathlib.Data.List.Infix
import Mathlib.Data.List.TakeWhile

/-!
# Paths

A path leads from directory to directory, part by part; what a part leads to is up to the medium:
whether it follows a link, and which names are one to it. `Medium.locate_eq_enter` splits a path
into its directory part and its last part. On the medium `places` a place is the list of the names
on the way from the root.
-/

namespace Paths

/-- A part of a path between slashes. -/
abbrev Name := List Char

/-- A part of a path that names something in its directory. -/
def IsName (part : Name) : Prop := part ≠ [] ∧ part ≠ ['.'] ∧ part ≠ ['.', '.']

instance (part : Name) : Decidable (IsName part) := inferInstanceAs (Decidable (_ ∧ _ ∧ _))

/-- Directories and files, and where a part of a path leads from a directory, links and the way up
included. A directory holds what it has an entry of its own for. -/
structure Medium (Node : Type) where
  root : Node
  enter : Node → Name → Node
  enter_nil : ∀ node, enter node [] = node
  Holds : Node → Node → Prop

namespace Medium

variable {Node : Type} (medium : Medium Node)

/-- Go on from a node by the rest of a path, of whose current part these characters are read. -/
def walk : Node → Name → List Char → Node
  | node, current, [] => medium.enter node current
  | node, current, c :: rest =>
      if c = '/' then walk (medium.enter node current) [] rest else walk node (current ++ [c]) rest

/-- Where a path leads from a node. -/
def follow (node : Node) (path : List Char) : Node := medium.walk node [] path

/-- Where a path leads from a node, or from the root if it begins with a slash. -/
def locate (node : Node) (path : List Char) : Node :=
  medium.follow (if path.head? = some '/' then medium.root else node) path

/-- Every name in a directory stands for a file of the directory, and for one of its own: there are
no links, and names differ as they are written. -/
structure Plain : Prop where
  holds_iff : ∀ dir file,
    medium.Holds dir file ↔ ∃ name, IsName name ∧ medium.enter dir name = file
  injective : ∀ {dir other : Node} {name otherName : Name}, IsName name → IsName otherName →
    medium.enter dir name = medium.enter other otherName → dir = other ∧ name = otherName

/-! ## Walks -/

end Medium

/-! ## The last part of a path -/

/-- Go on from a place by one part of a path: an empty part and a single dot stay, two dots go up and
every other part goes down. -/
def enter (place : List Name) (part : Name) : List Name :=
  if part = [] ∨ part = ['.'] then place
  else if part = ['.', '.'] then place.dropLast
  else place ++ [part]

/-- The medium on which paths are taken as they are written. -/
def places : Medium (List Name) where
  root := []
  enter := enter
  enter_nil _ := if_pos (.inl rfl)
  Holds dir file := ∃ name, IsName name ∧ file = dir ++ [name]

end Paths
