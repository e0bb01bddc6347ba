import WlanAdmin.Html.Node

/-!
# WlanAdmin.Html.Arena

The tree of a page while it is being built. Nodes are known by number, so that they can be moved
and still be referred to; the page itself is number zero.
-/

namespace WlanAdmin.Html

abbrev NodeId := Nat

/-- The language an element belongs to. -/
inductive Vocabulary where
  | html
  | svg
  | math
  deriving DecidableEq, Repr

structure Element where
  name : String
  vocabulary : Vocabulary := .html
  attributes : Attributes := []
  deriving DecidableEq, Repr

/-- Whether an element is one of a page's own language, with one of some names. -/
def Element.isOneOf (element : Element) (names : List String) : Bool :=
  element.vocabulary == .html && names.contains element.name

inductive Content where
  | page
  | element (element : Element)
  | text (chars : String)
  /-- Stands for the content of the template around it. -/
  | fragment

structure Cell where
  content : Content
  parent : Option NodeId := none
  children : Array NodeId := #[]

structure Arena where
  cells : Array Cell := #[{ content := .page }]

namespace Arena

def page : NodeId := 0

/-- The element of a node; one without a name where the node is none. -/
def element (arena : Arena) (id : NodeId) : Element :=
  match arena.cells[id]?.map Cell.content with
  | some (.element element) => element
  | _ => { name := "" }

def parent (arena : Arena) (id : NodeId) : Option NodeId := arena.cells[id]?.bind Cell.parent

def children (arena : Arena) (id : NodeId) : Array NodeId :=
  (arena.cells[id]?.map Cell.children).getD #[]

/-- The node under which the content of an element stands: itself, or the fragment of a template,
which is its first child. -/
def contents (arena : Arena) (id : NodeId) : NodeId :=
  if (arena.element id).isOneOf ["template"] then (arena.children id)[0]?.getD id else id

/-- Adds a node that stands nowhere yet; its number is the former size. -/
def add (arena : Arena) (content : Content) : Arena := ⟨arena.cells.push { content }⟩

def modify (arena : Arena) (id : NodeId) (change : Cell → Cell) : Arena :=
  ⟨arena.cells.modify id change⟩

/-- Gives an element the attributes it does not have yet. -/
def addAttributes (arena : Arena) (id : NodeId) (attributes : Attributes) : Arena :=
  arena.modify id fun cell =>
    match cell.content with
    | .element element =>
      let new := attributes.filter fun (name, _) => (element.attributes.get? name).isNone
      { cell with content := .element { element with attributes := element.attributes ++ new } }
    | _ => cell

/-- Takes a node from its place. -/
def detach (arena : Arena) (id : NodeId) : Arena :=
  match arena.parent id with
  | none => arena
  | some parent =>
    let arena := arena.modify parent fun cell =>
      { cell with children := cell.children.filter (· != id) }
    arena.modify id fun cell => { cell with parent := none }

/-- Puts a node that stands nowhere behind the last child of another. -/
def append (arena : Arena) (parent id : NodeId) : Arena :=
  let arena := arena.modify parent fun cell => { cell with children := cell.children.push id }
  arena.modify id fun cell => { cell with parent := some parent }

/-- Puts a node that stands nowhere right before another. -/
def insertBefore (arena : Arena) (sibling id : NodeId) : Arena :=
  match arena.parent sibling with
  | none => arena
  | some parent =>
    let arena := arena.modify parent fun cell =>
      let (before, after) := cell.children.toList.span (· != sibling)
      { cell with children := (before ++ id :: after).toArray }
    arena.modify id fun cell => { cell with parent := some parent }

/-- Moves all children of a node behind those of another. -/
def moveChildren (arena : Arena) (source target : NodeId) : Arena :=
  let children := arena.children source
  let arena := arena.modify source fun cell => { cell with children := #[] }
  children.foldl (fun arena child => arena.append target child) arena

/-- The children of a node as trees, to a depth. -/
def trees (arena : Arena) : (depth : Nat) → NodeId → List Node
  | 0, _ => []
  | depth + 1, id =>
    match arena.cells[id]? with
    | none => []
    | some cell =>
      cell.children.toList.filterMap fun child =>
        match arena.cells[child]?.map Cell.content with
        | some (.element element) =>
          some (.element element.name element.attributes (arena.trees depth child))
        | some (.text chars) => some (.text chars)
        | some .fragment => some (.fragment (arena.trees depth child))
        | _ => none

/-- The tree of the page. No branch is longer than the number of nodes. -/
def toNodes (arena : Arena) : List Node := arena.trees arena.cells.size page

end Arena
end WlanAdmin.Html
