import WlanAdmin.Html.Token

/-!
# WlanAdmin.Html.Node

The tree of a page: elements and the text between them. Names are in lower case. The content of a
template stands under a node of its own, one level below the template.
-/

namespace WlanAdmin.Html

inductive Node where
  | element (name : String) (attributes : Attributes) (children : List Node)
  | text (chars : String)
  /-- The content of a template. -/
  | fragment (children : List Node)
  deriving Repr

namespace Node

def children : Node → List Node
  | element _ _ inner => inner
  | text _ => []
  | fragment inner => inner

/-- The text that stands directly in a node. -/
def directText (node : Node) : String :=
  String.join (node.children.filterMap fun child =>
    match child with
    | .text chars => some chars
    | .element .. | .fragment _ => none)

mutual

/-- The number of nodes of a tree. -/
def size : Node → Nat
  | element _ _ inner => sizeAll inner + 1
  | text _ => 1
  | fragment inner => sizeAll inner + 1

def sizeAll : List Node → Nat
  | [] => 0
  | node :: rest => node.size + sizeAll rest

end

theorem sizeAll_append (a b : List Node) : sizeAll (a ++ b) = sizeAll a + sizeAll b := by
  induction a with
  | nil => simp [sizeAll]
  | cons node rest ih => simp only [List.cons_append, sizeAll, ih]; omega

theorem sizeAll_children (node : Node) : sizeAll node.children < node.size := by
  cases node with
  | element _ _ inner => simp [Node.children, size]
  | text _ => simp [Node.children, size, sizeAll]
  | fragment inner => simp [Node.children, size]

/-- The next level of a tree holds fewer nodes than what starts at this one. -/
theorem sizeAll_flatMap_children (node : Node) (rest : List Node) :
    sizeAll ((node :: rest).flatMap Node.children) < sizeAll (node :: rest) := by
  induction rest generalizing node with
  | nil => simpa [sizeAll, sizeAll_append] using sizeAll_children node
  | cons next rest ih =>
    have h₁ := ih next
    have h₂ := sizeAll_children node
    simp only [List.flatMap_cons, sizeAll_append, sizeAll] at h₁ ⊢
    omega

end Node
end WlanAdmin.Html
