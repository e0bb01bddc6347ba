import WlanAdmin.Html.Node
import Mathlib.Data.List.Shortlex

/-!
# WlanAdmin.Proofs.Html.LevelOrder

The nodes of a page in the order in which a queue gives them, if the children of each node that is
taken from its front are put at its end. They come by depth, and in the order of the document within
a depth.

* `Placed`, `Before`     : a node stands at a path; shallower paths come first, then earlier ones.
* `queued`, `levelOrder` : what a queue gives, and what it gives for a whole page.
* `queued_level`         : a level is followed by the level below it.
* `mem_levelOrder_iff`   : all nodes of a page are given.
* `pairwise_levelOrder`  : each is given before all that come after it.
-/

namespace WlanAdmin.Html

/-- A node and its path: its place among its siblings, after the path of its parent. -/
abbrev Visit := List Nat × Node

/-- A node of a page stands at a path. -/
inductive Placed (page : List Node) : List Nat → Node → Prop where
  | top {i : Nat} {node : Node} : page[i]? = some node → Placed page [i] node
  | inside {path : List Nat} {parent node : Node} {i : Nat} : Placed page path parent →
      parent.children[i]? = some node → Placed page (path ++ [i]) node

/-- A shorter path comes first, and of two paths of one depth the one that is earlier in the
document. -/
abbrev Before : List Nat → List Nat → Prop := List.Shortlex (· < ·)

def numbered (path : List Nat) (siblings : List Node) : List Visit :=
  siblings.mapIdx fun i node => (path ++ [i], node)

def below (visit : Visit) : List Visit := numbered visit.1 visit.2.children

theorem nodes_numbered (path : List Nat) (siblings : List Node) :
    (numbered path siblings).map Prod.snd = siblings := by
  refine List.ext_getElem (by simp [numbered]) fun i _ _ => ?_
  simp [numbered]

theorem nodes_flatMap_below (level : List Visit) :
    (level.flatMap below).map Prod.snd = (level.map Prod.snd).flatMap Node.children := by
  rw [List.map_flatMap, List.flatMap_map]
  exact congrArg (List.flatMap · level) (funext fun visit => nodes_numbered visit.1 _)

theorem sizeAll_pop (first : Visit) (rest : List Visit) :
    Node.sizeAll ((rest ++ below first).map Prod.snd) <
      Node.sizeAll ((first :: rest).map Prod.snd) := by
  have := Node.sizeAll_children first.2
  rw [List.map_append, Node.sizeAll_append, below, nodes_numbered, List.map_cons, Node.sizeAll]
  omega

/-- What a queue gives: its first node, after whose children have been put behind all others. -/
def queued : List Visit → List Visit
  | [] => []
  | first :: rest => first :: queued (rest ++ below first)
termination_by queue => Node.sizeAll (queue.map Prod.snd)
decreasing_by exact sizeAll_pop first rest

/-- The nodes of a page, as a queue gives them. -/
def levelOrder (page : List Node) : List Visit := queued (numbered [] page)

/-! ## Level by level -/

theorem queued_append (front back : List Visit) :
    queued (front ++ back) = front ++ queued (back ++ front.flatMap below) := by
  induction front generalizing back with
  | nil => simp
  | cons first front ih =>
    rw [List.cons_append, queued, List.append_assoc, ih]
    simp

/-- A level is followed by the level below it. -/
theorem queued_level (level : List Visit) :
    queued level = level ++ queued (level.flatMap below) := by
  simpa using queued_append level []

/-- What is true of no nodes, and of a level if it is of the level below it, is true of all levels:
the level below has fewer nodes beneath it. -/
theorem level_induction {P : List Visit → Prop} (none : P [])
    (next : ∀ first rest, P ((first :: rest).flatMap below) → P (first :: rest))
    (level : List Visit) : P level := by
  induction size : Node.sizeAll (level.map Prod.snd) using Nat.strongRecOn generalizing level with
  | ind n ih =>
    cases level with
    | nil => exact none
    | cons first rest =>
      refine next first rest (ih _ ?_ _ rfl)
      rw [nodes_flatMap_below, ← size]
      exact Node.sizeAll_flatMap_children first.2 (rest.map Prod.snd)

/-! ## All nodes -/

theorem mem_numbered {path other : List Nat} {siblings : List Node} {node : Node} :
    (other, node) ∈ numbered path siblings ↔
      ∃ i, siblings[i]? = some node ∧ other = path ++ [i] := by
  simp only [numbered, List.mem_mapIdx, List.getElem?_eq_some_iff, Prod.mk.injEq]
  constructor
  · rintro ⟨i, inside, rfl, rfl⟩
    exact ⟨i, ⟨inside, rfl⟩, rfl⟩
  · rintro ⟨i, ⟨inside, rfl⟩, rfl⟩
    exact ⟨i, inside, rfl, rfl⟩

theorem subset_queued {queue : List Visit} {visit : Visit} (mem : visit ∈ queue) :
    visit ∈ queued queue := by
  rw [queued_level]
  exact List.mem_append_left _ mem

theorem below_subset_queued {queue : List Visit} {visit child : Visit} (mem : visit ∈ queued queue)
    (of : child ∈ below visit) : child ∈ queued queue := by
  fun_induction queued queue with
  | case1 => cases mem
  | case2 first rest ih =>
    rcases List.mem_cons.mp mem with rfl | mem
    · exact List.mem_cons_of_mem _ (subset_queued (List.mem_append_right _ of))
    · exact List.mem_cons_of_mem _ (ih mem)

/-- What is true of the nodes of a queue, and of the children of any node of which it is true, is
true of all that the queue gives. -/
theorem forall_queued {P : Visit → Prop} {queue : List Visit}
    (inherited : ∀ visit, P visit → ∀ child ∈ below visit, P child) (h : ∀ visit ∈ queue, P visit) :
    ∀ visit ∈ queued queue, P visit := by
  fun_induction queued queue with
  | case1 => exact h
  | case2 first rest ih =>
    obtain ⟨of_first, of_rest⟩ := List.forall_mem_cons.mp h
    refine List.forall_mem_cons.mpr ⟨of_first, ih fun visit mem => ?_⟩
    rcases List.mem_append.mp mem with mem | mem
    · exact of_rest visit mem
    · exact inherited first of_first visit mem

theorem mem_levelOrder_iff {page : List Node} {path : List Nat} {node : Node} :
    (path, node) ∈ levelOrder page ↔ Placed page path node := by
  constructor
  · intro mem
    refine forall_queued (P := fun visit => Placed page visit.1 visit.2) ?_ ?_ _ mem
    · intro visit placed child mem
      obtain ⟨i, at_i, path_eq⟩ := mem_numbered.mp mem
      exact path_eq ▸ .inside placed at_i
    · intro visit mem
      obtain ⟨i, at_i, path_eq⟩ := mem_numbered.mp mem
      exact path_eq ▸ .top at_i
  · intro placed
    induction placed with
    | top at_i => exact subset_queued (mem_numbered.mpr ⟨_, at_i, rfl⟩)
    | inside _ at_i ih => exact below_subset_queued ih (mem_numbered.mpr ⟨_, at_i, rfl⟩)

/-! ## Their order -/

/-- Of two paths of one depth, what stands below the earlier is earlier. -/
theorem lex_append {path other : List Nat} (h : List.Lex (· < ·) path other)
    (depth : path.length = other.length) (more also : List Nat) :
    List.Lex (· < ·) (path ++ more) (other ++ also) := by
  induction h with
  | nil => cases depth
  | cons _ ih => exact .cons (ih (Nat.succ.inj depth))
  | rel h => exact .rel h

theorem pairwise_numbered (path : List Nat) (siblings : List Node) :
    (numbered path siblings).Pairwise fun a b => List.Lex (· < ·) a.1 b.1 := by
  rw [List.pairwise_iff_getElem]
  intro i j _ _ earlier
  simp only [numbered, List.getElem_mapIdx]
  exact List.Lex.append_left _ (.rel earlier) path

/-- A level of a page: nodes of one depth, in the order of the document. -/
structure IsLevel (depth : Nat) (level : List Visit) : Prop where
  deep : ∀ visit ∈ level, visit.1.length = depth
  ordered : level.Pairwise fun a b => List.Lex (· < ·) a.1 b.1

theorem length_below {visit child : Visit} (mem : child ∈ below visit) :
    child.1.length = visit.1.length + 1 := by
  obtain ⟨i, -, path_eq⟩ := mem_numbered.mp mem
  simp [path_eq]

theorem isLevel_top (page : List Node) : IsLevel 1 (numbered [] page) where
  deep visit mem := by
    obtain ⟨i, -, path_eq⟩ := mem_numbered.mp mem
    simp [path_eq]
  ordered := pairwise_numbered [] page

theorem IsLevel.below {depth : Nat} {level : List Visit} (h : IsLevel depth level) :
    IsLevel (depth + 1) (level.flatMap below) where
  deep visit mem := by
    obtain ⟨parent, inside, mem⟩ := List.mem_flatMap.mp mem
    rw [length_below mem, h.deep parent inside]
  ordered := by
    rw [List.pairwise_flatMap]
    refine ⟨fun visit _ => pairwise_numbered visit.1 _, ?_⟩
    -- children of two nodes are in the order of the nodes, as these are of one depth
    refine h.ordered.imp_of_mem fun {a b} of_a of_b earlier visit mem other mem' => ?_
    obtain ⟨i, -, path_eq⟩ := mem_numbered.mp mem
    obtain ⟨j, -, path_eq'⟩ := mem_numbered.mp mem'
    rw [path_eq, path_eq']
    exact lex_append earlier ((h.deep a of_a).trans (h.deep b of_b).symm) [i] [j]

theorem IsLevel.pairwise {depth : Nat} {level : List Visit} (h : IsLevel depth level) :
    (queued level).Pairwise fun a b => Before a.1 b.1 := by
  induction level using level_induction generalizing depth with
  | none => simp [queued]
  | next first rest ih =>
    -- within the level the order is that of the document; all that comes after it is deeper
    have deeper : ∀ visit ∈ queued ((first :: rest).flatMap Html.below),
        depth + 1 ≤ visit.1.length := by
      refine forall_queued (fun visit deep child mem => ?_) fun visit mem => ?_
      · rw [length_below mem]
        exact Nat.le_succ_of_le deep
      · exact Nat.le_of_eq (h.below.deep visit mem).symm
    rw [queued_level, List.pairwise_append]
    refine ⟨?_, ih h.below, fun visit mem other later => ?_⟩
    · exact h.ordered.imp_of_mem fun {a b} of_a of_b earlier =>
        .of_lex ((h.deep a of_a).trans (h.deep b of_b).symm) earlier
    · exact .of_length_lt (by rw [h.deep visit mem]; exact deeper other later)

theorem pairwise_levelOrder (page : List Node) :
    (levelOrder page).Pairwise fun a b => Before a.1 b.1 := (isLevel_top page).pairwise

end WlanAdmin.Html
