import WlanAdmin.Proofs.Html.LevelOrder
import WlanAdmin.Session.Login

/-!
# WlanAdmin.Proofs.Page.Outcome

Which element of a page decides a login: of all scripts, and all `meta` elements that stand for the
header `X-Auth`, the one that is first by depth, and by the order of the document within a depth.

* `OfInterest`, `First`  : the elements that can decide, and the one that does.
* `ofLevel_eq_findSome?` : a level decides as a queue that starts with it.
* `exists_first`         : one element is first, or none is of interest.
* `First.ofNodes_eq`     : the first decides.
* `ofNodes_first`        : all of this together.
* `noScript_iff`         : a page shows no script if none is of interest, or the first is a script
  without text.
-/

namespace WlanAdmin

namespace Html.Node

def name? : Node → Option String
  | element name _ _ => some name
  | text _ | fragment _ => none

def attributes : Node → Attributes
  | element _ attributes _ => attributes
  | text _ | fragment _ => []

end Html.Node

namespace LoginPage

open Html

/-! ## Elements of interest -/

def IsScript (node : Node) : Prop := node.name? = some "script"

/-- A `meta` element that stands for the header `X-Auth`. -/
def IsRefusal (node : Node) : Prop :=
  node.name? = some "meta" ∧
    (node.attributes.get? "http-equiv").any fun value => lowerText value = lowerText "X-Auth"

def reason (node : Node) : String := (node.attributes.get? "content").getD ""

def OfInterest (node : Node) : Prop := IsScript node ∨ IsRefusal node

instance : DecidablePred IsScript := fun _ => inferInstanceAs (Decidable (_ = _))

instance : DecidablePred IsRefusal := fun _ => inferInstanceAs (Decidable (_ ∧ _))

instance : DecidablePred OfInterest := fun _ => inferInstanceAs (Decidable (_ ∨ _))

/-- The element of interest that is first by depth, and in the document within its depth. -/
structure First (page : List Node) (path : List Nat) (node : Node) : Prop where
  placed : Placed page path node
  of_interest : OfInterest node
  least : ∀ other node', Placed page other node' → OfInterest node' →
    path = other ∨ Before path other

theorem ofNode_of_isScript {node : Node} (h : IsScript node) : ofNode node =
    some (if node.directText = "" then .noScript else .script (.read node.directText)) := by
  cases node with
  | text _ | fragment _ => cases h
  | element name attributes inner =>
    cases h
    simp [ofNode]

theorem ofNode_of_isRefusal {node : Node} (h : IsRefusal node) :
    ofNode node = some (.rejected (reason node)) := by
  cases node with
  | text _ | fragment _ => cases h.1
  | element name attributes inner =>
    obtain ⟨⟨⟩, header⟩ := h
    rw [ofNode, if_neg (by decide), if_pos ⟨rfl, header⟩]
    rfl

theorem ofNode_eq_none_iff {node : Node} : ofNode node = none ↔ ¬ OfInterest node := by
  constructor
  · rintro silent (script | refusal)
    · rw [ofNode_of_isScript script] at silent
      cases silent
    · rw [ofNode_of_isRefusal refusal] at silent
      cases silent
  · intro h
    cases node with
    | text _ | fragment _ => rfl
    | element name attributes inner =>
      rw [ofNode, if_neg fun script => h (.inl (congrArg some script)),
        if_neg fun ⟨named, header⟩ => h (.inr ⟨congrArg some named, header⟩)]

/-! ## The walk -/

/-- A level decides as a queue that starts with it. -/
theorem ofLevel_eq_findSome? (level : List Visit) :
    ofLevel (level.map Prod.snd) = (queued level).findSome? fun visit => ofNode visit.2 := by
  induction level using level_induction with
  | none => simp [ofLevel, queued]
  | next first rest ih =>
    rw [nodes_flatMap_below] at ih
    rw [queued_level, List.findSome?_append, ← ih, List.map_cons, ofLevel, ← List.map_cons,
      List.findSome?_map]
    change _ = ((first :: rest).findSome? (ofNode ∘ Prod.snd)).or _
    cases (first :: rest).findSome? (ofNode ∘ Prod.snd) with
    | none => rfl
    | some page => rfl

theorem ofNodes_eq_findSome? (page : List Node) : ofNodes page =
    ((levelOrder page).findSome? fun visit => ofNode visit.2).getD .noScript := by
  rw [ofNodes, levelOrder, ← ofLevel_eq_findSome?, nodes_numbered]

/-! ## The first element of interest -/

/-- What is true of all nodes of a page can be tried on each that a queue gives. -/
theorem forall_placed_iff {page : List Node} {P : Node → Prop} :
    (∀ path node, Placed page path node → P node) ↔ ∀ visit ∈ levelOrder page, P visit.2 :=
  ⟨fun h visit mem => h visit.1 visit.2 (mem_levelOrder_iff.mp mem),
    fun h path node placed => h (path, node) (mem_levelOrder_iff.mpr placed)⟩

theorem not_least_of_before {path other : List Nat} (h : Before path other)
    (h' : other = path ∨ Before other path) : False := by
  rcases h' with rfl | h'
  · exact Std.Asymm.asymm _ _ h h
  · exact Std.Asymm.asymm _ _ h h'

/-- The first element of interest is the first that a queue gives. -/
theorem first_iff {page : List Node} {path : List Nat} {node : Node} : First page path node ↔
    ∃ before after, levelOrder page = before ++ (path, node) :: after ∧ OfInterest node ∧
      ∀ visit ∈ before, ¬ OfInterest visit.2 := by
  have ordered := pairwise_levelOrder page
  constructor
  · intro h
    obtain ⟨before, after, split⟩ := List.append_of_mem (mem_levelOrder_iff.mpr h.placed)
    refine ⟨before, after, split, h.of_interest, fun visit mem of_interest => ?_⟩
    have placed : Placed page visit.1 visit.2 :=
      mem_levelOrder_iff.mp (split ▸ List.mem_append_left _ mem)
    -- what is given earlier stands before the least, if it is of interest
    rw [split] at ordered
    exact not_least_of_before ((List.pairwise_append.mp ordered).2.2 visit mem _ List.mem_cons_self)
      (h.least visit.1 visit.2 placed of_interest)
  · rintro ⟨before, after, split, of_interest, silent⟩
    refine ⟨mem_levelOrder_iff.mp (split ▸ List.mem_append_right _ List.mem_cons_self), of_interest,
      fun other node' placed of_interest' => ?_⟩
    have mem := mem_levelOrder_iff.mpr placed
    rw [split] at mem ordered
    rcases List.mem_append.mp mem with mem | mem
    · exact absurd of_interest' (silent _ mem)
    · rcases List.mem_cons.mp mem with same | mem
      · exact .inl (congrArg Prod.fst same).symm
      · exact .inr (List.rel_of_pairwise_cons (List.pairwise_append.mp ordered).2.1 mem)

theorem exists_first (page : List Node) : (∃ path node, First page path node) ∨
    ∀ path node, Placed page path node → ¬ OfInterest node := by
  cases found : (levelOrder page).find? fun visit => OfInterest visit.2 with
  | none =>
    have silent := List.find?_eq_none.mp found
    exact .inr fun path node placed of_interest =>
      silent (path, node) (mem_levelOrder_iff.mpr placed) (decide_eq_true of_interest)
  | some visit =>
    obtain ⟨of_interest, before, after, split, silent⟩ := List.find?_eq_some_iff_append.mp found
    refine .inl ⟨visit.1, visit.2, first_iff.mpr ⟨before, after, split, ?_, ?_⟩⟩
    · exact of_decide_eq_true of_interest
    · exact fun other mem => by simpa using silent other mem

theorem First.ofNodes_eq {page : List Node} {path : List Nat} {node : Node}
    (h : First page path node) : ofNodes page = (ofNode node).getD .noScript := by
  obtain ⟨before, after, split, of_interest, silent⟩ := first_iff.mp h
  have none_before : before.findSome? (fun visit => ofNode visit.2) = none :=
    List.findSome?_eq_none_iff.mpr fun visit mem => ofNode_eq_none_iff.mpr (silent visit mem)
  obtain ⟨outcome, told⟩ := Option.ne_none_iff_exists'.mp
    (mt ofNode_eq_none_iff.mp (not_not_intro of_interest))
  rw [ofNodes_eq_findSome?, split, List.findSome?_append, none_before, Option.none_or,
    List.findSome?_cons, told]

theorem First.ofNodes_script {page : List Node} {path : List Nat} {node : Node}
    (h : First page path node) (script : IsScript node) : ofNodes page =
      if node.directText = "" then .noScript else .script (.read node.directText) := by
  rw [h.ofNodes_eq, ofNode_of_isScript script, Option.getD_some]

theorem First.ofNodes_refusal {page : List Node} {path : List Nat} {node : Node}
    (h : First page path node) (refusal : IsRefusal node) :
    ofNodes page = .rejected (reason node) := by
  rw [h.ofNodes_eq, ofNode_of_isRefusal refusal, Option.getD_some]

theorem ofNodes_of_none {page : List Node}
    (none : ∀ path node, Placed page path node → ¬ OfInterest node) : ofNodes page = .noScript := by
  have silent : (levelOrder page).findSome? (fun visit => ofNode visit.2) = .none :=
    List.findSome?_eq_none_iff.mpr fun visit mem =>
      ofNode_eq_none_iff.mpr (none visit.1 visit.2 (mem_levelOrder_iff.mp mem))
  rw [ofNodes_eq_findSome?, silent, Option.getD_none]

/-! ## The outcome -/

/-- The outcome of a page in which every script has some text. A queue gives its nodes by depth, and
in the order of the document within a depth; the first element of interest decides, and no other
node does. -/
theorem ofNodes_first (page : List Node)
    (worded : ∀ path node, Placed page path node → IsScript node → node.directText ≠ "") :
    ((levelOrder page).Pairwise (fun a b => Before a.1 b.1) ∧
      (∀ path node, (path, node) ∈ levelOrder page ↔ Placed page path node) ∧
      ofNodes page = ((levelOrder page).findSome? fun visit => ofNode visit.2).getD .noScript) ∧
    ((∃ path node, First page path node) ∨
      (∀ path node, Placed page path node → ¬ OfInterest node) ∧ ofNodes page = .noScript) ∧
    ∀ path node, First page path node →
      (IsRefusal node → ofNodes page = .rejected (reason node)) ∧
      (IsScript node → ofNodes page = .script (.read node.directText)) ∧
      ∀ other path', First other path' node → ofNodes other = ofNodes page := by
  refine ⟨⟨pairwise_levelOrder page, fun _ _ => mem_levelOrder_iff, ofNodes_eq_findSome? page⟩,
    (exists_first page).imp_right fun none => ⟨none, ofNodes_of_none none⟩,
    fun path node first => ⟨first.ofNodes_refusal, fun script => ?_, fun other path' first' => ?_⟩⟩
  · rw [first.ofNodes_script script, if_neg (worded path node first.placed script)]
  · rw [first.ofNodes_eq, first'.ofNodes_eq]

/-- A script of the second level comes before a refusal of the third, which is earlier in the
document. -/
theorem ofNodes_first_shallower :
    let refusal := Node.element "meta" [("http-equiv", "x-auth"), ("content", "no")] []
    let script := Node.element "script" [] [.text "var csfrToken = 't';"]
    let page := [Node.element "head" [] [.element "div" [] [refusal], script]]
    (∀ path node, Placed page path node → IsScript node → node.directText ≠ "") ∧
      First page [0, 1] script ∧ ofNodes page = .script ⟨none, none, some "t"⟩ := by
  intro refusal script page
  have order : levelOrder page =
      [([0], .element "head" [] [.element "div" [] [refusal], script]),
        ([0, 0], .element "div" [] [refusal])] ++ ([0, 1], script) ::
      [([0, 0, 0], refusal), ([0, 1, 0], .text "var csfrToken = 't';")] := by
    simp [levelOrder, queued, numbered, below, Node.children, page, script, refusal]
  have worded : ∀ path node, Placed page path node → IsScript node → node.directText ≠ "" := by
    rw [forall_placed_iff, order]
    decide
  have first : First page [0, 1] script := first_iff.mpr ⟨_, _, order, by decide, by decide⟩
  refine ⟨worded, first, ?_⟩
  exact (((ofNodes_first page worded).2.2 _ _ first).2.1 rfl).trans (by decide)

/-- The content of a template stands a level deeper than its place in the text. -/
example : ofNodes (Html.parse ("<template><script>var csfrToken = 'a';</script></template>" ++
    "<div><script>var csfrToken = 'b';</script></div>").toList) =
      .script ⟨none, none, some "b"⟩ := by
  decide +kernel

/-- A page shows no script exactly if nothing in it is of interest, or if the first element that is
of interest is a script without text. Such a script hides all others; one that comes first and
declares a token logs in with it. -/
theorem noScript_iff (page : List Node) :
    (ofNodes page = .noScript ↔
      (∀ path node, Placed page path node → ¬ OfInterest node) ∨
        ∃ path node, First page path node ∧ IsScript node ∧ node.directText = "") ∧
    ∀ path node, First page path node → IsScript node →
      let declared := ScriptVariables.read node.directText
      (node.directText = "" → (ofNodes page).result = .error (.badResponse .noScript)) ∧
      ∀ token, declared.token = some token →
        (ofNodes page).result = .ok ⟨declared.privilege, declared.version, token⟩ := by
  refine ⟨⟨fun hidden => ?_, ?_⟩, fun path node first script => ⟨fun silent => ?_, ?_⟩⟩
  · refine (exists_first page).symm.imp_right fun ⟨path, node, first⟩ => ⟨path, node, first, ?_⟩
    rcases first.of_interest with script | refusal
    · refine ⟨script, ?_⟩
      by_contra worded
      rw [first.ofNodes_script script, if_neg worded] at hidden
      cases hidden
    · rw [first.ofNodes_refusal refusal] at hidden
      cases hidden
  · rintro (none | ⟨path, node, first, script, silent⟩)
    · exact ofNodes_of_none none
    · rw [first.ofNodes_script script, if_pos silent]
  · rw [first.ofNodes_script script, if_pos silent]
    rfl
  · intro token declared
    -- no text declares no token
    have worded : node.directText ≠ "" := by
      intro silent
      rw [silent] at declared
      cases declared
    rw [first.ofNodes_script script, if_neg worded, result, declared]

theorem noScript_iff_external_last :
    let inline := Node.element "script" [] [.text "var csfrToken = 't';"]
    let page := [inline, .element "script" [("src", "x.js")] []]
    First page [0] inline ∧ (ofNodes page).result = .ok ⟨none, none, "t"⟩ := by
  intro inline page
  have order : levelOrder page = [] ++ ([0], inline) ::
      [([1], .element "script" [("src", "x.js")] []), ([0, 0], .text "var csfrToken = 't';")] := by
    simp [levelOrder, queued, numbered, below, Node.children, page, inline]
  have first : First page [0] inline := first_iff.mpr ⟨_, _, order, by decide, by simp⟩
  have declared : ScriptVariables.read inline.directText = ⟨none, none, some "t"⟩ := by decide
  have login := ((noScript_iff page).2 _ _ first rfl).2
  rw [declared] at login
  exact ⟨first, login "t" rfl⟩

/-- A page whose first script has no text, and whose second declares a token. -/
theorem noScript_despite_token :
    let body := utf8 ("<html><head><script src='x.js'></script>" ++
      "<script>var csfrToken = 'tok';</script></head><body></body></html>")
    let page := Html.parse (decodeReplacing body)
    readLogin body = .error (.badResponse .noScript) ∧ ofNodes page = .noScript ∧
      (∀ path node, Placed page path node → ¬ IsRefusal node) ∧
      ∃ path node, Placed page path node ∧ IsScript node ∧ node.directText ≠ "" ∧
        (ScriptVariables.read node.directText).token = some "tok" := by
  intro body page
  have hidden : ofNodes page = .noScript := by decide +kernel
  have accepted : ∀ visit ∈ levelOrder page, ¬ IsRefusal visit.2 := by decide +kernel
  have declared : ∃ visit ∈ levelOrder page, IsScript visit.2 ∧ visit.2.directText ≠ "" ∧
      (ScriptVariables.read visit.2.directText).token = some "tok" := by decide +kernel
  obtain ⟨⟨path, node⟩, mem, script⟩ := declared
  refine ⟨?_, hidden, forall_placed_iff.mpr accepted, path, node, mem_levelOrder_iff.mp mem, script⟩
  rw [readLogin, hidden]
  rfl

end LoginPage
end WlanAdmin
