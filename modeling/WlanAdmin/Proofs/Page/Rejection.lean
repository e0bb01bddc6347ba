import WlanAdmin.Page.LoginPage

/-!
# WlanAdmin.Proofs.Page.Rejection

Which element of a page decides a login, and the reason that a page gives when it rejects one.

* `Decides` : an element decides if nothing above it, or before it on its level, gives an
  outcome.
* `ofNodes_rejected_iff` : a page rejects a login for exactly the content of the `meta` element that
  decides.
-/

namespace WlanAdmin
namespace LoginPage

open Html

/-- The element that decides a login, from one level of a page on. -/
inductive Decides : List Node → Node → Prop where
  | here {before after : List Node} {node : Node} : (∀ other ∈ before, ofNode other = none) →
      ofNode node ≠ none → Decides (before ++ node :: after) node
  | deeper {level : List Node} {node : Node} : (∀ other ∈ level, ofNode other = none) →
      Decides (level.flatMap Node.children) node → Decides level node

/-- A `meta` element that stands for the header `X-Auth` decides, with this content. -/
def Rejects (page : List Node) (reason : String) : Prop :=
  ∃ attributes inner, Decides page (.element "meta" attributes inner) ∧
    (attributes.get? "http-equiv").any (fun value => lowerText value = lowerText "X-Auth") ∧
    (attributes.get? "content").getD "" = reason

theorem exists_decides {level : List Node} {page : LoginPage} (h : ofLevel level = some page) :
    ∃ node, Decides level node ∧ ofNode node = some page := by
  fun_induction ofLevel level with
  | case1 => cases h
  | case2 node rest found hf =>
    cases h
    obtain ⟨before, decisive, after, split, told, silent⟩ := List.findSome?_eq_some_iff.mp hf
    rw [split]
    exact ⟨decisive, .here silent (by simp [told]), told⟩
  | case3 node rest silent ih =>
    obtain ⟨decisive, decides, told⟩ := ih h
    exact ⟨decisive, .deeper (List.findSome?_eq_none_iff.mp silent) decides, told⟩

theorem Decides.ofLevel_eq {level : List Node} {node : Node} (h : Decides level node) :
    ofLevel level = ofNode node := by
  induction h with
  | @here before after node silent told =>
    obtain ⟨page, told⟩ := Option.ne_none_iff_exists'.mp told
    have first : (before ++ node :: after).findSome? ofNode = some page := by
      rw [List.findSome?_append, List.findSome?_eq_none_iff.mpr silent, Option.none_or,
        List.findSome?_cons_of_isSome (by rw [told]; rfl), told]
    rw [told]
    cases whole : before ++ node :: after with
    | nil => simp at whole
    | cons head tail => rw [ofLevel, ← whole, first]
  | @deeper level node silent _ ih =>
    cases level with
    | nil => exact ih
    | cons head tail => rw [ofLevel, List.findSome?_eq_none_iff.mpr silent, ih]

theorem ofNode_rejected {node : Node} {reason : String}
    (h : ofNode node = some (.rejected reason)) : ∃ attributes inner,
      node = .element "meta" attributes inner ∧
      (attributes.get? "http-equiv").any (fun value => lowerText value = lowerText "X-Auth") ∧
      (attributes.get? "content").getD "" = reason := by
  cases node with
  | text _ | fragment _ => cases h
  | element name attributes inner =>
    simp only [ofNode] at h
    split at h
    · -- a script never rejects
      split at h <;> cases h
    · split at h
      · rename_i header
        cases h
        exact ⟨attributes, inner, by rw [header.1], header.2, rfl⟩
      · cases h

/-- A page rejects a login for exactly the content of the `meta` element that decides. -/
theorem ofNodes_rejected_iff {page : List Node} {reason : String} :
    ofNodes page = .rejected reason ↔ Rejects page reason := by
  constructor
  · intro h
    unfold ofNodes at h
    cases hl : ofLevel page with
    | none => rw [hl] at h; cases h
    | some found =>
      rw [hl, Option.getD_some] at h
      obtain ⟨node, decides, told⟩ := exists_decides hl
      obtain ⟨attributes, inner, rfl, header, content⟩ :=
        ofNode_rejected (told.trans (congrArg _ h))
      exact ⟨attributes, inner, decides, header, content⟩
  · rintro ⟨attributes, inner, decides, header, rfl⟩
    rw [ofNodes, decides.ofLevel_eq, ofNode, if_neg (by decide), if_pos ⟨rfl, header⟩]
    rfl

end LoginPage
end WlanAdmin
