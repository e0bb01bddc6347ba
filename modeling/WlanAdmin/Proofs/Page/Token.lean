import WlanAdmin.Proofs.Page.Script
import WlanAdmin.Session.Login

/-!
# WlanAdmin.Proofs.Page.Token

What is known of a token before anybody looks at it: a page that logs in declares one, it is not
empty, and it holds no single quote.

* `ofNodes_script` : variables are only ever read from the text of a script.
* `readLogin_token` : the token of a login.
-/

namespace WlanAdmin

namespace LoginPage

theorem ofNode_script {node : Html.Node} {declared : ScriptVariables}
    (h : ofNode node = some (.script declared)) : ∃ text, declared = .read text := by
  cases node with
  | text _ | fragment _ => cases h
  | element name attributes inner =>
    simp only [ofNode] at h
    split at h
    · split at h <;> cases h
      exact ⟨_, rfl⟩
    · split at h <;> cases h

theorem ofLevel_script {level : List Html.Node} {declared : ScriptVariables}
    (h : ofLevel level = some (.script declared)) : ∃ text, declared = .read text := by
  fun_induction ofLevel level with
  | case1 => cases h
  | case2 node rest page found =>
    cases h
    obtain ⟨other, -, ho⟩ := List.exists_of_findSome?_eq_some found
    exact ofNode_script ho
  | case3 node rest _ ih => exact ih h

theorem ofNodes_script {page : List Html.Node} {declared : ScriptVariables}
    (h : ofNodes page = .script declared) : ∃ text, declared = .read text := by
  unfold ofNodes at h
  cases hl : ofLevel page with
  | none => rw [hl] at h; cases h
  | some found =>
    rw [hl] at h
    exact ofLevel_script (hl.trans (congrArg some h))

end LoginPage

/-- The token of a login is not empty and holds no single quote. -/
theorem readLogin_token {body : Bytes} {result : LoginResult} (h : readLogin body = .ok result) :
    result.csrfToken ≠ "" ∧ '\'' ∉ result.csrfToken.toList := by
  unfold readLogin LoginPage.result at h
  split at h
  · cases h
  · cases h
  · rename_i declared hp
    split at h
    · rename_i token ht
      cases h
      obtain ⟨text, rfl⟩ := LoginPage.ofNodes_script hp
      obtain ⟨value, hv, rfl⟩ := Option.map_eq_some_iff.mp ht
      obtain ⟨_, first⟩ := Declaration.value?_leftmost hv
      obtain ⟨hne, hq⟩ := first.fits
      rw [String.toList_ofList]
      refine ⟨fun he => hne ?_, hq⟩
      simpa using congrArg String.toList he
    · cases h

end WlanAdmin
