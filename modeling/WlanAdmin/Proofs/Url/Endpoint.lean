import WlanAdmin.Proofs.Text.Digits
import WlanAdmin.Url.Endpoint

/-!
# WlanAdmin.Proofs.Url.Endpoint

The path of an endpoint does not decide whether there is a URL. The first slash of an absolute path
ends the authority, so what is read of the authority is the same for every such path.

* `cleanEnd_stop` : blanks at the end of the text are blanks at the end of the path.
* `parse_endpointText` : with any path, it is read off the host and the path together.
* `parse_endpoint` : with an absolute one, the authority is read off the host alone.
* `endpoint_absolute` : a host that forms a URL does so with every absolute path.
-/

namespace WlanAdmin
namespace Url

variable {α : Type}

theorem dropWhile_append_stop {p : α → Bool} {stop : α} (h : p stop = false) (front rest : List α) :
    (front ++ stop :: rest).dropWhile p = front.dropWhile p ++ stop :: rest := by
  rw [List.dropWhile_append]
  split
  · rename_i empty
    simp [List.isEmpty_iff.mp empty, h]
  · rfl

theorem takeWhile_append_stop {p : α → Bool} {stop : α} (h : p stop = false) (front rest : List α) :
    (front ++ stop :: rest).takeWhile p = front.takeWhile p := by
  rw [List.takeWhile_append]
  split
  · rename_i whole
    simp [h, (List.takeWhile_prefix p).eq_of_length whole]
  · rfl

/-- What is kept of a text inside. -/
def kept (c : Char) : Bool := c != '\t' && c != '\n' && c != '\r'

/-- What is kept of the path of an endpoint. -/
def cleanEnd (path : List Char) : List Char :=
  ((path.reverse.dropWhile fun c => decide (c.toNat ≤ 0x20)).reverse).filter kept

/-- Blanks behind something visible are not dropped along with it. -/
theorem cleanEnd_stop {stop : Char} (visible : 0x20 < stop.toNat) (front rest : List Char) :
    cleanEnd (front ++ stop :: rest) = (front ++ [stop]).filter kept ++ cleanEnd rest := by
  have back : ((front ++ stop :: rest).reverse.dropWhile
      fun c => decide (c.toNat ≤ 0x20)).reverse =
      front ++ [stop] ++ (rest.reverse.dropWhile fun c => decide (c.toNat ≤ 0x20)).reverse := by
    rw [List.reverse_append, List.reverse_cons, List.append_assoc, List.singleton_append,
      dropWhile_append_stop (by simpa using visible)]
    simp
  rw [cleanEnd, back, List.filter_append, cleanEnd]

/-- Texts that begin with something visible lose no blanks there. -/
theorem dropWhile_visible {front : List Char} (nonempty : front ≠ [])
    (visible : ∀ c ∈ front, 0x20 < c.toNat) (rest : List Char) :
    (front ++ rest).dropWhile (fun c => decide (c.toNat ≤ 0x20)) = front ++ rest := by
  obtain ⟨first, others, rfl⟩ := List.exists_cons_of_ne_nil nonempty
  simp [Nat.not_le.mpr (visible first List.mem_cons_self)]

/-- Behind something visible, blanks are dropped only at the end. -/
theorem cleanEnd_visible {front : List Char} (nonempty : front ≠ [])
    (visible : ∀ c ∈ front, 0x20 < c.toNat) (rest : List Char) :
    cleanEnd (front ++ rest) = front.filter kept ++ cleanEnd rest := by
  obtain rfl | ⟨others, last, rfl⟩ := List.eq_nil_or_concat front
  · exact absurd rfl nonempty
  · rw [List.concat_eq_append, List.append_assoc, List.singleton_append,
      cleanEnd_stop (visible last (by simp))]

theorem clean_visible {front : List Char} (nonempty : front ≠ [])
    (visible : ∀ c ∈ front, 0x20 < c.toNat) (rest : List Char) :
    clean (front ++ rest) = front.filter kept ++ cleanEnd rest := by
  rw [← cleanEnd_visible nonempty visible]
  change cleanEnd ((front ++ rest).dropWhile fun c => decide (c.toNat ≤ 0x20)) = _
  rw [dropWhile_visible nonempty visible]

theorem isSpecial_word (scheme : Scheme) : isSpecial scheme.word = true := by
  cases scheme <;> decide

theorem splitScheme_endpoint (scheme : Scheme) (rest : List Char) :
    splitScheme ((scheme.word ++ "://").toList ++ rest) =
      some (scheme.word, '/' :: '/' :: rest) := by
  cases scheme <;> rfl

/-- What follows the scheme of an endpoint is read as one text, and the path does not begin where it
has been put. -/
theorem parse_endpointText (scheme : Scheme) (host path : String) :
    parse (endpointText scheme host path) = readAfterSlashes scheme.word
      ((cleanEnd (host.toList ++ path.toList)).dropWhile (isSlash true)) := by
  have nonempty : (scheme.word ++ "://").toList ≠ [] := by cases scheme <;> exact nofun
  have visible : ∀ c ∈ (scheme.word ++ "://").toList, 0x20 < c.toNat := by
    cases scheme <;> exact forall_mem_of_all (by decide)
  have whole : (scheme.word ++ "://").toList.filter kept = (scheme.word ++ "://").toList := by
    cases scheme <;> rfl
  have text : (endpointText scheme host path).toList =
      (scheme.word ++ "://").toList ++ (host.toList ++ path.toList) := by
    simp [endpointText]
  unfold parse
  rw [text, clean_visible nonempty visible, whole, splitScheme_endpoint]
  cases scheme <;> rfl

/-- What follows the slashes of an endpoint, without the slashes that its host begins with. -/
def hostText (host : String) : List Char := (host.toList.filter kept).dropWhile (isSlash true)

theorem readAfterSlashes_host (scheme : String) (host path : List Char)
    (special : isSpecial scheme = true) :
    readAfterSlashes scheme (host ++ '/' :: path) =
      (readAuthority scheme (host.takeWhile fun c => !endsAuthority true c) true).map
        fun authority =>
          let tail := splitTail ((host.dropWhile fun c => !endsAuthority true c) ++ '/' :: path)
          assemble scheme authority (.segments (readSegments true [] tail.path)) tail := by
  let inside (c : Char) : Bool := !endsAuthority true c
  have front : (host ++ '/' :: path).takeWhile inside = host.takeWhile inside :=
    takeWhile_append_stop rfl host path
  have back : (host ++ '/' :: path).dropWhile inside = host.dropWhile inside ++ '/' :: path :=
    dropWhile_append_stop rfl host path
  have more : (host.dropWhile inside ++ '/' :: path).isEmpty = false :=
    List.isEmpty_eq_false_iff.mpr (List.append_ne_nil_of_right_ne_nil _ (List.cons_ne_nil _ _))
  unfold readAfterSlashes
  simp only [special]
  rw [front, back, more]
  rfl

/-- An absolute path begins where it has been put. -/
theorem parse_absolute (scheme : Scheme) (host path : String) {rest : List Char}
    (absolute : path.toList = '/' :: rest) :
    parse (endpointText scheme host path) = readAfterSlashes scheme.word
      ((host.toList.filter kept ++ '/' :: cleanEnd rest).dropWhile (isSlash true)) := by
  rw [parse_endpointText, absolute, cleanEnd_stop (by decide), List.filter_append, List.append_assoc]
  rfl

/-- The authority of an endpoint is read off the host alone, whatever absolute path follows. A host
of nothing but slashes has none. -/
theorem parse_endpoint (scheme : Scheme) (host path : String) {rest : List Char}
    (absolute : path.toList = '/' :: rest) (nonempty : hostText host ≠ []) :
    parse (endpointText scheme host path) =
      readAfterSlashes scheme.word (hostText host ++ '/' :: cleanEnd rest) := by
  rw [parse_absolute scheme host path absolute, List.dropWhile_append,
    if_neg (by simpa [hostText] using nonempty)]
  rfl

/-- Without a host there is no URL at the root. -/
theorem parse_root_of_slashes (scheme : Scheme) (host : String) (empty : hostText host = []) :
    parse (endpointText scheme host "/") = none := by
  rw [parse_absolute scheme host "/" rfl, List.dropWhile_append,
    if_pos (by simpa [hostText] using empty)]
  cases scheme <;> rfl

theorem scheme_of_readAfterSlashes {scheme : String} {text : List Char} {url : Url}
    (h : readAfterSlashes scheme text = some url) : url.scheme = scheme := by
  obtain ⟨authority, -, rfl⟩ := Option.map_eq_some_iff.mp h
  rfl

end Url

theorem endpoint_ok_iff {scheme : Scheme} {host path : String} {url : Url} :
    endpoint scheme host path = .ok url ↔ Url.parse (endpointText scheme host path) = some url := by
  unfold endpoint
  cases Url.parse (endpointText scheme host path) with
  | none => exact ⟨nofun, nofun⟩
  | some found => simp

theorem scheme_of_endpoint {scheme : Scheme} {host path : String} {url : Url}
    (h : endpoint scheme host path = .ok url) : url.scheme = scheme.word := by
  have parsed := endpoint_ok_iff.mp h
  rw [Url.parse_endpointText] at parsed
  exact Url.scheme_of_readAfterSlashes parsed

/-- A host that forms a URL forms one with every absolute path, and of the same authority. -/
theorem endpoint_absolute {scheme : Scheme} {host path : String} {root : Url} {rest : List Char}
    (h : endpoint scheme host "/" = .ok root) (absolute : path.toList = '/' :: rest) :
    ∃ url, endpoint scheme host path = .ok url ∧ url.authority = root.authority := by
  have parsed := endpoint_ok_iff.mp h
  by_cases empty : Url.hostText host = []
  · rw [Url.parse_root_of_slashes scheme host empty] at parsed
    cases parsed
  · have special := Url.isSpecial_word scheme
    rw [Url.parse_endpoint scheme host "/" rfl empty, Url.readAfterSlashes_host _ _ _ special]
      at parsed
    obtain ⟨authority, read, rfl⟩ := Option.map_eq_some_iff.mp parsed
    have other := Url.parse_endpoint scheme host path absolute empty
    rw [Url.readAfterSlashes_host _ _ _ special, read, Option.map_some] at other
    exact ⟨_, endpoint_ok_iff.mpr other, rfl⟩

end WlanAdmin
