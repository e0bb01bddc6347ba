import WlanAdmin.Proofs.Url.Endpoint

/-!
# WlanAdmin.Proofs.Url.Directory

Where the path of an endpoint begins. A host that is more than a host has a directory that all paths
lie in, or a query or fragment that swallows them; otherwise there is nothing in front of a path.

* `directory`          : the segments of a path that has not ended.
* `readSegments_slash` : what stands behind a slash is added to the directory before it.
* `IsPlainPath`        : paths that are kept as they are written.
* `endpoint_directory` : the endpoints of one host lie in one directory, or have one path.
-/

namespace WlanAdmin
namespace Url

/-! ## Segments -/

/-- The segments of a path of which there is more to come. -/
def directory : List String → List (List Char) → List String
  | path, [] => path
  | path, segment :: rest =>
    if isDoubleDot segment then directory path.dropLast rest
    else if isSingleDot segment then directory path rest
    else directory (path ++ [String.ofList (percentEncode .path segment)]) rest

theorem addSegments_cons (path : List String) (segment : List Char) {rest : List (List Char)}
    (more : rest ≠ []) : addSegments path (segment :: rest) =
      if isDoubleDot segment then addSegments path.dropLast rest
      else if isSingleDot segment then addSegments path rest
      else addSegments (path ++ [String.ofList (percentEncode .path segment)]) rest := by
  rw [addSegments]
  exact more

theorem addSegments_append (path : List String) (front : List (List Char))
    {back : List (List Char)} (more : back ≠ []) :
    addSegments path (front ++ back) = addSegments (directory path front) back := by
  induction front generalizing path with
  | nil => rfl
  | cons segment front ih =>
    rw [directory, List.cons_append,
      addSegments_cons _ _ (List.append_ne_nil_of_right_ne_nil front more), ih, ih, ih]
    split
    · rfl
    · split <;> rfl

theorem splitSlashes_ne_nil (text : List Char) : splitSlashes true text ≠ [] := by
  cases text with
  | nil => exact List.cons_ne_nil _ _
  | cons c text =>
    rw [splitSlashes]
    split
    · exact List.cons_ne_nil _ _
    · split <;> exact List.cons_ne_nil _ _

theorem splitSlashes_slash (front back : List Char) :
    splitSlashes true (front ++ '/' :: back) =
      splitSlashes true front ++ splitSlashes true back := by
  induction front with
  | nil => rfl
  | cons c front ih =>
    rw [List.cons_append, splitSlashes, splitSlashes, ih]
    split
    · rfl
    · obtain ⟨first, others, split⟩ := List.exists_cons_of_ne_nil (splitSlashes_ne_nil front)
      simp only [split, List.cons_append]

/-- What stands behind a slash is added to one directory, whatever it is. -/
theorem readSegments_slash (front : List Char) : ∃ dirs, ∀ back,
    readSegments true [] (front ++ '/' :: back) = addSegments dirs (splitSlashes true back) := by
  cases front with
  | nil => exact ⟨[], fun back => rfl⟩
  | cons c front =>
    refine ⟨directory [] (splitSlashes true (if isSlash true c then front else c :: front)),
      fun back => ?_⟩
    rw [← addSegments_append _ _ (splitSlashes_ne_nil back), ← splitSlashes_slash,
      List.cons_append, readSegments]
    split <;> rfl

/-- A segment that is kept as it is written. -/
def IsPlainSegment (segment : List Char) : Prop :=
  isDoubleDot segment = false ∧ isSingleDot segment = false ∧ percentEncode .path segment = segment

instance (segment : List Char) : Decidable (IsPlainSegment segment) :=
  inferInstanceAs (Decidable (_ ∧ _))

theorem addSegments_plain {segments : List (List Char)} (nonempty : segments ≠ [])
    (plain : ∀ segment ∈ segments, IsPlainSegment segment) (path : List String) :
    addSegments path segments = path ++ segments.map String.ofList := by
  induction segments generalizing path with
  | nil => exact absurd rfl nonempty
  | cons segment rest ih =>
    obtain ⟨⟨up, here, same⟩, plain⟩ := List.forall_mem_cons.mp plain
    cases rest with
    | nil => rw [addSegments, up, here, same]; rfl
    | cons next others =>
      rw [addSegments_cons _ _ (List.cons_ne_nil next others), up, here, same]
      simpa using ih nofun plain (path ++ [String.ofList segment])

theorem write_segments (parts : List String) :
    (Path.segments parts).write.toList = parts.flatMap fun part => '/' :: part.toList := by
  rw [Path.write, String.toList_join, List.flatMap_map]
  simp

/-- Segments that only slashes separate are written as they stood. -/
theorem write_splitSlashes {text : List Char} (plain : '\\' ∉ text) :
    ((splitSlashes true text).flatMap fun segment => '/' :: segment) = '/' :: text := by
  induction text with
  | nil => rfl
  | cons c text ih =>
    obtain ⟨other, plain⟩ := not_or.mp (mt List.mem_cons.mpr plain)
    have rest := ih plain
    rw [splitSlashes]
    split
    · rename_i slash
      have here : c = '/' := by simpa [isSlash, Ne.symm other] using slash
      rw [List.flatMap_cons, rest, here]
      rfl
    · obtain ⟨first, others, split⟩ := List.exists_cons_of_ne_nil (splitSlashes_ne_nil text)
      rw [split] at rest
      simpa [split] using rest

/-! ## Paths of endpoints -/

/-- What follows the first slash of a path that is kept as it is written. -/
structure IsPlainPath (rest : List Char) : Prop where
  visible : cleanEnd rest = rest
  inside : ∀ c ∈ rest, c ≠ '#' ∧ c ≠ '?' ∧ c ≠ '\\'
  segments : ∀ segment ∈ splitSlashes true rest, IsPlainSegment segment

/-- Whether a character ends a path. -/
def endsPath (c : Char) : Bool := c == '#' || c == '?'

theorem splitTail_path (text : List Char) :
    (splitTail text).path = text.takeWhile fun c => !endsPath c := by
  show (text.takeWhile (· != '#')).takeWhile (· != '?') = _
  induction text with
  | nil => rfl
  | cons c text ih =>
    by_cases fragment : c = '#'
    · subst fragment
      rfl
    · by_cases query : c = '?'
      · subst query
        rfl
      · simp [endsPath, fragment, query, ih]

/-- Behind a front that holds the end of the path, nothing belongs to the path; behind any other,
all of a plain path does. -/
theorem tail_path (front : List Char) :
    (∃ path, ∀ back, (splitTail (front ++ back)).path = path) ∨
      ∀ rest, (∀ c ∈ rest, endsPath c = false) →
        (splitTail (front ++ '/' :: rest)).path = front ++ '/' :: rest := by
  simp only [splitTail_path, List.takeWhile_append]
  by_cases whole : (front.takeWhile fun c => !endsPath c).length = front.length
  · refine .inr fun rest inside => ?_
    rw [if_pos whole, takeWhile_eq_self]
    intro c mem
    rcases List.mem_cons.mp mem with rfl | mem
    · rfl
    · simp [inside c mem]
  · exact .inl ⟨_, fun back => if_neg whole⟩

end Url

/-- The endpoints of one host have one path, where the host leaves no room for another, or lie in
one directory. -/
theorem endpoint_directory {scheme : Scheme} {host path : String} {root : Url} {rest : List Char}
    (h : endpoint scheme host "/" = .ok root) (absolute : path.toList = '/' :: rest)
    (plain : Url.IsPlainPath rest) :
    ∃ url, endpoint scheme host path = .ok url ∧ url.scheme = root.scheme ∧ url.host = root.host ∧
      (url.path = root.path ∨ ∃ base, root.path.write.toList = base ++ ['/'] ∧
        url.path.write.toList = base ++ path.toList) := by
  have parsed := endpoint_ok_iff.mp h
  by_cases empty : Url.hostText host = []
  · rw [Url.parse_root_of_slashes scheme host empty] at parsed
    cases parsed
  · have special := Url.isSpecial_word scheme
    rw [Url.parse_endpoint scheme host "/" rfl empty, Url.readAfterSlashes_host _ _ _ special]
      at parsed
    obtain ⟨authority, read, rfl⟩ := Option.map_eq_some_iff.mp parsed
    have other := Url.parse_endpoint scheme host path absolute empty
    rw [Url.readAfterSlashes_host _ _ _ special, read, Option.map_some, plain.visible] at other
    refine ⟨_, endpoint_ok_iff.mpr other, rfl, rfl, ?_⟩
    let front := (Url.hostText host).dropWhile fun c => !Url.endsAuthority true c
    have inside : ∀ c ∈ rest, Url.endsPath c = false := fun c mem => by
      obtain ⟨fragment, query, -⟩ := plain.inside c mem
      simp [Url.endsPath, fragment, query]
    rcases Url.tail_path front with ⟨one, swallowed⟩ | own
    · refine .inl (congrArg (fun path => Url.Path.segments (Url.readSegments true [] path)) ?_)
      exact (swallowed _).trans (swallowed _).symm
    · obtain ⟨dirs, below⟩ := Url.readSegments_slash front
      have at_root : Url.readSegments true [] (Url.splitTail (front ++ '/' :: [])).path =
          dirs ++ [""] := by
        rw [own [] nofun, below]
        rfl
      have at_path : Url.readSegments true [] (Url.splitTail (front ++ '/' :: rest)).path =
          dirs ++ (Url.splitSlashes true rest).map String.ofList := by
        rw [own rest inside, below,
          Url.addSegments_plain (Url.splitSlashes_ne_nil rest) plain.segments]
      refine .inr ⟨dirs.flatMap fun dir => '/' :: dir.toList, ?_, ?_⟩
      · show (Url.Path.segments _).write.toList = _
        rw [Url.write_segments]
        exact (congrArg (List.flatMap _) at_root).trans (by simp)
      · show (Url.Path.segments _).write.toList = _
        have written := Url.write_splitSlashes fun mem => (plain.inside _ mem).2.2 rfl
        rw [Url.write_segments, absolute]
        refine (congrArg (List.flatMap _) at_path).trans ?_
        simp only [List.flatMap_append, List.flatMap_map, String.toList_ofList, written]

end WlanAdmin
