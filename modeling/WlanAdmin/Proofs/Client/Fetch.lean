import WlanAdmin.Client.Settings
import WlanAdmin.Proofs.Session.Requests
import WlanAdmin.Proofs.Url.Authority

/-!
# WlanAdmin.Proofs.Client.Fetch

Where a fetch goes. The path of an endpoint is put right behind the host, and nothing sets it off:
what a path has before its first slash is read as the end of the authority.

* `IsPlainHost` : a host, perhaps with a port, and nothing else.
* `Url.overhang` : the part of a path that is read as authority.
* `endpoint_plain` : the authority of an endpoint is read off the host and the overhang of the path.
* `endpoint_stays`, `endpoint_leaves` : the paths that stay on the host, and some that leave it.
* `run_fetch_authority` : where a fetch of a session goes.
* `fetch_from_other_host` : one that does not.
-/

namespace WlanAdmin
namespace Url

/-- A host, perhaps with a port, without a user, a path and blanks. -/
def IsPlainHost (host : String) : Prop :=
  ∀ c ∈ host.toList, isInside c = true ∧ 0x20 < c.toNat

/-- What a path has before its first slash, question mark or hash, as it is read. -/
def overhang (path : String) : List Char :=
  (cleanEnd path.toList).takeWhile fun c => !endsAuthority true c

theorem overhang_absolute {path : String} {rest : List Char}
    (absolute : path.toList = '/' :: rest) : overhang path = [] := by
  have visible : cleanEnd path.toList = '/' :: cleanEnd rest := by
    rw [absolute]
    exact cleanEnd_visible (List.cons_ne_nil '/' [])
      (List.forall_mem_singleton.mpr (by decide)) rest
  rw [overhang, visible]
  rfl

theorem splitUserinfo_append (user : List Char) {other : List Char} (last : '@' ∉ other) :
    splitUserinfo (user ++ '@' :: other) = some (user, other) := by
  have no_at : ∀ c ∈ other.reverse, (c != '@') = true := fun c mem =>
    bne_iff_ne.mpr fun eq => last (eq ▸ List.mem_reverse.mp mem)
  have back : (user ++ '@' :: other).reverse = other.reverse ++ '@' :: user.reverse := by simp
  rw [splitUserinfo, if_pos (by simp), back]
  dsimp only
  rw [List.dropWhile_append_of_pos no_at, List.takeWhile_append_of_pos no_at]
  simp

/-- What is before an `@` is no part of the host, whatever it looks like. -/
theorem readAuthority_append (scheme : String) (special : isSpecial scheme = true)
    (user : List Char) {other : List Char} (last : '@' ∉ other) {authority : Authority}
    (h : readAuthority scheme (user ++ '@' :: other) true = some authority) :
    ∃ alone, readAuthority scheme other true = some alone ∧ authority.host = alone.host ∧
      authority.port = alone.port := by
  have no_user : splitUserinfo other = none :=
    if_neg fun user => last (List.contains_iff_mem.mp user)
  unfold readAuthority at h ⊢
  rw [splitUserinfo_append user last] at h
  rw [no_user]
  simp only [special, Bool.true_or, if_true] at h ⊢
  split
  · rename_i empty
    rw [if_pos empty] at h
    cases h
  · rename_i nonempty
    rw [if_neg nonempty] at h
    cases read : readHost (splitHost false other).1 with
    | none => rw [read] at h; cases h
    | some host =>
      rw [read] at h
      obtain ⟨port, of_port, rfl⟩ := Option.map_eq_some_iff.mp h
      simp only [of_port, Option.map_some]
      exact ⟨_, rfl, rfl, rfl⟩

/-- Whether something follows the authority of a special URL does not matter. -/
theorem readAuthority_more {scheme : String} (special : isSpecial scheme = true)
    (authority : List Char) (more : Bool) :
    readAuthority scheme authority more = readAuthority scheme authority true := by
  unfold readAuthority
  simp only [special, Bool.true_or, if_true]

/-- The text of an endpoint of a plain host is the host, the overhang of the path, and the rest. -/
theorem parse_plain (scheme : Scheme) {host : String} (plain : IsPlainHost host)
    (nonempty : host.toList ≠ []) (path : String) :
    parse (endpointText scheme host path) =
      (readAuthority scheme.word (host.toList ++ overhang path) true).map fun authority =>
        let tail := splitTail ((cleanEnd path.toList).dropWhile fun c => !endsAuthority true c)
        assemble scheme.word authority (.segments (readSegments true [] tail.path)) tail := by
  have special := isSpecial_word scheme
  have inside : ∀ c ∈ host.toList, (!endsAuthority true c) = true := fun c mem => by
    rw [(of_isInside (plain c mem).1).2.1]
    rfl
  have whole : host.toList.filter kept = host.toList :=
    List.filter_eq_self.mpr fun c mem => (of_isInside (plain c mem).1).2.2
  have slashless : (host.toList ++ cleanEnd path.toList).dropWhile (isSlash true) =
      host.toList ++ cleanEnd path.toList := by
    obtain ⟨first, others, eq⟩ := List.exists_cons_of_ne_nil nonempty
    have ends := (of_isInside (plain first (eq ▸ List.mem_cons_self)).1).2.1
    simp only [endsAuthority, Bool.or_eq_false_iff] at ends
    rw [eq, List.cons_append, List.dropWhile_cons, ends.1.1]
    rfl
  rw [parse_endpointText, cleanEnd_visible nonempty fun c mem => (plain c mem).2, whole, slashless,
    readAfterSlashes]
  simp only [special]
  rw [List.takeWhile_append_of_pos inside, List.dropWhile_append_of_pos inside,
    readAuthority_more special, overhang]

end Url

/-- The host and port of an endpoint are read off the host and the overhang of the path together. -/
theorem endpoint_plain {scheme : Scheme} {host path : String} (plain : Url.IsPlainHost host)
    (nonempty : host.toList ≠ []) {url : Url} (h : endpoint scheme host path = .ok url) :
    ∃ authority, Url.readAuthority scheme.word (host.toList ++ Url.overhang path) true =
      some authority ∧ url.host = authority.host ∧ url.port = authority.port := by
  have parsed := endpoint_ok_iff.mp h
  rw [Url.parse_plain scheme plain nonempty] at parsed
  obtain ⟨authority, read, rfl⟩ := Option.map_eq_some_iff.mp parsed
  exact ⟨authority, read, rfl, rfl⟩

theorem nonempty_of_root {scheme : Scheme} {host : String} {root : Url}
    (h : endpoint scheme host "/" = .ok root) : host.toList ≠ [] := by
  intro empty
  have slashes : Url.hostText host = [] := by rw [Url.hostText, empty]; rfl
  rw [endpoint_ok_iff, Url.parse_root_of_slashes scheme host slashes] at h
  cases h

/-- A path with no overhang stays on the host and port of the root. -/
theorem endpoint_stays {scheme : Scheme} {host path : String} (plain : Url.IsPlainHost host)
    {root url : Url} (at_root : endpoint scheme host "/" = .ok root)
    (h : endpoint scheme host path = .ok url) (stays : Url.overhang path = []) :
    url.host = root.host ∧ url.effectivePort = root.effectivePort := by
  have nonempty := nonempty_of_root at_root
  obtain ⟨authority, read, host_eq, port_eq⟩ := endpoint_plain plain nonempty h
  obtain ⟨of_root, read_root, root_host, root_port⟩ := endpoint_plain plain nonempty at_root
  have rooted : Url.overhang "/" = [] := Url.overhang_absolute (show "/".toList = ['/'] from rfl)
  have same : of_root = authority :=
    Option.some.inj (read_root.symm.trans ((rooted.trans stays.symm) ▸ read))
  rw [Url.effectivePort, Url.effectivePort, host_eq, port_eq, root_host, root_port, same,
    scheme_of_endpoint h, scheme_of_endpoint at_root]
  exact ⟨rfl, rfl⟩

/-- A path that begins with an `@` leads where it says. -/
theorem endpoint_leaves {scheme : Scheme} {host path : String} (plain : Url.IsPlainHost host)
    (nonempty : host.toList ≠ []) {url : Url} (h : endpoint scheme host path = .ok url)
    {other : List Char} (begins : Url.overhang path = '@' :: other) (last : '@' ∉ other) :
    ∃ authority, Url.readAuthority scheme.word other true = some authority ∧
      url.host = authority.host ∧ url.port = authority.port := by
  obtain ⟨authority, read, host_eq, port_eq⟩ := endpoint_plain plain nonempty h
  rw [begins] at read
  obtain ⟨alone, read_alone, same, same_port⟩ :=
    Url.readAuthority_append _ (Url.isSpecial_word scheme) _ last read
  exact ⟨alone, read_alone, host_eq.trans same, port_eq.trans same_port⟩

namespace Session

/-- The request of a fetch carries a token to the endpoint of its path. -/
theorem sent_get (scheme : Scheme) (refresh : Refresh) (host : String) (credentials : Credentials)
    (holds : Url → Bool) (events : List Event) (event : Event) {id : TaskId} {path : String}
    {limit : Nat} {stage : Stage} {request : HttpRequest} :
    let s := ((opened scheme refresh host credentials holds).run events).1
    s.task? id = some ⟨.get path limit, stage⟩ → .sent id request ∈ (s.step event).2 →
    request.method = .get →
      request.csrfToken.isSome ∧ endpoint scheme s.context.host path = .ok request.url := by
  intro s here sent get
  have move := step_move s event
  have known : s.scheme = scheme := (run_settings _ events).1
  have nonempty : ∀ login, s.context.login = some login → login.csrfToken ≠ "" := by
    intro login stored
    rw [run_login, opened, Option.or_none] at stored
    exact (logins_token (List.mem_of_getLast? stored)).1
  have same_host : (s.step event).1.context.host = s.context.host := by
    rw [step_host]
    cases event with
    | redirected authority => cases move.shows sent
    | _ => rfl
  obtain ⟨goal, before, after, there, -, timely⟩ := move.sent_timely nonempty sent
  cases here.symm.trans there
  cases timely with
  | login _ => cases get
  | get _ _ formed =>
    rw [move.settings_eq.1, known, same_host] at formed
    exact ⟨rfl, formed⟩

/-- The request of a fetch carries a token to the endpoint of its path, on the host that the session
keeps. Where that host is a plain one, the URL has the host and port that are read of it and the
overhang of the path together: those of the root, if there is no overhang, and whatever follows the
`@` of one that begins so. -/
theorem run_fetch_authority (scheme : Scheme) (refresh : Refresh) (host : String)
    (credentials : Credentials) (holds : Url → Bool) (events : List Event) (event : Event)
    (id : TaskId) (path : String) (limit : Nat) (stage : Stage) (request : HttpRequest)
    (root : Url) :
    let s := ((opened scheme refresh host credentials holds).run events).1
    s.task? id = some ⟨.get path limit, stage⟩ → .sent id request ∈ (s.step event).2 →
    request.method = .get → Url.IsPlainHost s.context.host →
    endpoint scheme s.context.host "/" = .ok root →
      request.csrfToken.isSome ∧ endpoint scheme s.context.host path = .ok request.url ∧
      (∃ authority,
        Url.readAuthority scheme.word (s.context.host.toList ++ Url.overhang path) true =
          some authority ∧
        request.url.host = authority.host ∧ request.url.port = authority.port) ∧
      (Url.overhang path = [] →
        request.url.host = root.host ∧ request.url.effectivePort = root.effectivePort) ∧
      ∀ other, Url.overhang path = '@' :: other → '@' ∉ other →
        ∃ authority, Url.readAuthority scheme.word other true = some authority ∧
          request.url.host = authority.host ∧ request.url.port = authority.port := by
  intro s here sent get plain at_root
  obtain ⟨token, formed⟩ := sent_get scheme refresh host credentials holds events event here sent get
  have nonempty := nonempty_of_root at_root
  exact ⟨token, formed, endpoint_plain plain nonempty formed, endpoint_stays plain at_root formed,
    fun _ begins last => endpoint_leaves plain nonempty formed begins last⟩

/-- A path that begins with a tab, which is dropped, and a question mark stays on the host. -/
theorem run_fetch_authority_query :
    let url (path : Url.Path) (query : Option String) : Url :=
      ⟨"https", "", "", some (.domain "a"), some 8443, path, query, none⟩
    let page : Except TransportError HttpResponse :=
      .ok ⟨200, url (.segments []) none, utf8 "<script>var csfrToken = 't';</script>"⟩
    let events : List Event := [.start 0 .login, .poll 0, .cookies fun _ => true, .answer 0 page,
      .start 1 (.get "\t?@b" 1)]
    let s := ((opened .https .concurrent "a:8443" ⟨"u", "p"⟩ fun _ => false).run events).1
    let request := ((HttpRequest.get (url (.segments [""]) (some "@b"))).withToken "t").withLimit 1
    s.task? 1 = some ⟨.get "\t?@b" 1, .fresh⟩ ∧ .sent 1 request ∈ (s.step (.poll 1)).2 ∧
      Url.IsPlainHost s.context.host ∧
      endpoint .https s.context.host "/" = .ok (url (.segments [""]) none) ∧
      request.url.host = some (.domain "a") ∧ request.url.effectivePort = some 8443 := by
  intro url page events s request
  have here : s.task? 1 = some ⟨.get "\t?@b" 1, .fresh⟩ := by decide +kernel
  have sent : Output.sent 1 request ∈ (s.step (.poll 1)).2 := mem_requests.mp (by decide +kernel)
  have host : s.context.host = "a:8443" := by decide +kernel
  have plain : Url.IsPlainHost s.context.host := by
    rw [host]
    exact forall_mem_of_all (by decide)
  have at_root : endpoint .https s.context.host "/" = .ok (url (.segments [""]) none) := by
    rw [host]
    exact endpoint_ok_iff.mpr (by decide +kernel)
  obtain ⟨-, -, -, stays, -⟩ := run_fetch_authority .https .concurrent "a:8443" ⟨"u", "p"⟩
    (fun _ => false) events (.poll 1) 1 "\t?@b" 1 .fresh request _ here sent rfl plain at_root
  exact ⟨here, sent, plain, at_root, stays (by decide +kernel)⟩

/-- A client of one host fetches a path that begins with an `@`. The request carries the token of
that host to another one, which the path names. -/
theorem fetch_from_other_host :
    let url (host : String) : Url :=
      ⟨"https", "", "", some (.domain host), none, .segments [""], none, none⟩
    let settings : ClientSettings := { host := "a.local", credentials := ⟨"u", "p"⟩ }
    let page : Except TransportError HttpResponse :=
      .ok ⟨200, url "a.local", utf8 "<script>var csfrToken = 'tok-a';</script>"⟩
    let events : List Event := [.start 0 .login, .poll 0, .cookies fun _ => true, .answer 0 page,
      .start 1 (.get "@evil.local/x" 100)]
    let s := ((opened .https .concurrent "a.local" ⟨"u", "p"⟩ fun _ => false).run events).1
    settings.context = .ok ⟨"a.local", ⟨"u", "p"⟩, none⟩ ∧ Url.IsPlainHost s.context.host ∧
      endpoint .https s.context.host "/" = .ok (url "a.local") ∧
      ∃ request, .sent 1 request ∈ (s.step (.poll 1)).2 ∧ request.method = .get ∧
        request.csrfToken = some "tok-a" ∧ request.url.host = some (.domain "evil.local") ∧
        request.url.host ≠ (url "a.local").host := by
  intro url settings page events s
  have host : s.context.host = "a.local" := by decide +kernel
  have at_root : endpoint .https "a.local" "/" = .ok (url "a.local") :=
    endpoint_ok_iff.mpr (by decide +kernel)
  have built : settings.context = .ok ⟨"a.local", ⟨"u", "p"⟩, none⟩ := by
    simp only [ClientSettings.context, settings, at_root]
  have plain : Url.IsPlainHost s.context.host := by
    rw [host]
    exact forall_mem_of_all (by decide)
  let request := ((HttpRequest.get ⟨"https", "a.local", "", some (.domain "evil.local"), none,
    .segments ["x"], none, none⟩).withToken "tok-a").withLimit 100
  have sent : Output.sent 1 request ∈ (s.step (.poll 1)).2 := mem_requests.mp (by decide +kernel)
  exact ⟨built, plain, host ▸ at_root, request, sent, rfl, rfl, rfl, by decide⟩

end Session
end WlanAdmin
