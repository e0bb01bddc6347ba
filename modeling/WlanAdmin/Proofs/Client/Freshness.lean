import WlanAdmin.Proofs.Client.Script
import WlanAdmin.Proofs.Http.Redirects
import WlanAdmin.Proofs.Session.Advance
import WlanAdmin.Proofs.Session.State
import WlanAdmin.Proofs.Url.Directory

/-!
# WlanAdmin.Proofs.Client.Freshness

Which cookies keep a token. A token counts as cached as long as there is a cookie for the root of
the current host. Such a cookie travels with all envelopes, but not the other way round: cookies for
the directory that envelopes go to are not looked at, and with those alone each call logs in again.

* `Cookie.isFor_below`       : the cookies of the root among those of a path below it.
* `Connection.Current`       : a session knows of the cookies of its network, in every run.
* `Session.AtRoot`           : the cookies that a session looks for.
* `Session.cachedToken_carried_iff` : the cookies that keep a token.
* `token_freshness`          : all of this, and what the next call does.
* `login_again_for_deeper_cookie` : a login with a cookie for its own directory.
-/

namespace WlanAdmin

/-! ## Cookies -/

/-- What lies at a directory or above it is the same for all that lies in it. -/
theorem Cookie.inPath_below {base below : List Char} (rest : List Char)
    (h : inPath (base ++ ['/']) below = true) : inPath (base ++ '/' :: rest) below = true := by
  have whole : base ++ '/' :: rest = (base ++ ['/']) ++ rest := by simp
  simp only [inPath, Bool.or_eq_true, Bool.and_eq_true, beq_iff_eq,
    List.isPrefixOf_iff_prefix] at h ⊢
  rw [whole]
  rcases h with same | ⟨front, last | next⟩
  · subst same
    exact .inr ⟨List.prefix_append _ _, .inl (by simp)⟩
  · exact .inr ⟨front.trans (List.prefix_append _ _), .inl last⟩
  · refine .inr ⟨front.trans (List.prefix_append _ _), .inr ?_⟩
    rw [List.drop_append_of_le_length front.length_le]
    cases ahead : (base ++ ['/']).drop below.length with
    | nil =>
      rw [ahead] at next
      cases next
    | cons c more =>
      rw [ahead] at next
      exact next

/-- The paths that are at the very root. -/
theorem Cookie.inPath_root {below : List Char} :
    inPath ['/'] below = true ↔ below = [] ∨ below = ['/'] := by
  match below with
  | [] => decide
  | [c] =>
    by_cases same : c = '/'
    · subst same
      decide
    · have other : ('/' == c) = false := by simpa using Ne.symm same
      simp [inPath, List.isPrefixOf, other, same]
  | c :: d :: rest => simp [inPath, List.isPrefixOf]

/-- A cookie goes with a URL at a directory exactly if it goes with one in it and is not for
anything deeper. -/
theorem Cookie.isFor_below {root url : Url} (scheme : url.scheme = root.scheme)
    (host : url.host = root.host) {path : String}
    (lies : url.path = root.path ∨ ∃ base, root.path.write.toList = base ++ ['/'] ∧
      url.path.write.toList = base ++ path.toList) {rest : List Char}
    (absolute : path.toList = '/' :: rest) (now : Int) (cookie : Cookie) :
    cookie.isFor now root = true ↔
      cookie.isFor now url = true ∧ inPath root.path.write.toList cookie.path.toList = true := by
  have inside (h : inPath root.path.write.toList cookie.path.toList = true) :
      inPath url.path.write.toList cookie.path.toList = true := by
    rcases lies with same | ⟨base, at_root, at_path⟩
    · rwa [same]
    · rw [at_root] at h
      rw [at_path, absolute]
      exact inPath_below rest h
  simp only [isFor, scheme, host, Bool.and_eq_true]
  grind

/-! ## Sessions that know of the cookies of their network -/

theorem Watch.poll_preserves {S : Type} {P : S → Prop} {run : S → S × List Output} {drop : S → S}
    {isLive : S → Bool} (runs : ∀ s, P s → P (run s).1) (drops : ∀ s, P s → P (drop s))
    (watch : Watch) {s : S} (h : P s) : P (watch.poll run drop isLive s).1 := by
  unfold Watch.poll
  cases watch.before with
  | some error => exact drops s h
  | none =>
    cases watch.after with
    | none => exact runs s h
    | some error =>
      dsimp only
      split
      · exact drops _ (runs s h)
      · exact runs s h

/-- The URLs that a session believes to have a cookie after an event. -/
def Event.cookies? : Event → Option (Url → Bool)
  | .cookies holds => some holds
  | _ => none

theorem Session.Move.holds_eq {s : Session} {event : Event} {moved : Moved}
    (move : Move s event moved) : moved.1.holds = event.cookies?.getD s.holds := by
  cases move with
  | logsIn entry =>
    obtain ⟨request, -, h⟩ | ⟨error, h⟩ := startLogin_cases _ _ _ <;> rw [h] <;>
      cases entry <;> rfl
  | granted grant =>
    obtain ⟨request, -, h⟩ | ⟨outcome, h⟩ := withToken_cases _ _ _ _ <;> rw [h] <;>
      cases grant <;> rfl
  | @idle event h =>
    cases event with
    | cookies holds => exact h.elim
    | _ => rfl
  | _ => rfl

theorem Session.run_holds (s : Session) (events : List Event) (holds : Url → Bool) :
    (s.run (events ++ [.cookies holds])).1.holds = holds := by
  rw [run_append]
  rfl

namespace Connection

variable {σ : Type} {connection : Connection σ} {transport : Transport σ}

/-- The session of a connection knows for which URLs its network holds cookies. -/
def Current (transport : Transport σ) (connection : Connection σ) : Prop :=
  connection.session.holds = transport.holds connection.network

theorem note_network (connection : Connection σ) (events : List Event) :
    (connection.note events).network = connection.network := by
  induction events generalizing connection with
  | nil => rfl
  | cons event events ih => exact ih (connection.feed event).1

theorem Current.feed (h : connection.Current transport) {event : Event}
    (other : event.cookies? = none) : (connection.feed event).1.Current transport := by
  have kept := (Session.step_move connection.session event).holds_eq
  rw [other] at kept
  exact kept.trans h

/-- Whatever a session has known before, it knows of the cookies once it has been told. -/
theorem note_current (connection : Connection σ) (events : List Event) :
    (connection.note (events ++ [.cookies (transport.holds connection.network)])).Current
      transport := by
  rw [Current, note_session, note_network, Session.run_holds]

theorem Current.serve (h : connection.Current transport) (id : TaskId) :
    (connection.serve transport id).1.Current transport := by
  unfold Connection.serve
  split
  · exact h
  · split
    · exact h
    · rename_i served _
      exact Current.feed (note_current { connection with
        network := served.network
        unanswered := connection.unanswered.filter fun entry => entry.1 ≠ id } _) rfl

theorem Current.poll (h : connection.Current transport) (id : TaskId) :
    (connection.poll transport id).1.Current transport := by
  have first : (connection.feed (.poll id)).1.Current transport := h.feed rfl
  exact (first.serve id).serve id

theorem Current.drop (h : connection.Current transport) (id : TaskId) :
    (connection.drop id).Current transport := by
  have dropped : (connection.feed (.drop id)).1.Current transport := h.feed rfl
  exact dropped

theorem onNetwork_current (connection : Connection σ) (change : σ → σ) :
    (connection.onNetwork transport change).Current transport :=
  note_current { connection with network := change connection.network } []

/-- Whether an action tells of cookies by itself, where there are none. -/
def Action.TellsCookies : Action σ → Prop
  | .event told => told.cookies?.isSome
  | .poll _ | .watched _ _ | .drop _ | .network _ => False

theorem Current.act (h : connection.Current transport) {action : Action σ}
    (honest : ¬ action.TellsCookies) :
    ((machine transport).act connection action).1.Current transport := by
  cases action with
  | event told => exact h.feed (Option.not_isSome_iff_eq_none.mp honest)
  | poll id => exact h.poll id
  | watched watch id =>
    exact Watch.poll_preserves (P := Current transport) (fun _ h => h.poll id)
      (fun _ h => h.drop id) watch h
  | drop id => exact h.drop id
  | network change => exact onNetwork_current connection change

/-- In every run, the session knows of the cookies. -/
theorem Current.run (h : connection.Current transport) {script : List (Action σ)}
    (honest : ∀ action ∈ script, ¬ action.TellsCookies) :
    ((machine transport).run connection script).Current transport :=
  Machine.run_invariant (P := Current transport) (fun action mem _ h => h.act (honest action mem)) h

end Connection

/-! ## Cached tokens -/

/-- A cookie travels with the requests of a session to a path. -/
def CookieJar.Carries (jar : CookieJar) (now : Int) (s : Session) (path : String)
    (cookie : Cookie) : Prop :=
  ∃ url, s.url path = .ok url ∧ cookie ∈ jar.cookiesFor now url

/-- A cookie is for the path of the root of a session's host, or for one above it. -/
def Session.AtRoot (s : Session) (cookie : Cookie) : Prop :=
  ∃ root, s.url "/" = .ok root ∧
    Cookie.inPath root.path.write.toList cookie.path.toList = true

/-- For a host without a path of its own these are the cookies for `/`. -/
theorem Session.atRoot_iff {s : Session} {root : Url} (forms : s.url "/" = .ok root)
    (plain : root.path.write = "/") (cookie : Cookie) :
    s.AtRoot cookie ↔ cookie.path = "" ∨ cookie.path = "/" := by
  have at_root : s.AtRoot cookie ↔ Cookie.inPath ['/'] cookie.path.toList = true := by
    have text : root.path.write.toList = ['/'] := congrArg String.toList plain
    constructor
    · rintro ⟨other, forms', inside⟩
      cases forms.symm.trans forms'
      rwa [text] at inside
    · exact fun inside => ⟨root, forms, text ▸ inside⟩
  rw [at_root, Cookie.inPath_root, ← String.toList_inj, ← String.toList_inj]
  rfl

theorem RequestKind.path_plain (kind : RequestKind) :
    ∃ rest, kind.path.toList = '/' :: rest ∧ Url.IsPlainPath rest := by
  have conf : confPath.toList = '/' :: "admin/_conf.jsp".toList := by rfl
  have cmdStat : cmdStatPath.toList = '/' :: "admin/_cmdstat.jsp".toList := by rfl
  cases kind with
  | conf action =>
    exact ⟨_, conf, by decide, forall_mem_of_all (by decide), forall_mem_of_all (by decide)⟩
  | stat | command =>
    exact ⟨_, cmdStat, by decide, forall_mem_of_all (by decide), forall_mem_of_all (by decide)⟩

theorem Session.url_ok_iff {s : Session} {path : String} {url : Url} :
    s.url path = .ok url ↔ endpoint s.scheme s.context.host path = .ok url := by
  refine ⟨url_ok, fun there => ?_⟩
  simp only [Session.url, there]

theorem CookieJar.mem_cookiesFor {jar : CookieJar} {now : Int} {url : Url} {cookie : Cookie} :
    cookie ∈ jar.cookiesFor now url ↔ cookie ∈ jar ∧ cookie.isFor now url = true :=
  List.mem_filter

/-- The cookies of a host's root among those that travel with an envelope. -/
theorem Session.carries_root_iff {s : Session} {jar : CookieJar} {now : Int} {root : Url}
    (forms : s.url "/" = .ok root) (kind : RequestKind) (cookie : Cookie) :
    cookie ∈ jar.cookiesFor now root ↔ jar.Carries now s kind.path cookie ∧ s.AtRoot cookie := by
  obtain ⟨rest, absolute, plain⟩ := kind.path_plain
  obtain ⟨url, there, scheme, host, lies⟩ :=
    endpoint_directory (url_ok_iff.mp forms) absolute plain
  have below := Cookie.isFor_below scheme host lies absolute now cookie
  constructor
  · intro mem
    obtain ⟨kept, at_root⟩ := CookieJar.mem_cookiesFor.mp mem
    obtain ⟨goes, inside⟩ := below.mp at_root
    exact ⟨⟨url, url_ok_iff.mpr there, CookieJar.mem_cookiesFor.mpr ⟨kept, goes⟩⟩,
      root, forms, inside⟩
  · rintro ⟨⟨url', there', mem⟩, root', forms', inside⟩
    cases there.symm.trans (url_ok_iff.mp there')
    cases forms.symm.trans forms'
    obtain ⟨kept, goes⟩ := CookieJar.mem_cookiesFor.mp mem
    exact CookieJar.mem_cookiesFor.mpr ⟨kept, below.mpr ⟨goes, inside⟩⟩

/-- A token is cached exactly if a cookie travels with envelopes that is not for anything deeper
than the root of the current host. -/
theorem Session.cachedToken_carried_iff {s : Session} {jar : CookieJar} {now : Int}
    (known : ∀ url, s.holds url = !(jar.cookiesFor now url).isEmpty) {login : LoginResult}
    (stored : s.context.login = some login) (nonempty : login.csrfToken ≠ "")
    (kind : RequestKind) : s.cachedToken = some login.csrfToken ↔
      ∃ cookie, jar.Carries now s kind.path cookie ∧ s.AtRoot cookie := by
  rw [cachedToken_eq_some_iff fun other same => by cases stored.symm.trans same; exact nonempty]
  constructor
  · rintro ⟨_, root, -, forms, holds, -⟩
    have some_cookie : jar.cookiesFor now root ≠ [] := by simpa [known] using holds
    obtain ⟨cookie, mem⟩ := List.exists_mem_of_ne_nil _ some_cookie
    exact ⟨cookie, (carries_root_iff (url_ok_iff.mpr forms) kind cookie).mp mem⟩
  · rintro ⟨cookie, carried, root, forms, inside⟩
    have mem := (carries_root_iff forms kind cookie).mpr ⟨carried, root, forms, inside⟩
    have holds : s.holds root = true := by simpa [known] using List.ne_nil_of_mem mem
    exact ⟨login, root, stored, url_ok_iff.mp forms, holds, rfl⟩

/-- Where no token is cached, an operation that finds the gate free logs in, if it can. -/
theorem Session.step_poll_uncached {s : Session} {id : TaskId} {goal : Goal} {request : HttpRequest}
    (fresh : s.task? id = some ⟨goal, .fresh⟩) (wants : goal.wantsToken = true)
    (uncached : s.cachedToken = none) (free : s.refresh = .concurrent ∨ s.gate.owner = none)
    (forms : s.context.loginRequest s.scheme = .ok request) :
    Output.sent id request ∈ (s.step (.poll id)).2 := by
  have entry : ∃ s', Entry s id goal s' := by
    cases single : s.refresh with
    | concurrent => exact ⟨s, .stale fresh wants single uncached⟩
    | singleFlight =>
      have owner : s.gate.owner = none := by simpa [single] using free
      exact ⟨_, .entered fresh wants single uncached (by rw [Gate.enter, owner])⟩
  obtain ⟨s', entry⟩ := entry
  rw [entry.step_eq, startLogin, entry.loginRequest_eq, forms]
  exact List.mem_singleton_self _

/-! ## The next call -/

/-- A session knows of the cookies of its network in every run. Of those that travel with its
envelopes, the ones that are not for anything deeper than the root of the current host keep its
token: with one of them the next call goes on at once, and without one it logs in again. -/
theorem token_freshness {σ : Type} (network : HttpNetwork σ) (settings : TransportSettings) :
    (∀ (start : Connection (HttpState σ)) (script : List (Connection.Action (HttpState σ))),
      start.Current (network.transport settings) → (∀ action ∈ script, ¬ action.TellsCookies) →
      ((Connection.machine (network.transport settings)).run start script).Current
        (network.transport settings)) ∧
    ∀ (connection : Connection (HttpState σ)) (login : LoginResult),
      connection.Current (network.transport settings) →
      connection.session.context.login = some login → login.csrfToken ≠ "" →
      ∀ kind : RequestKind,
        let s := connection.session
        let kept := ∃ cookie, connection.network.jar.Carries connection.network.now s kind.path
          cookie ∧ s.AtRoot cookie
        (s.cachedToken = some login.csrfToken ↔ kept) ∧
        ∀ id goal, s.task? id = some ⟨goal, .fresh⟩ → goal.wantsToken = true →
          (kept → s.step (.poll id) = s.withToken id goal login.csrfToken) ∧
          (¬ kept → s.refresh = .concurrent ∨ s.gate.owner = none →
            ∀ request, s.context.loginRequest s.scheme = .ok request →
              .sent id request ∈ (s.step (.poll id)).2) := by
  refine ⟨fun start script current honest => current.run honest, ?_⟩
  intro connection login current stored nonempty kind s kept
  have known (url : Url) : s.holds url =
      !(connection.network.jar.cookiesFor connection.network.now url).isEmpty :=
    congrFun current url
  have cached_iff : s.cachedToken = some login.csrfToken ↔ kept :=
    Session.cachedToken_carried_iff known stored nonempty kind
  refine ⟨cached_iff, fun id goal fresh wants => ⟨fun has => ?_, fun lacks free request => ?_⟩⟩
  · exact Session.step_poll_cached fresh wants (cached_iff.mpr has)
  · refine Session.step_poll_uncached fresh wants ?_ free
    cases cached : s.cachedToken with
    | none => rfl
    | some token =>
      obtain ⟨other, same, rfl, -⟩ := Session.cachedToken_stored cached
      cases stored.symm.trans same
      exact absurd (cached_iff.mp cached) lacks

/-- A login whose answer sets a cookie for the whole host. -/
theorem token_freshness_root_cookie :
    let network : HttpNetwork Unit := ⟨fun _ _ => ((), some
      { setCookies := ["s=1; Path=/"]
        body := { chunks := [utf8 "<script>var csfrToken = 't';</script>"] } })⟩
    let transport := network.transport { scheme := .http }
    let start : Connection (HttpState Unit) :=
      { session := .opened .http .concurrent "a" ⟨"u", "p"⟩ (transport.holds { network := () })
        network := { network := () } }
    let script : List (Connection.Action (HttpState Unit)) :=
      [.event (.start 0 .login), .poll 0, .event (.start 1 .token)]
    let connection := (Connection.machine transport).run start script
    let s := connection.session
    connection.Current transport ∧ s.cachedToken = some "t" ∧
      s.step (.poll 1) = s.withToken 1 .token "t" := by
  intro network transport start script connection s
  obtain ⟨runs, fresh⟩ := token_freshness network { scheme := .http }
  have current : connection.Current transport := by
    refine runs start script rfl ?_
    simp [script, Connection.Action.TellsCookies, Event.cookies?]
  have stored : s.context.login = some ⟨none, none, "t"⟩ := by decide +kernel
  have cached : s.cachedToken = some "t" := by decide +kernel
  have here : s.task? 1 = some ⟨.token, .fresh⟩ := by decide +kernel
  obtain ⟨cached_iff, next⟩ := fresh connection _ current stored (by decide) .stat
  exact ⟨current, cached, (next 1 .token here rfl).1 (cached_iff.mp cached)⟩

/-- A login whose answer sets a cookie without a path. The cookie is for the directory of the login,
and so of all envelopes, but no token is cached, and the next call logs in again. -/
theorem login_again_for_deeper_cookie :
    let network : HttpNetwork Unit := ⟨fun _ _ => ((), some
      { setCookies := ["s=1"]
        body := { chunks := [utf8 "<script>var csfrToken = 't';</script>"] } })⟩
    let transport := network.transport { scheme := .http }
    let start : Connection (HttpState Unit) :=
      { session := .opened .http .concurrent "a" ⟨"u", "p"⟩ (transport.holds { network := () })
        network := { network := () } }
    let script : List (Connection.Action (HttpState Unit)) :=
      [.event (.start 0 .login), .poll 0, .event (.start 1 (.post confPath []))]
    let connection := (Connection.machine transport).run start script
    let s := connection.session
    s.context.login = some ⟨none, none, "t"⟩ ∧
      (∃ cookie, connection.network.jar.Carries connection.network.now s confPath cookie) ∧
      s.cachedToken = none ∧
      ∃ request, s.context.loginRequest s.scheme = .ok request ∧
        .sent 1 request ∈ (s.step (.poll 1)).2 := by
  intro network transport start script connection s
  let url (page : String) : Url :=
    ⟨"http", "", "", some (.domain "a"), none, .segments ["admin", page], none, none⟩
  let cookie : Cookie := ⟨"s", "1", "a", true, "/admin", false, none⟩
  have stored : s.context.login = some ⟨none, none, "t"⟩ := by decide +kernel
  have scheme : s.scheme = .http := by decide +kernel
  have host : s.context.host = "a" := by decide +kernel
  have at_login : endpoint s.scheme s.context.host loginPath = .ok (url "login.jsp") := by
    rw [scheme, host]
    exact endpoint_ok_iff.mpr (by decide +kernel)
  have at_conf : s.url confPath = .ok (url "_conf.jsp") := by
    rw [Session.url_ok_iff, scheme, host]
    exact endpoint_ok_iff.mpr (by decide +kernel)
  have carried : cookie ∈ connection.network.jar.cookiesFor connection.network.now
      (url "_conf.jsp") := by
    decide +kernel
  have uncached : s.cachedToken = none := by decide +kernel
  have forms : ∃ request, s.context.loginRequest s.scheme = .ok request := by
    rw [Context.loginRequest, at_login]
    exact ⟨_, rfl⟩
  obtain ⟨request, forms⟩ := forms
  have here : s.task? 1 = some ⟨.post confPath [], .fresh⟩ := by decide +kernel
  have concurrent : s.refresh = .concurrent := by decide +kernel
  exact ⟨stored, ⟨cookie, _, at_conf, carried⟩, uncached, request, forms,
    Session.step_poll_uncached here rfl uncached (.inl concurrent) forms⟩

end WlanAdmin
