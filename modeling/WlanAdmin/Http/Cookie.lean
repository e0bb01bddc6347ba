import WlanAdmin.Http.CookieDate
import WlanAdmin.Text.Integer
import WlanAdmin.Url.Basic

/-!
# WlanAdmin.Http.Cookie

Cookies. An answer sets them for its host, or for a domain that the host belongs to, and for the
paths below one; a request carries those that are for its URL and have not expired.

* `Cookie.isFor` : whether a request to a URL carries a cookie.
* `CookieJar.store` : keeps a cookie as an answer writes it.
-/

namespace WlanAdmin

structure Cookie where
  name : String
  value : String
  /-- The host that set it, or the domain it is for. -/
  domain : String
  /-- Whether no other host of the domain gets it. -/
  hostOnly : Bool
  path : String
  /-- Whether it travels only over encrypted connections. -/
  secure : Bool
  /-- The second at which it expires. -/
  expires : Option Int
  deriving DecidableEq, Repr

namespace Cookie

/-- Whether a host is a domain or lies in it; addresses lie in nothing. -/
def inDomain (host : Url.Host) (domain : String) : Bool :=
  host.write == domain ||
    match host with
    | .domain name => ('.' :: domain.toList).isSuffixOf name.toList
    | .empty | .ipv4 _ | .ipv6 _ => false

/-- Whether a path is another one or lies below it. -/
def inPath (path below : List Char) : Bool :=
  path == below || (below.isPrefixOf path &&
    (below.getLast? == some '/' || (path.drop below.length).head? == some '/'))

def isExpired (now : Int) (cookie : Cookie) : Bool := cookie.expires.any (· ≤ now)

/-- Whether a request to a URL carries a cookie. -/
def isFor (now : Int) (url : Url) (cookie : Cookie) : Bool :=
  (match url.host with
    | some host => if cookie.hostOnly then host.write == cookie.domain
        else inDomain host cookie.domain
    | none => false) &&
  inPath url.path.write.toList cookie.path.toList && (!cookie.secure || url.scheme == "https") &&
  !cookie.isExpired now

/-- The path a cookie is for where it names none: that of the URL up to its last slash. -/
def defaultPath (url : Url) : String :=
  let path := (url.path.write.toList.reverse.dropWhile (· != '/')).tail.reverse
  if path.isEmpty then "/" else String.ofList path

/-- A text without blanks around it. -/
def trim (text : List Char) : List Char :=
  let blank := fun c : Char => c == ' ' || c == '\t'
  ((text.dropWhile blank).reverse.dropWhile blank).reverse

/-- A name and a value with an equals sign between them; without one, a name alone. -/
def splitPair (text : List Char) : List Char × List Char :=
  (trim (text.takeWhile (· != '=')), trim (text.dropWhile (· != '=')).tail)

/-- The last attribute of a name. -/
def attribute? (attributes : List (List Char × List Char)) (name : String) :
    Option (List Char) :=
  (attributes.reverse.find? fun entry => entry.1.map Char.toLower == name.toList).map Prod.snd

/-- When a cookie expires. A lifetime counts before a date. -/
def expiry (now : Int) (attributes : List (List Char × List Char)) : Option Int :=
  match (attribute? attributes "max-age").map fun text =>
      IntegerRange.signed64.read (String.ofList text) with
  | some (.ok seconds) => some (if seconds ≤ 0 then now else now + seconds)
  | _ => (attribute? attributes "expires").bind fun text => CookieDate.read (String.ofList text)

/-- The cookie that an answer from a URL sets; `none` where it has no name or equals sign, or is for
a domain that the host does not belong to. -/
def read (now : Int) (url : Url) (header : String) : Option Cookie :=
  let pieces := header.toList.splitOn ';'
  let pair := pieces.headD []
  let (name, value) := splitPair pair
  let attributes := pieces.tail.map splitPair
  let path := match attribute? attributes "path" with
    | some ('/' :: rest) => String.ofList ('/' :: rest)
    | _ => defaultPath url
  match url.host with
  | none => none
  | some host =>
    if name.isEmpty || !pair.contains '=' then none
    else
      let cookie : Cookie :=
        { name := String.ofList name, value := String.ofList value, domain := host.write,
          hostOnly := true, path, secure := (attribute? attributes "secure").isSome,
          expires := expiry now attributes }
      match attribute? attributes "domain" with
      | none | some [] => some cookie
      | some domain =>
        let bare := if domain.head? = some '.' then domain.tail else domain
        let domain := String.ofList (bare.map Char.toLower)
        if inDomain host domain then some { cookie with domain, hostOnly := false } else none

/-- Whether one cookie takes the place of another. -/
def replaces (a b : Cookie) : Bool := a.name == b.name && a.domain == b.domain && a.path == b.path

end Cookie

/-- The cookies that have been set. -/
abbrev CookieJar := List Cookie

namespace CookieJar

/-- Keeps the cookie that an answer from a URL sets. One that has expired only removes. -/
def store (now : Int) (url : Url) (jar : CookieJar) (header : String) : CookieJar :=
  match Cookie.read now url header with
  | none => jar
  | some cookie =>
    let others := jar.filter (!cookie.replaces ·)
    if cookie.isExpired now then others else others ++ [cookie]

/-- The cookies that a request to a URL carries. -/
def cookiesFor (now : Int) (url : Url) (jar : CookieJar) : List Cookie :=
  jar.filter (Cookie.isFor now url)

end CookieJar
end WlanAdmin
