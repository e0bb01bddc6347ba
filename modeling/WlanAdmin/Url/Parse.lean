import WlanAdmin.Domain.Ascii
import WlanAdmin.Text.Replacement
import WlanAdmin.Url.Basic
import WlanAdmin.Url.Percent

/-!
# WlanAdmin.Url.Parse

Reading URLs, by the rules of browsers. Blanks and controls at the ends and line breaks and tabs
anywhere are dropped first; what remains is cut into scheme, authority, path, query and fragment,
and each part is read on its own.
-/

namespace WlanAdmin.Url

/-- What is left of a text once blanks and controls at its ends, and tabs and line breaks anywhere,
are dropped. -/
def clean (text : List Char) : List Char :=
  let blank := fun c : Char => c.toNat ≤ 0x20
  let trimmed := ((text.dropWhile blank).reverse.dropWhile blank).reverse
  trimmed.filter fun c => c != '\t' && c != '\n' && c != '\r'

def isSchemeChar (c : Char) : Bool := c.isAlphanum || c == '+' || c == '-' || c == '.'

/-- The scheme before the first colon, in lower case, and what follows. -/
def splitScheme (text : List Char) : Option (String × List Char) :=
  match text with
  | [] => none
  | c :: _ =>
    if !c.isAlpha then none
    else match text.dropWhile isSchemeChar with
      | ':' :: rest => some (String.ofList ((text.takeWhile isSchemeChar).map Char.toLower), rest)
      | _ => none

/-- A slash of a URL; in special ones a backslash is one too. -/
def isSlash (special : Bool) (c : Char) : Bool := c == '/' || (special && c == '\\')

/-- Whether a character ends the authority of a URL. -/
def endsAuthority (special : Bool) (c : Char) : Bool :=
  isSlash special c || c == '?' || c == '#'

/-- The texts before and after the last `@`. -/
def splitUserinfo (authority : List Char) : Option (List Char × List Char) :=
  if authority.contains '@' then
    let back := authority.reverse
    some ((back.dropWhile (· != '@')).tail.reverse, (back.takeWhile (· != '@')).reverse)
  else none

/-- User and password, percent-encoded. -/
def readUserinfo (userinfo : List Char) : String × String :=
  let encode := fun chars => String.ofList (percentEncode .userinfo chars)
  (encode (userinfo.takeWhile (· != ':')), encode (userinfo.dropWhile (· != ':')).tail)

/-- The host before the first colon outside brackets, and what follows it. -/
def splitHost : (brackets : Bool) → List Char → List Char × List Char
  | _, [] => ([], [])
  | brackets, c :: rest =>
    if c = ':' ∧ !brackets then ([], c :: rest)
    else
      let brackets := if c = '[' then true else if c = ']' then false else brackets
      let (host, after) := splitHost brackets rest
      (c :: host, after)

/-- An address between brackets. -/
def readBracketed (host : List Char) : Option Host :=
  match host.getLast? with
  | some ']' => (readIpv6 host.dropLast.tail).map .ipv6
  | _ => none

/-- The host of a special URL: an address, or a domain in its ASCII form. -/
def readHost (host : List Char) : Option Host :=
  match host with
  | '[' :: _ => readBracketed host
  | _ =>
    let decoded := decodeReplacing (percentDecode (utf8 (String.ofList host)))
    match Domain.toAscii decoded with
    | none => none
    | some [] => none
    | some domain =>
      if endsInNumber domain then (readIpv4 domain).map .ipv4
      else some (.domain (String.ofList domain))

/-- Characters that the host of any other URL cannot hold. -/
def isForbiddenHostChar (c : Char) : Bool :=
  c.toNat = 0 || " \t\n\r#/:<>?@[\\]^|".toList.contains c

/-- The host of any other URL: an address between brackets, or a name that is kept. -/
def readOpaqueHost (host : List Char) : Option Host :=
  match host with
  | '[' :: _ => readBracketed host
  | _ =>
    if host.any isForbiddenHostChar then none
    else some (.domain (String.ofList (percentEncode .controls host)))

/-- The port after a host: a colon and digits. The scheme's own port and an empty one are none. -/
def readPort (scheme : String) : List Char → Option (Option Nat)
  | [] => some none
  | [':'] => some none
  | ':' :: digits =>
    if !digits.all Char.isDigit then none
    else match readBase 10 0 digits with
      | none => none
      | some port =>
        if 65535 < port then none
        else some (if defaultPort scheme = some port then none else some port)
  | _ => none

structure Authority where
  username : String := ""
  password : String := ""
  host : Option Host := none
  port : Option Nat := none

/-- The authority of a URL. A special URL needs a host; others need one if they have a user, a
password or a port. `more` says whether anything follows the authority; after a lone `@` nothing
may. -/
def readAuthority (scheme : String) (authority : List Char) (more : Bool) : Option Authority :=
  let (userinfo, hostport) :=
    match splitUserinfo authority with
    | some (userinfo, hostport) => (readUserinfo userinfo, hostport)
    | none => (("", ""), authority)
  let (host, after) := splitHost false hostport
  if host.isEmpty then
    if isSpecial scheme || !after.isEmpty || userinfo.1 != "" || userinfo.2 != "" then none
    else if authority = ['@'] && more then none
    else some { host := some .empty }
  else
    match if isSpecial scheme then readHost host else readOpaqueHost host with
    | none => none
    | some host =>
      (readPort scheme after).map fun port => ⟨userinfo.1, userinfo.2, some host, port⟩

/-- A segment that stands for its own directory. -/
def isSingleDot (segment : List Char) : Bool :=
  let lower := segment.map Char.toLower
  lower == ['.'] || lower == "%2e".toList

/-- A segment that stands for the parent directory. -/
def isDoubleDot (segment : List Char) : Bool :=
  let lower := segment.map Char.toLower
  lower == "..".toList || lower == ".%2e".toList || lower == "%2e.".toList ||
    lower == "%2e%2e".toList

/-- Adds segments to a path, resolving dots. The last segment is followed by no slash. -/
def addSegments : List String → List (List Char) → List String
  | path, [] => path
  | path, [last] =>
    if isDoubleDot last then path.dropLast ++ [""]
    else if isSingleDot last then path ++ [""]
    else path ++ [String.ofList (percentEncode .path last)]
  | path, segment :: rest =>
    if isDoubleDot segment then addSegments path.dropLast rest
    else if isSingleDot segment then addSegments path rest
    else addSegments (path ++ [String.ofList (percentEncode .path segment)]) rest

/-- The texts between slashes. -/
def splitSlashes (special : Bool) : List Char → List (List Char)
  | [] => [[]]
  | c :: rest =>
    if isSlash special c then [] :: splitSlashes special rest
    else match splitSlashes special rest with
      | [] => [[c]]
      | first :: others => (c :: first) :: others

/-- The segments of a path that follows an authority or starts with a slash. -/
def readSegments (special : Bool) (base : List String) (path : List Char) : List String :=
  match path with
  | [] => if special then base ++ [""] else base
  | c :: rest =>
    addSegments base (splitSlashes special (if isSlash special c then rest else path))

/-- A text cut into path, query and fragment. -/
structure Tail where
  path : List Char
  query : Option (List Char)
  fragment : Option (List Char)

def splitTail (text : List Char) : Tail :=
  let before := text.takeWhile (· != '#')
  let fragment := match text.dropWhile (· != '#') with
    | _ :: rest => some rest
    | [] => none
  let query := match before.dropWhile (· != '?') with
    | _ :: rest => some rest
    | [] => none
  ⟨before.takeWhile (· != '?'), query, fragment⟩

/-- The written form of a query. -/
def readQuery (special : Bool) (query : List Char) : String :=
  String.ofList (percentEncode (if special then .specialQuery else .query) query)

/-- The written form of a fragment. -/
def readFragment (fragment : List Char) : String := String.ofList (percentEncode .fragment fragment)

/-- A URL from its authority, its path and the parts after the path. -/
def assemble (scheme : String) (authority : Authority) (path : Path) (tail : Tail) : Url where
  scheme
  username := authority.username
  password := authority.password
  host := authority.host
  port := authority.port
  path
  query := tail.query.map (readQuery (isSpecial scheme))
  fragment := tail.fragment.map readFragment

/-- What follows the slashes of an authority. -/
def readAfterSlashes (scheme : String) (text : List Char) : Option Url :=
  let special := isSpecial scheme
  let rest := text.dropWhile fun c => !endsAuthority special c
  (readAuthority scheme (text.takeWhile fun c => !endsAuthority special c) (!rest.isEmpty)).map
      fun authority =>
    let tail := splitTail rest
    assemble scheme authority (.segments (readSegments special [] tail.path)) tail

/-- A letter and a colon or bar: the name of a drive. -/
def isDriveLetter : List Char → Bool
  | [c, d] => c.isAlpha && (d == ':' || d == '|')
  | _ => false

/-- The segments of a file's path. A drive letter at the start stands with a colon, and the path
has no empty segments before its first other one. -/
def fileSegments (path : List Char) : List String :=
  let segments := readSegments true [] path
  let segments := match segments with
    | first :: rest =>
      if isDriveLetter first.toList then String.ofList [first.toList.headD 'c', ':'] :: rest
      else segments
    | [] => segments
  match segments.dropWhile (· == "") with
  | [] => [""]
  | segments => segments

/-- A file's URL. A host that reads as a drive letter belongs to the path, `localhost` is no host,
and a path that starts with a drive letter has none. -/
def readFile (text : List Char) : Option Url :=
  match text with
  | a :: b :: rest =>
    if isSlash true a && isSlash true b then
      let host := rest.takeWhile fun c => !endsAuthority true c
      if host.isEmpty || isDriveLetter host then
        let tail := splitTail rest
        some (assemble "file" { host := some .empty } (.segments (fileSegments tail.path)) tail)
      else
        (readHost host).map fun host =>
          let tail := splitTail (rest.dropWhile fun c => !endsAuthority true c)
          let segments := fileSegments tail.path
          let hasDrive := match segments with
            | first :: _ => isDriveLetter first.toList
            | [] => false
          let host := if host = .domain "localhost" || hasDrive then .empty else host
          assemble "file" { host := some host } (.segments segments) tail
    else
      let tail := splitTail text
      some (assemble "file" { host := some .empty } (.segments (fileSegments tail.path)) tail)
  | _ =>
    let tail := splitTail text
    some (assemble "file" { host := some .empty } (.segments (fileSegments tail.path)) tail)

/-- A URL of a scheme without rules of its own. -/
def readOther (scheme : String) (text : List Char) : Option Url :=
  match text with
  | '/' :: '/' :: rest => readAfterSlashes scheme rest
  | '/' :: _ =>
    let tail := splitTail text
    some (assemble scheme {} (.segments (readSegments false [] tail.path)) tail)
  | _ =>
    let tail := splitTail text
    some (assemble scheme {} (.opaquePath (String.ofList (percentEncode .controls tail.path))) tail)

/-- Reads an absolute URL. -/
def parse (text : String) : Option Url :=
  match splitScheme (clean text.toList) with
  | none => none
  | some (scheme, rest) =>
    if scheme = "file" then readFile rest
    else if isSpecial scheme then readAfterSlashes scheme (rest.dropWhile (isSlash true))
    else readOther scheme rest

end WlanAdmin.Url
