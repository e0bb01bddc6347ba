import WlanAdmin.Url.Parse

/-!
# WlanAdmin.Url.Join

References, as redirects give them: URLs, or texts that stand for a URL when read from another one.
The other one has a host and a path of segments.
-/

namespace WlanAdmin.Url

/-- The authority of a URL in parts. -/
def authorityParts (url : Url) : Authority := ⟨url.username, url.password, url.host, url.port⟩

def Path.parts : Path → List String
  | .segments parts => parts
  | .opaquePath _ => []

/-- A reference without a scheme: it starts with the authority, with the root, or below the last
slash of the other URL. An empty path keeps that of the other URL. -/
def joinRelative (base : Url) (text : List Char) : Option Url :=
  let special := isSpecial base.scheme
  let slash := isSlash special
  let tail := splitTail text
  let within := fun parts => assemble base.scheme base.authorityParts (.segments parts) tail
  match text with
  | a :: b :: rest =>
    if slash a && slash b then
      readAfterSlashes base.scheme (if special then rest.dropWhile slash else rest)
    else some (below special slash tail within)
  | _ => some (below special slash tail within)
where
  below (special : Bool) (slash : Char → Bool) (tail : Tail) (within : List String → Url) : Url :=
    match tail.path with
    | [] =>
      let url := within base.path.parts
      if tail.query.isNone then { url with query := base.query } else url
    | c :: _ =>
      if slash c then within (readSegments special [] tail.path)
      else within (readSegments special base.path.parts.dropLast tail.path)

/-- The URL that a reference stands for when read from another one. A scheme of the other one's
own, without two slashes after it, changes nothing. -/
def join (base : Url) (text : String) : Option Url :=
  match splitScheme (clean text.toList) with
  | none => joinRelative base (clean text.toList)
  | some (scheme, rest) =>
    if isSpecial scheme && scheme == base.scheme && rest.take 2 != "//".toList then
      joinRelative base rest
    else parse text

end WlanAdmin.Url
