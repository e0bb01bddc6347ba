import WlanAdmin.Url.Ip

/-!
# WlanAdmin.Url.Basic

URLs in parts, and their text. The parts hold what the text shows: names are in lower case, and all
that must be percent-encoded is.
-/

namespace WlanAdmin

inductive Url.Host where
  /-- No name, as between the slashes of `file:///`. -/
  | empty
  | domain (name : String)
  | ipv4 (address : UInt32)
  | ipv6 (pieces : Vector UInt16 8)
  deriving DecidableEq, Repr

inductive Url.Path where
  /-- Text without inner structure. -/
  | opaquePath (text : String)
  /-- Segments, each after a slash. -/
  | segments (parts : List String)
  deriving DecidableEq, Repr

structure Url where
  scheme : String
  username : String := ""
  password : String := ""
  host : Option Url.Host := none
  /-- The port, unless it is the scheme's own. -/
  port : Option Nat := none
  path : Url.Path
  query : Option String := none
  fragment : Option String := none
  deriving DecidableEq, Repr

namespace Url

def Host.write : Host → String
  | .empty => ""
  | .domain name => name
  | .ipv4 address => String.ofList (writeIpv4 address)
  | .ipv6 pieces => String.ofList ('[' :: writeIpv6 pieces ++ [']'])

def Path.write : Path → String
  | .opaquePath text => text
  | .segments parts => String.join (parts.map ("/" ++ ·))

/-- The schemes whose URLs have a host and a path of segments. -/
def isSpecial (scheme : String) : Bool :=
  scheme ∈ ["http", "https", "ws", "wss", "ftp", "file"]

def defaultPort (scheme : String) : Option Nat :=
  if scheme = "http" ∨ scheme = "ws" then some 80
  else if scheme = "https" ∨ scheme = "wss" then some 443
  else if scheme = "ftp" then some 21
  else none

def writePort : Option Nat → String
  | some port => ":" ++ String.ofList (Nat.toDigits 10 port)
  | none => ""

/-- The user and password before a host. -/
def writeUserinfo (url : Url) : String :=
  if url.username = "" ∧ url.password = "" then ""
  else url.username ++ (if url.password = "" then "" else ":" ++ url.password) ++ "@"

/-- The text between the scheme and the path. A path that starts with an empty segment would read
as a host where there is none, so it is set off. -/
def writeAuthority (url : Url) : String :=
  match url.host with
  | some host => "//" ++ url.writeUserinfo ++ host.write ++ writePort url.port
  | none =>
    match url.path with
    | .segments ("" :: _ :: _) => "/."
    | _ => ""

/-- The text of a URL. -/
def write (url : Url) : String :=
  url.scheme ++ ":" ++ url.writeAuthority ++ url.path.write ++
    (match url.query with
      | some query => "?" ++ query
      | none => "") ++
    (match url.fragment with
      | some fragment => "#" ++ fragment
      | none => "")

/-- The host and port of a URL, as a session keeps them. -/
def authority (url : Url) : Option String :=
  match url.host with
  | none | some .empty => none
  | some host => some (host.write ++ writePort url.port)

end Url
end WlanAdmin
