import Workbench.Text.Description
import Workbench.Url.Address

namespace Workbench

/-!
# URLs

A URL in its normalised form, by component, and its text.  Two URLs are the same when their texts
are.
-/

inductive Host where
  | domain (name : String)
  | four (address : Nat)
  | eight (pieces : List Nat)
  deriving DecidableEq, Repr

namespace Host

def text : Host → String
  | domain name => name
  | four address => Url.Address.writeFour address
  | eight pieces => "[" ++ Url.Address.writeEight pieces ++ "]"

instance : Text.Describe Host where
  describe
    | domain name => Text.describeWrapped "Domain" (Text.describe name)
    | four address => Text.describeWrapped "Ipv4" (Url.Address.writeFour address)
    | eight pieces =>
      Text.describeWrapped "Ipv6" <|
        match pieces with
        | [0, 0, 0, 0, 0, 0xFFFF, a, b] =>
          "::ffff:" ++ Url.Address.writeFour (a * twoTo 16 + b)
        | _ => Url.Address.writeEight pieces

end Host

structure Url where
  scheme : String
  /-- Whether two slashes follow the scheme, with a host after them or not. -/
  hasAuthority : Bool := false
  userName : String := ""
  password : Option String := none
  host : Option Host := none
  /-- The port, if it is not the one that the scheme stands for. -/
  port : Option Nat := none
  path : String
  query : Option String := none
  fragment : Option String := none
  deriving DecidableEq, Repr

namespace Url

/-- Whether the path is not made of segments: it follows the scheme without a slash. -/
def isRootless (url : Url) : Bool :=
  !url.hasAuthority && url.path.toList.head? != some '/'

/-- The user's name and password as they stand before the host. -/
def credentials (url : Url) : String :=
  match url.password with
  | some password => url.userName ++ ":" ++ password ++ "@"
  | none => if url.userName.isEmpty then "" else url.userName ++ "@"

/-- What stands between the scheme and the path.  Where there is no authority, a path that begins
with two slashes is kept from looking like one. -/
def authority (url : Url) : String :=
  if url.hasAuthority then
    "//" ++ url.credentials ++ (url.host.map Host.text).getD "" ++
      (match url.port with
        | some port => ":" ++ Nat.repr port
        | none => "")
  else if url.path.toList.take 2 == ['/', '/'] then "/."
  else ""

/-- An optional part after its mark. -/
private def marked (mark : String) : Option String → String
  | some part => mark ++ part
  | none => ""

def text (url : Url) : String :=
  url.scheme ++ ":" ++ url.authority ++ url.path ++ marked "?" url.query ++
    marked "#" url.fragment

instance : Text.Describe Url where
  describe url := Text.describeRecord "Url"
    [("scheme", Text.describe url.scheme), ("cannot_be_a_base", Text.describe url.isRootless),
     ("username", Text.describe url.userName), ("password", Text.describe url.password),
     ("host", Text.describe url.host), ("port", Text.describe url.port),
     ("path", Text.describe url.path), ("query", Text.describe url.query),
     ("fragment", Text.describe url.fragment)]

end Url
end Workbench
