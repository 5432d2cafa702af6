import Workbench.Url.Basic
import Workbench.Url.Domain
import Workbench.Url.Path
import Workbench.Url.Percent

namespace Workbench
namespace Url

/-!
# Reading URLs

An absolute URL is read from left to right: scheme, authority, path, query, fragment.  The schemes
of the web and the scheme `file` are special: a backslash separates segments in them as a slash
does, and they always have a path.  What is read is normalised at once, so the text of the result
may differ from the text that was read.
-/

/-- Why a text is not an absolute URL. -/
inductive Fault where
  | relativeWithoutBase
  | emptyHost
  | invalidDomain
  | invalidFour
  | invalidEight
  | invalidPort
  | invalidHostCharacter
  deriving DecidableEq, Repr

def Fault.message : Fault → String
  | relativeWithoutBase => "relative URL without a base"
  | emptyHost => "empty host"
  | invalidDomain => "invalid international domain name"
  | invalidFour => "invalid IPv4 address"
  | invalidEight => "invalid IPv6 address"
  | invalidPort => "invalid port number"
  | invalidHostCharacter => "invalid domain character"

/-- What kind of scheme a URL has, as far as reading it goes. -/
inductive Family where
  | file
  | web
  | other
  deriving DecidableEq, Repr

namespace Family

def ofScheme (scheme : String) : Family :=
  if scheme == "file" then .file
  else if ["http", "https", "ws", "wss", "ftp"].contains scheme then .web
  else .other

/-- Whether a backslash separates segments. -/
def isSpecial : Family → Bool
  | other => false
  | _ => true

end Family

/-- The port that a scheme stands for. -/
def defaultPort? (scheme : String) : Option Nat :=
  if scheme == "http" || scheme == "ws" then some 80
  else if scheme == "https" || scheme == "wss" then some 443
  else if scheme == "ftp" then some 21
  else none

namespace Reader

/-- The text without control characters and spaces around it. -/
def trimmed (text : List Char) : List Char :=
  let outer (c : Char) : Bool := c.toNat ≤ 0x20
  ((text.dropWhile outer).reverse.dropWhile outer).reverse

/-- Whether a character is passed over wherever it stands: a tab or an end of a line. -/
def isPassed (c : Char) : Bool :=
  c == '\t' || c == '\n' || c == '\r'

def relevant (text : List Char) : List Char :=
  text.filter (!isPassed ·)

/-- The first character that counts, and the text after it. -/
def next? (text : List Char) : Option (Char × List Char) :=
  match text.dropWhile isPassed with
  | c :: rest => some (c, rest)
  | [] => none

/-- Whether a character can occur in a scheme after the first one. -/
def isSchemeChar (c : Char) : Bool :=
  c.isAlphanum || c == '+' || c == '-' || c == '.'

/-- The scheme in lower case and the text after its colon. -/
def scheme? (text : List Char) : Option (String × List Char) :=
  let name := text.takeWhile isSchemeChar
  match name.head?, text.dropWhile isSchemeChar with
  | some first, ':' :: rest =>
    if first.isAlpha then some (String.ofList (name.map Char.toLower), rest) else none
  | _, _ => none

/-- Whether a character separates segments. -/
def isSlash (family : Family) (c : Char) : Bool :=
  c == '/' || (family.isSpecial && c == '\\')

/-- Whether a character ends a path. -/
def endsPath (c : Char) : Bool :=
  c == '?' || c == '#'

/-- Whether a character ends the authority. -/
def endsAuthority (family : Family) (c : Char) : Bool :=
  isSlash family c || endsPath c

structure PathReading where
  /-- The finished segments, with the last character first. -/
  path : List Char
  /-- The segment that is being read, encoded, with the last character first. -/
  segment : List Char := []
  /-- Whether a drive letter was the segment right after the root. -/
  isOnDrive : Bool := false

namespace PathReading

/-- Adds a character to the segment. -/
def add (reading : PathReading) (c : Char) : PathReading :=
  { reading with segment := (Percent.encodeText Percent.path [c]).reverse ++ reading.segment }

def close (family : Family) (reading : PathReading) (slash : Bool) : PathReading :=
  let isFile := family == .file
  let segment := reading.segment.reverse
  { path := Path.push isFile reading.path segment slash
    isOnDrive := reading.isOnDrive || Path.isRootDrive isFile reading.path segment }

/-- Cuts the segment behind a drive letter after the root of a file's path: what follows is set off
by a slash, and from the colon on it counts as one segment. -/
def cut (family : Family) (reading : PathReading) : PathReading :=
  match reading.segment with
  | [':', letter] =>
    if Path.isRootDrive (family == .file) reading.path [letter, ':'] then
      { reading with path := letter :: reading.path, segment := ['/', ':'] }
    else reading
  | _ => reading

end PathReading

/-- Reads a path up to its end, and gives the text after it.  Where characters are passed over, the
segment may be cut if it goes on behind them. -/
def readPath (family : Family) : List Char → PathReading → PathReading × List Char
  | [], reading => (reading.close family false, [])
  | c :: rest, reading =>
    if isPassed c then
      let goesOn := (next? rest).any fun (c, _) => !isSlash family c && !endsPath c
      readPath family rest (if goesOn then reading.cut family else reading)
    else if isSlash family c then readPath family rest (reading.close family true)
    else if endsPath c then (reading.close family false, c :: rest)
    else readPath family rest (reading.add c)

/-- The text after a slash that separates segments, if it begins with one. -/
def afterSlash (family : Family) : List Char → List Char
  | c :: rest => if isSlash family c then rest else c :: rest
  | [] => []

/-- The path of a URL from here on and the text after it.  Only a special URL has a path where none
is written. -/
def path (family : Family) (text : List Char) : String × List Char :=
  let isMissing :=
    match text with
    | [] | '?' :: _ | '#' :: _ => true
    | _ => false
  if !family.isSpecial && isMissing then ("", text)
  else
    let (read, rest) := readPath family (afterSlash family text) { path := ['/'] }
    (String.ofList read.path.reverse, rest)

/-- The path of a URL that has no segments, and the text after it. -/
def rootlessPath (text : List Char) : String × List Char :=
  (String.ofList (Percent.encodeText Percent.controls (text.takeWhile (!endsPath ·))),
    text.dropWhile (!endsPath ·))

/-- The fragment, if the text begins with a number sign. -/
def fragment? : List Char → Option String
  | '#' :: text => some (String.ofList (Percent.encodeText Percent.fragment text))
  | _ => none

/-- The URL with the query and fragment that a text gives. -/
def withTail (family : Family) (url : Url) : List Char → Url
  | '?' :: text =>
    let reserved := if family.isSpecial then Percent.specialQuery else Percent.query
    { url with
      query := some (String.ofList (Percent.encodeText reserved (text.takeWhile (· != '#'))))
      fragment := fragment? (text.dropWhile (· != '#')) }
  | text => { url with fragment := fragment? text }

def host (text : List Char) : Except Fault Host :=
  if text.head? == some '[' then
    match text.getLast?, Address.eight? text.tail.dropLast with
    | some ']', some pieces => .ok (.eight pieces)
    | _, _ => .error .invalidEight
  else
    match Domain.ofOctets? (Percent.decode (Text.Utf8.encode text)) with
    | none => .error .invalidDomain
    | some [] => .error .emptyHost
    | some name =>
      if Address.endsInNumber name then
        match Address.four? name with
        | some address => .ok (.four address)
        | none => .error .invalidFour
      else .ok (.domain (String.ofList name))

/-- Whether a character cannot occur in a host that is taken as it is. -/
def isForbiddenInHost (c : Char) : Bool :=
  ['\x00', '\t', '\n', '\r', ' ', '#', '/', ':', '<', '>', '?', '@', '[', '\\', ']', '^',
    '|'].contains c

/-- The host of a URL of any other scheme. -/
def plainHost (text : List Char) : Except Fault (Option Host) :=
  if text.head? == some '[' then
    match text.getLast?, Address.eight? text.tail.dropLast with
    | some ']', some pieces => .ok (some (.eight pieces))
    | _, _ => .error .invalidEight
  else if text.any isForbiddenInHost then .error .invalidHostCharacter
  else if text.isEmpty then .ok none
  else .ok (some (.domain (String.ofList (Percent.encodeText Percent.controls text))))

/-- The text before the first colon that is not between brackets, and the text from it on. -/
def cutPort : Bool → List Char → List Char × List Char
  | _, [] => ([], [])
  | bracketed, c :: rest =>
    if c == ':' && !bracketed then ([], c :: rest)
    else
      let (host, port) := cutPort (if c == '[' then true else if c == ']' then false else bracketed)
        rest
      (c :: host, port)

/-- The port after its colon; none if it is left out or the one that the scheme stands for. -/
def port (scheme : String) (digits : List Char) : Except Fault (Option Nat) :=
  match Text.Hex.numeral? 10 digits with
  | some n =>
    if 65535 < n then .error .invalidPort
    else .ok (if digits.isEmpty || defaultPort? scheme == some n then none else some n)
  | none => .error .invalidPort

def cutUser (text : List Char) : Option (List Char × List Char) :=
  if text.contains '@' then
    let reversed := text.reverse
    some ((reversed.dropWhile (· != '@')).tail.reverse,
      (reversed.takeWhile (· != '@')).reverse)
  else none

def credentials? (text : List Char) : String × Option String :=
  let write (part : List Char) : String :=
    String.ofList (Percent.encodeText Percent.userInfo part)
  let password := (text.dropWhile (· != ':')).tail
  (write (text.takeWhile (· != ':')), if password.isEmpty then none else some (write password))

def afterSlashes (scheme : String) (family : Family) (text : List Char) : Except Fault Url := do
  let inside (c : Char) : Bool := !endsAuthority family c
  let authority := text.takeWhile inside
  let rest := text.dropWhile inside
  let (user, place) := (cutUser authority).getD ([], authority)
  if (cutUser authority).isSome && user.isEmpty && place.isEmpty && !rest.isEmpty then
    throw .emptyHost
  let (userName, password) := credentials? user
  let (name, mark) := cutPort false place
  let found ←
    match family with
    | .other => plainHost name
    | _ => if name.isEmpty then throw .emptyHost else (host name).map some
  if found.isNone && (!mark.isEmpty || !userName.isEmpty || password.isSome) then
    throw .emptyHost
  let isDigits (c : Char) : Bool := c != '\\'
  let number ← if mark.isEmpty then pure none else port scheme (mark.tail.takeWhile isDigits)
  let (segments, tail) := path family (mark.dropWhile isDigits ++ rest)
  pure <| withTail family
    { scheme, hasAuthority := true, userName, password, host := found, port := number
      path := segments } tail

/-- A file's URL after the scheme, with the characters that are passed over. -/
def file (text : List Char) : Except Fault Url :=
  match next? text with
  | some (first, rest) =>
    if !isSlash .file first then .ok (finish none ['/'] text)
    else
      match next? rest with
      | some (second, rest) =>
        if isSlash .file second then withHost rest else .ok (finish none [] text)
      | none => .ok (finish none [] text)
  | none => .ok (finish none ['/'] text)
where
  /-- The URL with a host, the beginning of its path and the text from there on.  A path on a drive
  of this machine takes the host away. -/
  finish (found : Option Host) (start text : List Char) : Url :=
    let (read, tail) := readPath .file text { path := start }
    let host := if read.isOnDrive then none else found
    let path := String.ofList (Path.rooted read.path.reverse)
    withTail .file { scheme := "file", hasAuthority := true, host, path } (relevant tail)
  /-- The URL from its host on.  A drive letter is no host, and this machine's name for itself is
  left out. -/
  withHost (text : List Char) : Except Fault Url :=
    let name := relevant (text.takeWhile (!endsAuthority .file ·))
    let after := text.dropWhile (!endsAuthority .file ·)
    if name.isEmpty then .ok (finish none ['/'] after)
    else if Path.isDriveName name then .ok (finish none ['/'] text)
    else
      (host name).map fun found =>
        if found = .domain "localhost" then finish none ['/'] after
        else finish (some found) ['/'] (afterSlash .file after)

end Reader

/-- The absolute URL that a text stands for. -/
def parse (text : String) : Except Fault Url :=
  let written := Reader.trimmed text.toList
  match Reader.scheme? (Reader.relevant written) with
  | none => .error .relativeWithoutBase
  | some (scheme, rest) =>
    match Family.ofScheme scheme with
    | .file => Reader.file (written.dropWhile (· != ':')).tail
    | .web => Reader.afterSlashes scheme .web (rest.dropWhile (Reader.isSlash .web ·))
    | .other =>
      match rest with
      | '/' :: '/' :: after => Reader.afterSlashes scheme .other after
      | '/' :: _ =>
        let (segments, tail) := Reader.path .other rest
        .ok (Reader.withTail .other { scheme, path := segments } tail)
      | _ =>
        let (read, tail) := Reader.rootlessPath rest
        .ok (Reader.withTail .other { scheme, path := read } tail)

/-- `parse` where the reason for a failure does not matter. -/
def parse? (text : String) : Option Url :=
  (parse text).toOption

end Url
end Workbench
