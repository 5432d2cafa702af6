namespace Workbench
namespace Url
namespace Path

/-!
# Paths

While a URL is read, its path is built up segment by segment.  A segment that is one dot adds
nothing, one that is two dots takes the last segment away, and the root is never taken away.  A
drive letter as it is used in file paths protects what stands before it.

The path is kept with its last character first, which is where all the work is done.
-/

/-- Whether two characters are a drive letter. -/
def isDrive (letter mark : Char) : Bool :=
  letter.isAlpha && (mark == ':' || mark == '|')

/-- Whether a text begins with a drive letter that makes up a whole segment. -/
def startsWithDrive : List Char → Bool
  | [letter, mark] => isDrive letter mark
  | letter :: mark :: next :: _ => isDrive letter mark && (next == '/' || next == '\\')
  | _ => false

/-- Whether a segment is a drive letter with a colon. -/
def isColonDrive : List Char → Bool
  | [letter, ':'] => letter.isAlpha
  | _ => false

/-- Whether a segment means the segment it stands in. -/
def isSingleDot (segment : List Char) : Bool :=
  [".", "%2e", "%2E"].any (·.toList == segment)

/-- Whether a segment means the segment before. -/
def isDoubleDot (segment : List Char) : Bool :=
  ["..", "%2e%2e", "%2e%2E", "%2E%2e", "%2E%2E", "%2e.", "%2E.", ".%2e", ".%2E"].any
    (·.toList == segment)

/-- The part of a reversed path after its last slash, in reading order. -/
def lastSegment (path : List Char) : List Char :=
  (path.takeWhile (· != '/')).reverse

/-- A reversed path up to and with its last slash. -/
def upToSlash (path : List Char) : List Char :=
  path.dropWhile (· != '/')

/-- Takes the last slash away, if a segment stands before it that is no drive letter. -/
def dropSlash : List Char → List Char
  | '/' :: before =>
    if before.contains '/' && !startsWithDrive (lastSegment before ++ ['/']) then before
    else '/' :: before
  | path => path

/-- Takes the last segment away, unless it is a drive letter in a file's path. -/
def pop (isFile : Bool) (path : List Char) : List Char :=
  if isFile && isColonDrive (lastSegment path) then path else upToSlash path

/-- Sees to it that a reversed path ends in a slash. -/
def closed : List Char → List Char
  | '/' :: before => '/' :: before
  | path => '/' :: path

/-- Whether a text is a drive letter and nothing else. -/
def isDriveName : List Char → Bool
  | [letter, mark] => isDrive letter mark
  | _ => false

/-- Whether a segment is the drive letter right after the root of a file's path. -/
def isRootDrive (isFile : Bool) (path segment : List Char) : Bool :=
  isFile && path == ['/'] && isDriveName segment

/-- A segment as it is kept: a drive letter right after the root is written with a colon. -/
def kept (isFile : Bool) (path segment : List Char) : List Char :=
  if isRootDrive isFile path segment then segment.take 1 ++ [':'] else segment

/-- Adds a segment, already encoded, to a reversed path that ends in a slash or is empty. -/
def push (isFile : Bool) (path segment : List Char) (slash : Bool) : List Char :=
  if isDoubleDot segment then
    let shorter := pop isFile (dropSlash path)
    if slash then closed shorter else shorter
  else if isSingleDot segment then closed path
  else
    let longer := (kept isFile path segment).reverse ++ path
    if slash then '/' :: longer else longer

/-- A file's path begins with exactly one slash. -/
def rooted (path : List Char) : List Char :=
  '/' :: path.dropWhile (· == '/')

end Path
end Url
end Workbench
