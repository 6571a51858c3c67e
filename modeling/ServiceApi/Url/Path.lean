import ServiceApi.Url
import ServiceApi.Url.Percent

/-!
# Paths

A path is read segment by segment onto the text of the path so far: `..` goes back to the segment
before, `.` stays, and any other segment is written down with its escapes. A drive letter at the
root of a file path is written with a colon, and no `..` goes above it.
-/

namespace ServiceApi.Url

def isSpecial (scheme : String) : Bool :=
  ["http", "https", "ws", "wss", "ftp", "file"].contains scheme

def isSlash (special : Bool) (c : Char) : Bool := c == '/' || (special && c == '\\')

/-- What ends a path. -/
def endsPath (c : Char) : Bool := c == '?' || c == '#'

/-! ## Segments -/

def isSingleDot (segment : List Char) : Bool :=
  [".", "%2e"].contains (String.ofList (segment.map Char.toLower))

def isDoubleDot (segment : List Char) : Bool :=
  ["..", ".%2e", "%2e.", "%2e%2e"].contains (String.ofList (segment.map Char.toLower))

def isDriveLetter : List Char → Bool
  | [c, d] => c.isAlpha && (d == ':' || d == '|')
  | _ => false

/-- The form in which a drive letter is written down. -/
def isWrittenDrive (segment : List Char) : Bool :=
  isDriveLetter segment && segment.getLast? == some ':'

def startsWithDrive (cs : List Char) : Bool :=
  isDriveLetter (cs.take 2) && (cs.drop 2).head?.all fun c => isSlash true c || endsPath c

/-! ## The path so far -/

/-- What follows the last slash. -/
def lastSegment (path : List Char) : List Char := (path.reverse.takeWhile (· != '/')).reverse

def closed (path : List Char) : List Char :=
  if path.getLast? == some '/' then path else path ++ ['/']

/-- The path up to its last slash; the drive letter of a file stays. -/
def shorten (file : Bool) (path : List Char) : List Char :=
  let last := lastSegment path
  if file && isWrittenDrive last then path else path.take (path.length - last.length)

/-- The path one segment up. A slash at the end goes first, unless it is the root or follows a drive
letter. -/
def parent (file : Bool) (path : List Char) : List Char :=
  let front := path.dropLast
  if path.getLast? == some '/' && front.contains '/' && !startsWithDrive (lastSegment front) then
    shorten file front
  else shorten file path

/-- Adds a segment; `slash` if a slash follows it. -/
def addSegment (file : Bool) (path segment : List Char) (slash : Bool) : List Char :=
  let path := if file && !segment.isEmpty && isWrittenDrive (path.drop 1) then closed path else path
  if isDoubleDot segment then
    let path := parent file path
    if slash then closed path else path
  else if isSingleDot segment then closed path
  else
    let written := match file && path.length == 1 && isDriveLetter segment, segment with
      | true, c :: _ => [c, ':']
      | _, _ => escape escapedInPath segment
    path ++ written ++ if slash then ['/'] else []

/-- The pieces of a path between its slashes. -/
def cutSegments (special : Bool) : List Char → List (List Char)
  | [] => [[]]
  | c :: cs =>
    if isSlash special c then [] :: cutSegments special cs
    else
      match cutSegments special cs with
      | [] => [[c]]
      | p :: ps => (c :: p) :: ps

def addSegments (file : Bool) : List Char → List (List Char) → List Char
  | path, [] => path
  | path, [segment] => addSegment file path segment false
  | path, segment :: rest => addSegments file (addSegment file path segment true) rest

/-- The path that `cs` continues from `path`, up to the query or the fragment, and the rest. -/
def readPath (scheme : String) (path cs : List Char) : List Char × List Char :=
  let segments := cutSegments (isSpecial scheme) (cs.takeWhile (!endsPath ·))
  (addSegments (scheme == "file") path segments, cs.dropWhile (!endsPath ·))

/-- The path right after an authority. In a special scheme it has at least its root. -/
def readPathStart (scheme : String) (cs : List Char) : List Char × List Char :=
  let special := isSpecial scheme
  match cs with
  | [] => (if special then ['/'] else [], [])
  | c :: rest =>
    if isSlash special c then readPath scheme ['/'] rest
    else if !special && endsPath c then ([], cs)
    else readPath scheme ['/'] cs

end ServiceApi.Url
