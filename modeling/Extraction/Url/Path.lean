import Extraction.Url.Basic
import Extraction.Url.Percent

/-!
# Paths of addresses

A path is read segment by segment onto the path built so far. A segment of two dots takes the last
segment away and one of one dot is left out. Drive letters are kept: in a file address they stand
for the root.

## Main definitions

* `Url.Path.extend`: a path with the segments of a text added
* `Url.Path.pop`: a path without its last segment
-/

namespace Extraction.Url.Path

/-- A letter and a colon or a bar. -/
def isDrive : Text → Bool
  | [c, d] => c.isAlpha && (d == ':' || d == '|')
  | _ => false

/-- A letter and a colon. -/
def isNormalDrive : Text → Bool
  | [c, ':'] => c.isAlpha
  | _ => false

/-- Whether the text begins with a drive letter that is a whole segment. -/
def startsWithDrive : Text → Bool
  | c :: d :: rest =>
    isDrive [c, d] &&
      match rest with
      | [] => true
      | e :: _ => ['/', '\\', '?', '#'].elem e
  | _ => false

/-- The path up to and with its last slash. -/
def upToSlash (path : Text) : Text := (path.reverse.dropWhile (· != '/')).reverse

/-- What follows the last slash. -/
def lastSegment (path : Text) : Text := (path.reverse.takeWhile (· != '/')).reverse

/-- The path without its last segment. A drive letter of a file address stays. -/
def pop (kind : SchemeKind) (path : Text) : Text :=
  if kind = .file && isNormalDrive (lastSegment path) then path else upToSlash path

/-- The path shortened by one segment, if it has any. -/
def shorten (kind : SchemeKind) (path : Text) : Text :=
  if path.isEmpty || (kind = .file && isNormalDrive path) then path else pop kind path

/-- Whether the last slash of the path closes a segment that can be taken away: the slash of the
root and one after a drive letter stay. -/
def canDropSlash (path : Text) : Bool :=
  let before := path.dropLast
  before.elem '/' && !startsWithDrive (lastSegment before ++ ['/'])

/-- The spellings of two dots. -/
def isDoubleDot (s : Text) : Bool :=
  [['.', '.'], "%2e%2e".toList, "%2e.".toList, ".%2e".toList].elem (Text.lowerAscii s)

/-- The spellings of one dot. -/
def isSingleDot (s : Text) : Bool := [['.'], "%2e".toList].elem (Text.lowerAscii s)

/-- Whether a character separates segments. -/
def isSeparator (kind : SchemeKind) (c : Char) : Bool := c == '/' || (c == '\\' && kind.isSpecial)

/-- A path with one segment added, which a slash follows or not; and whether the segment is a
drive letter at the root. -/
def addSegment (kind : SchemeKind) (path segment : Text) (slash : Bool) : Text × Bool :=
  let closed (p : Text) : Text := if p.getLast? = some '/' then p else p ++ ['/']
  if isDoubleDot segment then
    let path := if path.getLast? = some '/' && canDropSlash path then path.dropLast else path
    let path := shorten kind path
    (if slash then closed path else path, false)
  else if isSingleDot segment then (closed path, false)
  else
    let path :=
      if kind = .file && !segment.isEmpty && isNormalDrive (path.drop 1) then path ++ ['/'] else path
    let tail := if slash then ['/'] else []
    if kind = .file && path.length = 1 && isDrive segment then
      (path ++ segment.take 1 ++ [':'] ++ tail, true)
    else (path ++ percentEncode forbiddenPath segment ++ tail, false)

/-- The path that a text adds to a path, up to a question mark or a number sign; whether it has a
drive letter at the root; and what follows in the text. `run`, reversed, is the segment read so
far. -/
def addSegments (kind : SchemeKind) (path : Text) (hasDrive : Bool) (run : Text) :
    Text → Text × Bool × Text
  | [] =>
    let (path, drive) := addSegment kind path run.reverse false
    (path, hasDrive || drive, [])
  | c :: rest =>
    if isSeparator kind c then
      let (path, drive) := addSegment kind path run.reverse true
      addSegments kind path (hasDrive || drive) [] rest
    else if c = '?' || c = '#' then
      let (path, drive) := addSegment kind path run.reverse false
      (path, hasDrive || drive, c :: rest)
    else addSegments kind path hasDrive (c :: run) rest

/-- A path with the segments of a text added, up to a question mark or a number sign; whether it
has a drive letter at the root; and what follows in the text. A file path begins with one slash. -/
def extend (kind : SchemeKind) (path s : Text) : Text × Bool × Text :=
  let (path, drive, rest) := addSegments kind path false [] s
  (if kind = .file then '/' :: path.dropWhile (· == '/') else path, drive, rest)

/-- The path that follows an authority in a text, and what `extend` says besides. -/
def start (kind : SchemeKind) (hasHost : Bool) (s : Text) : Text × Bool × Text :=
  if kind.isSpecial then
    if hasHost then
      match s with
      | '/' :: rest | '\\' :: rest => extend kind ['/'] rest
      | s => extend kind ['/'] s
    else extend kind [] s
  else
    match s with
    | '?' :: _ | '#' :: _ => ([], false, s)
    | [] | '/' :: _ => extend kind [] s
    | s => extend kind ['/'] s

end Extraction.Url.Path
