import Swarm.Text.Break
import Swarm.Text.Split
import Swarm.Url.Percent
import Swarm.Url.Scheme

/-!
# Paths

A path is a list of segments, or, in an address that is no hierarchy, a text. A segment of two
dots takes away the segment before it, one of one dot stands for nothing; a drive letter is never
taken away. A line break in the path of a file does not count, but for one behind the drive letter
that the path starts with.

## Main definitions

* `Path`: the two kinds of paths
* `Path.Segment`: a segment as it is written
* `Path.resolve`: the segments that are left of those written
* `Path.ofText`: the segments of a written path
* `Path.text`: the text of a path
-/

namespace Swarm.Url

/-- The path of an address. -/
inductive Path where
  /-- The path of an address that is no hierarchy. -/
  | flat (text : String)
  | segments (parts : List String)
  deriving DecidableEq

namespace Path

/-- The text of a path. -/
def text : Path → String
  | .flat whole => whole
  | .segments parts => String.join (parts.map ("/" ++ ·))

/-- Whether a segment is a letter and a colon, or a letter and a bar. -/
def isDriveLetter (segment : List Char) : Bool :=
  match segment with
  | [letter, mark] => isLetter letter && (mark == ':' || mark == '|')
  | _ => false

/-- Whether a segment is one dot, which may be encoded. -/
def isDot (segment : String) : Bool :=
  [".", "%2e", "%2E"].contains segment

/-- Whether a segment is two dots, each of which may be encoded. -/
def isDotDot (segment : String) : Bool :=
  ["..", ".%2e", ".%2E", "%2e.", "%2E.", "%2e%2e", "%2e%2E", "%2E%2e", "%2E%2E"].contains segment

/-- Whether a segment is never taken away: it is a drive letter, or one with a backslash behind
it. -/
def isFixed (segment : List Char) : Bool :=
  match segment with
  | letter :: mark :: rest =>
    isDriveLetter [letter, mark] && (rest.isEmpty || rest.head? == some '\\')
  | _ => false

/-- Takes away the last segment, unless it is fixed. The segments of `done` are given from the
last on. -/
def withoutLast (done : List String) : List String :=
  match done with
  | [] => []
  | last :: before => if isFixed last.toList then last :: before else before

/-- The drive letter that a segment is, with its colon. -/
def driveLetter? (segment : String) : Option String :=
  match segment.toList with
  | [letter, mark] =>
    if isDriveLetter [letter, mark] then some (String.ofList [letter, ':']) else none
  | _ => none

/-- A segment as it is written. -/
inductive Segment where
  | whole (text : String)
  /-- A drive letter with its colon, and what stands behind it after a line break. -/
  | parted (drive rest : String)

namespace Segment

/-- The segment that a text is, which may hold line breaks. -/
def ofText (text : List Char) : Segment :=
  let encode := fun part => String.ofList (Percent.encode Percent.path (Text.withoutBreaks part))
  match Text.withoutBreaks text with
  | letter :: ':' :: next :: rest =>
    let behind := (text.dropWhile (· != ':')).drop 1
    if isLetter letter && behind.head?.any Text.isBreak then
      .parted (String.ofList [letter, ':']) (encode (next :: rest))
    else .whole (encode text)
  | _ => .whole (encode text)

end Segment

/-- The segments that are left of those read so far. -/
structure Resolved where
  /-- The segments, the last first. -/
  segments : List String
  /-- Whether the first of them is the drive letter of a file, before which no host is kept. -/
  isOnDrive : Bool

namespace Resolved

/-- Puts a segment behind the others. -/
def push (done : Resolved) (segment : String) : Resolved :=
  { done with segments := segment :: done.segments }

/-- Reads a segment: one of two dots takes away the segment before it, one of one dot stands for
nothing. -/
def read (kind : SchemeKind) (done : Resolved) : Segment → Resolved
  | .whole text =>
    if isDotDot text then { done with segments := withoutLast done.segments }
    else if isDot text then done
    else if kind = .file ∧ done.segments = [] then
      -- Only here does a bar stand for the colon of a drive letter.
      match driveLetter? text with
      | some drive => { segments := [drive], isOnDrive := true }
      | none => done.push text
    else done.push text
  | .parted drive rest =>
    -- The line break counts as a slash at the beginning of a path only.
    if done.segments = [] then (done.push drive).push rest else done.push (drive ++ rest)

/-- Reads the last segment: dots at the end leave a path that ends with a slash. -/
def readLast (kind : SchemeKind) (done : Resolved) (segment : Segment) : Resolved :=
  let next := done.read kind segment
  match segment with
  | .whole text => if isDotDot text || isDot text then next.push "" else next
  | .parted _ _ => next

/-- Reads all segments. -/
def readAll (kind : SchemeKind) (done : Resolved) : List Segment → Resolved
  | [] => done
  | [last] => done.readLast kind last
  | segment :: rest => (done.read kind segment).readAll kind rest

end Resolved

/-- The parts of a text between slashes. -/
def splitSlashes (kind : SchemeKind) (text : List Char) : List (List Char) :=
  Text.splitAt '/' (text.map fun c => if kind.isSlash c then '/' else c)

/-- Segments without the empty ones at the beginning, of which one is kept if there is no
other. -/
def collapse (segments : List String) : List String :=
  match segments.dropWhile (· == "") with
  | [] => [""]
  | rest => rest

/-- The segments that are left of those written behind a slash and the segments of `base`. -/
def resolve (kind : SchemeKind) (base : List String) (text : List Char) : Resolved :=
  Resolved.readAll kind { segments := base.reverse, isOnDrive := false }
    ((splitSlashes kind text).map Segment.ofText)

/-- The path of the segments that are left: the path of a file has no empty ones at the
beginning. -/
def ofResolved (kind : SchemeKind) (left : Resolved) : Path :=
  let segments := left.segments.reverse
  .segments (if kind = .file then collapse segments else segments)

/-- The path that is written behind a slash and the segments of `base`. -/
def ofText (kind : SchemeKind) (base : List String) (text : List Char) : Path :=
  ofResolved kind (resolve kind base text)

end Path

end Swarm.Url
