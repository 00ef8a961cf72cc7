/-!
# Schemes

An address starts with a scheme. The schemes of the web and the scheme of files are special: their
addresses have a host and a path whatever slashes are written, and those of the web have a port
that goes without saying.

## Main definitions

* `SchemeKind`: how special a scheme is
* `SchemeKind.of`: the kind of a scheme
* `defaultPort?`: the port that goes without saying
* `splitScheme?`: the scheme at the front of a text
-/

namespace Swarm.Url

/-- How special a scheme is. -/
inductive SchemeKind where
  | file
  | web
  | other
  deriving DecidableEq

/-- The port that goes without saying under a scheme. -/
def defaultPort? (scheme : String) : Option UInt16 :=
  if scheme = "http" ∨ scheme = "ws" then some 80
  else if scheme = "https" ∨ scheme = "wss" then some 443
  else if scheme = "ftp" then some 21
  else none

namespace SchemeKind

/-- The kind of a scheme. -/
def of (scheme : String) : SchemeKind :=
  if scheme = "file" then .file
  else if (defaultPort? scheme).isSome then .web
  else .other

/-- Whether a backslash counts as a slash. -/
def isSpecial (kind : SchemeKind) : Bool :=
  kind ≠ .other

/-- Whether a character separates segments. -/
def isSlash (kind : SchemeKind) (c : Char) : Bool :=
  c == '/' || (c == '\\' && kind.isSpecial)

end SchemeKind

/-- Whether a character is a letter of ASCII. -/
def isLetter (c : Char) : Bool :=
  ('a' ≤ c && c ≤ 'z') || ('A' ≤ c && c ≤ 'Z')

/-- Whether a character can stand in a scheme after its first letter. -/
def isSchemeChar (c : Char) : Bool :=
  isLetter c || ('0' ≤ c && c ≤ '9') || c == '+' || c == '-' || c == '.'

/-- The scheme at the front of a text, in small letters, and what follows its colon. -/
def splitScheme? (text : List Char) : Option (String × List Char) :=
  if text.head?.any isLetter then
    match text.dropWhile isSchemeChar with
    | ':' :: rest => some (String.ofList ((text.takeWhile isSchemeChar).map Char.toLower), rest)
    | _ => none
  else none

end Swarm.Url
