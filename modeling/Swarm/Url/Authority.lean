import Swarm.Url.Basic

/-!
# Users, hosts and ports

Between two slashes and the path an address names its host: before it a user and a password up to
an at sign, after it a port behind a colon.

## Main definitions

* `Authority`: the user, the host and the port
* `Authority.parse`: those that a text names
-/

namespace Swarm.Url

/-- The user, the host and the port of an address. -/
structure Authority where
  username : String
  password : String
  host : Host
  port : Option UInt16

namespace Authority

/-- The parts of a text before and after the last place of a character; nothing before, if it
stands nowhere. -/
def splitLast (mark : Char) (text : List Char) : Option (List Char) × List Char :=
  if text.contains mark then
    let after := (text.reverse.takeWhile (· != mark)).reverse
    (some (text.take (text.length - after.length - 1)), after)
  else (none, text)

/-- The part of a text that is encoded as a user or a password. -/
def encoded (text : List Char) : String :=
  String.ofList (Percent.encode Percent.userinfo text)

/-- The user and the password of a text, a colon between them. -/
def credentials (text : List Char) : String × String :=
  (encoded (text.takeWhile (· != ':')), encoded ((text.dropWhile (· != ':')).drop 1))

/-- The host of a text, and what follows it from the first colon outside of brackets on. -/
def splitHost (isInside : Bool) : List Char → List Char × List Char
  | [] => ([], [])
  | c :: rest =>
    if c = ':' ∧ isInside = false then ([], c :: rest)
    else
      let isInside := if c = '[' then true else if c = ']' then false else isInside
      let (host, after) := splitHost isInside rest
      (c :: host, after)

/-- The number that the digits of a port stand for, if it has sixteen bits. -/
def portNumber? (digits : List Char) : Option Nat :=
  digits.foldlM (fun value c =>
    let next := value * 10 + (c.toNat - 48)
    if next < 65536 then some next else none) 0

/-- The port behind a colon, if it does not go without saying, and what follows it: nothing, or
a text from a backslash on. -/
def parsePort (scheme : String) (text : List Char) :
    Except ParseError (Option UInt16 × List Char) :=
  let digits := text.takeWhile Char.isDigit
  let rest := text.dropWhile Char.isDigit
  match portNumber? digits with
  | none => .error .invalidPort
  | some number =>
    if rest ≠ [] ∧ rest.head? ≠ some '\\' then .error .invalidPort
    else
      let port := UInt16.ofNat number
      .ok (if digits.isEmpty || defaultPort? scheme == some port then none else some port, rest)

/-- The host that a text names under a scheme. -/
def parseHost (scheme : String) (text : List Char) : Except ParseError Host :=
  match SchemeKind.of scheme with
  | .other => Host.parseOther text
  | _ => if text.isEmpty then .error .emptyHost else Host.parse text

/-- The user, the host and the port that a text names, and what follows the port. If `isLast`,
the address ends behind the text. -/
def parse (scheme : String) (isLast : Bool) (text : List Char) :
    Except ParseError (Authority × List Char) := do
  let (user, rest) := splitLast '@' text
  -- A bare at sign before a path names no host; at the very end it counts for nothing.
  if user = some [] ∧ rest.isEmpty ∧ !isLast then throw .emptyHost
  let (username, password) := credentials (user.getD [])
  let (hostText, portText) := splitHost false rest
  let host ← parseHost scheme hostText
  -- Neither a port nor a user goes without a host.
  if host = .empty ∧ !portText.isEmpty then throw .emptyHost
  let (port, rest) ←
    if portText.isEmpty then pure (none, []) else parsePort scheme (portText.drop 1)
  if host = .empty ∧ (username ≠ "" ∨ password ≠ "") then throw .emptyHost
  return ({ username, password, host, port }, rest)

end Authority

end Swarm.Url
