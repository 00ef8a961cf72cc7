import Swarm.Url.Authority

/-!
# Reading addresses

Blanks and control characters around an address and line breaks in it do not count. What stands
behind the first `#` is the fragment, and before it, behind the first `?`, the query. The rest is
read by the kind of the scheme.

## Main definitions

* `Address.parse`: the address that a text is
* `Address.join`: the address that a text is, seen from an address of the web
-/

namespace Swarm.Url

/-- An address as it is written: what stands before the query, the query and the fragment. -/
structure Written where
  /-- What stands before the query, line breaks included. -/
  body : List Char
  query : Option (List Char)
  fragment : Option (List Char)

namespace Written

/-- A text without the blanks and control characters around it. -/
def trim (text : List Char) : List Char :=
  let isBlank := fun c : Char => c.toNat ≤ 32
  ((text.dropWhile isBlank).reverse.dropWhile isBlank).reverse

/-- The parts of a text before and after the first place of a character. -/
def splitFirst (mark : Char) (text : List Char) : List Char × Option (List Char) :=
  match text.dropWhile (· != mark) with
  | [] => (text, none)
  | _ :: after => (text.takeWhile (· != mark), some after)

/-- The query and the fragment split off a text. Line breaks in them do not count. -/
def ofText (text : List Char) : Written :=
  let (front, fragment) := splitFirst '#' text
  let (body, query) := splitFirst '?' front
  { body, query := query.map Text.withoutBreaks, fragment := fragment.map Text.withoutBreaks }

/-- Whether nothing follows the part before the query. -/
def isLast (written : Written) : Bool :=
  written.query.isNone && written.fragment.isNone

/-- The fragment as it is kept. -/
def fragmentText (written : Written) : Option String :=
  written.fragment.map fun text => String.ofList (Percent.encode Percent.fragment text)

/-- The query as it is kept under a kind of scheme. -/
def queryText (written : Written) (kind : SchemeKind) : Option String :=
  written.query.map (Query.encode kind)

/-- The address of a scheme, a host and a path with the query and the fragment as written. -/
def address (written : Written) (scheme : String) (authority : Option Authority) (path : Path) :
    Address where
  scheme := scheme
  username := (authority.map (·.username)).getD ""
  password := (authority.map (·.password)).getD ""
  host := authority.map (·.host)
  port := authority.bind (·.port)
  path := path
  query := written.queryText (.of scheme)
  fragment := written.fragmentText

/-- The authority without a user and a port. -/
def hostOnly (host : Host) : Authority :=
  { username := "", password := "", host, port := none }

/-- The path behind a host. Under a special scheme there is always one. -/
def pathBehindHost (kind : SchemeKind) (text : List Char) : Path :=
  match text with
  | [] => if kind.isSpecial then Path.ofText kind [] [] else .segments []
  | c :: rest => Path.ofText kind [] (if kind.isSlash c then rest else c :: rest)

/-- The address behind a scheme and two slashes. -/
def behindSlashes (written : Written) (scheme : String) (text : List Char) :
    Except ParseError Address := do
  let kind := SchemeKind.of scheme
  let isSlash := kind.isSlash
  let rest := text.dropWhile fun c => !isSlash c
  let (authority, extra) ← Authority.parse scheme (rest.isEmpty && written.isLast)
    (text.takeWhile fun c => !isSlash c)
  return written.address scheme (some authority) (pathBehindHost kind (extra ++ rest))

/-- The address of a scheme that is not special. -/
def other (written : Written) (scheme : String) (text : List Char) : Except ParseError Address :=
  match text with
  | '/' :: '/' :: rest => written.behindSlashes scheme rest
  | '/' :: rest => .ok (written.address scheme none (Path.ofText .other [] rest))
  | _ =>
    let path := String.ofList (Percent.encode Percent.controls text)
    .ok (written.address scheme none (.flat path))

/-- The host of the address of a file; a local host is none. -/
def fileHost (text : List Char) : Except ParseError Host :=
  if text.isEmpty then .ok .empty
  else (Host.parse text).map fun host => if host = .name "localhost" then .empty else host

/-- The address of a file whose host and path are written behind two slashes. Line breaks count
in the path only. -/
def fileBehindSlashes (written : Written) (text : List Char) : Except ParseError Address :=
  let isSlash := SchemeKind.file.isSlash
  let hostText := Text.withoutBreaks (text.takeWhile fun c => !isSlash c)
  let rest := text.dropWhile fun c => !isSlash c
  let onDisk := fun path => written.address "file" (some (hostOnly .empty)) path
  -- A drive letter in the place of the host is the first segment of the path.
  if Path.isDriveLetter hostText then .ok (onDisk (Path.ofText .file [] text))
  else (fileHost hostText).map fun host =>
    -- Without a host, the slash before the path is part of the path.
    if host = .empty then onDisk (Path.ofText .file [] rest)
    else
      let left := Path.resolve .file [] (rest.drop 1)
      let host := if left.isOnDrive then .empty else host
      written.address "file" (some (hostOnly host)) (Path.ofResolved .file left)

/-- The address of a file. Line breaks count in the path only. -/
def file (written : Written) (text : List Char) : Except ParseError Address :=
  let isSlash := SchemeKind.file.isSlash
  let noHost := fun rest => .ok
    (written.address "file" (some (hostOnly .empty)) (Path.ofText .file [] rest))
  match text.dropWhile Text.isBreak with
  | [] => noHost []
  | first :: rest =>
    if !isSlash first then noHost (first :: rest)
    else match rest.dropWhile Text.isBreak with
      | [] => noHost []
      | second :: rest =>
        if isSlash second then written.fileBehindSlashes rest else noHost (second :: rest)

/-- The scheme of an address, and what follows it without line breaks. -/
def splitScheme? (written : Written) : Option (String × List Char) :=
  Url.splitScheme? (Text.withoutBreaks written.body)

/-- The address of a scheme and what follows it without line breaks. -/
def withScheme (written : Written) (scheme : String) (text : List Char) :
    Except ParseError Address :=
  match SchemeKind.of scheme with
  | .file => written.file ((written.body.dropWhile (· != ':')).drop 1)
  | .web => written.behindSlashes scheme (text.dropWhile SchemeKind.web.isSlash)
  | .other => written.other scheme text

/-- The address of another but for its path and what follows it. -/
def changed (written : Written) (base : Address) (path : Path) (query : Option String) : Address :=
  { base with path, query, fragment := written.fragmentText }

/-- The address of a text without a scheme, seen from an address of the web. -/
def relative (written : Written) (base : Address) (text : List Char) :
    Except ParseError Address :=
  let isSlash := SchemeKind.web.isSlash
  let query := written.queryText .web
  let baseSegments := match base.path with
    | .segments segments => segments
    | .flat _ => []
  match text with
  | [] => .ok (written.changed base base.path (if query.isSome then query else base.query))
  | first :: rest =>
    if !isSlash first then
      .ok (written.changed base (Path.ofText .web baseSegments.dropLast (first :: rest)) query)
    else match rest with
      | [] => .ok (written.changed base (Path.ofText .web [] []) query)
      | second :: others =>
        if !isSlash second then
          .ok (written.changed base (Path.ofText .web [] (second :: others)) query)
        else if first = '/' ∧ second = '/' then written.behindSlashes base.scheme others
        else written.behindSlashes base.scheme (others.dropWhile isSlash)

end Written

namespace Address

/-- The address that a text is. -/
def parse (text : String) : Except ParseError Address :=
  let written := Written.ofText (Written.trim text.toList)
  match written.splitScheme? with
  | some (scheme, rest) => written.withScheme scheme rest
  | none => .error .relativeWithoutBase

/-- The address that a text is, seen from an address of the web. -/
def join (base : Address) (text : String) : Except ParseError Address :=
  let written := Written.ofText (Written.trim text.toList)
  match written.splitScheme? with
  | some (scheme, rest) =>
    -- The scheme of the base with fewer than two slashes behind it adds nothing.
    let slashes := rest.takeWhile SchemeKind.web.isSlash
    if scheme = base.scheme ∧ slashes.length < 2 then written.relative base rest
    else written.withScheme scheme rest
  | none => written.relative base (Text.withoutBreaks written.body)

end Address

end Swarm.Url
