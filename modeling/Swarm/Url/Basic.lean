import Swarm.Url.Host
import Swarm.Url.Path
import Swarm.Url.Query

/-!
# Addresses

An address has a scheme, a path, and possibly a user, a host, a port, a query and a fragment. All
parts are kept in the form they are written in.

## Main definitions

* `Address`: the parts of an address
* `Address.text`: the text of an address
* `Address.requestTarget`: the part of an address that is sent to its host
* `Address.setQuery`, `Address.appendPairs`: another query, and pairs behind the query
-/

namespace Swarm.Url

/-- The parts of an address. -/
structure Address where
  scheme : String
  /-- The user, empty if none is named. -/
  username : String
  /-- The password, empty if there is none. -/
  password : String
  /-- The host; an address without a host differs from one whose host is empty. -/
  host : Option Host
  /-- The port, unless it goes without saying. -/
  port : Option UInt16
  path : Path
  query : Option String
  fragment : Option String
  deriving DecidableEq

namespace Address

/-- The user and the password, with the sign that ends them. -/
def credentials (address : Address) : String :=
  let password := if address.password = "" then "" else ":" ++ address.password
  if address.username = "" ∧ address.password = "" then ""
  else address.username ++ password ++ "@"

/-- The user, the host and the port behind two slashes. Without a host, a path that starts with
two slashes is kept apart from them by a dot. -/
def authority (address : Address) : String :=
  match address.host with
  | some host =>
    "//" ++ address.credentials ++ host.text ++
      (address.port.map fun port => s!":{port.toNat}").getD ""
  | none => if address.path.text.startsWith "//" then "/." else ""

/-- A part behind its sign, if there is one. -/
def optional (sign : String) (part : Option String) : String :=
  (part.map (sign ++ ·)).getD ""

/-- The text of an address. -/
def text (address : Address) : String :=
  address.scheme ++ ":" ++ address.authority ++ address.path.text ++
    optional "?" address.query ++ optional "#" address.fragment

/-- The part of an address that is sent to its host: the path and the query. -/
def requestTarget (address : Address) : String :=
  address.path.text ++ optional "?" address.query

/-- The same address with another query. -/
def setQuery (address : Address) (text : String) : Address :=
  { address with query := some (Query.ofText (.of address.scheme) text) }

/-- The same address with pairs of names and values behind its query. -/
def appendPairs (address : Address) (pairs : List (String × String)) : Address :=
  { address with
    query := some (pairs.foldl (fun query pair => Query.appendPair query pair.1 pair.2)
      (address.query.getD "")) }

end Address

end Swarm.Url
