import Swarm.Text.Break
import Swarm.Url.Percent
import Swarm.Url.Scheme

/-!
# Queries

A query is a text of which some characters are encoded, under a scheme of the web or of files one
more than elsewhere. Often it is a row of pairs, each a name, an equals sign and a value, with signs
between them. The names and values of such pairs are encoded more strictly: only letters, digits and
four marks stand for themselves, and a plus stands for a blank.

## Main definitions

* `Query.encode`: a text as a query under a kind of scheme
* `Query.ofText`: the query that is set to a text
* `Query.encodePart`: a name or a value of a pair
* `Query.appendPair`: a query with a pair behind it
-/

namespace Swarm.Url.Query

/-- The characters that a query encodes under a kind of scheme. -/
def set (kind : SchemeKind) : Char → Bool :=
  if kind.isSpecial then Percent.specialQuery else Percent.query

/-- A text as a query under a kind of scheme. -/
def encode (kind : SchemeKind) (text : List Char) : String :=
  String.ofList (Percent.encode (set kind) text)

/-- The query that is set to a text, in which line breaks do not count. -/
def ofText (kind : SchemeKind) (text : String) : String :=
  encode kind (Text.withoutBreaks text.toList)

/-- Whether a character stands for itself in a name or a value. -/
def isPlain (c : Char) : Bool :=
  isLetter c || ('0' ≤ c && c ≤ '9') || "*-._".contains c

/-- A character of a name or a value. -/
def encodeChar (c : Char) : List Char :=
  if isPlain c then [c] else if c = ' ' then ['+'] else Percent.escape c

/-- A name or a value of a pair. -/
def encodePart (part : String) : String :=
  String.ofList (part.toList.flatMap encodeChar)

/-- A query with a pair behind it, a sign between them unless the query is empty. -/
def appendPair (query name value : String) : String :=
  (if query = "" then "" else query ++ "&") ++ encodePart name ++ "=" ++ encodePart value

end Swarm.Url.Query
