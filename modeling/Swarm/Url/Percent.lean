import Swarm.Bytes.Hex

/-!
# Percent-encoding

A character that a part of an address cannot hold is written as the octets of its UTF-8 form,
each as a percent sign and two hexadecimal digits. Every part has its own set of characters that
are written so; characters outside ASCII always are.

## Main definitions

* `Percent.encode`: a text with the characters of a set encoded
* `Percent.decode`: the octets of a text, encoded ones read back
* `Percent.controls`, `Percent.fragment`, `Percent.path`, `Percent.userinfo`, `Percent.query`,
  `Percent.specialQuery`: the sets
-/

namespace Swarm.Url.Percent

/-- The octets of a character, encoded. -/
def escape (c : Char) : List Char :=
  (String.utf8EncodeChar c).flatMap fun byte => '%' :: Hex.upper byte

/-- A text with the characters of a set, and all characters outside ASCII, encoded. -/
def encode (set : Char → Bool) (text : List Char) : List Char :=
  text.flatMap fun c => if c.toNat < 128 && !set c then [c] else escape c

/-- The octets of a text, encoded ones read back. A percent sign without two hexadecimal digits
stands for itself. -/
def decode : List Char → Bytes
  | '%' :: high :: low :: rest =>
    match Hex.digit? high, Hex.digit? low with
    | some a, some b => UInt8.ofNat (a * 16 + b) :: decode rest
    | _, _ => 37 :: decode (high :: low :: rest)
  | c :: rest => String.utf8EncodeChar c ++ decode rest
  | [] => []

/-- Control characters. -/
def controls (c : Char) : Bool :=
  c.toNat < 32 || c.toNat == 127

/-- What a fragment encodes. -/
def fragment (c : Char) : Bool :=
  controls c || " \"<>`".contains c

/-- What a segment of a path encodes. -/
def path (c : Char) : Bool :=
  fragment c || "#?\x7b\x7d".contains c

/-- What a user name or a password encodes. -/
def userinfo (c : Char) : Bool :=
  path c || "/:;=@[\\]^|".contains c

/-- What a query encodes. -/
def query (c : Char) : Bool :=
  controls c || " \"#<>".contains c

/-- What a query encodes under a scheme of the web. -/
def specialQuery (c : Char) : Bool :=
  query c || c == '\''

end Swarm.Url.Percent
