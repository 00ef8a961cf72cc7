import Swarm.Proofs.Bytes.Decimal
import Swarm.Proofs.Url.Query
import Swarm.Tracker.Request

/-!
# What the address that asks a tracker carries

The address that asks a tracker is the tracker's own but for its query. The query is what the
tracker's address has, as it is, and behind it what the request tells: the two digests octet by
octet as percent signs with two digits each, and the numbers as decimal texts. Nothing of it is
encoded twice or lost, so the request can be told from the address.

## Main definitions

* `Request.Escapes`: octets are written as percent signs with two digits each
* `Request.Agrees`: two requests tell the same
* `Request.pairs`: what a request tells, in one text
* `Request.asking`: the address of a tracker with a request behind its query

## Main results

* `Request.Escapes.decode_eq`: the octets that are written so are read back
* `Request.address_of_parse`: asking a tracker whose address can be read
* `Request.pairs_inj`: requests whose texts are the same agree
* `Request.address_carries`: all of these
-/

namespace Swarm.Tracker.Request

open Url

variable {data data' : Bytes} {text : List Char}

/-! ## Digests -/

/-- **Octets are written** each as a percent sign and two digits in lower case. -/
inductive Escapes : Bytes → List Char → Prop where
  | nil : Escapes [] []
  | cons {byte : UInt8} {data : Bytes} {high low : Char} {text : List Char}
    (hhigh : Hex.lowerDigits[byte.toNat / 16]? = some high)
    (hlow : Hex.lowerDigits[byte.toNat % 16]? = some low) (h : Escapes data text) :
    Escapes (byte :: data) ('%' :: high :: low :: text)

theorem escapes_escaped (data : Bytes) : Escapes data (escaped data).toList := by
  rw [escaped, String.toList_ofList]
  induction data with
  | nil => exact .nil
  | cons byte data ih =>
    refine .cons ?_ ?_ ih
    · exact Hex.lowerDigits_getElem? (Hex.div_sixteen_lt byte)
    · exact Hex.lowerDigits_getElem? (Hex.mod_sixteen_lt byte)

/-- **The octets that are written are read back.** -/
theorem Escapes.decode_eq (h : Escapes data text) : Percent.decode text = data := by
  induction h with
  | nil => rfl
  | @cons byte data high low text hhigh hlow h ih =>
    have hbyte : byte.toNat / 16 * 16 + byte.toNat % 16 = byte.toNat := Nat.div_add_mod' ..
    rw [Percent.decode]
    simp only [Hex.digit?_of_lowerDigits hhigh, Hex.digit?_of_lowerDigits hlow, hbyte, ih,
      UInt8.ofNat_toNat]

theorem Escapes.length_eq (h : Escapes data text) : text.length = 3 * data.length := by
  induction h with
  | nil => rfl
  | cons hhigh hlow h ih =>
    simp only [List.length_cons, ih]
    omega

/-- What octets are written as stands for itself in a query. -/
theorem Escapes.isKept {kind : SchemeKind} (h : Escapes data text) :
    Percent.IsKept (Query.set kind) text := by
  -- in no kind of query the percent sign or a digit is encoded
  have hdigits : Percent.IsKept (Query.set kind) ('%' :: Hex.lowerDigits) := by
    cases kind <;> decide
  obtain ⟨hsign, hdigit⟩ := List.forall_mem_cons.mp hdigits
  induction h with
  | nil => exact List.forall_mem_nil _
  | cons hhigh hlow h ih =>
    have hhigh := hdigit _ (List.mem_of_getElem? hhigh)
    have hlow := hdigit _ (List.mem_of_getElem? hlow)
    simp only [Percent.IsKept, List.forall_mem_cons]
    exact ⟨hsign, hhigh, hlow, ih⟩

/-- Octets of a known number are told from what follows them. -/
theorem escaped_append_inj {rest rest' : String} (hlength : data.length = data'.length)
    (h : escaped data ++ rest = escaped data' ++ rest') : data = data' ∧ rest = rest' := by
  rw [← String.toList_inj, String.toList_append, String.toList_append] at h
  have hescapes := escapes_escaped data
  have hescapes' := escapes_escaped data'
  have htexts : (escaped data).toList.length = (escaped data').toList.length := by
    rw [hescapes.length_eq, hescapes'.length_eq, hlength]
  obtain ⟨htext, hrest⟩ := List.append_inj h htexts
  exact ⟨by rw [← hescapes.decode_eq, htext, hescapes'.decode_eq], String.toList_inj.mp hrest⟩

/-! ## Numbers -/

theorem isPlain_of_isDigit {c : Char} (h : c.isDigit = true) : Query.isPlain c = true := by
  have hrange : ('0' ≤ c && c ≤ '9') = true := h
  rw [Query.isPlain, hrange, Bool.or_true, Bool.true_or]

theorem isPlain_toString_nat (n : Nat) : Query.IsPlain (toString n) :=
  fun _ hc => isPlain_of_isDigit (Decimal.isDigit_of_mem_toString hc)

theorem isPlain_toString_int (n : Int) : Query.IsPlain (toString n) := by
  rw [Int.toString_eq_repr, Int.repr_eq_if]
  split
  · exact isPlain_toString_nat n.toNat
  · intro c hc
    rw [String.toList_append, List.mem_append] at hc
    rcases hc with hsign | hdigits
    · obtain rfl : c = '-' := by simpa using hsign
      simp [Query.isPlain, String.contains_char_eq]
    · exact isPlain_toString_nat (-n).toNat c hdigits

/-! ## What a request tells -/

/-- **Two requests agree** in all that they tell. -/
structure Agrees (a b : Request) : Prop where
  infoHash : a.infoHash = b.infoHash
  peerId : a.peerId = b.peerId
  port : a.port = b.port
  left : a.left = b.left

/-- **What a request tells**, in one text. -/
def pairs (request : Request) : String :=
  String.join
    ["info_hash=", escaped request.infoHash.data, "&peer_id=", escaped request.peerId.data,
      "&port=", toString request.port.toNat, "&uploaded=0&downloaded=0&compact=1&left=",
      toString request.left.toInt]

/-- A query with a sign behind it, if there is one that is not empty. -/
def lead (existing : Option String) : String :=
  match existing with
  | some query => if query = "" then "" else query ++ "&"
  | none => ""

/-- **The address of a tracker with a request behind its query.** All else is the tracker's. -/
def asking (request : Request) (tracker : Address) : Address :=
  { tracker with query := some (lead tracker.query ++ request.pairs) }

theorem isWritten_digestPairs (request : Request) (kind : SchemeKind) :
    Query.IsWritten kind request.digestPairs := by
  have hinfoHash : Query.IsWritten kind "info_hash=" := by
    cases kind <;> decide
  have hpeerId : Query.IsWritten kind "&peer_id=" := by
    cases kind <;> decide
  exact ((hinfoHash.append (escapes_escaped _).isKept).append hpeerId).append
    (escapes_escaped _).isKept

theorem queryFrom_eq (request : Request) (existing : Option String) :
    request.queryFrom existing = lead existing ++ request.digestPairs := by
  cases existing with
  | none => simp [queryFrom, lead]
  | some query =>
    by_cases hquery : query = "" <;> simp [queryFrom, lead, hquery]

theorem digestPairs_append_pairsText (request : Request) :
    request.digestPairs ++ Query.pairsText request.countPairs = request.pairs := by
  have hone : Nat.toDigits 10 1 = ['1'] := rfl
  apply String.toList_inj.mp
  simp [digestPairs, countPairs, pairs, Query.pairsText, hone]

theorem isPlain_countPairs (request : Request) :
    ∀ pair ∈ request.countPairs, Query.IsPlain pair.1 ∧ Query.IsPlain pair.2 := by
  simp only [countPairs, List.forall_mem_cons, List.not_mem_nil, false_imp_iff, implies_true,
    and_true, isPlain_toString_nat, isPlain_toString_int]
  decide

theorem isWritten_lead {announce : String} {tracker : Address}
    (h : Address.parse announce = .ok tracker) :
    Query.IsWritten (.of tracker.scheme) (lead tracker.query) := by
  cases hquery : tracker.query with
  | none => exact List.forall_mem_nil _
  | some query =>
    have hwritten := Address.isWritten_of_parse h hquery
    by_cases hempty : query = ""
    · rw [lead, if_pos hempty]
      exact List.forall_mem_nil _
    · have hsign : Query.IsWritten (.of tracker.scheme) "&" := by
        cases SchemeKind.of tracker.scheme <;> decide
      simpa only [lead, if_neg hempty] using hwritten.append hsign

/-- **Asking a tracker** whose address can be read. -/
theorem address_of_parse (request : Request) {announce : String} {tracker : Address}
    (h : Address.parse announce = .ok tracker) :
    request.address announce = .ok (request.asking tracker) := by
  have hwritten : Query.IsWritten (.of tracker.scheme) (request.queryFrom tracker.query) := by
    rw [queryFrom_eq]
    exact (isWritten_lead h).append (request.isWritten_digestPairs _)
  have hne : request.queryFrom tracker.query ≠ "" := by
    simp [queryFrom_eq, digestPairs]
  rw [address, h]
  -- what is set is written already, and what comes behind it is plain
  simp only [Address.setQuery, Address.appendPairs, hwritten.ofText_eq, Option.getD_some,
    Query.foldl_appendPair hne request.isPlain_countPairs, asking]
  rw [queryFrom_eq, String.append_assoc, digestPairs_append_pairsText]

/-- **What requests tell is the same** only if they agree. -/
theorem pairs_inj {a b : Request} : a.pairs = b.pairs ↔ a.Agrees b := by
  constructor
  · intro h
    have hsplit : "&uploaded=0&downloaded=0&compact=1&left=" =
      "&" ++ "uploaded=0&downloaded=0&compact=1&left=" := rfl
    simp only [pairs, hsplit, String.join_cons, String.join_nil, String.append_empty,
      String.append_assoc] at h
    -- one value after the other is told from what follows it
    obtain ⟨hinfoHash, h⟩ := escaped_append_inj (a.infoHash.length_data.trans
      b.infoHash.length_data.symm) ((String.append_right_inj _).mp h)
    obtain ⟨hpeerId, h⟩ := escaped_append_inj (a.peerId.length_data.trans
      b.peerId.length_data.symm) ((String.append_right_inj _).mp h)
    have hsign : '&'.isDigit = false := by decide
    obtain ⟨hport, h⟩ :=
      Decimal.toString_append_inj hsign ((String.append_right_inj _).mp h)
    have hleft : a.left.toInt = b.left.toInt :=
      Decimal.toString_int_inj.mp ((String.append_right_inj _).mp h)
    exact ⟨Octets.ext hinfoHash, Octets.ext hpeerId, UInt16.toNat_inj.mp hport,
      Int64.toInt_inj.mp hleft⟩
  · rintro ⟨hinfoHash, hpeerId, hport, hleft⟩
    simp only [pairs, hinfoHash, hpeerId, hport, hleft]

theorem text_asking_inj {a b : Request} {tracker : Address} :
    (a.asking tracker).text = (b.asking tracker).text ↔ a.Agrees b := by
  rw [asking, asking, Address.text_query_inj, String.append_right_inj, pairs_inj]

theorem asking_inj {a b : Request} {tracker : Address} :
    a.asking tracker = b.asking tracker ↔ a.Agrees b := by
  constructor
  · intro h
    exact text_asking_inj.mp (congrArg Address.text h)
  · intro h
    rw [asking, asking, pairs_inj.mpr h]

/-- **The address that asks a tracker carries the request.** A text that is no address is refused
as that. Otherwise the address is the tracker's own, but with what the request tells behind its
query, and two requests have the same address, or the same text of it, only if they agree. Digests
are written octet by octet and can be read back. -/
theorem address_carries (announce : String) :
    (∀ fault, Address.parse announce = .error fault →
      ∀ request : Request, request.address announce = .error (.url fault)) ∧
    (∀ tracker, Address.parse announce = .ok tracker → ∀ a b : Request,
      a.address announce = .ok (a.asking tracker) ∧
      (a.address announce = b.address announce ↔ a.Agrees b) ∧
      ((a.asking tracker).text = (b.asking tracker).text ↔ a.Agrees b)) ∧
    ∀ data, Escapes data (escaped data).toList ∧
      Percent.decode (escaped data).toList = data := by
  refine ⟨?_, ?_, ?_⟩
  · intro fault h request
    rw [address, h]
  · intro tracker h a b
    refine ⟨a.address_of_parse h, ?_, text_asking_inj⟩
    rw [a.address_of_parse h, b.address_of_parse h, Except.ok.injEq, asking_inj]
  · intro data
    exact ⟨escapes_escaped data, (escapes_escaped data).decode_eq⟩

/-- A tracker whose address has a query, a part of which is encoded, and a fragment. -/
theorem address_carries_key :
    ∃ tracker, Address.parse "udp:?k=%41#f" = .ok tracker ∧ tracker.query = some "k=%41" ∧
      ∀ request : Request, request.address "udp:?k=%41#f" = .ok (request.asking tracker) := by
  have hparse : Address.parse "udp:?k=%41#f" =
      .ok ⟨"udp", "", "", none, none, .flat "", some "k=%41", some "f"⟩ := by
    have hother : SchemeKind.of "udp" = .other := by decide
    have htext : "udp:?k=%41#f".toList =
      ['u', 'd', 'p', ':', '?', 'k', '=', '%', '4', '1', '#', 'f'] := rfl
    have hscheme : (Written.ofText (Written.trim "udp:?k=%41#f".toList)).splitScheme? =
        some ("udp", []) := by
      rw [htext]
      rfl
    rw [Address.parse, hscheme]
    simp only [Written.withScheme, hother]
    simp [htext, Written.trim, Written.ofText, Written.splitFirst, Written.other,
      Written.address, Written.queryText, Written.fragmentText, hother,
      Query.encode, Query.set, SchemeKind.isSpecial, Percent.encode,
      Percent.query, Percent.fragment, Percent.controls, Text.withoutBreaks,
      Text.isBreak, String.contains_char_eq]
  exact ⟨_, hparse, rfl, fun request =>
    ((address_carries _).2.1 _ hparse request request).1⟩

end Swarm.Tracker.Request
