import Swarm.Proofs.Bencode.Canonical
import Swarm.Proofs.Bencode.Nesting
import Swarm.Proofs.Tracker.Peer
import Swarm.Tracker.Response

/-!
# What is made of an answer

An answer of a tracker is looked at in a fixed order. Where its octets are no dictionary, or where
it holds a reason to refuse, nothing else counts. Any other answer has its warning passed on,
whatever becomes of it, and is then a response if it says when to ask again and which peers there
are. Whatever else it holds makes no difference, so that a response that is written with further
entries is read back, as long as these are nested no deeper than can be decoded.

## Main definitions

* `Response.Says`: a dictionary says what a response says
* `Response.Told`: what is made of a dictionary that holds no reason to refuse
* `Response.Verdict`: what is made of the octets of an answer, and the lines that are logged
* `Response.written`: the dictionary that says what a response says, with further entries

## Main results

* `Response.read_eq_iff_verdict`: an answer is read as its verdict says
* `Response.log_eq_singleton_iff`: which answers have their warning passed on
* `Response.verdict_written_of_le`, `Response.verdict_written_of_lt`: what is made of what is
  written, with further entries that can be decoded or cannot
* `Response.read_answers`: all of these
-/

namespace Swarm.Tracker.Response

open Bencode (Value Container DecodeError decode)

variable {body : Bytes} {value : Value} {lines : List String}
  {result : Except TrackerError Response} {response : Response}

/-- The lines that are logged for an answer. -/
def log (body : Bytes) : List String :=
  (read body).1.toList.map warningText

/-! ## What a dictionary says -/

/-- **A dictionary says what a response says**: when to ask again and which peers there are, and
of three further numbers those that it holds as integers. -/
structure Says (value : Value) (response : Response) : Prop where
  interval : value.get? "interval" = some (.int response.interval)
  minInterval (n : Int64) :
    response.minInterval = some n ↔ value.get? "min interval" = some (.int n)
  complete (n : Int64) : response.complete = some n ↔ value.get? "complete" = some (.int n)
  incomplete (n : Int64) : response.incomplete = some n ↔ value.get? "incomplete" = some (.int n)
  peers : value.get? "peers" = some (.bytes (response.peers.flatMap Peer.compact))

/-- **What is made of a dictionary** that holds no reason to refuse. -/
inductive Told (value : Value) : Except TrackerError Response → Prop where
  | noInterval (h : ∀ n, value.get? "interval" ≠ some (.int n)) :
    Told value (.error .missingOrInvalidInterval)
  | noPeers {n : Int64} (hinterval : value.get? "interval" = some (.int n))
    (h : ∀ data, value.get? "peers" ≠ some (.bytes data)) :
    Told value (.error .missingOrInvalidPeers)
  | oddPeers {n : Int64} {data : Bytes} (hinterval : value.get? "interval" = some (.int n))
    (hpeers : value.get? "peers" = some (.bytes data)) (h : ¬6 ∣ data.length) :
    Told value (.error (.invalidPeerListLength data.length))
  | response {response : Response} (h : Says value response) : Told value (.ok response)

/-- **The lines that are logged** for a dictionary: one for its warning, if that is a string. -/
inductive Warns (value : Value) : List String → Prop where
  | silent (h : ∀ data, value.get? "warning message" ≠ some (.bytes data)) : Warns value []
  | warning {data : Bytes} (h : value.get? "warning message" = some (.bytes data)) :
    Warns value ["tracker warning: " ++ Utf8.lossy data]

/-- **What is made of an answer**, the first that fits: its octets cannot be decoded, they are no
dictionary, it holds a reason to refuse, or it is told by what else it holds. Only then a line can
be logged. -/
inductive Verdict (body : Bytes) : List String → Except TrackerError Response → Prop where
  | malformed {fault : DecodeError} (h : decode body = .error fault) :
    Verdict body [] (.error (.decode fault))
  | other {value : Value} {size : Nat} (h : decode body = .ok (value, size))
    (hother : ∀ entries, value ≠ .dict entries) : Verdict body [] (.error .notADictionary)
  | refused {value : Value} {size : Nat} {reason : Bytes} (h : decode body = .ok (value, size))
    (hreason : value.get? "failure reason" = some (.bytes reason)) :
    Verdict body [] (.error (.failure (Utf8.lossy reason)))
  | told {entries : List (Bytes × Value)} {size : Nat} {lines : List String}
    {result : Except TrackerError Response} (h : decode body = .ok (.dict entries, size))
    (hreason : ∀ reason, (Value.dict entries).get? "failure reason" ≠ some (.bytes reason))
    (hlines : Warns (.dict entries) lines) (hresult : Told (.dict entries) result) :
    Verdict body lines result

/-! ## Reading -/

theorem intAt?_eq_some_iff {key : String} {n : Int64} :
    intAt? value key = some n ↔ value.get? key = some (.int n) := by
  simp [intAt?, Option.bind_eq_some_iff, Value.asInt?_eq_some_iff]

theorem intAt?_eq_none_iff {key : String} :
    intAt? value key = none ↔ ∀ n, value.get? key ≠ some (.int n) := by
  simp only [Option.eq_none_iff_forall_ne_some, ne_eq, intAt?_eq_some_iff]

theorem bytesAt?_eq_some_iff {key : String} {data : Bytes} :
    bytesAt? value key = some data ↔ value.get? key = some (.bytes data) := by
  simp [bytesAt?, Option.bind_eq_some_iff, Value.asBytes?_eq_some_iff]

theorem bytesAt?_eq_none_iff {key : String} :
    bytesAt? value key = none ↔ ∀ data, value.get? key ≠ some (.bytes data) := by
  simp only [Option.eq_none_iff_forall_ne_some, ne_eq, bytesAt?_eq_some_iff]

theorem ofValue_eq_ok_iff : ofValue value = .ok response ↔ Says value response := by
  constructor
  · intro h
    cases hinterval : intAt? value "interval" with
    | none => simp [ofValue, hinterval] at h
    | some interval =>
      cases hpeers : bytesAt? value "peers" with
      | none => simp [ofValue, hinterval, hpeers] at h
      | some data =>
        simp only [ofValue, hinterval, hpeers, Bencode.map_eq_ok_iff] at h
        obtain ⟨peers, hread, rfl⟩ := h
        obtain rfl := Peer.ofCompact_eq_ok_iff.mp hread
        exact ⟨intAt?_eq_some_iff.mp hinterval, fun _ => intAt?_eq_some_iff,
          fun _ => intAt?_eq_some_iff, fun _ => intAt?_eq_some_iff,
          bytesAt?_eq_some_iff.mp hpeers⟩
  · rintro ⟨hinterval, hmin, hcomplete, hincomplete, hpeers⟩
    -- a further number is what the dictionary holds, an absent one included
    have hget : ∀ {key : String} {number : Option Int64},
        (∀ n, number = some n ↔ value.get? key = some (.int n)) →
        intAt? value key = number := by
      intro key number h
      exact Option.ext fun n => intAt?_eq_some_iff.trans (h n).symm
    have hread : Peer.ofCompact (response.peers.flatMap Peer.compact) = .ok response.peers :=
      Peer.ofCompact_eq_ok_iff.mpr rfl
    simp only [ofValue, intAt?_eq_some_iff.mpr hinterval, bytesAt?_eq_some_iff.mpr hpeers, hread,
      hget hmin, hget hcomplete, hget hincomplete, Except.map]

/-- What is told by a dictionary is what is read from it. -/
theorem Told.ofValue_eq (h : Told value result) : ofValue value = result := by
  cases h with
  | noInterval h => simp only [ofValue, intAt?_eq_none_iff.mpr h]
  | noPeers hinterval h =>
    simp only [ofValue, intAt?_eq_some_iff.mpr hinterval, bytesAt?_eq_none_iff.mpr h]
  | oddPeers hinterval hpeers h =>
    have hread := Peer.ofCompact_eq_error_iff.mpr ⟨h, rfl⟩
    simp only [ofValue, intAt?_eq_some_iff.mpr hinterval, bytesAt?_eq_some_iff.mpr hpeers, hread,
      Except.map]
  | response h => exact ofValue_eq_ok_iff.mpr h

theorem told_ofValue (value : Value) : Told value (ofValue value) := by
  cases hinterval : intAt? value "interval" with
  | none =>
    have h := Told.noInterval (intAt?_eq_none_iff.mp hinterval)
    exact h.ofValue_eq ▸ h
  | some interval =>
    have hinterval := intAt?_eq_some_iff.mp hinterval
    cases hpeers : bytesAt? value "peers" with
    | none =>
      have h := Told.noPeers hinterval (bytesAt?_eq_none_iff.mp hpeers)
      exact h.ofValue_eq ▸ h
    | some data =>
      have hpeers := bytesAt?_eq_some_iff.mp hpeers
      cases hresult : ofValue value with
      | ok response => exact .response (ofValue_eq_ok_iff.mp hresult)
      | error fault =>
        -- all that is missing is a whole number of peers
        by_cases hdvd : 6 ∣ data.length
        · have hread := Peer.ofCompact_eq_ok_iff.mpr (Peer.flatMap_compact_groups hdvd).symm
          simp [ofValue, intAt?_eq_some_iff.mpr hinterval, bytesAt?_eq_some_iff.mpr hpeers, hread,
            Except.map] at hresult
        · have h := Told.oddPeers hinterval hpeers hdvd
          exact (hresult.symm.trans h.ofValue_eq) ▸ h

theorem Warns.eq (h : Warns value lines) :
    lines = (bytesAt? value "warning message").toList.map warningText := by
  cases h with
  | silent h => rw [bytesAt?_eq_none_iff.mpr h]; rfl
  | warning h => rw [bytesAt?_eq_some_iff.mpr h]; rfl

theorem warns_bytesAt? (value : Value) :
    Warns value ((bytesAt? value "warning message").toList.map warningText) := by
  cases hwarning : bytesAt? value "warning message" with
  | none => exact .silent (bytesAt?_eq_none_iff.mp hwarning)
  | some data => exact .warning (bytesAt?_eq_some_iff.mp hwarning)

theorem read_of_decode {entries : List (Bytes × Value)} {size : Nat}
    (h : decode body = .ok (.dict entries, size)) :
    read body = match bytesAt? (.dict entries) "failure reason" with
      | some reason => (none, .error (.failure (Utf8.lossy reason)))
      | none => (bytesAt? (.dict entries) "warning message", ofValue (.dict entries)) := by
  rw [read, h]
  rfl

theorem Verdict.read_eq (h : Verdict body lines result) :
    log body = lines ∧ (read body).2 = result := by
  rw [log]
  cases h with
  | malformed h => simp [read, h]
  | @other value _ h hother =>
    cases value with
    | dict entries => exact absurd rfl (hother entries)
    | _ => simp [read, h, Value.asDict?]
  | refused h hreason =>
    obtain ⟨entries, rfl, -⟩ := Value.get?_eq_some_iff.mp hreason
    simp [read_of_decode h, bytesAt?_eq_some_iff.mpr hreason]
  | told h hreason hlines hresult =>
    simp [read_of_decode h, bytesAt?_eq_none_iff.mpr hreason, hlines.eq, hresult.ofValue_eq]

theorem exists_verdict (body : Bytes) : ∃ lines result, Verdict body lines result := by
  cases h : decode body with
  | error fault => exact ⟨_, _, .malformed h⟩
  | ok reading =>
    obtain ⟨value, size⟩ := reading
    by_cases hdict : ∃ entries, value = .dict entries
    · obtain ⟨entries, rfl⟩ := hdict
      cases hreason : bytesAt? (.dict entries) "failure reason" with
      | some reason => exact ⟨_, _, .refused h (bytesAt?_eq_some_iff.mp hreason)⟩
      | none =>
        exact ⟨_, _, .told h (bytesAt?_eq_none_iff.mp hreason) (warns_bytesAt? _)
          (told_ofValue _)⟩
    · exact ⟨_, _, .other h fun entries heq => hdict ⟨entries, heq⟩⟩

/-- **An answer is read as its verdict says**, and it has just one. -/
theorem read_eq_iff_verdict :
    log body = lines ∧ (read body).2 = result ↔ Verdict body lines result := by
  constructor
  · rintro ⟨rfl, rfl⟩
    obtain ⟨lines, result, h⟩ := exists_verdict body
    obtain ⟨rfl, rfl⟩ := h.read_eq
    exact h
  · exact Verdict.read_eq

/-- The outcomes of an answer that is not told by what else it holds. -/
def IsEarly (result : Except TrackerError Response) : Prop :=
  (∃ fault, result = .error (.decode fault)) ∨ result = .error .notADictionary ∨
    ∃ reason, result = .error (.failure reason)

theorem Told.not_isEarly (h : Told value result) : ¬IsEarly result := by
  cases h <;> simp [IsEarly]

/-- **A line is logged** just if the answer is told by what else it holds and has a warning that is
a string. -/
theorem log_eq_singleton_iff :
    (∃ line, log body = [line]) ↔
      ¬IsEarly (read body).2 ∧ ∃ value size data, decode body = .ok (value, size) ∧
        value.get? "warning message" = some (.bytes data) := by
  obtain ⟨lines, result, h⟩ := exists_verdict body
  obtain ⟨hlines, hresult⟩ := h.read_eq
  rw [hlines, hresult]
  cases h with
  | malformed h => simp [IsEarly]
  | other h hother => simp [IsEarly]
  | refused h hreason => simp [IsEarly]
  | told h hreason hwarns htold =>
    cases hwarns with
    | silent hsilent => simp [h, hsilent]
    | warning hwarning => simp [h, hwarning, htold.not_isEarly]

/-! ## Writing -/

/-- The keys that an answer is read by. -/
def keys : List String :=
  ["failure reason", "warning message", "interval", "min interval", "complete", "incomplete",
    "peers"]

/-- The entry of a number that need not be there. -/
def numberEntry (key : String) (number : Option Int64) : List (Bytes × Value) :=
  (number.map fun n => (Bytes.ofString key, Value.int n)).toList

/-- The entries that say what a response says. -/
def fields (response : Response) : List (Bytes × Value) :=
  [(Bytes.ofString "interval", .int response.interval),
    (Bytes.ofString "peers", .bytes (response.peers.flatMap Peer.compact))] ++
  numberEntry "min interval" response.minInterval ++ numberEntry "complete" response.complete ++
    numberEntry "incomplete" response.incomplete

/-- **Further entries** of an answer: well-formed values under different keys, by none of which an
answer is read. -/
structure Further (extra : List (Bytes × Value)) : Prop where
  wellFormed : ∀ entry ∈ extra, entry.2.WellFormed
  nodup : (extra.map (·.1)).Nodup
  unread : ∀ key ∈ keys, Bytes.ofString key ∉ extra.map (·.1)

/-- The dictionary that says what a response says, with further entries. -/
def written (response : Response) (extra : List (Bytes × Value)) : Value :=
  .ofEntries (response.fields ++ extra)

section Written

variable {extra : List (Bytes × Value)} {key : String}

theorem mem_numberEntry_iff {number : Option Int64} {entry : Bytes × Value} :
    entry ∈ numberEntry key number ↔
      ∃ n, number = some n ∧ entry = (Bytes.ofString key, .int n) := by
  simp [numberEntry, eq_comm]

/-- What is said by an entry of its own is said under one of the keys that an answer is read by. -/
theorem exists_key_of_mem_fields {entry : Bytes × Value} (h : entry ∈ response.fields) :
    ∃ key ∈ ["interval", "peers", "min interval", "complete", "incomplete"],
      entry.1 = Bytes.ofString key := by
  simp only [fields, List.mem_append, List.mem_cons, List.not_mem_nil, or_false,
    mem_numberEntry_iff] at h
  rcases h with (((rfl | rfl) | ⟨n, -, rfl⟩) | ⟨n, -, rfl⟩) | ⟨n, -, rfl⟩ <;> simp

theorem nodup_fields (response : Response) : (response.fields.map (·.1)).Nodup := by
  obtain ⟨interval, minInterval, complete, incomplete, peers⟩ := response
  cases minInterval <;> cases complete <;> cases incomplete <;>
    simp [fields, numberEntry, Utf8.ofString_inj]

theorem nodup_written (response : Response) (h : Further extra) :
    ((response.fields ++ extra).map (·.1)).Nodup := by
  rw [List.map_append, List.nodup_append]
  refine ⟨response.nodup_fields, h.nodup, ?_⟩
  rintro _ hfield _ hextra rfl
  obtain ⟨entry, hentry, rfl⟩ := List.mem_map.mp hfield
  obtain ⟨key, hkey, heq⟩ := exists_key_of_mem_fields hentry
  refine h.unread key ?_ (heq ▸ hextra)
  simp only [List.mem_cons, List.not_mem_nil, or_false] at hkey
  rcases hkey with rfl | rfl | rfl | rfl | rfl <;> simp [keys]

theorem get?_written_of_mem (h : Further extra) {held : Value}
    (hmem : (Bytes.ofString key, held) ∈ response.fields) :
    (written response extra).get? key = some held :=
  Dict.get?_ofList_of_mem (nodup_written response h) (List.mem_append_left _ hmem)

/-- Under a key that an answer is read by, nothing is written but the fields. -/
theorem get?_written_eq_none (h : Further extra) (hkey : key ∈ keys)
    (hfields : ∀ entry ∈ response.fields, entry.1 ≠ Bytes.ofString key) :
    (written response extra).get? key = none := by
  apply Dict.get?_eq_none_iff.mpr
  rw [Dict.mem_keys_ofList, List.map_append, List.mem_append]
  rintro (hfield | hextra)
  · obtain ⟨entry, hentry, heq⟩ := List.mem_map.mp hfield
    exact hfields entry hentry heq
  · exact h.unread key hkey hextra

/-- A number that need not be there is held just if the response has it. -/
theorem get?_written_number (h : Further extra) (hkey : key ∈ keys) {number : Option Int64}
    (hfields : ∀ held, (Bytes.ofString key, held) ∈ response.fields ↔
      ∃ n, number = some n ∧ held = .int n) (n : Int64) :
    number = some n ↔ (written response extra).get? key = some (.int n) := by
  cases number with
  | some m =>
    rw [get?_written_of_mem h ((hfields (.int m)).mpr ⟨m, rfl, rfl⟩)]
    simp
  | none =>
    have hnone : ∀ entry ∈ response.fields, entry.1 ≠ Bytes.ofString key := by
      rintro ⟨_, held⟩ hentry rfl
      obtain ⟨n, hn, -⟩ := (hfields held).mp hentry
      cases hn
    rw [get?_written_eq_none h hkey hnone]
    simp

theorem says_written (response : Response) (h : Further extra) :
    Says (written response extra) response where
  interval := get?_written_of_mem h (by simp [fields])
  minInterval := get?_written_number h (by simp [keys]) fun held => by
    simp [fields, mem_numberEntry_iff, Utf8.ofString_inj]
  complete := get?_written_number h (by simp [keys]) fun held => by
    simp [fields, mem_numberEntry_iff, Utf8.ofString_inj]
  incomplete := get?_written_number h (by simp [keys]) fun held => by
    simp [fields, mem_numberEntry_iff, Utf8.ofString_inj]
  peers := get?_written_of_mem h (by simp [fields])

/-- A response is written without a reason to refuse and without a warning. -/
theorem get?_written_of_notField (h : Further extra)
    (hkey : key = "failure reason" ∨ key = "warning message") :
    (written response extra).get? key = none := by
  apply get?_written_eq_none h
  · rcases hkey with rfl | rfl <;> simp [keys]
  · intro entry hentry heq
    obtain ⟨other, hother, heq'⟩ := exists_key_of_mem_fields hentry
    rw [heq', Utf8.ofString_inj] at heq
    subst heq
    rcases hkey with rfl | rfl <;> simp at hother

/-- What is said by an entry of its own is a number or a string. -/
theorem scalar_of_mem_fields {entry : Bytes × Value} (h : entry ∈ response.fields) :
    entry.2.nesting = 0 ∧ entry.2.WellFormed := by
  simp only [fields, List.mem_append, List.mem_cons, List.not_mem_nil, or_false,
    mem_numberEntry_iff] at h
  rcases h with (((rfl | rfl) | ⟨n, -, rfl⟩) | ⟨n, -, rfl⟩) | ⟨n, -, rfl⟩
  · exact ⟨rfl, .int _⟩
  · exact ⟨rfl, .bytes _⟩
  all_goals exact ⟨rfl, .int _⟩

theorem wellFormed_written (response : Response) (h : Further extra) :
    (written response extra).WellFormed := by
  apply Value.wellFormed_ofEntries
  rw [List.forall_mem_append]
  exact ⟨fun entry hentry => (scalar_of_mem_fields hentry).2, h.wellFormed⟩

/-- What is written is nested one deeper than the deepest of the further entries. -/
theorem nesting_written_le_iff (response : Response) (h : Further extra) {depth : Nat} :
    (written response extra).nesting ≤ depth + 1 ↔ ∀ entry ∈ extra, entry.2.nesting ≤ depth := by
  rw [written, Value.ofEntries, Value.nesting, Nat.succ_le_succ_iff, Bencode.nestingEntries_le_iff]
  constructor
  · intro hall entry hentry
    have hget := Dict.get?_ofList_of_mem (nodup_written response h)
      (List.mem_append_right response.fields hentry)
    exact hall _ ((Dict.get?_eq_some_iff_mem (Dict.sorted_ofList _)).mp hget)
  · intro hall entry hentry
    rcases List.mem_append.mp (Dict.mem_of_mem_ofList hentry) with hfield | hextra
    · exact (scalar_of_mem_fields hfield).1 ▸ Nat.zero_le depth
    · exact hall entry hextra

/-- **Reading back a response** that was written with further entries, whatever follows it. -/
theorem verdict_written_of_le (response : Response) (h : Further extra)
    (hnesting : ∀ entry ∈ extra, entry.2.nesting ≤ 63) (rest : Bytes) :
    Verdict ((written response extra).encode ++ rest) [] (.ok response) := by
  have hdecode : decode ((written response extra).encode ++ rest) =
      .ok (written response extra, (written response extra).encode.length) := by
    rw [Bencode.decode_eq_ok_iff, List.take_left, List.length_append]
    exact ⟨Nat.le_add_right _ _, Bencode.form_encode (wellFormed_written response h)
      ((nesting_written_le_iff response h).mpr hnesting)⟩
  refine .told hdecode ?_ (.silent ?_) (.response (says_written response h))
  · intro reason
    rw [← Value.ofEntries, ← written, get?_written_of_notField h (.inl rfl)]
    simp
  · intro data
    rw [← Value.ofEntries, ← written, get?_written_of_notField h (.inr rfl)]
    simp

/-- A further entry that is nested too deep to be decoded makes the whole answer unreadable. -/
theorem verdict_written_of_lt (response : Response) (h : Further extra)
    (hnesting : ∃ entry ∈ extra, 63 < entry.2.nesting) (rest : Bytes) :
    ∃ around : List Container, around.length = 64 ∧
      Verdict ((written response extra).encode ++ rest) []
        (.error (.decode (DecodeError.nestingTooDeep.inside around))) := by
  have hdeep : 64 < (written response extra).nesting := by
    obtain ⟨entry, hentry, hlt⟩ := hnesting
    by_contra hle
    have := (nesting_written_le_iff response h).mp (Nat.not_lt.mp hle) entry hentry
    omega
  obtain ⟨around, hlength, hfault⟩ :=
    Bencode.readValue_encode_tooDeep Bencode.maxNesting (wellFormed_written response h) hdeep rest
  refine ⟨around, hlength, .malformed ?_⟩
  rw [decode, Bencode.decodeAt, Nat.sub_zero, hfault]
  rfl

end Written

/-- **What is made of an answer**: the first outcome that fits, and a line for its warning if it is
none of the first three; and a response that is written with further entries is read back without
a line, whatever follows it, if these are nested at most sixty-three deep, and cannot be decoded
otherwise. -/
theorem read_answers (body : Bytes) (response : Response) {extra : List (Bytes × Value)}
    (h : Further extra) (rest : Bytes) :
    (∀ lines result, log body = lines ∧ (read body).2 = result ↔ Verdict body lines result) ∧
    ((∃ line, log body = [line]) ↔
      ¬IsEarly (read body).2 ∧ ∃ value size data, decode body = .ok (value, size) ∧
        value.get? "warning message" = some (.bytes data)) ∧
    ((∀ entry ∈ extra, entry.2.nesting ≤ 63) →
      log ((written response extra).encode ++ rest) = [] ∧
        (read ((written response extra).encode ++ rest)).2 = .ok response) ∧
    ((∃ entry ∈ extra, 63 < entry.2.nesting) →
      ∃ around : List Container, around.length = 64 ∧
        (read ((written response extra).encode ++ rest)).2 =
          .error (.decode (DecodeError.nestingTooDeep.inside around))) := by
  refine ⟨fun _ _ => read_eq_iff_verdict, log_eq_singleton_iff, ?_, ?_⟩
  · intro hnesting
    exact (verdict_written_of_le response h hnesting rest).read_eq
  · intro hnesting
    obtain ⟨around, hlength, hverdict⟩ := verdict_written_of_lt response h hnesting rest
    exact ⟨around, hlength, hverdict.read_eq.2⟩

/-- A response with a peer, written with a list under a key that no answer is read by. -/
theorem read_answers_peer :
    let response : Response := ⟨1800, some 60, none, some 3, [⟨127, 0, 0, 1, 6881⟩]⟩
    let extra := [(Bytes.ofString "tracker id", Value.list [.int (-1)])]
    Further extra ∧ (∀ entry ∈ extra, entry.2.nesting ≤ 63) ∧
      log ((written response extra).encode ++ [Bencode.closing]) = [] ∧
      (read ((written response extra).encode ++ [Bencode.closing])).2 = .ok response := by
  intro response extra
  have hextra : Further extra := ⟨by decide, by decide, by decide⟩
  have hnesting : ∀ entry ∈ extra, entry.2.nesting ≤ 63 := by decide
  exact ⟨hextra, hnesting, (read_answers [] response hextra [Bencode.closing]).2.2.1 hnesting⟩

/-- A response that is written with sixty-four lists in each other is not read back. -/
theorem not_read_encode_written_nested :
    let response : Response := ⟨900, none, none, none, []⟩
    let extra := [(Bytes.ofString "x", Nat.repeat (fun value => Value.list [value]) 63 (.list []))]
    Further extra ∧ (read ((written response extra).encode ++ [])).2 ≠ .ok response := by
  intro response extra
  have hextra : Further extra := ⟨by decide +kernel, by decide, by decide +kernel⟩
  have hdeep : ∃ entry ∈ extra, 63 < entry.2.nesting := by decide +kernel
  refine ⟨hextra, ?_⟩
  obtain ⟨around, -, hverdict⟩ := verdict_written_of_lt response hextra hdeep []
  rw [hverdict.read_eq.2]
  simp

end Swarm.Tracker.Response
