import Swarm.Proofs.Bencode.Span
import Swarm.Proofs.Torrent.Acceptance

/-!
# The octets of the info dictionary

The fields of a torrent come from the decoded value, the digest that names it from a second walk
over the octets. Both take the last entry of the info key, so the digest is that of the octets
whose fields were read, whatever else the file holds.

## Main definitions

* `IsRawInfo`: the octets of the last info dictionary of a file

## Main results

* `parse_eq_error_iff`: a file is refused for the fault of the decoder or of the decoded value
* `parse_eq_ok_iff`: an accepted file keeps the octets of its last info dictionary
* `parse_keeps_rawInfo`: the fields and the digest of an accepted file have one source
-/

namespace Swarm.Torrent

open Bencode (Value Span LastEntry decode valueSpan)

variable {data raw : Bytes} {value : Value} {made metainfo : Metainfo}

namespace Metainfo

/-- **The octets of the info dictionary** of a file: those of the last entry of the info key. -/
def IsRawInfo (data raw : Bytes) : Prop :=
  ∃ offset value, LastEntry (Bytes.ofString "info") data ⟨offset, raw⟩ value

/-- A file whose value is accepted has an info dictionary among its octets. -/
theorem parse_of_ofValue {size : Nat} (hdecode : decode data = .ok (value, size))
    (hmade : ofValue value = .ok made) :
    ∃ span info, LastEntry (Bytes.ofString "info") data span info ∧
      Info.ofValue info = .ok made.info ∧ parse data = .ok (made.withRaw (some span.raw)) := by
  obtain ⟨entries, info, rfl, -, hget, hinfo, -⟩ := ofValue_eq_ok_iff.mp hmade
  obtain ⟨span, hspan, hentry, -⟩ := Bencode.exists_valueSpan_of_get? hdecode hget
  refine ⟨span, info, hentry, hinfo, ?_⟩
  unfold parse
  rw [hdecode]
  dsimp only
  rw [hmade]
  dsimp only
  rw [hspan]
  rfl

/-- A file is refused just for the fault of the decoder or for that of the decoded value: once
the value is accepted, its info dictionary is found. -/
theorem parse_eq_error_iff {fault : MetainfoError} :
    parse data = .error fault ↔
      (∃ reason, decode data = .error reason ∧ fault = .decode reason) ∨
      ∃ value size, decode data = .ok (value, size) ∧ ofValue value = .error fault := by
  cases hdecode : decode data with
  | error reason =>
    have hparse : parse data = .error (.decode reason) := by
      unfold parse
      rw [hdecode]
    rw [hparse]
    simp [eq_comm]
  | ok reading =>
    obtain ⟨value, size⟩ := reading
    cases hmade : ofValue value with
    | error reason =>
      have hparse : parse data = .error reason := by
        unfold parse
        rw [hdecode]
        dsimp only
        rw [hmade]
      rw [hparse]
      simp [hmade]
    | ok made =>
      obtain ⟨span, info, -, -, hparse⟩ := parse_of_ofValue hdecode hmade
      rw [hparse]
      simp [hmade]

/-- **What an accepted file gives** is what its value gives, with the octets of its last info
dictionary. -/
theorem parse_eq_ok_iff :
    parse data = .ok metainfo ↔ ∃ value size made raw,
      decode data = .ok (value, size) ∧ ofValue value = .ok made ∧ IsRawInfo data raw ∧
        metainfo = made.withRaw (some raw) := by
  constructor
  · intro h
    cases hdecode : decode data with
    | error reason =>
      rw [parse_eq_error_iff.mpr (.inl ⟨reason, hdecode, rfl⟩)] at h
      exact absurd h (by simp)
    | ok reading =>
      obtain ⟨value, size⟩ := reading
      cases hmade : ofValue value with
      | error reason =>
        rw [parse_eq_error_iff.mpr (.inr ⟨value, size, hdecode, hmade⟩)] at h
        exact absurd h (by simp)
      | ok made =>
        obtain ⟨span, info, hentry, -, hparse⟩ := parse_of_ofValue hdecode hmade
        rw [hparse] at h
        exact ⟨value, size, made, span.raw, rfl, hmade, ⟨span.offset, info, hentry⟩,
          (Except.ok.inj h).symm⟩
  · rintro ⟨value, size, made, raw, hdecode, hmade, ⟨offset, info, hentry⟩, rfl⟩
    obtain ⟨span, other, hother, -, hparse⟩ := parse_of_ofValue hdecode hmade
    obtain ⟨rfl, -⟩ := hother.unique hentry
    exact hparse

/-- The description of an accepted file is read from the octets that are kept, which decode as a
whole. -/
theorem exists_raw_of_parse (h : parse data = .ok metainfo) :
    ∃ raw info made, metainfo.info.raw = some raw ∧ decode raw = .ok (info, raw.length) ∧
      Info.ofValue info = .ok made ∧ metainfo.info = { made with raw := some raw } := by
  obtain ⟨value, size, made, -, hdecode, hmade, -⟩ := parse_eq_ok_iff.mp h
  obtain ⟨span, info, hentry, hinfo, hparse⟩ := parse_of_ofValue hdecode hmade
  rw [hparse] at h
  obtain rfl := Except.ok.inj h
  exact ⟨span.raw, info, made.info, rfl, hentry.decode_raw, hinfo, rfl⟩

/-- An accepted file is known by the digest of the octets of its last info dictionary. -/
theorem infoHash_of_isRawInfo (h : parse data = .ok metainfo) (hraw : IsRawInfo data raw) :
    metainfo.infoHash = sha1 raw := by
  obtain ⟨value, size, made, other, -, -, ⟨offset, info, hother⟩, rfl⟩ := parse_eq_ok_iff.mp h
  obtain ⟨otherOffset, otherInfo, hentry⟩ := hraw
  obtain ⟨hspan, -⟩ := hother.unique hentry
  obtain rfl : other = raw := congrArg Span.raw hspan
  rfl

/-- **Fields and digest have one source.** A file is refused for the fault of the decoder or of
the decoded value. An accepted file keeps octets that it contains, that decode as a whole to the
info entry of the decoded dictionary, from which the description is read; all other fields are
those of the decoded value, and the digest is that of the octets. Accepted files whose last info
dictionary has the same octets have the same digest. -/
theorem parse_keeps_rawInfo (data : Bytes) :
    (∀ fault, parse data = .error fault ↔
      (∃ reason, decode data = .error reason ∧ fault = .decode reason) ∨
      ∃ value size, decode data = .ok (value, size) ∧ ofValue value = .error fault) ∧
    (∀ metainfo, parse data = .ok metainfo → ∃ entries size info raw made,
      decode data = .ok (.dict entries, size) ∧
      Dict.get? (Bytes.ofString "info") entries = some info ∧
      metainfo.info.raw = some raw ∧
      (∃ before after, data = before ++ raw ++ after) ∧
      IsRawInfo data raw ∧
      decode raw = .ok (info, raw.length) ∧
      Info.ofValue info = .ok { metainfo.info with raw := none } ∧
      ofValue (.dict entries) = .ok made ∧
      metainfo = made.withRaw (some raw) ∧
      metainfo.infoHash = sha1 raw) ∧
    ∀ other raw metainfo otherMetainfo, parse data = .ok metainfo →
      parse other = .ok otherMetainfo → IsRawInfo data raw → IsRawInfo other raw →
        metainfo.infoHash = otherMetainfo.infoHash := by
  refine ⟨fun fault => parse_eq_error_iff, ?_, ?_⟩
  · intro metainfo h
    obtain ⟨value, size, made, raw, hdecode, hmade, hraw, rfl⟩ := parse_eq_ok_iff.mp h
    obtain ⟨entries, info, rfl, -, hget, hinfo, -⟩ := ofValue_eq_ok_iff.mp hmade
    obtain ⟨span, hspan, hentry, before, after, hslice, -⟩ :=
      Bencode.exists_valueSpan_of_get? hdecode hget
    have hbare : { made.info with raw := none } = made.info := by
      rw [← Info.raw_of_ofValue hinfo]
    obtain ⟨offset, other, hother⟩ := hraw
    -- A key has one last entry, so the octets that are kept are those of the decoded value.
    obtain ⟨rfl, rfl⟩ := hentry.unique hother
    refine ⟨entries, size, info, raw, made, hdecode, hget, rfl,
      ⟨before, after ++ data.drop (size - 1), ?_⟩, ⟨offset, info, hentry⟩, hentry.decode_raw, ?_,
      hmade, rfl, rfl⟩
    · rw [← List.append_assoc, ← hslice, List.take_append_drop]
    · exact hinfo.trans (congrArg Except.ok hbare.symm)
  · intro other raw metainfo otherMetainfo h hother hraw hotherRaw
    rw [infoHash_of_isRawInfo h hraw, infoHash_of_isRawInfo hother hotherRaw]

/-- The last info dictionary is kept as it is written, with a key that no field has, and neither
the first one nor what follows the dictionary of the file. -/
example : (parse (Bytes.ofString
    ("d4:infoi0e8:announce1:t04:infod5:extrale4:name1:n6:lengthi3e12:piece lengthi4e" ++
      "6:pieces0:eetail"))).map (·.info.raw) =
    .ok (some (Bytes.ofString "d5:extrale4:name1:n6:lengthi3e12:piece lengthi4e6:pieces0:e")) := by
  cbv

end Metainfo

end Swarm.Torrent
