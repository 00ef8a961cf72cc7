import Swarm.Proofs.Bencode.SelfDelimiting
import Swarm.Proofs.Torrent.RoundTrip

/-!
# What the canonical digest tells

The canonical digest is that of the octets which are written for the modelled fields. No two
descriptions that differ in a modelled field are written with the same octets, wherever texts,
segments of paths or files end. A privacy flag that is absent counts as zero, and the octets that
a description was read from have no part in it.

## Main definitions

* `Info.flag`: the privacy flag, zero if it is absent
* `Info.SameModelled`: descriptions with the same modelled fields

## Main results

* `FileEntry.toValue_inj`, `Content.toEntry_snd_inj`: a layout is told by what is written for it
* `Info.toValue_eq_iff_sameModelled`: descriptions that are written as the same dictionary
* `Metainfo.encode_toValue_eq_iff_sameModelled`: descriptions that are written with the same
  octets, and what leaves the canonical digest as it is
-/

namespace Swarm.Torrent

open Bencode (Value)

/-! ## The layout -/

theorem map_text_inj {texts others : List String} :
    texts.map Value.text = others.map Value.text ↔ texts = others :=
  List.map_inj_right fun _ _ h => Utf8.ofString_inj.mp (Value.bytes.inj h)

theorem FileEntry.toValue_inj {file other : FileEntry} :
    file.toValue = other.toValue ↔ file = other := by
  refine ⟨fun h => ?_, congrArg toValue⟩
  obtain ⟨length, path⟩ := file
  obtain ⟨otherLength, otherPath⟩ := other
  simp only [toValue, Value.dict.injEq, List.cons.injEq, Prod.mk.injEq, Value.int.injEq,
    Value.list.injEq, true_and, and_true, map_text_inj] at h
  rw [h.1, h.2]

namespace Content

/-- What is written for a layout tells its mode, and its length or its files in order. -/
theorem toEntry_snd_inj {content other : Content} :
    content.toEntry.2 = other.toEntry.2 ↔ content = other := by
  refine ⟨fun h => ?_, fun h => congrArg (·.toEntry.2) h⟩
  cases content with
  | single length =>
    cases other with
    | single otherLength => rw [Value.int.inj h]
    | multiple otherFiles => exact absurd h (by simp [toEntry])
  | multiple files =>
    cases other with
    | single otherLength => exact absurd h (by simp [toEntry])
    | multiple otherFiles =>
      have hfiles : files.map FileEntry.toValue = otherFiles.map FileEntry.toValue :=
        Value.list.inj h
      rw [(List.map_inj_right fun _ _ => FileEntry.toValue_inj.mp).mp hfiles]

end Content

/-! ## Descriptions -/

namespace Info

/-- The privacy flag, zero if it is absent. -/
def flag (info : Info) : Int64 :=
  info.privacy.getD 0

/-- **Descriptions with the same modelled fields**: whatever octets they were read from, and with
an absent privacy flag as one of zero. -/
structure SameModelled (info other : Info) : Prop where
  name : info.name = other.name
  pieceLength : info.pieceLength = other.pieceLength
  pieces : info.pieces = other.pieces
  content : info.content = other.content
  flag : info.flag = other.flag

theorem privacy_filter_eq (info : Info) :
    info.privacy.filter (· ≠ 0) = if info.flag = 0 then none else some info.flag := by
  unfold flag
  cases info.privacy with
  | none => rfl
  | some flag => by_cases hzero : flag = 0 <;> simp [Option.filter_some, hzero]

theorem flag_eq_of_privacy_filter_eq {info other : Info}
    (h : info.privacy.filter (· ≠ 0) = other.privacy.filter (· ≠ 0)) : info.flag = other.flag := by
  rw [privacy_filter_eq, privacy_filter_eq] at h
  split at h
  · split at h
    · simp [*]
    · simp at h
  · split at h
    · simp at h
    · exact Option.some.inj h

theorem privacyEntry_eq_flag (info : Info) :
    info.privacyEntry =
      if info.flag = 0 then [] else [(Bytes.ofString "private", .int info.flag)] := by
  unfold privacyEntry flag
  cases info.privacy <;> rfl

theorem content_mem_fields (info : Info) :
    (Bytes.ofString info.content.key, info.content.toEntry.2) ∈ info.fields := by
  have hmem : info.content.toEntry ∈ info.fields := by simp [fields]
  rw [← Content.toEntry_fst]
  exact hmem

section Written

variable {info other : Info} (h : info.toValue = other.toValue)
include h

theorem ofList_fields_eq : Dict.ofList info.fields = Dict.ofList other.fields :=
  Value.dict.inj h

/-- What is written under one key is the same. -/
theorem eq_of_mem_fields (key : Bytes) {value otherValue : Value}
    (hvalue : (key, value) ∈ info.fields) (hother : (key, otherValue) ∈ other.fields) :
    value = otherValue := by
  have hheld := get?_ofList_fields hvalue
  rw [ofList_fields_eq h, get?_ofList_fields hother] at hheld
  exact (Option.some.inj hheld).symm

/-- The layouts have the same mode, as there is a key for each mode. -/
theorem content_key_eq : info.content.key = other.content.key := by
  -- Of the keys of the other description, only that of its layout can be one of a layout.
  have hkey : Bytes.ofString info.content.key ∈ other.fields.map (·.1) := by
    rw [← Dict.mem_keys_ofList, ← ofList_fields_eq h, Dict.mem_keys_ofList, mem_keys_fields]
    simp
  rw [mem_keys_fields] at hkey
  rcases info.content.key_eq with hlayout | hlayout <;>
    simpa [hlayout, Utf8.ofString_inj] using hkey

theorem content_eq : info.content = other.content := by
  have hother := other.content_mem_fields
  rw [← content_key_eq h] at hother
  exact Content.toEntry_snd_inj.mp (eq_of_mem_fields h _ info.content_mem_fields hother)

theorem flag_eq : info.flag = other.flag := by
  -- A flag of zero is not written, so what is held for it is the flag that is not zero.
  apply flag_eq_of_privacy_filter_eq
  rw [← intAt?_private_ofList_fields, ← intAt?_private_ofList_fields, ofList_fields_eq h]

end Written

variable {info other : Info}

/-- **Descriptions are written as the same dictionary** just if their modelled fields are the
same. -/
theorem toValue_eq_iff_sameModelled : info.toValue = other.toValue ↔ info.SameModelled other := by
  constructor
  · intro h
    have hname : Value.text info.name = Value.text other.name :=
      eq_of_mem_fields h (Bytes.ofString "name") (by simp [fields]) (by simp [fields])
    have hpieceLength : Value.int info.pieceLength = Value.int other.pieceLength :=
      eq_of_mem_fields h (Bytes.ofString "piece length") (by simp [fields]) (by simp [fields])
    have hpieces : Value.bytes info.pieces = Value.bytes other.pieces :=
      eq_of_mem_fields h (Bytes.ofString "pieces") (by simp [fields]) (by simp [fields])
    exact ⟨Utf8.ofString_inj.mp (Value.bytes.inj hname), Value.int.inj hpieceLength,
      Value.bytes.inj hpieces, content_eq h, flag_eq h⟩
  · rintro ⟨hname, hpieceLength, hpieces, hcontent, hflag⟩
    rw [toValue_eq_dict, toValue_eq_dict, fields, fields, privacyEntry_eq_flag,
      privacyEntry_eq_flag, hname, hpieceLength, hpieces, hcontent, hflag]

end Info

/-! ## The canonical digest -/

namespace Metainfo

/-- The same torrent with another privacy flag. -/
def withPrivacy (metainfo : Metainfo) (privacy : Option Int64) : Metainfo :=
  { metainfo with info := { metainfo.info with privacy } }

/-- **What the canonical digest tells.** The octets that are hashed are the same just for
descriptions with the same modelled fields, edited or not. The octets that a description was read
from do not count, nor does it whether the privacy flag is zero or absent. -/
theorem encode_toValue_eq_iff_sameModelled :
    (∀ info other : Info, info.toValue.encode = other.toValue.encode ↔ info.SameModelled other) ∧
    ∀ metainfo : Metainfo,
      metainfo.canonicalInfoHash = sha1 metainfo.info.toValue.encode ∧
      (∀ raw, (metainfo.withRaw raw).canonicalInfoHash = metainfo.canonicalInfoHash) ∧
      (metainfo.withPrivacy (some 0)).canonicalInfoHash =
        (metainfo.withPrivacy none).canonicalInfoHash := by
  refine ⟨fun info other => ?_, fun metainfo => ⟨rfl, fun raw => rfl, ?_⟩⟩
  · rw [Value.encode_inj, Info.toValue_eq_iff_sameModelled]
  · have hsame : (metainfo.withPrivacy (some 0)).info.SameModelled
        (metainfo.withPrivacy none).info := ⟨rfl, rfl, rfl, rfl, rfl⟩
    rw [canonicalInfoHash, canonicalInfoHash, Info.toValue_eq_iff_sameModelled.mpr hsame]

end Metainfo

end Swarm.Torrent
