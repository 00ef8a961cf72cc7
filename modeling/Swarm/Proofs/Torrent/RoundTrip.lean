import Swarm.Proofs.Bencode.Canonical
import Swarm.Proofs.Torrent.RawInfo
import Swarm.Proofs.Torrent.Written

/-!
# Reading back what was written for a description

A description may be edited without being checked. What is written for it is read back just if it
is valid, and then nothing is lost but a privacy flag of zero, so that the torrent keeps its
digest.

## Main definitions

* `Content.Valid`, `Info.Valid`: the descriptions that are read back
* `Metainfo.written`: a file with a tracker and a description

## Main results

* `Info.ofValue_toValue_eq_ok_iff`: what is read back
* `Metainfo.parse_encode_written`: reading back a file
-/

namespace Swarm.Torrent

open Bencode (Value map_eq_ok_iff)

/-! ## Files -/

namespace FileEntry

/-- A file is read back just if its length is not negative and its path is not empty. -/
theorem ofValue?_toValue (file : FileEntry) :
    ofValue? file.toValue = if 0 ≤ file.length ∧ file.path ≠ [] then some file else none := by
  have hlength : intAt? file.fields "length" = some file.length :=
    intAt?_eq_some_iff.mpr (by simp [fields, Dict.get?])
  have hpath : Dict.get? (Bytes.ofString "path") file.fields =
      some (.list (file.path.map Value.text)) := by
    simp [fields, Dict.get?, Utf8.ofString_inj]
  have htexts : (file.path.map Value.text).mapM Value.asText? = some file.path :=
    mapM_asText?_eq_some_iff.mpr rfl
  rw [toValue_eq_dict, ofValue?_dict, hlength, hpath]
  by_cases hpos : 0 ≤ file.length <;>
    simp [Option.filter, Value.asList?, htexts, hpos]

theorem map_ofValue?_toValue_eq_iff {files others : List FileEntry} :
    (files.map toValue).map ofValue? = others.map some ↔
      (∀ file ∈ files, 0 ≤ file.length ∧ file.path ≠ []) ∧ others = files := by
  induction files generalizing others with
  | nil => cases others <;> simp
  | cons file files ih =>
    cases others with
    | nil => simp
    | cons other others =>
      rw [List.map_cons, List.map_cons, List.map_cons, List.cons.injEq, ih, ofValue?_toValue,
        List.forall_mem_cons, List.cons.injEq]
      by_cases hvalid : 0 ≤ file.length ∧ file.path ≠ []
      · rw [if_pos hvalid, Option.some.injEq, and_iff_right hvalid, eq_comm]
        tauto
      · rw [if_neg hvalid]
        simp only [hvalid, reduceCtorEq, false_and]

end FileEntry

/-! ## Descriptions -/

namespace Content

/-- **The layouts that are read back**: no length is negative, no path is empty, and the lengths
add up to a word. -/
def Valid : Content → Prop
  | .single length => 0 ≤ length
  | .multiple files =>
    (∀ file ∈ files, 0 ≤ file.length ∧ file.path ≠ []) ∧ exactLength files ≤ maxWord

/-- Where a layout is held as it is written, without the other one, it is read back just if it is
valid. -/
theorem ofEntries_eq_ok_iff_of_held {entries : List (Bytes × Value)} {content other : Content}
    (hheld : Dict.get? (Bytes.ofString content.key) entries = some content.toEntry.2)
    (hother : ∀ layout, layout = "length" ∨ layout = "files" → layout ≠ content.key →
      Dict.get? (Bytes.ofString layout) entries = none) :
    ofEntries entries = .ok other ↔ content.Valid ∧ other = content := by
  cases content with
  | single length =>
    have hlength : Dict.get? (Bytes.ofString "length") entries = some (.int length) := hheld
    have hfiles := hother "files" (Or.inr rfl) (by simp [Content.key])
    cases other with
    | single otherLength =>
      rw [ofEntries_eq_single_iff, hlength, Option.some.injEq, Value.int.injEq,
        Content.single.injEq, Valid]
      constructor
      · rintro ⟨rfl, -, hpos⟩
        exact ⟨hpos, rfl⟩
      · rintro ⟨hpos, rfl⟩
        exact ⟨rfl, hfiles, hpos⟩
    | multiple otherFiles => simp [ofEntries_eq_multiple_iff, hlength]
  | multiple files =>
    have hfiles : Dict.get? (Bytes.ofString "files") entries =
        some (.list (files.map FileEntry.toValue)) := hheld
    have hlength := hother "length" (Or.inl rfl) (by simp [Content.key])
    cases other with
    | single otherLength => simp [ofEntries_eq_single_iff, hlength]
    | multiple otherFiles =>
      rw [ofEntries_eq_multiple_iff, hfiles, Content.multiple.injEq, Valid]
      simp only [hlength, true_and, Option.some.injEq, Value.list.injEq, exists_eq_left',
        FileEntry.map_ofValue?_toValue_eq_iff]
      constructor
      · rintro ⟨⟨hvalid, rfl⟩, hsum⟩
        exact ⟨⟨hvalid, hsum⟩, rfl⟩
      · rintro ⟨⟨hvalid, hsum⟩, rfl⟩
        exact ⟨⟨hvalid, rfl⟩, hsum⟩

end Content

namespace Info

variable {info made : Info}

/-- **The descriptions that are read back**: the length of pieces is positive, and the layout is
one that is read back. -/
def Valid (info : Info) : Prop :=
  0 < info.pieceLength ∧ info.content.Valid

theorem get?_ofList_fields {field : Bytes × Value} (h : field ∈ info.fields) :
    Dict.get? field.1 (Dict.ofList info.fields) = some field.2 :=
  Dict.get?_ofList_of_mem info.nodup_fields h

theorem get?_ofList_fields_eq_none {key : Bytes} (h : key ∉ info.fields.map (·.1)) :
    Dict.get? key (Dict.ofList info.fields) = none :=
  Dict.get?_eq_none_iff.mpr fun hmem => h (Dict.mem_keys_ofList.mp hmem)

/-- The privacy flag that is read back is the one that is written. -/
theorem intAt?_private_ofList_fields :
    intAt? (Dict.ofList info.fields) "private" = info.privacy.filter (· ≠ 0) := by
  rcases info.privacyEntry_eq with ⟨hentry, hnone⟩ | ⟨flag, hflag, hentry⟩
  · have hkey : Bytes.ofString "private" ∉ info.fields.map (·.1) := by
      rcases info.content.key_eq with hkey | hkey <;>
        simp [fields, hentry, hkey, Utf8.ofString_inj]
    rw [hnone, intAt?, get?_ofList_fields_eq_none hkey]
    rfl
  · have hfield : (Bytes.ofString "private", Value.int flag) ∈ info.fields := by
      simp [fields, hentry]
    rw [hflag, intAt?_eq_some_iff]
    exact get?_ofList_fields hfield

theorem ofEntries_content_ofList_fields {other : Content} :
    Content.ofEntries (Dict.ofList info.fields) = .ok other ↔
      info.content.Valid ∧ other = info.content := by
  apply Content.ofEntries_eq_ok_iff_of_held
  · rw [← Content.toEntry_fst]
    exact get?_ofList_fields (by simp [fields])
  · intro layout hlayout hne
    apply get?_ofList_fields_eq_none
    rw [mem_keys_fields]
    rcases hlayout with rfl | rfl <;> simp [Utf8.ofString_inj, hne]

/-- **What is read back** for a description: the description, without a privacy flag of zero. -/
theorem ofValue_toValue_eq_ok_iff :
    ofValue info.toValue = .ok made ↔ info.Valid ∧
      made = { info with privacy := info.privacy.filter (· ≠ 0), raw := none } := by
  have hpieceLength :
      (Bytes.ofString "piece length", Value.int info.pieceLength) ∈ info.fields := by
    simp [fields]
  have hpieces : (Bytes.ofString "pieces", Value.bytes info.pieces) ∈ info.fields := by
    simp [fields]
  have hname : (Bytes.ofString "name", Value.text info.name) ∈ info.fields := by
    simp [fields]
  rw [toValue_eq_dict]
  show ofEntries (Dict.ofList info.fields) = .ok made ↔ _
  rw [ofEntries_eq_ok_iff, intAt?_eq_some_iff.mpr (get?_ofList_fields hpieceLength),
    get?_ofList_fields hpieces, textAt?_eq_some_iff.mpr (get?_ofList_fields hname),
    ofEntries_content_ofList_fields, intAt?_private_ofList_fields]
  obtain ⟨name, pieceLength, pieces, content, privacy, raw⟩ := made
  simp only [Option.some.injEq, Option.bind_some, Value.asBytes?, Info.mk.injEq, Valid]
  constructor
  · rintro ⟨⟨rfl, hpos⟩, rfl, rfl, ⟨hvalid, rfl⟩, rfl, rfl⟩
    exact ⟨⟨hpos, hvalid⟩, rfl, rfl, rfl, rfl, rfl, rfl⟩
  · rintro ⟨⟨hpos, hvalid⟩, rfl, rfl, rfl, rfl, rfl, rfl⟩
    exact ⟨⟨rfl, hpos⟩, rfl, rfl, ⟨hvalid, rfl⟩, rfl, rfl⟩

/-- A privacy flag of zero is written as an absent one, and the octets that are kept are not
written. -/
theorem toValue_filter_privacy (info : Info) (raw : Option Bytes) :
    { info with privacy := info.privacy.filter (· ≠ 0), raw }.toValue = info.toValue := by
  have hflag : { info with privacy := info.privacy.filter (· ≠ 0), raw }.privacyEntry =
      info.privacyEntry := by
    unfold privacyEntry
    cases info.privacy with
    | none => rfl
    | some flag => by_cases hzero : flag = 0 <;> simp [Option.filter_some, hzero]
  rw [toValue_eq_dict, toValue_eq_dict, fields, fields, hflag]

end Info

/-! ## Nesting -/

theorem FileEntry.nesting_toValue_le (file : FileEntry) : file.toValue.nesting ≤ 2 := by
  have hpath : Value.nestingItems (file.path.map Value.text) ≤ 0 := by
    rw [Bencode.nestingItems_le_iff, List.forall_mem_map]
    exact fun segment _ => Nat.le_refl 0
  simp only [toValue_eq_dict, fields, Value.nesting, Value.nestingEntries]
  omega

theorem Content.nesting_toEntry_le (content : Content) : content.toEntry.2.nesting ≤ 3 := by
  cases content with
  | single length => exact Nat.zero_le _
  | multiple files =>
    have hfiles : Value.nestingItems (files.map FileEntry.toValue) ≤ 2 := by
      rw [Bencode.nestingItems_le_iff, List.forall_mem_map]
      exact fun file _ => file.nesting_toValue_le
    simp only [toEntry, Value.nesting]
    omega

theorem Info.nesting_toValue_le (info : Info) : info.toValue.nesting ≤ 4 := by
  have hfields : ∀ field ∈ info.fields, field.2.nesting ≤ 3 :=
    forall_mem_fields (motive := fun value => value.nesting ≤ 3) (fun _ => Nat.zero_le _)
      (fun _ => Nat.zero_le _) info.content.nesting_toEntry_le
  rw [toValue_eq_dict, Value.nesting]
  apply Nat.succ_le_succ
  rw [Bencode.nestingEntries_le_iff]
  exact fun field hfield => hfields field (Dict.mem_of_mem_ofList hfield)

/-! ## Files with a tracker and a description -/

namespace Metainfo

/-- The value of a file that names a tracker and holds a description, and nothing else. -/
def written (announce : String) (info : Info) : Value :=
  .ofEntries [(Bytes.ofString "announce", Value.text announce),
    (Bytes.ofString "info", info.toValue)]

theorem written_eq_dict (announce : String) (info : Info) :
    written announce info = .dict [(Bytes.ofString "announce", Value.text announce),
      (Bytes.ofString "info", info.toValue)] := by
  have hlt : Bytes.ofString "announce" < Bytes.ofString "info" := by decide
  have hsorted : Dict.Sorted [(Bytes.ofString "announce", Value.text announce),
      (Bytes.ofString "info", info.toValue)] := by
    simpa [Dict.Sorted] using hlt
  rw [written, Value.ofEntries, Dict.ofList_of_sorted hsorted]

theorem decode_encode_written (announce : String) (info : Info) :
    Bencode.decode (written announce info).encode =
      .ok (written announce info, (written announce info).encode.length) := by
  apply Bencode.decode_encode
  · apply Value.wellFormed_ofEntries
    simpa using ⟨.bytes _, info.wellFormed_toValue⟩
  · have hinfo := info.nesting_toValue_le
    simp only [written_eq_dict, Value.nesting, Value.nestingEntries, Value.text]
    omega

theorem isRawInfo_encode_written (announce : String) (info : Info) :
    IsRawInfo (written announce info).encode info.toValue.encode := by
  let tracker := [(Bytes.ofString "announce", Value.text announce)]
  have htracker : Bencode.EntriesForm 63 (Value.encodeEntries tracker) tracker :=
    Bencode.entriesForm_encodeEntries (by simpa [tracker] using .bytes _) (Nat.zero_le _)
  have hinfo : Bencode.Form 63 info.toValue.encode info.toValue :=
    Bencode.form_encode info.wellFormed_toValue
      (Nat.le_trans info.nesting_toValue_le (by decide))
  have hentry : Bencode.LastEntry (Bytes.ofString "info")
      (Bencode.openDict :: (Value.encodeEntries tracker ++
        (Bencode.encodeString (Bytes.ofString "info") ++ info.toValue.encode ++ []) ++
        [Bencode.closing])) _ info.toValue :=
    .mk htracker (Bencode.stringForm_encodeString _) hinfo .nil (by simp)
  have hencode : (written announce info).encode =
      Bencode.openDict :: (Value.encodeEntries tracker ++
        (Bencode.encodeString (Bytes.ofString "info") ++ info.toValue.encode ++ []) ++
        [Bencode.closing]) := by
    simp [written_eq_dict, Value.encode, Value.encodeEntries, tracker]
  rw [hencode]
  exact ⟨_, _, hentry⟩

/-- A torrent with a tracker and a description, and without further fields. -/
def plain (announce : String) (info : Info) : Metainfo :=
  { announce, announceList := none, creationDate := none, comment := none, createdBy := none
    encoding := none, info }

theorem ofValue_written (announce : String) (info : Info) :
    ofValue (written announce info) = (Info.ofValue info.toValue).map (plain announce) := by
  rw [written_eq_dict, ofValue_dict]
  simp [textAt?, intAt?, Dict.get?, Utf8.ofString_inj]
  rfl

theorem parse_encode_written_eq_ok_iff {announce : String} {info : Info} {metainfo : Metainfo} :
    parse (written announce info).encode = .ok metainfo ↔ info.Valid ∧
      metainfo = plain announce
        { info with
          privacy := info.privacy.filter (· ≠ 0)
          raw := some info.toValue.encode } := by
  have hraw := isRawInfo_encode_written announce info
  rw [parse_eq_ok_iff, decode_encode_written]
  constructor
  · rintro ⟨_, _, made, raw, hdecode, hmade, ⟨offset, value, hentry⟩, rfl⟩
    obtain ⟨rfl, -⟩ := Prod.mk.inj (Except.ok.inj hdecode)
    rw [ofValue_written, map_eq_ok_iff] at hmade
    obtain ⟨description, hdescription, rfl⟩ := hmade
    obtain ⟨hvalid, rfl⟩ := Info.ofValue_toValue_eq_ok_iff.mp hdescription
    -- The info key has one entry only, so its octets are those of the description.
    obtain ⟨otherOffset, otherValue, hother⟩ := hraw
    obtain ⟨hspan, -⟩ := hentry.unique hother
    obtain rfl : raw = info.toValue.encode := congrArg Bencode.Span.raw hspan
    exact ⟨hvalid, rfl⟩
  · rintro ⟨hvalid, rfl⟩
    let made := { info with privacy := info.privacy.filter (· ≠ 0), raw := none }
    have hmade : ofValue (written announce info) = .ok (plain announce made) := by
      rw [ofValue_written, map_eq_ok_iff]
      exact ⟨made, Info.ofValue_toValue_eq_ok_iff.mpr ⟨hvalid, rfl⟩, rfl⟩
    exact ⟨_, _, plain announce made, _, rfl, hmade, hraw, rfl⟩

/-- **Reading back a file** that was written for a tracker and a description, edited in any way.
The file is accepted just if the description is valid, and then it gives the tracker, no further
field, and the description without a privacy flag of zero and with the octets it was written as.
Its digest is that of the description, whether read from octets or not. -/
theorem parse_encode_written (announce : String) (info : Info) :
    ((∃ metainfo, parse (written announce info).encode = .ok metainfo) ↔ info.Valid) ∧
    ∀ metainfo, parse (written announce info).encode = .ok metainfo →
      metainfo =
        { announce, announceList := none, creationDate := none, comment := none
          createdBy := none, encoding := none
          info :=
            { info with
              privacy := info.privacy.filter (· ≠ 0)
              raw := some info.toValue.encode } } ∧
      metainfo.infoHash = metainfo.canonicalInfoHash ∧
      ∀ holder : Metainfo, holder.info = info →
        metainfo.infoHash = holder.canonicalInfoHash := by
  simp only [parse_encode_written_eq_ok_iff, exists_and_left, exists_eq, and_true, true_and]
  rintro metainfo ⟨-, rfl⟩
  refine ⟨rfl, ?_, ?_⟩
  · rw [canonicalInfoHash, plain, Info.toValue_filter_privacy, infoHash]
  · rintro holder rfl
    rw [canonicalInfoHash, infoHash, plain]

end Metainfo

end Swarm.Torrent
