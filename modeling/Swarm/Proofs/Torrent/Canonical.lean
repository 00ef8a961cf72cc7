import Swarm.Proofs.Bencode.Canonical
import Swarm.Proofs.Torrent.RawInfo
import Swarm.Proofs.Torrent.Written

/-!
# When the digest is that of the modelled fields

What is written for an accepted description are the octets it was read from just if these are
canonical and the dictionary has no key but the modelled ones, at both of its levels: a key that
is not modelled, a privacy flag that is zero or no integer, and a further key of a file are lost.

## Main definitions

* `Info.OnlyModelled`: a dictionary of which nothing is lost

## Main results

* `Info.toValue_eq_dict_iff_onlyModelled`: which dictionaries are written again as they are
* `Metainfo.encode_toValue_eq_raw_iff`: which info dictionaries are written again octet by octet
-/

namespace Swarm

/-- The keys of a dictionary are just these. -/
def Dict.HasKeys {α : Type} (keys : List String) (entries : List (Bytes × α)) : Prop :=
  ∀ key, key ∈ entries.map (·.1) ↔ key ∈ keys.map Bytes.ofString

namespace Torrent

open Bencode (Value Canonical)

variable {entries : List (Bytes × Value)}

/-! ## Files -/

namespace FileEntry

theorem toValue_eq_dict_iff {file : FileEntry} (hsorted : Dict.Sorted entries)
    (h : ofValue? (.dict entries) = some file) :
    file.toValue = .dict entries ↔ Dict.HasKeys ["length", "path"] entries := by
  obtain ⟨_, hdict, hlength, hpath, -⟩ := ofValue?_eq_some_iff.mp h
  obtain rfl := Value.dict.inj hdict
  have hheld : ∀ field ∈ file.fields, Dict.get? field.1 entries = some field.2 := by
    simp [fields, hlength, hpath]
  rw [toValue_eq_dict, Value.dict.injEq, eq_comm, eq_fields_iff hsorted, and_iff_right hheld]
  constructor
  · intro hkeys key
    refine ⟨hkeys key, fun hkey => ?_⟩
    obtain ⟨field, hfield, rfl⟩ : ∃ field ∈ file.fields, field.1 = key := List.mem_map.mp hkey
    rw [← Dict.isSome_get?_iff, hheld field hfield]
    rfl
  · intro hkeys key hkey
    exact (hkeys key).mp hkey

/-- Files are written as the values they were read from just if each of these has the two modelled
keys and no other. -/
theorem map_toValue_eq_iff {values : List Value} {files : List FileEntry}
    (hvalues : ∀ value ∈ values, value.WellFormed)
    (h : values.map ofValue? = files.map some) :
    files.map toValue = values ↔
      ∀ value ∈ values, ∃ entries, value = .dict entries ∧
        Dict.HasKeys ["length", "path"] entries := by
  induction values generalizing files with
  | nil =>
    obtain rfl := List.map_eq_nil_iff.mp h.symm
    simp
  | cons value values ih =>
    rw [List.forall_mem_cons] at hvalues
    cases files with
    | nil => exact absurd h (by simp)
    | cons file files =>
      obtain ⟨hfile, hfiles⟩ := List.cons.inj h
      obtain ⟨entries, rfl, -⟩ := ofValue?_eq_some_iff.mp hfile
      rw [List.map_cons, List.cons.injEq, toValue_eq_dict_iff hvalues.1.sorted hfile,
        ih hvalues.2 hfiles, List.forall_mem_cons]
      simp

end FileEntry

/-! ## The info dictionary -/

namespace Info

/-- **Only modelled fields**: the keys are those of the name, of the digests, of the length of
pieces and of one layout, and may be that of the privacy flag, which then is an integer other than
zero; and each file has a length, a path and no other key. -/
structure OnlyModelled (entries : List (Bytes × Value)) : Prop where
  keys : ∃ layout, (layout = "length" ∨ layout = "files") ∧
    ∃ flag, (flag = [] ∨ flag = ["private"]) ∧
      Dict.HasKeys (["name", "piece length", "pieces", layout] ++ flag) entries
  privacy : ∀ value, Dict.get? (Bytes.ofString "private") entries = some value →
    ∃ flag, value = .int flag ∧ flag ≠ 0
  files : ∀ values, Dict.get? (Bytes.ofString "files") entries = some (.list values) →
    ∀ value ∈ values, ∃ fields, value = .dict fields ∧ Dict.HasKeys ["length", "path"] fields

variable {info : Info} (h : ofEntries entries = .ok info)
include h

/-- The key of the layout is the only one of the two. -/
theorem isSome_get?_layout {layout : String} (hlayout : layout = "length" ∨ layout = "files") :
    (Dict.get? (Bytes.ofString layout) entries).isSome ↔ layout = info.content.key := by
  obtain ⟨-, -, -, hcontent, -⟩ := ofEntries_eq_ok_iff.mp h
  cases hlayoutOf : info.content with
  | single length =>
    rw [hlayoutOf, Content.ofEntries_eq_single_iff] at hcontent
    rcases hlayout with rfl | rfl <;> simp [hcontent.1, hcontent.2.1, Content.key]
  | multiple files =>
    rw [hlayoutOf, Content.ofEntries_eq_multiple_iff] at hcontent
    obtain ⟨hnone, ⟨values, hvalues, -⟩, -⟩ := hcontent
    rcases hlayout with rfl | rfl <;> simp [hnone, hvalues, Content.key]

theorem isSome_get?_of_mem {key : Bytes}
    (hkey : key ∈ ["name", "piece length", "pieces", info.content.key].map Bytes.ofString) :
    (Dict.get? key entries).isSome := by
  obtain ⟨⟨hlength, -⟩, hpieces, hname, -⟩ := ofEntries_eq_ok_iff.mp h
  rw [intAt?_eq_some_iff] at hlength
  rw [textAt?_eq_some_iff] at hname
  obtain ⟨digests, hdigests, -⟩ := Option.bind_eq_some_iff.mp hpieces
  have hlayout := (isSome_get?_layout h info.content.key_eq).mpr rfl
  simp only [List.map_cons, List.map_nil, List.mem_cons, List.not_mem_nil, or_false] at hkey
  rcases hkey with rfl | rfl | rfl | rfl <;> simp [*]

theorem privacy_eq_some_iff {flag : Int64} :
    info.privacy = some flag ↔
      Dict.get? (Bytes.ofString "private") entries = some (.int flag) := by
  obtain ⟨-, -, -, -, hprivacy, -⟩ := ofEntries_eq_ok_iff.mp h
  rw [hprivacy, intAt?_eq_some_iff]

section Keys

variable (hkeys : ∀ key ∈ entries.map (·.1), key ∈ info.fields.map (·.1))
include hkeys

/-- A privacy flag that is not lost is an integer other than zero. -/
theorem exists_flag_of_keys {value : Value}
    (hvalue : Dict.get? (Bytes.ofString "private") entries = some value) :
    ∃ flag, value = .int flag ∧ flag ≠ 0 := by
  have hmem : Bytes.ofString "private" ∈ entries.map (·.1) :=
    Dict.isSome_get?_iff.mp (by simp [hvalue])
  rcases mem_keys_fields.mp (hkeys _ hmem) with hother | ⟨-, flag, hflag, hzero⟩
  · rcases info.content.key_eq with hkey | hkey <;> simp [hkey, Utf8.ofString_inj] at hother
  · rw [privacy_eq_some_iff h, hvalue, Option.some.injEq] at hflag
    exact ⟨flag, hflag, hzero⟩

/-- Where no key is lost, the keys are those of modelled fields. -/
theorem exists_hasKeys_of_keys :
    ∃ flag, (flag = [] ∨ flag = ["private"]) ∧
      Dict.HasKeys (["name", "piece length", "pieces", info.content.key] ++ flag) entries := by
  by_cases hprivate : Bytes.ofString "private" ∈ entries.map (·.1)
  · refine ⟨["private"], Or.inr rfl, fun key => ?_⟩
    rw [List.map_append, List.mem_append]
    constructor
    · intro hkey
      exact (mem_keys_fields.mp (hkeys key hkey)).imp_right fun hflag =>
        List.mem_singleton.mpr hflag.1
    · rintro (hkey | hkey)
      · exact Dict.isSome_get?_iff.mp (isSome_get?_of_mem h hkey)
      · rwa [List.mem_singleton.mp hkey]
  · refine ⟨[], Or.inl rfl, fun key => ?_⟩
    rw [List.append_nil]
    constructor
    · intro hkey
      rcases mem_keys_fields.mp (hkeys key hkey) with hother | ⟨rfl, -⟩
      · exact hother
      · exact absurd hkey hprivate
    · intro hkey
      exact Dict.isSome_get?_iff.mp (isSome_get?_of_mem h hkey)

end Keys

/-- Of a dictionary with modelled fields only, no key is lost. -/
theorem mem_keys_fields_of_onlyModelled (hmodelled : OnlyModelled entries) {key : Bytes}
    (hkey : key ∈ entries.map (·.1)) : key ∈ info.fields.map (·.1) := by
  obtain ⟨⟨layout, hlayout, flag, hflag, hkeys⟩, hprivacy, -⟩ := hmodelled
  have hheld : ∀ name ∈ ["name", "piece length", "pieces", layout] ++ flag,
      (Dict.get? (Bytes.ofString name) entries).isSome := fun name hname =>
    Dict.isSome_get?_iff.mpr ((hkeys _).mpr (List.mem_map_of_mem hname))
  -- The layout that is listed is there, so it is the one that was read.
  have hread : layout = info.content.key :=
    (isSome_get?_layout h hlayout).mp (hheld layout (by simp))
  have hlisted := (hkeys key).mp hkey
  rw [List.map_append, List.mem_append, hread] at hlisted
  rw [mem_keys_fields]
  refine hlisted.imp_right fun hoptional => ?_
  rcases hflag with rfl | rfl
  · exact absurd hoptional (by simp)
  · obtain ⟨value, hvalue⟩ := Option.isSome_iff_exists.mp (hheld "private" (by simp))
    obtain ⟨flag, rfl, hzero⟩ := hprivacy value hvalue
    exact ⟨List.mem_singleton.mp hoptional, flag, (privacy_eq_some_iff h).mpr hvalue, hzero⟩

/-- All fields are held as they are written just if the layout is. -/
theorem fields_held_iff_layout_held :
    (∀ field ∈ info.fields, Dict.get? field.1 entries = some field.2) ↔
      Dict.get? (Bytes.ofString info.content.key) entries = some info.content.toEntry.2 := by
  obtain ⟨⟨hlength, -⟩, hpieces, hname, -⟩ := ofEntries_eq_ok_iff.mp h
  rw [intAt?_eq_some_iff] at hlength
  rw [textAt?_eq_some_iff] at hname
  obtain ⟨digests, hdigests, hdata⟩ := Option.bind_eq_some_iff.mp hpieces
  rw [Value.asBytes?_eq_some_iff.mp hdata] at hdigests
  have hflag : ∀ field ∈ info.privacyEntry, Dict.get? field.1 entries = some field.2 := by
    intro field hfield
    rcases info.privacyEntry_eq with ⟨hentry, -⟩ | ⟨flag, hflag, hentry⟩
    · rw [hentry] at hfield
      exact absurd hfield (by simp)
    · rw [hentry, List.mem_singleton] at hfield
      rw [hfield]
      exact (privacy_eq_some_iff h).mp (privacy_filter_eq_some_iff.mp hflag).1
  rw [fields, List.forall_mem_append, and_iff_left hflag]
  simp [hlength, hdigests, hname]

/-- The layout is held as it is written just if each file has the two modelled keys only. -/
theorem layout_held_iff (hentries : (Value.dict entries).WellFormed) :
    Dict.get? (Bytes.ofString info.content.key) entries = some info.content.toEntry.2 ↔
      ∀ values, Dict.get? (Bytes.ofString "files") entries = some (.list values) →
        ∀ value ∈ values, ∃ fields, value = .dict fields ∧
          Dict.HasKeys ["length", "path"] fields := by
  obtain ⟨-, -, -, hcontent, -⟩ := ofEntries_eq_ok_iff.mp h
  cases hlayout : info.content with
  | single length =>
    rw [hlayout, Content.ofEntries_eq_single_iff] at hcontent
    obtain ⟨hlength, hfiles, -⟩ := hcontent
    simp [Content.key, Content.toEntry, hlength, hfiles]
  | multiple files =>
    rw [hlayout, Content.ofEntries_eq_multiple_iff] at hcontent
    obtain ⟨-, ⟨values, hvalues, hread⟩, -⟩ := hcontent
    have hitems := (hentries.of_get? hvalues).items
    simp only [Content.key, Content.toEntry, hvalues, Option.some.injEq, Value.list.injEq,
      forall_eq']
    rw [← FileEntry.map_toValue_eq_iff hitems hread, eq_comm]

/-- **Which dictionaries are written again** as they were read: those with modelled fields only. -/
theorem toValue_eq_dict_iff_onlyModelled (hentries : (Value.dict entries).WellFormed) :
    info.toValue = .dict entries ↔ OnlyModelled entries := by
  rw [toValue_eq_dict_iff hentries.sorted, fields_held_iff_layout_held h,
    layout_held_iff h hentries]
  constructor
  · rintro ⟨hfiles, hkeys⟩
    exact ⟨⟨_, info.content.key_eq, exists_hasKeys_of_keys h hkeys⟩,
      fun _ => exists_flag_of_keys h hkeys, hfiles⟩
  · intro hmodelled
    exact ⟨hmodelled.files, fun key hkey => mem_keys_fields_of_onlyModelled h hmodelled hkey⟩

end Info

/-! ## The info dictionary of a file -/

namespace Metainfo

variable {data : Bytes} {metainfo : Metainfo}

/-- **When the digest is that of the modelled fields.** An accepted file keeps the octets of its
info dictionary. They are what is written for its description just if they are canonical and the
dictionary has modelled fields only, and then the two digests are the same. -/
theorem encode_toValue_eq_raw_iff (h : parse data = .ok metainfo) :
    ∃ raw entries, metainfo.info.raw = some raw ∧
      Bencode.decode raw = .ok (.dict entries, raw.length) ∧
      (metainfo.info.toValue.encode = raw ↔ Canonical raw ∧ Info.OnlyModelled entries) ∧
      (Canonical raw ∧ Info.OnlyModelled entries →
        metainfo.infoHash = metainfo.canonicalInfoHash) := by
  obtain ⟨raw, value, made, hraw, hdecode, hmade, hinfo⟩ := exists_raw_of_parse h
  obtain ⟨entries, rfl, hentries⟩ := Info.ofValue_eq_ok_iff.mp hmade
  have hform : Bencode.Form Bencode.maxNesting raw (.dict entries) := by
    have hread := (Bencode.decode_eq_ok_iff.mp hdecode).2
    rwa [List.take_length] at hread
  -- What is written for a description does not depend on the octets that are kept.
  have hvalue : metainfo.info.toValue = made.toValue := by
    rw [hinfo]
    rfl
  have hiff : metainfo.info.toValue.encode = raw ↔
      Canonical raw ∧ Info.OnlyModelled entries := by
    rw [hform.encode_eq_iff metainfo.info.wellFormed_toValue, hvalue,
      Info.toValue_eq_dict_iff_onlyModelled hentries hform.wellFormed, and_comm]
  refine ⟨raw, entries, hraw, hdecode, hiff, fun hmodelled => ?_⟩
  unfold infoHash canonicalInfoHash
  rw [hraw, hiff.mpr hmodelled]

/-- A file with several files, a privacy flag of one and octets behind it. -/
theorem encode_toValue_eq_raw_iff_multiple :
    let metainfo : Metainfo :=
      { announce := "t", announceList := none, creationDate := none, comment := none
        createdBy := none, encoding := none
        info :=
          { name := "n", pieceLength := 4, pieces := [], content := .multiple [⟨3, ["a", "b"]⟩]
            privacy := some 1
            raw := some (Bytes.ofString ("d5:filesld6:lengthi3e4:pathl1:a1:beee4:name1:n" ++
              "12:piece lengthi4e6:pieces0:7:privatei1ee")) } }
    parse (Bytes.ofString ("d8:announce1:t4:infod5:filesld6:lengthi3e4:pathl1:a1:beee4:name1:n" ++
      "12:piece lengthi4e6:pieces0:7:privatei1eeetail")) = .ok metainfo ∧
    ∃ raw entries, metainfo.info.raw = some raw ∧
      Bencode.decode raw = .ok (.dict entries, raw.length) ∧
      (metainfo.info.toValue.encode = raw ↔ Canonical raw ∧ Info.OnlyModelled entries) ∧
      (Canonical raw ∧ Info.OnlyModelled entries →
        metainfo.infoHash = metainfo.canonicalInfoHash) := by
  intro metainfo
  have hparse : parse (Bytes.ofString
      ("d8:announce1:t4:infod5:filesld6:lengthi3e4:pathl1:a1:beee4:name1:n" ++
        "12:piece lengthi4e6:pieces0:7:privatei1eeetail")) = .ok metainfo := by
    decide +kernel
  exact ⟨hparse, encode_toValue_eq_raw_iff hparse⟩

end Metainfo

end Torrent

end Swarm
