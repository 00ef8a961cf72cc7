import Swarm.Proofs.Bencode.WellFormed
import Swarm.Torrent.Info

/-!
# What is written for a description

A description is written as the dictionary of its modelled fields, whose keys all differ. So the
dictionary holds each field under its key, and nothing else.

## Main definitions

* `FileEntry.fields`, `Info.fields`: the fields that are written

## Main results

* `FileEntry.eq_fields_iff`, `Info.toValue_eq_dict_iff`: which dictionary is written
* `Info.wellFormed_toValue`: it is well formed
-/

namespace Swarm.Torrent

open Bencode (Value)

namespace FileEntry

/-- The fields that are written for a file. -/
def fields (file : FileEntry) : List (Bytes × Value) :=
  [(Bytes.ofString "length", .int file.length),
    (Bytes.ofString "path", .list (file.path.map Value.text))]

theorem toValue_eq_dict (file : FileEntry) : file.toValue = .dict file.fields := rfl

theorem sorted_fields (file : FileEntry) : Dict.Sorted file.fields := by
  have hlt : Bytes.ofString "length" < Bytes.ofString "path" := by decide
  simpa [fields, Dict.Sorted] using hlt

theorem eq_fields_iff {file : FileEntry} {entries : List (Bytes × Value)}
    (h : Dict.Sorted entries) :
    entries = file.fields ↔
      (∀ field ∈ file.fields, Dict.get? field.1 entries = some field.2) ∧
        ∀ key ∈ entries.map (·.1), key ∈ file.fields.map (·.1) := by
  have hnodup : (file.fields.map (·.1)).Nodup := by
    simp [fields, Utf8.ofString_inj]
  rw [← Dict.eq_ofList_iff hnodup h, Dict.ofList_of_sorted file.sorted_fields]

theorem wellFormed_toValue (file : FileEntry) : file.toValue.WellFormed := by
  have htext : ∀ value ∈ file.path.map Value.text, value.WellFormed := by
    intro value hvalue
    obtain ⟨segment, -, rfl⟩ := List.mem_map.mp hvalue
    exact .bytes _
  refine .dict file.sorted_fields ?_
  rintro _ (_ | ⟨_, _ | ⟨_, ⟨⟩⟩⟩)
  · exact .int _
  · exact .list htext

end FileEntry

namespace Content

/-- The key of the layout. -/
def key : Content → String
  | .single _ => "length"
  | .multiple _ => "files"

@[simp] theorem toEntry_fst (content : Content) :
    content.toEntry.1 = Bytes.ofString content.key := by
  cases content <;> rfl

theorem key_eq (content : Content) : content.key = "length" ∨ content.key = "files" := by
  cases content
  · exact Or.inl rfl
  · exact Or.inr rfl

theorem wellFormed_toEntry (content : Content) : content.toEntry.2.WellFormed := by
  cases content with
  | single length => exact .int length
  | multiple files =>
    refine .list fun value hvalue => ?_
    obtain ⟨file, -, rfl⟩ := List.mem_map.mp hvalue
    exact file.wellFormed_toValue

end Content

namespace Info

variable {info : Info}

/-- The fields that are written for a description. -/
def fields (info : Info) : List (Bytes × Value) :=
  [(Bytes.ofString "piece length", .int info.pieceLength),
    (Bytes.ofString "pieces", .bytes info.pieces),
    (Bytes.ofString "name", Value.text info.name),
    info.content.toEntry] ++ info.privacyEntry

theorem toValue_eq_dict (info : Info) : info.toValue = .dict (Dict.ofList info.fields) := rfl

/-- The privacy flag is written unless it is absent or zero. -/
theorem privacyEntry_eq (info : Info) :
    (info.privacyEntry = [] ∧ info.privacy.filter (· ≠ 0) = none) ∨
      ∃ flag, info.privacy.filter (· ≠ 0) = some flag ∧
        info.privacyEntry = [(Bytes.ofString "private", .int flag)] := by
  unfold privacyEntry
  cases info.privacy with
  | none => exact Or.inl ⟨rfl, rfl⟩
  | some flag =>
    by_cases hzero : flag = 0
    · simp [hzero]
    · simp [hzero]

theorem privacy_filter_eq_some_iff {flag : Int64} :
    info.privacy.filter (· ≠ 0) = some flag ↔ info.privacy = some flag ∧ flag ≠ 0 := by
  rw [Option.filter_eq_some_iff, decide_eq_true_iff]

theorem mem_keys_fields {key : Bytes} :
    key ∈ info.fields.map (·.1) ↔
      key ∈ ["name", "piece length", "pieces", info.content.key].map Bytes.ofString ∨
        key = Bytes.ofString "private" ∧ ∃ flag, info.privacy = some flag ∧ flag ≠ 0 := by
  simp only [← privacy_filter_eq_some_iff]
  rcases info.privacyEntry_eq with ⟨hentry, hnone⟩ | ⟨flag, hflag, hentry⟩
  · rw [hnone]
    simp [fields, hentry]
    tauto
  · rw [hflag]
    simp [fields, hentry]
    tauto

theorem nodup_fields (info : Info) : (info.fields.map (·.1)).Nodup := by
  have hlayout := info.content.key_eq
  rcases info.privacyEntry_eq with ⟨hentry, -⟩ | ⟨flag, -, hentry⟩ <;>
    rcases hlayout with hkey | hkey <;>
    simp [fields, hentry, hkey, Utf8.ofString_inj]

/-- What holds of integers, of octets and of the layout holds of every field. -/
theorem forall_mem_fields {motive : Value → Prop} (hint : ∀ n, motive (.int n))
    (hbytes : ∀ data, motive (.bytes data)) (hlayout : motive info.content.toEntry.2) :
    ∀ field ∈ info.fields, motive field.2 := by
  have hflag : ∀ field ∈ info.privacyEntry, motive field.2 := by
    rcases info.privacyEntry_eq with ⟨hentry, -⟩ | ⟨flag, -, hentry⟩ <;> simp [hentry, hint]
  rw [fields, List.forall_mem_append, and_iff_left hflag]
  simp [hint, hbytes, hlayout, Value.text]

theorem wellFormed_toValue (info : Info) : info.toValue.WellFormed :=
  Value.wellFormed_ofEntries
    (forall_mem_fields .int .bytes info.content.wellFormed_toEntry)

/-- A dictionary is written for a description just if it holds every field and no other key. -/
theorem toValue_eq_dict_iff {entries : List (Bytes × Value)} (h : Dict.Sorted entries) :
    info.toValue = .dict entries ↔
      (∀ field ∈ info.fields, Dict.get? field.1 entries = some field.2) ∧
        ∀ key ∈ entries.map (·.1), key ∈ info.fields.map (·.1) := by
  rw [toValue_eq_dict, Value.dict.injEq, eq_comm, Dict.eq_ofList_iff info.nodup_fields h]

end Info

end Swarm.Torrent
