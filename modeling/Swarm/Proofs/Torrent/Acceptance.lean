import Swarm.Proofs.Torrent.Lookup

/-!
# Which values are torrents

A torrent is read field by field, and the first field that is missing or has the wrong type is the
fault. So it is read just when each required field is there, and then every field is known.

## Main results

* `FileEntry.ofValue?_eq_some_iff`: which values are files
* `Content.ofEntries_eq_single_iff`, `Content.ofEntries_eq_multiple_iff`: which dictionaries have
  a layout
* `Info.ofEntries_eq_ok_iff`: which dictionaries describe a content
* `Metainfo.ofValue_eq_ok_iff`: which values are torrents
-/

namespace Swarm.Torrent

open Bencode (Value map_eq_ok_iff)

variable {entries : List (Bytes × Value)} {value : Value}

/-! ## Fields -/

section Fields

variable {key : String}

theorem intAt?_eq_some_iff {n : Int64} :
    intAt? entries key = some n ↔ Dict.get? (Bytes.ofString key) entries = some (.int n) := by
  simp [intAt?, Option.bind_eq_some_iff, Value.asInt?_eq_some_iff]

theorem textAt?_eq_some_iff {text : String} :
    textAt? entries key = some text ↔
      Dict.get? (Bytes.ofString key) entries = some (Value.text text) := by
  simp [textAt?, Option.bind_eq_some_iff, Value.asText?_eq_some_iff]

theorem mapM_asText?_eq_some_iff {items : List Value} {texts : List String} :
    items.mapM Value.asText? = some texts ↔ items = texts.map Value.text := by
  induction items generalizing texts with
  | nil => cases texts <;> simp
  | cons item items ih =>
    simp only [List.mapM_cons, Option.bind_eq_bind, Option.bind_eq_some_iff,
      Value.asText?_eq_some_iff, ih, Option.pure_def, Option.some.injEq]
    constructor
    · rintro ⟨text, rfl, texts, rfl, rfl⟩
      rfl
    · cases texts with
      | nil => simp
      | cons text texts =>
        intro h
        obtain ⟨rfl, rfl⟩ := List.cons.inj h
        exact ⟨text, rfl, texts, rfl, rfl⟩

end Fields

/-! ## Files -/

namespace FileEntry

/-- A file is a dictionary with a length that is not negative and a path that is not empty. -/
theorem ofValue?_eq_some_iff {file : FileEntry} :
    ofValue? value = some file ↔ ∃ entries, value = .dict entries ∧
      Dict.get? (Bytes.ofString "length") entries = some (.int file.length) ∧
      Dict.get? (Bytes.ofString "path") entries = some (.list (file.path.map Value.text)) ∧
      0 ≤ file.length ∧ file.path ≠ [] := by
  cases value with
  | dict entries =>
    simp only [ofValue?_dict, Option.bind_eq_some_iff, Option.filter_eq_some_iff,
      decide_eq_true_iff, intAt?_eq_some_iff, Value.asList?_eq_some_iff,
      Option.ite_none_left_eq_some, Option.map_eq_some_iff, mapM_asText?_eq_some_iff,
      Value.dict.injEq]
    constructor
    · rintro ⟨length, ⟨hlength, hpos⟩, _, ⟨_, hpath, rfl⟩, hne, path, rfl, rfl⟩
      exact ⟨entries, rfl, hlength, hpath, hpos, by simpa using hne⟩
    · rintro ⟨_, rfl, hlength, hpath, hpos, hne⟩
      exact ⟨_, ⟨hlength, hpos⟩, _, ⟨_, hpath, rfl⟩, by simpa using hne, _, rfl, rfl⟩
  | _ => simp [ofValue?, Value.asDict?]

/-- Values give files just if each of them does. -/
theorem ofValues_eq_ok_iff (index : Nat) {values : List Value} {files : List FileEntry} :
    ofValues index values = .ok files ↔ values.map ofValue? = files.map some := by
  induction values generalizing index files with
  | nil => cases files <;> simp [ofValues]
  | cons value values ih =>
    rw [ofValues]
    cases hfile : ofValue? value with
    | none => cases files <;> simp [hfile]
    | some file =>
      dsimp only
      rw [map_eq_ok_iff]
      cases files with
      | nil => simp
      | cons first files =>
        rw [List.map_cons, List.map_cons, hfile, List.cons.injEq, Option.some.injEq,
          ← ih (index + 1)]
        constructor
        · rintro ⟨others, hothers, hcons⟩
          obtain ⟨rfl, rfl⟩ := List.cons.inj hcons
          exact ⟨rfl, hothers⟩
        · rintro ⟨rfl, hothers⟩
          exact ⟨files, hothers, rfl⟩

/-- Every file that is read is read from one of the values. -/
theorem exists_value_of_mem {values : List Value} {files : List FileEntry} {file : FileEntry}
    (h : values.map ofValue? = files.map some) (hfile : file ∈ files) :
    ∃ value ∈ values, ofValue? value = some file := by
  have hmem : some file ∈ values.map ofValue? := by
    rw [h]
    exact List.mem_map_of_mem hfile
  exact List.mem_map.mp hmem

/-- No file that is read has a negative length. -/
theorem length_nonneg_of_ofValues {index : Nat} {values : List Value} {files : List FileEntry}
    (h : ofValues index values = .ok files) : ∀ file ∈ files, 0 ≤ file.length := by
  intro file hfile
  obtain ⟨value, -, hvalue⟩ := exists_value_of_mem ((ofValues_eq_ok_iff index).mp h) hfile
  obtain ⟨_, _, _, _, hlength, _⟩ := ofValue?_eq_some_iff.mp hvalue
  exact hlength

end FileEntry

/-! ## The sum of the lengths -/

section Sum

theorem toInt_nonneg {n : Int64} (h : 0 ≤ n) : 0 ≤ n.toInt := by
  simpa using Int64.le_iff_toInt_le.mp h

theorem checkedAdd?_eq_some_iff {a b total : Int64} :
    checkedAdd? a b = some total ↔ total.toInt = a.toInt + b.toInt := by
  simp only [checkedAdd?, Option.ite_none_right_eq_some, Option.some.injEq]
  constructor
  · rintro ⟨hrange, rfl⟩
    rw [minWord, maxWord, Int64.toInt_minValue, Int64.toInt_maxValue] at hrange
    exact Int64.toInt_ofInt_of_le hrange.1 (by omega)
  · intro h
    rw [← h, Int64.ofInt_toInt]
    exact ⟨⟨total.minValue_le_toInt, total.toInt_le⟩, rfl⟩

theorem checkedAdd?_eq_none_iff {a b : Int64} (hb : 0 ≤ b) :
    checkedAdd? a b = none ↔ maxWord < a.toInt + b.toInt := by
  have hlow : minWord ≤ a.toInt := a.minValue_le_toInt
  have hpos := toInt_nonneg hb
  simp only [checkedAdd?, ite_eq_right_iff, reduceCtorEq, imp_false]
  omega

variable {files : List FileEntry} (h : ∀ file ∈ files, 0 ≤ file.length)
include h

theorem exactLength_nonneg : 0 ≤ exactLength files := by
  induction files with
  | nil => exact Int.le_refl 0
  | cons file files ih =>
    rw [List.forall_mem_cons] at h
    exact Int.add_nonneg (toInt_nonneg h.1) (ih h.2)

theorem foldlM_checkedAdd?_eq_none_iff (start : Int64) :
    files.foldlM (fun total file => checkedAdd? total file.length) start = none ↔
      maxWord < start.toInt + exactLength files := by
  induction files generalizing start with
  | nil =>
    have hstart : start.toInt ≤ maxWord := start.toInt_le
    simp [exactLength, hstart]
  | cons file files ih =>
    rw [List.forall_mem_cons] at h
    have hsum : exactLength (file :: files) = file.length.toInt + exactLength files := rfl
    have hrest := exactLength_nonneg h.2
    rw [List.foldlM_cons]
    cases hnext : checkedAdd? start file.length with
    | none =>
      -- The sums that follow are no less, as no length is negative.
      have hover := (checkedAdd?_eq_none_iff h.1).mp hnext
      simp only [Option.bind_eq_bind, Option.bind_none, true_iff]
      omega
    | some next =>
      rw [Option.bind_eq_bind, Option.bind_some, ih h.2, checkedAdd?_eq_some_iff.mp hnext, hsum,
        Int.add_assoc]

/-- The sums on the way are words just if the exact sum is, as no length is negative. -/
theorem checkedLength?_eq_none_iff : checkedLength? files = none ↔ maxWord < exactLength files := by
  rw [checkedLength?, foldlM_checkedAdd?_eq_none_iff h, Int64.toInt_zero, Int.zero_add]

end Sum

/-! ## The layout -/

namespace Content

/-- The layout is a single file just if there is a length that is not negative and no list of
files. -/
theorem ofEntries_eq_single_iff {length : Int64} :
    ofEntries entries = .ok (.single length) ↔
      Dict.get? (Bytes.ofString "length") entries = some (.int length) ∧
      Dict.get? (Bytes.ofString "files") entries = none ∧ 0 ≤ length := by
  rw [ofEntries_eq]
  unfold ofFields
  split
  · rename_i other hlength hfiles
    rw [hlength, hfiles]
    split
    · rename_i hpos
      simp only [Except.ok.injEq, Content.single.injEq, Option.some.injEq, Value.int.injEq,
        true_and]
      exact ⟨fun h => ⟨h, h ▸ hpos⟩, And.left⟩
    · rename_i hneg
      simp only [Option.some.injEq, Value.int.injEq, true_and, reduceCtorEq, false_iff]
      rintro ⟨rfl, hpos⟩
      exact hneg hpos
  · rename_i values hlength hfiles
    rw [hlength]
    split
    · simp
    · split <;> simp
  · rename_i hsingle hmultiple
    simp only [reduceCtorEq, false_iff]
    rintro ⟨hlength, hfiles, -⟩
    exact hsingle length hlength hfiles

/-- The layout is several files just if there is a list of files, whose lengths add up to a word,
and no length. -/
theorem ofEntries_eq_multiple_iff {files : List FileEntry} :
    ofEntries entries = .ok (.multiple files) ↔
      Dict.get? (Bytes.ofString "length") entries = none ∧
      (∃ values, Dict.get? (Bytes.ofString "files") entries = some (.list values) ∧
        values.map FileEntry.ofValue? = files.map some) ∧ exactLength files ≤ maxWord := by
  rw [ofEntries_eq]
  unfold ofFields
  split
  · rename_i length hlength hfiles
    rw [hlength]
    split <;> simp
  · rename_i values hlength hfiles
    rw [hlength, hfiles]
    simp only [true_and, Option.some.injEq, Value.list.injEq, exists_eq_left',
      ← FileEntry.ofValues_eq_ok_iff 0]
    cases hread : FileEntry.ofValues 0 values with
    | error fault => simp
    | ok found =>
      have hsum := checkedLength?_eq_none_iff (FileEntry.length_nonneg_of_ofValues hread)
      dsimp only
      cases hchecked : checkedLength? found with
      | none =>
        have hover := hsum.mp hchecked
        simp only [Except.ok.injEq, reduceCtorEq, false_iff]
        rintro ⟨rfl, hle⟩
        omega
      | some total =>
        have hle : exactLength found ≤ maxWord := by
          rw [← Int.not_lt, ← hsum, hchecked]
          simp
        simp only [Except.ok.injEq, Content.multiple.injEq]
        exact ⟨fun h => ⟨h, h ▸ hle⟩, And.left⟩
  · rename_i hsingle hmultiple
    simp only [reduceCtorEq, false_iff]
    rintro ⟨hlength, ⟨values, hfiles, -⟩, -⟩
    exact hmultiple values hlength hfiles

end Content

namespace Info

/-- A content is described just where its length of pieces is positive, its digests and its name
are there, and there is one layout. The privacy flag is as it comes, and no octets are kept. -/
theorem ofEntries_eq_ok_iff {info : Info} :
    ofEntries entries = .ok info ↔
      (intAt? entries "piece length" = some info.pieceLength ∧ 0 < info.pieceLength) ∧
      (Dict.get? (Bytes.ofString "pieces") entries).bind Value.asBytes? = some info.pieces ∧
      textAt? entries "name" = some info.name ∧ Content.ofEntries entries = .ok info.content ∧
      info.privacy = intAt? entries "private" ∧ info.raw = none := by
  obtain ⟨name, pieceLength, pieces, content, privacy, raw⟩ := info
  rw [ofEntries_eq]
  have hlength : (intAt? entries "piece length").filter (0 < ·) = some pieceLength ↔
      intAt? entries "piece length" = some pieceLength ∧ 0 < pieceLength := by
    rw [Option.filter_eq_some_iff, decide_eq_true_iff]
  rw [← hlength]
  cases (intAt? entries "piece length").filter (0 < ·) with
  | none => simp
  | some otherLength =>
    cases (Dict.get? (Bytes.ofString "pieces") entries).bind Value.asBytes? with
    | none => simp
    | some otherPieces =>
      cases textAt? entries "name" with
      | none => simp
      | some otherName =>
        dsimp only
        rw [map_eq_ok_iff]
        simp only [Info.mk.injEq, Option.some.injEq]
        constructor
        · rintro ⟨other, hcontent, rfl, rfl, rfl, rfl, rfl, rfl⟩
          exact ⟨rfl, rfl, rfl, hcontent, rfl, rfl⟩
        · rintro ⟨rfl, rfl, rfl, hcontent, rfl, rfl⟩
          exact ⟨content, hcontent, rfl, rfl, rfl, rfl, rfl, rfl⟩

/-- A value that describes a content is a dictionary. -/
theorem ofValue_eq_ok_iff {info : Info} :
    ofValue value = .ok info ↔ ∃ entries, value = .dict entries ∧ ofEntries entries = .ok info := by
  cases value <;> simp [ofValue]

/-- A description read from a value has no octets of its own. -/
theorem raw_of_ofValue {info : Info} (h : ofValue value = .ok info) : info.raw = none := by
  obtain ⟨entries, -, hinfo⟩ := ofValue_eq_ok_iff.mp h
  obtain ⟨-, -, -, -, -, hraw⟩ := ofEntries_eq_ok_iff.mp hinfo
  exact hraw

end Info

namespace Metainfo

/-- A torrent is a dictionary that names a tracker and describes a content. A further field that
is missing or has the wrong type is left out. -/
theorem ofValue_eq_ok_iff {metainfo : Metainfo} :
    ofValue value = .ok metainfo ↔ ∃ entries info, value = .dict entries ∧
      textAt? entries "announce" = some metainfo.announce ∧
      Dict.get? (Bytes.ofString "info") entries = some info ∧
      Info.ofValue info = .ok metainfo.info ∧
      metainfo.announceList = (Dict.get? (Bytes.ofString "announce-list") entries).bind tiers? ∧
      metainfo.creationDate = intAt? entries "creation date" ∧
      metainfo.comment = textAt? entries "comment" ∧
      metainfo.createdBy = textAt? entries "created by" ∧
      metainfo.encoding = textAt? entries "encoding" := by
  obtain ⟨announce, announceList, creationDate, comment, createdBy, encoding, info⟩ := metainfo
  cases value with
  | dict entries =>
    rw [ofValue_dict]
    cases hannounce : textAt? entries "announce" with
    | none => simp [hannounce]
    | some otherAnnounce =>
      cases hinfo : Dict.get? (Bytes.ofString "info") entries with
      | none => simp [hinfo]
      | some description =>
        dsimp only
        rw [map_eq_ok_iff]
        simp only [Metainfo.mk.injEq, Value.dict.injEq]
        constructor
        · rintro ⟨other, hother, rfl, rfl, rfl, rfl, rfl, rfl, rfl⟩
          exact ⟨entries, description, rfl, hannounce, hinfo, hother, rfl, rfl, rfl, rfl, rfl⟩
        · rintro ⟨_, other, rfl, hname, hget, hother, rfl, rfl, rfl, rfl, rfl⟩
          obtain rfl := Option.some.inj (hannounce.symm.trans hname)
          obtain rfl := Option.some.inj (hinfo.symm.trans hget)
          exact ⟨info, hother, rfl, rfl, rfl, rfl, rfl, rfl, rfl⟩
  | _ => simp [ofValue, Value.asDict?]

end Metainfo

end Swarm.Torrent
