import Swarm.Proofs.Torrent.Requirement
import Swarm.Proofs.Torrent.RoundTrip

/-!
# The length of the content

The lengths of files are added up twice: when a torrent is read, where a sum that is no word
refuses it, and when the length of the content is asked for, where a sum is kept within a word. No
length that is read is negative, so no sum on the way is greater than the exact sum of all lengths,
and both agree with it as far as it is a word. Files may be edited after they were read, and then
the exact sum is cut off at the greatest word.

## Main definitions

* `Metainfo.IsRead`: the torrents that are read
* `Content.exactLength`: the exact sum of the lengths
* `Info.ListsFiles`: an info dictionary of several files

## Main results

* `Metainfo.IsRead.valid`: what is read is valid
* `toInt_foldl_saturatingAdd`: lengths that are not negative are cut off at most once
* `Info.ofEntries_eq_totalLengthOverflow_iff`: which dictionaries are refused for their sum
* `Metainfo.totalLength_exact`: the length of the content, read or edited
-/

namespace Swarm.Torrent

open Bencode (Value map_eq_ok_iff map_eq_error_iff)

/-! ## Sums within a word -/

section Sum

theorem toInt_saturatingAdd (a b : Int64) :
    (saturatingAdd a b).toInt = max minWord (min maxWord (a.toInt + b.toInt)) := by
  have hmin : minWord = -2 ^ 63 := Int64.toInt_minValue
  have hmax : maxWord = 2 ^ 63 - 1 := Int64.toInt_maxValue
  rw [saturatingAdd]
  exact Int64.toInt_ofInt_of_le (by omega) (by omega)

/-- A sum that is a word is not cut off. -/
theorem saturatingAdd_of_checkedAdd? {a b total : Int64} (h : checkedAdd? a b = some total) :
    saturatingAdd a b = total := by
  have hsum := checkedAdd?_eq_some_iff.mp h
  have hlow : minWord ≤ total.toInt := total.minValue_le_toInt
  have hhigh : total.toInt ≤ maxWord := total.toInt_le
  rw [← Int64.toInt_inj, toInt_saturatingAdd]
  omega

variable {files others : List FileEntry}

theorem foldl_saturatingAdd_of_foldlM {start total : Int64}
    (h : files.foldlM (fun total file => checkedAdd? total file.length) start = some total) :
    files.foldl (fun total file => saturatingAdd total file.length) start = total := by
  induction files generalizing start with
  | nil => exact Option.some.inj h
  | cons file files ih =>
    rw [List.foldlM_cons, Option.bind_eq_bind, Option.bind_eq_some_iff] at h
    obtain ⟨next, hnext, hrest⟩ := h
    rw [List.foldl_cons, saturatingAdd_of_checkedAdd? hnext]
    exact ih hrest

/-- **Lengths that are not negative are cut off at most once**: what follows a sum that was cut
off leaves it at the greatest word. -/
theorem toInt_foldl_saturatingAdd (h : ∀ file ∈ files, 0 ≤ file.length) (start : Int64) :
    (files.foldl (fun total file => saturatingAdd total file.length) start).toInt =
      min (start.toInt + exactLength files) maxWord := by
  -- The start is general, as each file makes another one of it.
  induction files generalizing start with
  | nil =>
    have hstart : start.toInt ≤ maxWord := start.toInt_le
    rw [List.foldl_nil, exactLength, List.foldr_nil]
    omega
  | cons file files ih =>
    rw [List.forall_mem_cons] at h
    have hsum : exactLength (file :: files) = file.length.toInt + exactLength files := rfl
    have hfile := toInt_nonneg h.1
    have hrest := exactLength_nonneg h.2
    have hstart : minWord ≤ start.toInt := start.minValue_le_toInt
    rw [List.foldl_cons, ih h.2, toInt_saturatingAdd, hsum]
    omega

theorem exactLength_perm (h : files.Perm others) : exactLength files = exactLength others := by
  induction h with
  | nil => rfl
  | cons file _ ih => exact congrArg (file.length.toInt + ·) ih
  | swap first second files => exact Int.add_left_comm ..
  | trans _ _ ih ihOthers => exact ih.trans ihOthers

end Sum

namespace Content

/-- The exact sum of the lengths of a layout. -/
def exactLength : Content → Int
  | .single length => length.toInt
  | .multiple files => Torrent.exactLength files

variable {content : Content} {files : List FileEntry}

theorem length_nonneg_of_valid (h : (Content.multiple files).Valid) :
    ∀ file ∈ files, 0 ≤ file.length :=
  fun file hfile => (h.1 file hfile).1

/-- No sum on the way through a valid layout is cut off. -/
theorem checkedLength?_of_valid (h : (Content.multiple files).Valid) :
    checkedLength? files = some (Content.multiple files).totalLength := by
  cases hchecked : checkedLength? files with
  | none =>
    -- Only a sum past the greatest word is refused, and a valid layout has none.
    have hover := (checkedLength?_eq_none_iff (length_nonneg_of_valid h)).mp hchecked
    exact absurd hover (Int.not_lt.mpr h.2)
  | some total => rw [totalLength, foldl_saturatingAdd_of_foldlM hchecked]

theorem toInt_totalLength_of_valid (h : content.Valid) :
    content.totalLength.toInt = content.exactLength := by
  cases content with
  | single length => rfl
  | multiple files =>
    have hle : Torrent.exactLength files ≤ maxWord := h.2
    rw [totalLength, toInt_foldl_saturatingAdd (length_nonneg_of_valid h), exactLength,
      Int64.toInt_zero]
    omega

theorem exactLength_nonneg_of_valid (h : content.Valid) : 0 ≤ content.exactLength := by
  cases content with
  | single length => exact toInt_nonneg h
  | multiple files => exact Torrent.exactLength_nonneg (length_nonneg_of_valid h)

/-! ## What is read -/

variable {entries : List (Bytes × Value)}

/-- A layout that is read is valid. -/
theorem valid_of_ofEntries (h : ofEntries entries = .ok content) : content.Valid := by
  cases content with
  | single length =>
    obtain ⟨-, -, hpos⟩ := ofEntries_eq_single_iff.mp h
    exact hpos
  | multiple files =>
    obtain ⟨-, ⟨values, -, hread⟩, hsum⟩ := ofEntries_eq_multiple_iff.mp h
    refine ⟨fun file hfile => ?_, hsum⟩
    obtain ⟨value, -, hvalue⟩ := FileEntry.exists_value_of_mem hread hfile
    obtain ⟨_, _, _, _, hpos, hne⟩ := FileEntry.ofValue?_eq_some_iff.mp hvalue
    exact ⟨hpos, hne⟩

end Content

/-- A description that is read is valid. -/
theorem Info.valid_of_ofValue {value : Value} {info : Info} (h : ofValue value = .ok info) :
    info.Valid := by
  obtain ⟨entries, -, hentries⟩ := ofValue_eq_ok_iff.mp h
  obtain ⟨⟨-, hpos⟩, -, -, hcontent, -⟩ := ofEntries_eq_ok_iff.mp hentries
  exact ⟨hpos, Content.valid_of_ofEntries hcontent⟩

namespace Metainfo

/-- **The torrents that are read**, from a value or from the octets of a file. -/
inductive IsRead : Metainfo → Prop where
  | ofValue {value : Value} {metainfo : Metainfo} (h : Metainfo.ofValue value = .ok metainfo) :
      IsRead metainfo
  | parse {data : Bytes} {metainfo : Metainfo} (h : Metainfo.parse data = .ok metainfo) :
      IsRead metainfo

/-- A torrent that is read has a valid description. -/
theorem IsRead.valid {metainfo : Metainfo} (h : metainfo.IsRead) : metainfo.info.Valid := by
  cases h with
  | ofValue h =>
    obtain ⟨_, info, -, -, -, hinfo, -⟩ := ofValue_eq_ok_iff.mp h
    exact Info.valid_of_ofValue hinfo
  | parse h =>
    obtain ⟨raw, value, made, -, -, hmade, hinfo⟩ := exists_raw_of_parse h
    have hvalid : made.Valid := Info.valid_of_ofValue hmade
    rw [hinfo]
    exact hvalid

end Metainfo

/-! ## What is refused -/

namespace FileEntry

theorem isFile_of_ofValues {index : Nat} {values : List Value} {files : List FileEntry}
    (h : ofValues index values = .ok files) : ∀ value ∈ values, IsFile value := by
  intro value hvalue
  have hmem : ofValue? value ∈ files.map some := by
    rw [← (ofValues_eq_ok_iff index).mp h]
    exact List.mem_map_of_mem hvalue
  obtain ⟨file, -, hfile⟩ := List.mem_map.mp hmem
  exact exists_ofValue?_iff.mp ⟨file, hfile.symm⟩

/-- Values are read as files just if they all stand for files. -/
theorem exists_ofValues_iff (index : Nat) {values : List Value} :
    (∃ files, ofValues index values = .ok files) ↔ ∀ value ∈ values, IsFile value := by
  constructor
  · rintro ⟨files, h⟩
    exact isFile_of_ofValues h
  · intro h
    obtain ⟨files, hfiles, -⟩ := exists_files h
    exact ⟨files, (ofValues_eq_ok_iff index).mpr hfiles⟩

/-- The lengths of files add up to those that their values tell. -/
theorem exactLength_of_ofValues {index : Nat} {values : List Value} {files : List FileEntry}
    (h : ofValues index values = .ok files) : exactLength files = filesLength values := by
  obtain ⟨others, hothers, hsum⟩ := exists_files (isFile_of_ofValues h)
  obtain rfl : files = others :=
    Except.ok.inj (h.symm.trans ((ofValues_eq_ok_iff index).mpr hothers))
  exact hsum

/-- The sum of the lengths has no part in whether values are files. -/
theorem ofValues_ne_totalLengthOverflow (index : Nat) (values : List Value) :
    ofValues index values ≠ .error .totalLengthOverflow := by
  induction values generalizing index with
  | nil => simp [ofValues]
  | cons value values ih =>
    rw [ofValues]
    cases ofValue? value with
    | none => simp
    | some file =>
      dsimp only
      rw [Ne, map_eq_error_iff]
      exact ih (index + 1)

end FileEntry

variable {entries : List (Bytes × Value)} {values : List Value}

/-- A layout is refused for its sum just if there is no length and all listed values stand for
files, whose lengths add up to more than a word. -/
theorem Content.ofEntries_eq_totalLengthOverflow_iff :
    ofEntries entries = .error .totalLengthOverflow ↔
      Dict.get? (Bytes.ofString "length") entries = none ∧
      ∃ values, Dict.get? (Bytes.ofString "files") entries = some (.list values) ∧
        (∀ value ∈ values, IsFile value) ∧ maxWord < filesLength values := by
  rw [ofEntries_eq]
  unfold ofFields
  split
  · rename_i length hlength hfiles
    rw [hlength]
    split <;> simp
  · rename_i values hlength hfiles
    rw [hlength, hfiles]
    simp only [true_and, Option.some.injEq, Value.list.injEq, exists_eq_left']
    cases hread : FileEntry.ofValues 0 values with
    | error fault =>
      -- Some value stands for no file, and that is the fault.
      have hfault : fault ≠ .totalLengthOverflow := fun heq =>
        FileEntry.ofValues_ne_totalLengthOverflow 0 values (heq ▸ hread)
      have hnot : ¬∀ value ∈ values, IsFile value := by
        rw [← FileEntry.exists_ofValues_iff 0, hread]
        simp
      rw [Except.error.injEq]
      exact iff_of_false hfault fun h => hnot h.1
    | ok files =>
      -- All values are files, and the sum alone decides.
      have hisFile := FileEntry.isFile_of_ofValues hread
      rw [← FileEntry.exactLength_of_ofValues hread,
        ← checkedLength?_eq_none_iff (FileEntry.length_nonneg_of_ofValues hread)]
      dsimp only
      cases checkedLength? files with
      | none => exact iff_of_true rfl ⟨hisFile, rfl⟩
      | some total => simp
  · rename_i hsingle hmultiple
    simp only [Except.error.injEq, reduceCtorEq, false_iff]
    rintro ⟨hlength, values, hfiles, -⟩
    exact hmultiple values hlength hfiles

namespace Info

/-- **An info dictionary of several files**: it lists values that all stand for files, and has a
positive length of pieces, digests and a name, and no length of a single file. -/
structure ListsFiles (entries : List (Bytes × Value)) (values : List Value) : Prop where
  pieceLength : ∃ length, Dict.get? (Bytes.ofString "piece length") entries = some (.int length) ∧
    0 < length
  pieces : ∃ digests, Dict.get? (Bytes.ofString "pieces") entries = some (.bytes digests)
  name : ∃ text, Dict.get? (Bytes.ofString "name") entries = some (Value.text text)
  length : Dict.get? (Bytes.ofString "length") entries = none
  files : Dict.get? (Bytes.ofString "files") entries = some (.list values)
  isFile : ∀ value ∈ values, IsFile value

/-- **An info dictionary is refused for its sum** just if it is one of several files, whose
lengths add up to more than a word. -/
theorem ofEntries_eq_totalLengthOverflow_iff :
    ofEntries entries = .error .totalLengthOverflow ↔
      ∃ values, ListsFiles entries values ∧ maxWord < filesLength values := by
  rw [ofEntries_eq]
  constructor
  · intro h
    split at h
    · simp at h
    · rename_i pieceLength hlength
      split at h
      · simp at h
      · rename_i pieces hpieces
        split at h
        · simp at h
        · rename_i name hname
          rw [map_eq_error_iff, Content.ofEntries_eq_totalLengthOverflow_iff] at h
          obtain ⟨hnone, values, hfiles, hisFile, hover⟩ := h
          exact ⟨values, ⟨⟨_, filter_intAt?_eq_some_iff.mp hlength⟩,
            ⟨_, bind_asBytes?_eq_some_iff.mp hpieces⟩, ⟨_, textAt?_eq_some_iff.mp hname⟩, hnone,
            hfiles, hisFile⟩, hover⟩
  · rintro ⟨values, ⟨⟨_, hlength⟩, ⟨_, hpieces⟩, ⟨_, hname⟩, hnone, hfiles, hisFile⟩, hover⟩
    rw [filter_intAt?_eq_some_iff.mpr hlength, bind_asBytes?_eq_some_iff.mpr hpieces,
      textAt?_eq_some_iff.mpr hname]
    dsimp only
    rw [map_eq_error_iff, Content.ofEntries_eq_totalLengthOverflow_iff]
    exact ⟨hnone, values, hfiles, hisFile, hover⟩

theorem ofValue_eq_totalLengthOverflow_iff {value : Value} :
    ofValue value = .error .totalLengthOverflow ↔ ∃ entries values, value = .dict entries ∧
      ListsFiles entries values ∧ maxWord < filesLength values := by
  cases value with
  | dict entries =>
    rw [ofValue, ofEntries_eq_totalLengthOverflow_iff]
    simp
  | _ => simp [ofValue]

theorem ListsFiles.ofValue_eq_totalLengthOverflow_iff (h : ListsFiles entries values) :
    ofValue (.dict entries) = .error .totalLengthOverflow ↔ maxWord < filesLength values := by
  rw [ofValue, ofEntries_eq_totalLengthOverflow_iff]
  constructor
  · rintro ⟨others, hothers, hover⟩
    obtain rfl : values = others :=
      Value.list.inj (Option.some.inj (h.files.symm.trans hothers.files))
    exact hover
  · exact fun hover => ⟨values, h, hover⟩

end Info

/-! ## The length of the content -/

namespace Metainfo

/-- The same torrent with other files. -/
def withFiles (metainfo : Metainfo) (files : List FileEntry) : Metainfo :=
  { metainfo with info := { metainfo.info with content := .multiple files } }

theorem toInt_totalLength_withFiles (metainfo : Metainfo) {files : List FileEntry}
    (h : ∀ file ∈ files, 0 ≤ file.length) :
    (metainfo.withFiles files).totalLength.toInt = min (exactLength files) maxWord := by
  rw [totalLength, withFiles, Content.totalLength, toInt_foldl_saturatingAdd h, Int64.toInt_zero,
    Int.zero_add]

/-- **The length of the content.** Of a torrent that is read it is the exact sum of the lengths,
and no sum on the way is cut off. An info dictionary of several files is refused for its sum just
if the exact sum is no word, and no other value is. Of files that are edited, without a negative
length, it is the exact sum cut off at the greatest word, whatever their order. -/
theorem totalLength_exact :
    (∀ metainfo : Metainfo, metainfo.IsRead →
      metainfo.totalLength.toInt = metainfo.info.content.exactLength ∧
      0 ≤ metainfo.info.content.exactLength ∧ metainfo.info.content.exactLength ≤ maxWord ∧
      ∀ files, metainfo.info.content = .multiple files →
        checkedLength? files = some metainfo.totalLength) ∧
    (∀ entries values, Info.ListsFiles entries values →
      (Info.ofValue (.dict entries) = .error .totalLengthOverflow ↔
        maxWord < filesLength values)) ∧
    (∀ value, Info.ofValue value = .error .totalLengthOverflow ↔
      ∃ entries values, value = .dict entries ∧ Info.ListsFiles entries values ∧
        maxWord < filesLength values) ∧
    ∀ (metainfo : Metainfo) (files : List FileEntry), (∀ file ∈ files, 0 ≤ file.length) →
      (metainfo.withFiles files).totalLength.toInt = min (exactLength files) maxWord ∧
      ∀ others, files.Perm others →
        (metainfo.withFiles others).totalLength = (metainfo.withFiles files).totalLength := by
  refine ⟨fun metainfo hread => ?_, fun _ _ h => h.ofValue_eq_totalLengthOverflow_iff,
    fun _ => Info.ofValue_eq_totalLengthOverflow_iff, fun metainfo files hpos => ?_⟩
  · have hvalid : metainfo.info.content.Valid := hread.valid.2
    have hexact := Content.toInt_totalLength_of_valid hvalid
    have hle : metainfo.info.content.totalLength.toInt ≤ maxWord := Int64.toInt_le _
    refine ⟨hexact, Content.exactLength_nonneg_of_valid hvalid, hexact ▸ hle,
      fun files hfiles => ?_⟩
    rw [hfiles] at hvalid
    rw [totalLength, hfiles, Content.checkedLength?_of_valid hvalid]
  · refine ⟨toInt_totalLength_withFiles metainfo hpos, fun others hperm => ?_⟩
    have hothers : ∀ file ∈ others, 0 ≤ file.length := fun file hfile =>
      hpos file (hperm.mem_iff.mpr hfile)
    -- Cutting off depends on the order, but here both orders come down to the exact sum.
    rw [← Int64.toInt_inj, toInt_totalLength_withFiles metainfo hothers,
      toInt_totalLength_withFiles metainfo hpos, exactLength_perm hperm]

/-- Two files that fill a word when they are read, and that are refused or cut off when they are
one octet longer. -/
theorem totalLength_exact_greatest :
    let metainfo := plain "t"
      { name := "n", pieceLength := 4, pieces := []
        content := .multiple [⟨9223372036854775806, ["a"]⟩, ⟨1, ["b"]⟩], privacy := none
        raw := some (Bytes.ofString ("d5:filesld6:lengthi9223372036854775806e4:pathl1:aee" ++
          "d6:lengthi1e4:pathl1:beee4:name1:n12:piece lengthi4e6:pieces0:e")) }
    let file (length : Int64) : Value := .dict [(Bytes.ofString "length", .int length),
      (Bytes.ofString "path", .list [Value.text "a"])]
    let entries : List (Bytes × Value) :=
      [(Bytes.ofString "files", .list [file 9223372036854775807, file 1]),
        (Bytes.ofString "name", Value.text "n"), (Bytes.ofString "piece length", .int 4),
        (Bytes.ofString "pieces", .bytes [])]
    let edited : List FileEntry := [⟨9223372036854775807, ["a"]⟩, ⟨1, []⟩]
    parse (Bytes.ofString ("d8:announce1:t4:infod5:filesld6:lengthi9223372036854775806e4:pathl1:" ++
      "aeed6:lengthi1e4:pathl1:beee4:name1:n12:piece lengthi4e6:pieces0:eetail")) = .ok metainfo ∧
    metainfo.totalLength.toInt = metainfo.info.content.exactLength ∧
    Info.ListsFiles entries [file 9223372036854775807, file 1] ∧
    Info.ofValue (.dict entries) = .error .totalLengthOverflow ∧
    (∀ file ∈ edited, 0 ≤ file.length) ∧
    (metainfo.withFiles edited).totalLength.toInt = maxWord := by
  intro metainfo file entries edited
  obtain ⟨hread, hlists, -, hedited⟩ := totalLength_exact
  have hparse : parse (Bytes.ofString
      ("d8:announce1:t4:infod5:filesld6:lengthi9223372036854775806e4:pathl1:" ++
        "aeed6:lengthi1e4:pathl1:beee4:name1:n12:piece lengthi4e6:pieces0:eetail")) =
      .ok metainfo := by
    decide +kernel
  have hisFile (length : Int64) (hpos : 0 ≤ length) : IsFile (file length) :=
    ⟨length, ["a"], by simp [file, Value.get?_dict, Dict.get?], hpos,
      by simp [file, Value.get?_dict, Dict.get?, Utf8.ofString_inj], by simp⟩
  have hentries : Info.ListsFiles entries [file 9223372036854775807, file 1] := by
    refine ⟨⟨4, ?_, by decide⟩, ⟨[], ?_⟩, ⟨"n", ?_⟩, ?_, ?_, ?_⟩
    · simp [entries, Dict.get?, Utf8.ofString_inj]
    · simp [entries, Dict.get?, Utf8.ofString_inj]
    · simp [entries, Dict.get?, Utf8.ofString_inj]
    · simp [entries, Dict.get?, Utf8.ofString_inj]
    · simp [entries, Dict.get?]
    · simpa using ⟨hisFile _ (by decide), hisFile _ (by decide)⟩
  have hpos : ∀ file ∈ edited, 0 ≤ file.length := by decide
  refine ⟨hparse, (hread metainfo (.parse hparse)).1, hentries,
    (hlists _ _ hentries).mpr ?_, hpos, ?_⟩
  · simp [filesLength, fileLength, file, Value.get?_dict, Dict.get?, Value.asInt?]
    decide
  · rw [(hedited metainfo edited hpos).1]
    decide

end Metainfo

end Swarm.Torrent
