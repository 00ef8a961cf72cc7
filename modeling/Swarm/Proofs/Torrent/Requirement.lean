import Mathlib.Data.Prod.Lex
import Mathlib.Order.WellFounded
import Swarm.Proofs.Torrent.Acceptance

/-!
# What a torrent must have

The requirements on a torrent are looked at in a fixed order, the entries of its files one by one.
A value that meets them all is a torrent, and any other is refused for the first requirement that
it does not meet, whatever else it lacks.

## Main definitions

* `Requirement`: the requirements, with the fault of each
* `Requirement.Before`: their order
* `Requirement.Met`: which values meet a requirement

## Main results

* `Requirement.exists_first`: what is not met has a first requirement that is not met
* `Metainfo.ofValue_of_first`: the fault of a value is that of the first
* `Metainfo.ofValue_requirements`: what is accepted, and what any other value is refused for
-/

namespace Swarm.Torrent

open Bencode (Value map_eq_ok_iff map_eq_error_iff)

/-- The values that stand for files, if there is a list of them. -/
def fileValues (value : Value) : List Value :=
  ((infoField value "files").bind Value.asList?).getD []

/-- **A value that stands for a file**: it has a length that is not negative, and a path of texts
that is not empty. -/
def IsFile (value : Value) : Prop :=
  ∃ (length : Int64) (path : List String), value.get? "length" = some (.int length) ∧
    0 ≤ length ∧ value.get? "path" = some (.list (path.map Value.text)) ∧ path ≠ []

/-- The length that a value that stands for a file tells. -/
def fileLength (value : Value) : Int :=
  ((value.get? "length").bind Value.asInt?).elim 0 Int64.toInt

/-- The sum of the lengths that values tell. -/
def filesLength (values : List Value) : Int :=
  values.foldr (fun value total => fileLength value + total) 0

/-- What a torrent must have. -/
inductive Requirement where
  | dictionary
  | announce
  | info
  | pieceLength
  | pieces
  | name
  | layout
  | file (index : Nat)
  | total

namespace Requirement

/-- The fault of a value that does not meet a requirement. -/
def fault : Requirement → MetainfoError
  | dictionary => .notADictionary
  | announce => .missingOrInvalidAnnounce
  | info => .missingOrInvalidInfo
  | pieceLength => .missingOrInvalidPieceLength
  | pieces => .missingOrInvalidPieces
  | name => .missingOrInvalidName
  | layout => .missingLengthOrFiles
  | file index => .invalidFileEntry index
  | total => .totalLengthOverflow

/-- **The values that meet a requirement.** A requirement on what is not there is met: that it has
to be there is a requirement of its own. -/
def Met (value : Value) : Requirement → Prop
  | dictionary => ∃ entries, value = .dict entries
  | announce => ∃ text, value.get? "announce" = some (Value.text text)
  | info => ∃ fields, value.get? "info" = some (.dict fields)
  | pieceLength => ∃ length, infoField value "piece length" = some (.int length) ∧ 0 < length
  | pieces => ∃ digests, infoField value "pieces" = some (.bytes digests)
  | name => ∃ text, infoField value "name" = some (Value.text text)
  | layout =>
    (∃ length, infoField value "length" = some (.int length) ∧ 0 ≤ length ∧
      infoField value "files" = none) ∨
    ∃ values, infoField value "files" = some (.list values) ∧ infoField value "length" = none
  | file index => ∀ entry, (fileValues value)[index]? = some entry → IsFile entry
  | total => filesLength (fileValues value) ≤ maxWord

/-! ## The order -/

/-- The place of a requirement among the others, all files having the same. -/
def stage : Requirement → Nat
  | dictionary => 0
  | announce => 1
  | info => 2
  | pieceLength => 3
  | pieces => 4
  | name => 5
  | layout => 6
  | file _ => 7
  | total => 8

/-- The place of a requirement on a file among those on files. -/
def index : Requirement → Nat
  | file index => index
  | _ => 0

/-- **Which requirement is looked at before which**: files are looked at in their order. -/
inductive Before : Requirement → Requirement → Prop where
  | stage {earlier later : Requirement} (h : earlier.stage < later.stage) : Before earlier later
  | file {i j : Nat} (h : i < j) : Before (file i) (file j)

theorem wellFounded_before : WellFounded Before := by
  have hlex : WellFounded (Prod.Lex (· < · : Nat → Nat → Prop) (· < · : Nat → Nat → Prop)) :=
    WellFounded.prod_lex wellFounded_lt wellFounded_lt
  refine Subrelation.wf ?_ (InvImage.wf (fun r : Requirement => (r.stage, r.index)) hlex)
  rintro _ _ (h | h)
  · exact .left _ _ h
  · exact .right _ h

/-- Only files share a place. -/
theorem stage_lt_of_ne {r later : Requirement} (h : r.stage ≤ later.stage) (hne : later ≠ r)
    (hfile : ∀ index, r ≠ file index) : r.stage < later.stage := by
  refine Nat.lt_of_le_of_ne h fun hstage => ?_
  cases r <;> cases later <;> simp_all [stage]

/-- The first requirement that a value does not meet. -/
def IsFirst (value : Value) (first : Requirement) : Prop :=
  ¬Met value first ∧ ∀ earlier, Before earlier first → Met value earlier

theorem exists_first {value : Value} {r : Requirement} (h : ¬Met value r) :
    ∃ first, IsFirst value first := by
  obtain ⟨first, hunmet, hmin⟩ := wellFounded_before.has_min {r | ¬Met value r} ⟨r, h⟩
  exact ⟨first, hunmet, fun earlier hbefore => by_contra fun hne => hmin earlier hne hbefore⟩

end Requirement

variable {value : Value} {fields : List (Bytes × Value)} {first : Requirement}

/-! ## Files -/

namespace FileEntry

theorem exists_ofValue?_iff : (∃ file, ofValue? value = some file) ↔ IsFile value := by
  simp only [ofValue?_eq_some_iff, IsFile, Value.get?_eq_some_iff]
  constructor
  · rintro ⟨file, entries, rfl, hlength, hpath, hpos, hne⟩
    exact ⟨file.length, file.path, ⟨entries, rfl, hlength⟩, hpos, ⟨entries, rfl, hpath⟩, hne⟩
  · rintro ⟨length, path, ⟨entries, rfl, hlength⟩, hpos, ⟨_, hdict, hpath⟩, hne⟩
    obtain rfl := Value.dict.inj hdict
    exact ⟨⟨length, path⟩, _, rfl, hlength, hpath, hpos, hne⟩

theorem fileLength_of_ofValue? {file : FileEntry} (h : ofValue? value = some file) :
    fileLength value = file.length.toInt := by
  obtain ⟨entries, rfl, hlength, -⟩ := ofValue?_eq_some_iff.mp h
  simp [fileLength, Value.get?, Value.asDict?, hlength, Value.asInt?]

/-- Values that stand for files are read, and their lengths add up to the lengths of the files. -/
theorem exists_files {values : List Value} (h : ∀ value ∈ values, IsFile value) :
    ∃ files : List FileEntry, values.map ofValue? = files.map some ∧
      exactLength files = filesLength values := by
  induction values with
  | nil => exact ⟨[], rfl, rfl⟩
  | cons value values ih =>
    rw [List.forall_mem_cons] at h
    obtain ⟨file, hfile⟩ := exists_ofValue?_iff.mpr h.1
    obtain ⟨files, hfiles, hsum⟩ := ih h.2
    refine ⟨file :: files, by rw [List.map_cons, hfile, hfiles, List.map_cons], ?_⟩
    simp only [filesLength, exactLength, List.foldr_cons] at hsum ⊢
    rw [fileLength_of_ofValue? hfile, hsum]

/-- The first value that stands for no file is reported by its index. -/
theorem ofValues_of_first {values : List Value} {k : Nat} {entry : Value}
    (hentry : values[k]? = some entry) (hbad : ¬IsFile entry)
    (hearlier : ∀ j < k, ∀ other, values[j]? = some other → IsFile other) (start : Nat) :
    ofValues start values = .error (.invalidFileEntry (start + k)) := by
  -- The values before it stand for files, which only moves the index on.
  induction values generalizing k start with
  | nil => exact absurd hentry (by simp)
  | cons value values ih =>
    cases k with
    | zero =>
      obtain rfl : value = entry := by simpa using hentry
      have hnone : ofValue? value = none := by
        rw [Option.eq_none_iff_forall_ne_some]
        exact fun file hfile => hbad (exists_ofValue?_iff.mp ⟨file, hfile⟩)
      rw [ofValues, hnone]
      rfl
    | succ k =>
      obtain ⟨file, hfile⟩ := exists_ofValue?_iff.mpr (hearlier 0 (Nat.succ_pos k) value rfl)
      have hrest := ih hentry (fun j hj => hearlier (j + 1) (Nat.succ_lt_succ hj)) (start + 1)
      rw [ofValues, hfile]
      dsimp only
      rw [hrest, Nat.add_right_comm, Nat.add_assoc]
      rfl

end FileEntry

theorem fileValues_of_list {values : List Value}
    (h : infoField value "files" = some (.list values)) : fileValues value = values := by
  rw [fileValues, h]
  rfl

theorem isFile_of_met {values : List Value} (h : infoField value "files" = some (.list values))
    (hmet : ∀ index, Requirement.Met value (.file index)) : ∀ entry ∈ values, IsFile entry := by
  intro entry hentry
  obtain ⟨index, hindex⟩ := List.mem_iff_getElem?.mp hentry
  exact hmet index entry (by rw [fileValues_of_list h, hindex])

theorem fileValues_of_none (h : infoField value "files" = none) : fileValues value = [] := by
  rw [fileValues, h]
  rfl

/-! ## The info dictionary -/

theorem filter_intAt?_eq_some_iff {key : String} {n : Int64} :
    (intAt? fields key).filter (0 < ·) = some n ↔
      Dict.get? (Bytes.ofString key) fields = some (.int n) ∧ 0 < n := by
  rw [Option.filter_eq_some_iff, intAt?_eq_some_iff, decide_eq_true_iff]

theorem bind_asBytes?_eq_some_iff {key : Bytes} {data : Bytes} :
    (Dict.get? key fields).bind Value.asBytes? = some data ↔
      Dict.get? key fields = some (.bytes data) := by
  simp only [Option.bind_eq_some_iff, Value.asBytes?_eq_some_iff, exists_eq_right]

section Fields

variable (hinfo : value.get? "info" = some (.dict fields))
include hinfo

namespace Content

/-- The fault of a layout is that of the first requirement on it that is not met. -/
theorem ofEntries_of_first (h : first.IsFirst value)
    (hstage : Requirement.name.stage < first.stage) :
    ofEntries fields = .error first.fault := by
  obtain ⟨hunmet, hearlier⟩ := h
  cases first with
  | layout =>
    simp only [Requirement.Met, infoField_of_info hinfo, not_or, not_exists, not_and] at hunmet
    obtain ⟨hsingle, hmultiple⟩ := hunmet
    rw [ofEntries_eq]
    unfold ofFields
    split
    · rename_i length hlength hfiles
      rw [if_neg fun hpos => hsingle length hlength hpos hfiles]
      rfl
    · rename_i values hlength hfiles
      exact absurd hlength (hmultiple values hfiles)
    · rfl
  | file index =>
    simp only [Requirement.Met, not_forall] at hunmet
    obtain ⟨entry, hentry, hbad⟩ := hunmet
    rcases hearlier .layout (.stage (Nat.lt_succ_self 6)) with
      ⟨_, -, -, hfiles⟩ | ⟨values, hfiles, hlength⟩
    · rw [fileValues_of_none hfiles] at hentry
      exact absurd hentry (by simp)
    · rw [fileValues_of_list hfiles] at hentry
      have hbefore : ∀ j < index, ∀ other, values[j]? = some other → IsFile other := by
        intro j hj other hother
        rw [← fileValues_of_list hfiles] at hother
        exact hearlier (.file j) (.file hj) other hother
      have hread := FileEntry.ofValues_of_first hentry hbad hbefore 0
      rw [infoField_of_info hinfo] at hfiles hlength
      simp only [ofEntries_eq, ofFields, hfiles, hlength, hread, Nat.zero_add, Requirement.fault]
  | total =>
    simp only [Requirement.Met, Int.not_le] at hunmet
    rcases hearlier .layout (.stage (by decide)) with
      ⟨_, -, -, hfiles⟩ | ⟨values, hfiles, hlength⟩
    · rw [fileValues_of_none hfiles] at hunmet
      exact absurd hunmet (by decide)
    · rw [fileValues_of_list hfiles] at hunmet
      -- All values stand for files, so that the sum of the lengths is what is left to fail.
      obtain ⟨files, hread, hsum⟩ := FileEntry.exists_files
        (isFile_of_met hfiles fun index => hearlier (.file index) (.stage (Nat.lt_succ_self 7)))
      rw [← FileEntry.ofValues_eq_ok_iff 0] at hread
      rw [← hsum, ← checkedLength?_eq_none_iff (FileEntry.length_nonneg_of_ofValues hread)]
        at hunmet
      rw [infoField_of_info hinfo] at hfiles hlength
      simp only [ofEntries_eq, ofFields, hfiles, hlength, hread, hunmet, Requirement.fault]
  | _ => exact absurd hstage (by decide)

/-- A layout that meets the requirements on it is read. -/
theorem exists_of_met (h : ∀ r, Requirement.Met value r) :
    ∃ content, ofEntries fields = .ok content := by
  rcases h .layout with ⟨length, hlength, hpos, hfiles⟩ | ⟨values, hfiles, hlength⟩
  · rw [infoField_of_info hinfo] at hfiles hlength
    exact ⟨.single length, ofEntries_eq_single_iff.mpr ⟨hlength, hfiles, hpos⟩⟩
  · have htotal : filesLength (fileValues value) ≤ maxWord := h .total
    obtain ⟨files, hread, hsum⟩ :=
      FileEntry.exists_files (isFile_of_met hfiles fun index => h (.file index))
    rw [fileValues_of_list hfiles, ← hsum] at htotal
    rw [infoField_of_info hinfo] at hfiles hlength
    exact ⟨.multiple files,
      ofEntries_eq_multiple_iff.mpr ⟨hlength, ⟨values, hfiles, hread⟩, htotal⟩⟩

end Content

namespace Info

/-- The fault of an info dictionary is that of the first requirement on it that is not met. -/
theorem ofEntries_of_first (h : first.IsFirst value)
    (hstage : Requirement.info.stage < first.stage) :
    ofEntries fields = .error first.fault := by
  obtain ⟨hunmet, hearlier⟩ := id h
  -- One field after the other is the first fault, or is as it has to be.
  by_cases hlength : first = .pieceLength
  · subst hlength
    simp only [Requirement.Met, infoField_of_info hinfo, ← filter_intAt?_eq_some_iff] at hunmet
    rw [ofEntries_eq, Option.eq_none_iff_forall_ne_some.mpr (not_exists.mp hunmet)]
    rfl
  have hlength : Requirement.pieceLength.stage < first.stage :=
    Requirement.stage_lt_of_ne hstage hlength (by simp)
  obtain ⟨pieceLength, hpieceLength⟩ := hearlier .pieceLength (.stage hlength)
  rw [infoField_of_info hinfo, ← filter_intAt?_eq_some_iff] at hpieceLength
  by_cases hpieces : first = .pieces
  · subst hpieces
    simp only [Requirement.Met, infoField_of_info hinfo, ← bind_asBytes?_eq_some_iff] at hunmet
    rw [ofEntries_eq, hpieceLength, Option.eq_none_iff_forall_ne_some.mpr (not_exists.mp hunmet)]
    rfl
  have hpieces : Requirement.pieces.stage < first.stage :=
    Requirement.stage_lt_of_ne hlength hpieces (by simp)
  obtain ⟨digests, hdigests⟩ := hearlier .pieces (.stage hpieces)
  rw [infoField_of_info hinfo, ← bind_asBytes?_eq_some_iff] at hdigests
  by_cases hname : first = .name
  · subst hname
    simp only [Requirement.Met, infoField_of_info hinfo, ← textAt?_eq_some_iff] at hunmet
    rw [ofEntries_eq, hpieceLength, hdigests,
      Option.eq_none_iff_forall_ne_some.mpr (not_exists.mp hunmet)]
    rfl
  have hname : Requirement.name.stage < first.stage :=
    Requirement.stage_lt_of_ne hpieces hname (by simp)
  obtain ⟨name, htext⟩ := hearlier .name (.stage hname)
  rw [infoField_of_info hinfo, ← textAt?_eq_some_iff] at htext
  rw [ofEntries_eq, hpieceLength, hdigests, htext]
  dsimp only
  rw [map_eq_error_iff]
  exact Content.ofEntries_of_first hinfo h hname

/-- An info dictionary that meets the requirements on it is read. -/
theorem exists_of_met (h : ∀ r, Requirement.Met value r) :
    ∃ info, ofEntries fields = .ok info := by
  obtain ⟨pieceLength, hpieceLength, hpos⟩ := h .pieceLength
  obtain ⟨pieces, hpieces⟩ := h .pieces
  obtain ⟨name, hname⟩ := h .name
  obtain ⟨content, hcontent⟩ := Content.exists_of_met hinfo h
  rw [infoField_of_info hinfo] at hpieceLength hpieces hname
  refine ⟨⟨name, pieceLength, pieces, content, intAt? fields "private", none⟩,
    ofEntries_eq_ok_iff.mpr ⟨⟨intAt?_eq_some_iff.mpr hpieceLength, hpos⟩, ?_,
      textAt?_eq_some_iff.mpr hname, hcontent, rfl, rfl⟩⟩
  rw [hpieces]
  rfl

end Info

end Fields

/-! ## Torrents -/

namespace Metainfo

/-- The fault of a value is that of the first requirement that it does not meet. -/
theorem ofValue_of_first (h : first.IsFirst value) : ofValue value = .error first.fault := by
  obtain ⟨hunmet, hearlier⟩ := id h
  by_cases hdict : first = .dictionary
  · subst hdict
    simp only [Requirement.Met, ← Value.asDict?_eq_some_iff] at hunmet
    rw [ofValue, Option.eq_none_iff_forall_ne_some.mpr (not_exists.mp hunmet)]
    rfl
  have hdict : Requirement.dictionary.stage < first.stage :=
    Requirement.stage_lt_of_ne (Nat.zero_le _) hdict (by simp)
  obtain ⟨entries, rfl⟩ := hearlier .dictionary (.stage hdict)
  rw [ofValue_dict]
  by_cases hannounce : first = .announce
  · subst hannounce
    simp only [Requirement.Met, Value.get?_dict, ← textAt?_eq_some_iff] at hunmet
    rw [Option.eq_none_iff_forall_ne_some.mpr (not_exists.mp hunmet)]
    rfl
  have hannounce : Requirement.announce.stage < first.stage :=
    Requirement.stage_lt_of_ne hdict hannounce (by simp)
  obtain ⟨announce, htext⟩ := hearlier .announce (.stage hannounce)
  rw [Value.get?_dict, ← textAt?_eq_some_iff] at htext
  rw [htext]
  dsimp only
  by_cases hinfo : first = .info
  · subst hinfo
    simp only [Requirement.Met, Value.get?_dict] at hunmet
    cases hget : Dict.get? (Bytes.ofString "info") entries with
    | none => rfl
    | some description =>
      dsimp only
      rw [map_eq_error_iff]
      cases description with
      | dict fields => exact absurd ⟨fields, hget⟩ hunmet
      | _ => rfl
  have hinfo : Requirement.info.stage < first.stage :=
    Requirement.stage_lt_of_ne hannounce hinfo (by simp)
  obtain ⟨fields, hfields⟩ := hearlier .info (.stage hinfo)
  have hdescription := Info.ofEntries_of_first hfields h hinfo
  rw [Value.get?_dict] at hfields
  rw [hfields]
  dsimp only
  rw [map_eq_error_iff]
  exact hdescription

/-- A value that meets all requirements is a torrent. -/
theorem exists_of_met (h : ∀ r, Requirement.Met value r) :
    ∃ metainfo, ofValue value = .ok metainfo := by
  obtain ⟨entries, rfl⟩ := h .dictionary
  obtain ⟨announce, hannounce⟩ := h .announce
  obtain ⟨fields, hfields⟩ := h .info
  obtain ⟨info, hinfo⟩ := Info.exists_of_met hfields h
  exact ⟨⟨announce, _, _, _, _, _, info⟩, ofValue_eq_ok_iff.mpr ⟨entries, .dict fields, rfl,
    textAt?_eq_some_iff.mpr hannounce, hfields, hinfo, rfl, rfl, rfl, rfl, rfl⟩⟩

/-- A fault is reported just if it is that of the first requirement that is not met. -/
theorem ofValue_eq_error_iff {fault : MetainfoError} :
    ofValue value = .error fault ↔
      ∃ first : Requirement, first.IsFirst value ∧ first.fault = fault := by
  constructor
  · intro h
    by_cases hmet : ∀ r, Requirement.Met value r
    · obtain ⟨metainfo, hok⟩ := exists_of_met hmet
      exact absurd (hok.symm.trans h) (by simp)
    · obtain ⟨r, hr⟩ := not_forall.mp hmet
      obtain ⟨first, hfirst⟩ := Requirement.exists_first hr
      exact ⟨first, hfirst, Except.error.inj ((ofValue_of_first hfirst).symm.trans h)⟩
  · rintro ⟨first, hfirst, rfl⟩
    exact ofValue_of_first hfirst

/-- **What a torrent must have**: a value is a torrent just if it meets all requirements, and any
other is refused for the first that it does not meet. -/
theorem ofValue_requirements (value : Value) :
    ((∃ metainfo, ofValue value = .ok metainfo) ↔ ∀ r, Requirement.Met value r) ∧
    ∀ fault, ofValue value = .error fault ↔
      ∃ first : Requirement, first.IsFirst value ∧ first.fault = fault := by
  refine ⟨⟨?_, exists_of_met⟩, fun _ => ofValue_eq_error_iff⟩
  rintro ⟨metainfo, hok⟩
  by_contra hmet
  obtain ⟨r, hr⟩ := not_forall.mp hmet
  obtain ⟨first, hfirst⟩ := Requirement.exists_first hr
  exact absurd (hok.symm.trans (ofValue_of_first hfirst)) (by simp)

end Metainfo

end Swarm.Torrent
