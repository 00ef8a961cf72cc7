import Swarm.Proofs.Torrent.Acceptance

/-!
# Optional and unknown keys

What a torrent must have is read from its own keys alone. Every other key, of the dictionary and of
the info dictionary, may be there or not and hold anything: it decides neither whether the torrent
is accepted nor what its content is. An optional field is read from its own key in the same way,
and is absent where that holds no value of its kind.

## Main definitions

* `SameRequired`: two values that tell the same tracker and the same content
* `SameOutcome`: two readings with the same fault, or torrents with the same tracker and content
* `Selects`: the elements of a list that have a meaning, in order, with their meanings
* `OptionalFields`: what the optional fields of a torrent are

## Main results

* `filterMap_eq_iff_selects`: what a filter keeps
* `Info.ofEntries_of_same`: the content is read from its own keys
* `Metainfo.ofValue_independent`: no other key has a part in what is read
-/

namespace Swarm.Torrent

open Bencode (Value)

/-! ## What is kept of a list -/

/-- **The elements of a list that have a meaning**, in order, each with its meaning. The others are
skipped. -/
inductive Selects {α β : Type} (means : α → β → Prop) : List α → List β → Prop where
  | nil : Selects means [] []
  | keep {a : α} {b : β} {items : List α} {kept : List β} (h : means a b)
      (hrest : Selects means items kept) : Selects means (a :: items) (b :: kept)
  | skip {a : α} {items : List α} {kept : List β} (h : ∀ b, ¬means a b)
      (hrest : Selects means items kept) : Selects means (a :: items) kept

theorem filterMap_eq_iff_selects {α β : Type} {means : α → β → Prop} {f : α → Option β}
    (h : ∀ a b, f a = some b ↔ means a b) {items : List α} {kept : List β} :
    items.filterMap f = kept ↔ Selects means items kept := by
  -- By induction on the list in one direction, and on the selection in the other.
  constructor
  · rintro rfl
    induction items with
    | nil => exact .nil
    | cons a items ih =>
      cases hfa : f a with
      | none =>
        rw [List.filterMap_cons_none hfa]
        refine .skip (fun b hb => ?_) ih
        rw [← h, hfa] at hb
        exact absurd hb (by simp)
      | some b =>
        rw [List.filterMap_cons_some hfa]
        exact .keep ((h a b).mp hfa) ih
  · intro hselects
    induction hselects with
    | nil => rfl
    | keep hmeans _ ih => rw [List.filterMap_cons_some ((h _ _).mpr hmeans), ih]
    | skip hmeans _ ih =>
      rw [List.filterMap_cons_none, ih]
      exact Option.eq_none_iff_forall_ne_some.mpr fun b hb => hmeans b ((h _ _).mp hb)

/-- **A tier of trackers**: a list, with its texts in order. -/
def IsTier (value : Value) (tier : List String) : Prop :=
  ∃ items, value = .list items ∧ Selects (fun item text => item = Value.text text) items tier

theorem tiers?_eq_some_iff {value : Value} {tiers : List (List String)} :
    Metainfo.tiers? value = some tiers ↔
      ∃ values, value = .list values ∧ Selects IsTier values tiers := by
  have hitems : ∀ {items : List Value} {tier : List String},
      items.filterMap Value.asText? = tier ↔
        Selects (fun item text => item = Value.text text) items tier :=
    filterMap_eq_iff_selects fun _ _ => Value.asText?_eq_some_iff
  have htier : ∀ (value : Value) (tier : List String),
      value.asList?.map (·.filterMap Value.asText?) = some tier ↔ IsTier value tier := by
    intro value tier
    simp only [Option.map_eq_some_iff, Value.asList?_eq_some_iff, hitems, IsTier]
  simp only [Metainfo.tiers?, Option.map_eq_some_iff, Value.asList?_eq_some_iff,
    filterMap_eq_iff_selects htier]

/-! ## The same content -/

/-- The keys of the info dictionary that tell the content. -/
def contentKeys : List String :=
  ["name", "piece length", "pieces", "length", "files"]

namespace Info

variable {fields others : List (Bytes × Value)}

/-- The content is read from its own keys: only the privacy flag can differ where these hold the
same. -/
theorem ofEntries_of_same (h : ∀ key ∈ contentKeys,
    Dict.get? (Bytes.ofString key) fields = Dict.get? (Bytes.ofString key) others) :
    ofEntries others =
      (ofEntries fields).map fun info => { info with privacy := intAt? others "private" } := by
  have hpieceLength : intAt? fields "piece length" = intAt? others "piece length" :=
    congrArg (·.bind Value.asInt?) (h "piece length" (by simp [contentKeys]))
  have hpieces := h "pieces" (by simp [contentKeys])
  have hname : textAt? fields "name" = textAt? others "name" :=
    congrArg (·.bind Value.asText?) (h "name" (by simp [contentKeys]))
  have hlayout : Content.ofEntries fields = Content.ofEntries others := by
    rw [Content.ofEntries_eq, Content.ofEntries_eq, h "length" (by simp [contentKeys]),
      h "files" (by simp [contentKeys])]
  rw [ofEntries_eq, ofEntries_eq, hpieceLength, hpieces, hname, hlayout]
  cases (intAt? others "piece length").filter (0 < ·) with
  | none => rfl
  | some pieceLength =>
    cases (Dict.get? (Bytes.ofString "pieces") others).bind Value.asBytes? with
    | none => rfl
    | some pieces =>
      cases textAt? others "name" with
      | none => rfl
      | some name => cases Content.ofEntries others <;> rfl

end Info

/-! ## The same torrent -/

/-- **Two values that tell the same tracker and the same content.** Both have an info dictionary,
and under all other keys they may hold different values, or none. -/
structure SameRequired (value other : Value) : Prop where
  announce : value.get? "announce" = other.get? "announce"
  info : ∃ fields, value.get? "info" = some (.dict fields)
  otherInfo : ∃ fields, other.get? "info" = some (.dict fields)
  content : ∀ key ∈ contentKeys, infoField value key = infoField other key

namespace Metainfo

/-- Two torrents with the same tracker and the same content, and with the same pieces. -/
structure Agrees (metainfo other : Metainfo) : Prop where
  announce : metainfo.announce = other.announce
  name : metainfo.info.name = other.info.name
  pieceLength : metainfo.info.pieceLength = other.info.pieceLength
  pieces : metainfo.info.pieces = other.info.pieces
  content : metainfo.info.content = other.info.content
  numPieces : metainfo.numPieces = other.numPieces
  totalLength : metainfo.totalLength = other.totalLength
  lengthOfPiece : ∀ index, metainfo.pieceLength index = other.pieceLength index
  hashOfPiece : ∀ index, metainfo.pieceHash index = other.pieceHash index

/-- **Two readings with the same outcome**: the same fault, or torrents that agree. -/
inductive SameOutcome : Except MetainfoError Metainfo → Except MetainfoError Metainfo → Prop where
  | error (fault : MetainfoError) : SameOutcome (.error fault) (.error fault)
  | ok {metainfo other : Metainfo} (h : metainfo.Agrees other) :
      SameOutcome (.ok metainfo) (.ok other)

theorem sameOutcome_of_sameRequired {value other : Value} (h : SameRequired value other) :
    SameOutcome (ofValue value) (ofValue other) := by
  obtain ⟨fields, hinfo⟩ := h.info
  obtain ⟨otherFields, hotherInfo⟩ := h.otherInfo
  have hcontent := h.content
  simp only [infoField_of_info hinfo, infoField_of_info hotherInfo] at hcontent
  obtain ⟨entries, rfl, hget⟩ := Value.get?_eq_some_iff.mp hinfo
  obtain ⟨others, rfl, hotherGet⟩ := Value.get?_eq_some_iff.mp hotherInfo
  have hannounce : textAt? entries "announce" = textAt? others "announce" :=
    congrArg (·.bind Value.asText?) h.announce
  rw [ofValue_dict, ofValue_dict, hannounce, hget, hotherGet]
  cases textAt? others "announce" with
  | none => exact .error _
  | some announce =>
    dsimp only [Info.ofValue]
    rw [Info.ofEntries_of_same hcontent]
    cases Info.ofEntries fields with
    | error fault => exact .error fault
    | ok info =>
      -- The readings differ in the optional fields, on which nothing else of them depends.
      exact .ok ⟨rfl, rfl, rfl, rfl, rfl, rfl, rfl, fun _ => rfl, fun _ => rfl⟩

/-! ## Optional fields -/

/-- **What the optional fields of a torrent are**: what their own keys hold, if that is of the right
kind. -/
structure OptionalFields (value : Value) (metainfo : Metainfo) : Prop where
  creationDate : ∀ date, metainfo.creationDate = some date ↔
    value.get? "creation date" = some (.int date)
  comment : ∀ text, metainfo.comment = some text ↔ value.get? "comment" = some (Value.text text)
  createdBy : ∀ text, metainfo.createdBy = some text ↔
    value.get? "created by" = some (Value.text text)
  encoding : ∀ text, metainfo.encoding = some text ↔
    value.get? "encoding" = some (Value.text text)
  privacy : ∀ flag, metainfo.info.privacy = some flag ↔
    infoField value "private" = some (.int flag)
  announceList : ∀ tiers, metainfo.announceList = some tiers ↔
    ∃ values, value.get? "announce-list" = some (.list values) ∧ Selects IsTier values tiers
  /-- A list is never absent, even if it holds no tier. -/
  announceListOfList : ∀ values, value.get? "announce-list" = some (.list values) →
    ∃ tiers, metainfo.announceList = some tiers

theorem optionalFields_of_ofValue {value : Value} {metainfo : Metainfo}
    (h : ofValue value = .ok metainfo) : OptionalFields value metainfo := by
  obtain ⟨entries, info, rfl, -, hinfo, hdescription, htiers, hdate, hcomment, hmaker, hencoding⟩ :=
    ofValue_eq_ok_iff.mp h
  obtain ⟨fields, rfl, hfields⟩ := Info.ofValue_eq_ok_iff.mp hdescription
  obtain ⟨-, -, -, -, hprivacy, -⟩ := Info.ofEntries_eq_ok_iff.mp hfields
  refine ⟨fun date => ?_, fun text => ?_, fun text => ?_, fun text => ?_, fun flag => ?_,
    fun tiers => ?_, fun values hget => ?_⟩
  · rw [hdate, intAt?_eq_some_iff, Value.get?_dict]
  · rw [hcomment, textAt?_eq_some_iff, Value.get?_dict]
  · rw [hmaker, textAt?_eq_some_iff, Value.get?_dict]
  · rw [hencoding, textAt?_eq_some_iff, Value.get?_dict]
  · have hget : (Value.dict entries).get? "info" = some (.dict fields) := hinfo
    rw [hprivacy, intAt?_eq_some_iff, infoField_of_info hget]
  · rw [htiers, Value.get?_dict]
    simp only [Option.bind_eq_some_iff, tiers?_eq_some_iff]
    constructor
    · rintro ⟨_, hget, values, rfl, hselects⟩
      exact ⟨values, hget, hselects⟩
    · rintro ⟨values, hget, hselects⟩
      exact ⟨_, hget, values, rfl, hselects⟩
  · rw [Value.get?_dict] at hget
    rw [htiers, hget]
    exact ⟨_, rfl⟩

/-- **No other key has a part in what is read**: values that tell the same tracker and the same
content have the same outcome, and an optional field is what its own key holds. -/
theorem ofValue_independent :
    (∀ value other, SameRequired value other → SameOutcome (ofValue value) (ofValue other)) ∧
    ∀ value metainfo, ofValue value = .ok metainfo → OptionalFields value metainfo :=
  ⟨fun _ _ => sameOutcome_of_sameRequired, fun _ _ => optionalFields_of_ofValue⟩

/-- A privacy flag, and tiers with texts among other values, beside what a torrent must have. -/
theorem ofValue_independent_tiers :
    let content : List (Bytes × Value) :=
      [(Bytes.ofString "length", .int 5), (Bytes.ofString "name", Value.text "n"),
        (Bytes.ofString "piece length", .int 4), (Bytes.ofString "pieces", .bytes [])]
    let value : Value := .dict [(Bytes.ofString "announce", Value.text "t"),
      (Bytes.ofString "info", .dict content)]
    let other : Value := .dict [(Bytes.ofString "announce", Value.text "t"),
      (Bytes.ofString "announce-list", .list [.list [Value.text "u", .int 1], .int 2, .list []]),
      (Bytes.ofString "info", .dict (content ++ [(Bytes.ofString "private", .int 1)]))]
    ∃ metainfo, SameRequired value other ∧ ofValue other = .ok metainfo ∧
      metainfo.announceList = some [["u"], []] ∧
      SameOutcome (ofValue value) (ofValue other) ∧ OptionalFields other metainfo := by
  intro content value other
  have hsame : SameRequired value other := by
    have hinfo : value.get? "info" = some (.dict content) := by
      simp [value, Value.get?_dict, Dict.get?, Utf8.ofString_inj]
    have hotherInfo : other.get? "info" =
        some (.dict (content ++ [(Bytes.ofString "private", .int 1)])) := by
      simp [other, Value.get?_dict, Dict.get?, Utf8.ofString_inj]
    refine ⟨by simp [value, other, Value.get?_dict, Dict.get?], ⟨_, hinfo⟩, ⟨_, hotherInfo⟩, ?_⟩
    intro key hkey
    rw [infoField_of_info hinfo, infoField_of_info hotherInfo]
    have hne : key ≠ "private" := by
      rintro rfl
      exact absurd hkey (by decide)
    simp [content, Dict.get?, Utf8.ofString_inj, hne]
  have hother : ofValue other = .ok
      { announce := "t", announceList := some [["u"], []], creationDate := none, comment := none
        createdBy := none, encoding := none
        info :=
          { name := "n", pieceLength := 4, pieces := [], content := .single 5, privacy := some 1
            raw := none } } := by
    simp only [other, content, ofValue_dict, Info.ofValue, Info.ofEntries_eq, Content.ofEntries_eq]
    simp [textAt?, intAt?, Dict.get?, Utf8.ofString_inj, Content.ofFields, tiers?, Value.asInt?,
      Value.asBytes?, Value.asList?]
    rfl
  exact ⟨_, hsame, hother, rfl, ofValue_independent.1 value other hsame,
    ofValue_independent.2 other _ hother⟩

end Metainfo

end Swarm.Torrent
