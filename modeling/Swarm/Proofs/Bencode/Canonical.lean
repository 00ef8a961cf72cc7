import Swarm.Proofs.Bencode.Acceptance
import Swarm.Proofs.Bencode.WellFormed

/-!
# Writing again what was read

The canonical forms are exactly what is written for well-formed values. A decoded value is well
formed, so what is written for it are the octets it was read from just where they are canonical.
Where they are not, a redundant zero or an entry that does not count is lost, so that what is
written is never longer, and it decodes to the same value again.

## Main results

* `canonical_iff_exists_encode`: the canonical forms are what is written
* `Form.wellFormed`, `Form.nesting_le`: which values have a written form
* `Form.encode_eq_iff`: what is written is a given form just if that form is canonical
* `Form.length_encode_le`: no written form is shorter than the one that is written
* `encode_eq_take_iff_canonical`: decoding and writing again
-/

namespace Swarm.Bencode

/-! ## The values that have a written form -/

mutual

/-- A value that has a written form is well formed. -/
theorem Form.wellFormed : ∀ {room : Nat} {text : Bytes} {value : Value},
    Form room text value → value.WellFormed
  | _, _, _, .int n => .int n
  | _, _, _, .bytes _ => .bytes _
  | _, _, _, .list htext => .list htext.wellFormed
  | _, _, _, .dict htext => Value.wellFormed_ofEntries htext.wellFormed

theorem ItemsForm.wellFormed : ∀ {room : Nat} {text : Bytes} {items : List Value},
    ItemsForm room text items → ∀ item ∈ items, item.WellFormed
  | _, _, _, .nil => by simp
  | _, _, _, .cons htext hrest => by
    rw [List.forall_mem_cons]
    exact ⟨htext.wellFormed, hrest.wellFormed⟩

theorem EntriesForm.wellFormed : ∀ {room : Nat} {text : Bytes} {entries : List (Bytes × Value)},
    EntriesForm room text entries → ∀ entry ∈ entries, entry.2.WellFormed
  | _, _, _, .nil => by simp
  | _, _, _, .cons _ htext hrest => by
    rw [List.forall_mem_cons]
    exact ⟨htext.wellFormed, hrest.wellFormed⟩

end

theorem nestingItems_le_iff {room : Nat} {items : List Value} :
    Value.nestingItems items ≤ room ↔ ∀ item ∈ items, item.nesting ≤ room := by
  induction items with
  | nil => simp [Value.nestingItems]
  | cons item items ih =>
    rw [Value.nestingItems, Nat.max_le, ih, List.forall_mem_cons]

theorem nestingEntries_le_iff {room : Nat} {entries : List (Bytes × Value)} :
    Value.nestingEntries entries ≤ room ↔ ∀ entry ∈ entries, entry.2.nesting ≤ room := by
  induction entries with
  | nil => simp [Value.nestingEntries]
  | cons entry entries ih =>
    rw [Value.nestingEntries, Nat.max_le, ih, List.forall_mem_cons]

mutual

/-- A value that has a written form is nested no deeper than there is room. -/
theorem Form.nesting_le : ∀ {room : Nat} {text : Bytes} {value : Value},
    Form room text value → value.nesting ≤ room
  | _, _, _, .int _ => Nat.zero_le _
  | _, _, _, .bytes _ => Nat.zero_le _
  | _, _, _, .list htext => by
    rw [Value.nesting]
    exact Nat.succ_le_succ (nestingItems_le_iff.mpr htext.nesting_le)
  | _, _, _, .dict htext => by
    rw [Value.nesting]
    apply Nat.succ_le_succ
    -- The entries that an entry with their key follows are gone, and no other is added.
    refine nestingEntries_le_iff.mpr fun entry hentry => ?_
    exact htext.nesting_le entry (Dict.mem_of_mem_ofList hentry)

theorem ItemsForm.nesting_le : ∀ {room : Nat} {text : Bytes} {items : List Value},
    ItemsForm room text items → ∀ item ∈ items, item.nesting ≤ room
  | _, _, _, .nil => by simp
  | _, _, _, .cons htext hrest => by
    rw [List.forall_mem_cons]
    exact ⟨htext.nesting_le, hrest.nesting_le⟩

theorem EntriesForm.nesting_le : ∀ {room : Nat} {text : Bytes} {entries : List (Bytes × Value)},
    EntriesForm room text entries → ∀ entry ∈ entries, entry.2.nesting ≤ room
  | _, _, _, .nil => by simp
  | _, _, _, .cons _ htext hrest => by
    rw [List.forall_mem_cons]
    exact ⟨htext.nesting_le, hrest.nesting_le⟩

end

/-- Octets are a written form of one value only, whatever the room. -/
theorem Form.unique {room other : Nat} {text : Bytes} {value otherValue : Value}
    (h : Form room text value) (hother : Form other text otherValue) : value = otherValue :=
  (h.append_inj hother (congrArg (· ++ []) rfl)).2.1

/-! ## Canonical forms -/

theorem CanonicalString.eq_encodeString {text data : Bytes} (h : CanonicalString text data) :
    text = encodeString data := by
  obtain ⟨hne, hall, hlength, hzero⟩ := h
  rw [encodeString, ← hlength, Decimal.ofNat_toNat hne hall hzero]

mutual

theorem Canonical.exists_encode : ∀ {text : Bytes}, Canonical text →
    ∃ value : Value, value.WellFormed ∧ value.encode = text
  | _, .int n => ⟨.int n, .int n, rfl⟩
  | _, .bytes htext => ⟨.bytes _, .bytes _, htext.eq_encodeString.symm⟩
  | _, .list htext => by
    obtain ⟨items, hitems, rfl⟩ := htext.exists_encode
    exact ⟨.list items, .list hitems, rfl⟩
  | _, .dict htext hkeys => by
    obtain ⟨entries, hentries, rfl, rfl⟩ := htext.exists_encode
    exact ⟨.dict entries, .dict (List.pairwise_map.mp hkeys) hentries, rfl⟩

theorem CanonicalItems.exists_encode : ∀ {text : Bytes}, CanonicalItems text →
    ∃ items : List Value, (∀ item ∈ items, item.WellFormed) ∧ Value.encodeItems items = text
  | _, .nil => ⟨[], by simp, rfl⟩
  | _, .cons htext hrest => by
    obtain ⟨item, hitem, rfl⟩ := htext.exists_encode
    obtain ⟨items, hitems, rfl⟩ := hrest.exists_encode
    exact ⟨item :: items, List.forall_mem_cons.mpr ⟨hitem, hitems⟩, rfl⟩

theorem CanonicalEntries.exists_encode : ∀ {text : Bytes} {keys : List Bytes},
    CanonicalEntries text keys → ∃ entries : List (Bytes × Value),
      (∀ entry ∈ entries, entry.2.WellFormed) ∧ entries.map (·.1) = keys ∧
        Value.encodeEntries entries = text
  | _, _, .nil => ⟨[], by simp, rfl, rfl⟩
  | _, _, @CanonicalEntries.cons _ _ _ key _ hkey htext hrest => by
    obtain ⟨value, hvalue, rfl⟩ := htext.exists_encode
    obtain ⟨entries, hentries, rfl, rfl⟩ := hrest.exists_encode
    rw [hkey.eq_encodeString]
    exact ⟨(key, value) :: entries, List.forall_mem_cons.mpr ⟨hvalue, hentries⟩, rfl, rfl⟩

end

/-- **The canonical forms** are what is written for well-formed values. -/
theorem canonical_iff_exists_encode {text : Bytes} :
    Canonical text ↔ ∃ value : Value, value.WellFormed ∧ value.encode = text := by
  refine ⟨Canonical.exists_encode, ?_⟩
  rintro ⟨value, hvalue, rfl⟩
  exact canonical_encode hvalue

/-- What is written for some value is a given form just if it is the value with that form and the
form is canonical. -/
theorem Form.encode_eq_iff {room : Nat} {text : Bytes} {value other : Value}
    (h : Form room text value) (hother : other.WellFormed) :
    other.encode = text ↔ other = value ∧ Canonical text := by
  constructor
  · rintro rfl
    exact ⟨(form_encode hother (Nat.le_refl _)).unique h, canonical_encode hother⟩
  · rintro ⟨rfl, hcanonical⟩
    obtain ⟨written, hwritten, rfl⟩ := canonical_iff_exists_encode.mp hcanonical
    rw [h.unique (form_encode hwritten (Nat.le_refl _))]

/-! ## The length of what is written -/

theorem StringForm.length_encodeString_le {text data : Bytes} (h : StringForm text data) :
    (encodeString data).length ≤ text.length := by
  obtain ⟨hne, hall, hlength⟩ := h
  have hdigits := Decimal.length_ofNat_toNat_le hne hall
  rw [hlength] at hdigits
  simp only [encodeString, List.length_append]
  omega

theorem length_encodeEntries_insert_le (key : Bytes) (value : Value)
    (entries : List (Bytes × Value)) :
    (Value.encodeEntries (Dict.insert key value entries)).length ≤
      (Value.encodeEntries entries).length + (encodeString key ++ value.encode).length := by
  induction entries with
  | nil => simp [Dict.insert, Value.encodeEntries]
  | cons entry entries ih =>
    obtain ⟨first, held⟩ := entry
    rw [Dict.insert]
    -- The entry is added in front, takes the place of the first, or goes further back.
    split
    · simp only [Value.encodeEntries, List.length_append]
      omega
    · split
      · simp only [Value.encodeEntries, List.length_append]
        omega
      · simp only [Value.encodeEntries, List.length_append] at ih ⊢
        omega

/-- A dictionary takes no more octets than the entries that filled it. -/
theorem length_encodeEntries_ofList_le (entries : List (Bytes × Value)) :
    (Value.encodeEntries (Dict.ofList entries)).length ≤ (Value.encodeEntries entries).length := by
  have filled : ∀ rest start : List (Bytes × Value),
      (Value.encodeEntries
        (rest.foldl (fun dict entry => Dict.insert entry.1 entry.2 dict) start)).length ≤
        (Value.encodeEntries start).length + (Value.encodeEntries rest).length := by
    intro rest
    induction rest with
    | nil => simp [Value.encodeEntries]
    | cons entry rest ih =>
      intro start
      have hinsert := length_encodeEntries_insert_le entry.1 entry.2 start
      have hrest := ih (Dict.insert entry.1 entry.2 start)
      simp only [List.foldl_cons, Value.encodeEntries, List.length_append] at hinsert hrest ⊢
      omega
  have hfilled := filled entries []
  rwa [Value.encodeEntries, List.length_nil, Nat.zero_add] at hfilled

mutual

/-- **No written form is shorter** than the one that is written. -/
theorem Form.length_encode_le : ∀ {room : Nat} {text : Bytes} {value : Value},
    Form room text value → value.encode.length ≤ text.length
  | _, _, _, .int _ => Nat.le_refl _
  | _, _, _, .bytes htext => htext.length_encodeString_le
  | _, _, _, .list htext => by
    rw [Value.encode, length_marked, length_marked]
    have hitems := htext.length_encodeItems_le
    omega
  | _, _, _, @Form.dict _ _ entries htext => by
    rw [Value.encode, length_marked, length_marked]
    have hentries := htext.length_encodeEntries_le
    have hfilled := length_encodeEntries_ofList_le entries
    omega

theorem ItemsForm.length_encodeItems_le : ∀ {room : Nat} {text : Bytes} {items : List Value},
    ItemsForm room text items → (Value.encodeItems items).length ≤ text.length
  | _, _, _, .nil => Nat.le_refl _
  | _, _, _, .cons htext hrest => by
    rw [Value.encodeItems, List.length_append, List.length_append]
    exact Nat.add_le_add htext.length_encode_le hrest.length_encodeItems_le

theorem EntriesForm.length_encodeEntries_le : ∀ {room : Nat} {text : Bytes}
    {entries : List (Bytes × Value)},
    EntriesForm room text entries → (Value.encodeEntries entries).length ≤ text.length
  | _, _, _, .nil => Nat.le_refl _
  | _, _, _, .cons hkey htext hrest => by
    have hkeyText := hkey.length_encodeString_le
    have hvalue := htext.length_encode_le
    have hentries := hrest.length_encodeEntries_le
    simp only [Value.encodeEntries, List.length_append]
    omega

end

/-! ## Decoding and writing again -/

/-- What is written for a value nested no deeper than the decoder goes is decoded as a whole. -/
theorem decode_encode {value : Value} (h : value.WellFormed) (hnesting : value.nesting ≤ 64) :
    decode value.encode = .ok (value, value.encode.length) :=
  (form_encode h (Nat.le_refl _)).decode_eq hnesting

/-- **Writing again what was decoded** gives the octets it was decoded from just if they are
canonical. In every case it gives no more octets, and they decode to the same value. -/
theorem encode_eq_take_iff_canonical {data : Bytes} {value : Value} {size : Nat}
    (h : decode data = .ok (value, size)) :
    (value.encode = data.take size ↔ Canonical (data.take size)) ∧
      value.encode.length ≤ size ∧
      decode value.encode = .ok (value, value.encode.length) := by
  obtain ⟨hsize, hform⟩ := decode_eq_ok_iff.mp h
  refine ⟨?_, ?_, decode_encode hform.wellFormed hform.nesting_le⟩
  · rw [hform.encode_eq_iff hform.wellFormed, and_iff_right rfl]
  · have hlength := hform.length_encode_le
    rwa [List.length_take_of_le hsize] at hlength

/-- A redundant zero, keys that descend and an entry that does not count. -/
theorem encode_eq_take_iff_canonical_redundant :
    let data := Bytes.ofString "d01:bi1e1:bi2e1:a0:etail"
    let value : Value := .dict [(Bytes.ofString "a", .bytes []), (Bytes.ofString "b", .int 2)]
    decode data = .ok (value, 20) ∧
      (value.encode = data.take 20 ↔ Canonical (data.take 20)) ∧ value.encode.length ≤ 20 ∧
        decode value.encode = .ok (value, value.encode.length) := by
  have hdecode : decode (Bytes.ofString "d01:bi1e1:bi2e1:a0:etail") =
      .ok (.dict [(Bytes.ofString "a", .bytes []), (Bytes.ofString "b", .int 2)], 20) := by
    decide +kernel
  exact ⟨hdecode, encode_eq_take_iff_canonical hdecode⟩

end Swarm.Bencode
