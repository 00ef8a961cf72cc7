import Swarm.Proofs.Bencode.Lookup
import Swarm.Proofs.Bencode.Scalar

/-!
# What is written ends by itself

What is written for a value tells where it ends, so nothing is needed between two values that
stand one behind the other, and no octets are written for two values. The decoder refuses what is
nested too deep, so this is shown on the values and not by decoding: two values are compared along
their written forms, which for lists and dictionaries end at the closing octet, because no item
and no key starts with it.

## Main definitions

* `SelfDelimiting`: what is written ends by itself
* `Value.mark?`: the octet that opens what is written for a value

## Main results

* `SelfDelimiting.of_reads`: what is read exactly ends by itself
* `encode_append_inj`: what is written for a value ends by itself
* `encode_append_eq_iff`: which values, and which fillings of a dictionary, are written alike
-/

namespace Swarm.Bencode

/-- **Self-delimiting**: from what is written, and whatever follows it, both can be told. -/
def SelfDelimiting {α : Type} (write : α → Bytes) : Prop :=
  ∀ ⦃a b : α⦄ ⦃s t : Bytes⦄, write a ++ s = write b ++ t → a = b ∧ s = t

/-- What a reader takes exactly ends by itself. -/
theorem SelfDelimiting.of_reads {α : Type} {form : Bytes → α → Prop}
    {read : Bytes → Except DecodeError (Reading α)} {write : α → Bytes} (hread : Reads form read)
    (hform : ∀ a, form (write a) a) : SelfDelimiting write := by
  intro a b s t h
  exact (hread.append_inj (hform a) (hform b) h).2

theorem selfDelimiting_encodeString : SelfDelimiting encodeString :=
  .of_reads reads_string stringForm_encodeString

theorem selfDelimiting_encodeInt :
    SelfDelimiting fun n : Int64 => Decimal.ofInt n.toInt ++ [closing] :=
  .of_reads reads_integer fun _ => rfl

namespace Value

/-! ## The octet that a value starts with -/

section Mark

variable {v w : Value} {s t : Bytes}

/-- The octet that opens what is written for a value. A string is opened by a digit, which is no
mark. -/
def mark? : Value → Option UInt8
  | .int _ => some openInt
  | .bytes _ => none
  | .list _ => some openList
  | .dict _ => some openDict

theorem filter_head?_encode (v : Value) (rest : Bytes) :
    (v.encode ++ rest).head?.filter (!Bytes.isDigit ·) = v.mark? := by
  cases v with
  | bytes data =>
    obtain ⟨byte, tail, htext, hdigit⟩ := (stringForm_encodeString data).head_isDigit
    simp [encode, htext, hdigit, mark?]
  | _ => rfl

/-- Values that start alike are of one kind. -/
theorem mark?_eq_of_append (h : v.encode ++ s = w.encode ++ t) : v.mark? = w.mark? := by
  rw [← filter_head?_encode v s, ← filter_head?_encode w t, h]

/-- Nothing that is written for a value starts with the closing octet. -/
theorem encode_append_ne_closing : v.encode ++ s ≠ closing :: t := by
  intro h
  have hmark := filter_head?_encode v s
  rw [h, List.head?_cons] at hmark
  cases v <;> exact absurd hmark (by simp only [mark?]; decide)

end Mark

/-! ## Two values along their written forms -/

mutual

/-- **Values end by themselves**, however deep they are nested. -/
theorem encode_append_inj : ∀ {v w : Value} {s t : Bytes},
    v.encode ++ s = w.encode ++ t → v = w ∧ s = t
  | .int n, w, s, t, h => by
    -- The first octets are the same, and tell that the two values are of one kind.
    have hmark := mark?_eq_of_append h
    cases w with
    | int m =>
      rw [encode, encode, List.cons_append, List.cons_append] at h
      obtain ⟨rfl, rfl⟩ := selfDelimiting_encodeInt (List.cons.inj h).2
      exact ⟨rfl, rfl⟩
    | _ => exact absurd hmark (by simp only [mark?]; decide)
  | .bytes data, w, s, t, h => by
    have hmark := mark?_eq_of_append h
    cases w with
    | bytes other =>
      rw [encode, encode] at h
      obtain ⟨rfl, rfl⟩ := selfDelimiting_encodeString h
      exact ⟨rfl, rfl⟩
    | _ => exact absurd hmark (by simp only [mark?]; decide)
  | .list items, w, s, t, h => by
    have hmark := mark?_eq_of_append h
    cases w with
    | list others =>
      simp only [encode, List.cons_append, List.append_assoc, List.nil_append] at h
      obtain ⟨rfl, rfl⟩ := encodeItems_append_inj (List.cons.inj h).2
      exact ⟨rfl, rfl⟩
    | _ => exact absurd hmark (by simp only [mark?]; decide)
  | .dict entries, w, s, t, h => by
    have hmark := mark?_eq_of_append h
    cases w with
    | dict others =>
      simp only [encode, List.cons_append, List.append_assoc, List.nil_append] at h
      obtain ⟨rfl, rfl⟩ := encodeEntries_append_inj (List.cons.inj h).2
      exact ⟨rfl, rfl⟩
    | _ => exact absurd hmark (by simp only [mark?]; decide)

/-- Items end at the closing octet. -/
theorem encodeItems_append_inj : ∀ {a b : List Value} {s t : Bytes},
    encodeItems a ++ closing :: s = encodeItems b ++ closing :: t → a = b ∧ s = t
  | [], [], _, _, h => ⟨rfl, (List.cons.inj h).2⟩
  | [], w :: b, _, _, h => by
    rw [encodeItems, encodeItems, List.append_assoc] at h
    exact absurd h.symm encode_append_ne_closing
  | v :: a, [], _, _, h => by
    rw [encodeItems, encodeItems, List.append_assoc] at h
    exact absurd h encode_append_ne_closing
  | v :: a, w :: b, _, _, h => by
    rw [encodeItems, encodeItems, List.append_assoc, List.append_assoc] at h
    obtain ⟨rfl, hrest⟩ := encode_append_inj h
    obtain ⟨rfl, rfl⟩ := encodeItems_append_inj hrest
    exact ⟨rfl, rfl⟩

/-- Entries end at the closing octet. -/
theorem encodeEntries_append_inj : ∀ {a b : List (Bytes × Value)} {s t : Bytes},
    encodeEntries a ++ closing :: s = encodeEntries b ++ closing :: t → a = b ∧ s = t
  | [], [], _, _, h => ⟨rfl, (List.cons.inj h).2⟩
  | [], (key, w) :: b, _, _, h => by
    rw [encodeEntries, encodeEntries, List.append_assoc, List.append_assoc] at h
    -- A key is written as a string is.
    exact absurd h.symm (encode_append_ne_closing (v := .bytes key))
  | (key, v) :: a, [], _, _, h => by
    rw [encodeEntries, encodeEntries, List.append_assoc, List.append_assoc] at h
    exact absurd h (encode_append_ne_closing (v := .bytes key))
  | (key, v) :: a, (other, w) :: b, _, _, h => by
    simp only [encodeEntries, List.append_assoc] at h
    obtain ⟨rfl, hvalue⟩ := selfDelimiting_encodeString h
    obtain ⟨rfl, hrest⟩ := encode_append_inj hvalue
    obtain ⟨rfl, rfl⟩ := encodeEntries_append_inj hrest
    exact ⟨rfl, rfl⟩

end

theorem encode_inj {v w : Value} : v.encode = w.encode ↔ v = w := by
  refine ⟨fun h => ?_, congrArg encode⟩
  exact (encode_append_inj (congrArg (· ++ []) h)).1

/-- **What is written tells the value.** Of values nested as deep as may be, what is written for
one is what is written for the other, or the beginning of it, just if they are equal; and it can be
told from whatever follows it. A dictionary is written by what it holds under each key, in whatever
order it was filled. -/
theorem encode_append_eq_iff :
    (∀ (v w : Value) (s t : Bytes), v.encode ++ s = w.encode ++ t ↔ v = w ∧ s = t) ∧
    (∀ v w : Value, v.encode <+: w.encode ↔ v = w) ∧
    ∀ a b : List (Bytes × Value), (ofEntries a).encode = (ofEntries b).encode ↔
      ∀ key, Dict.get? key (Dict.ofList a) = Dict.get? key (Dict.ofList b) := by
  refine ⟨fun v w s t => ⟨encode_append_inj, ?_⟩, fun v w => ⟨?_, ?_⟩, fun a b => ?_⟩
  · rintro ⟨rfl, rfl⟩
    rfl
  · rintro ⟨rest, h⟩
    exact (encode_append_inj (h.trans (List.append_nil _).symm)).1
  · rintro rfl
    exact List.prefix_rfl
  · rw [encode_inj, ofEntries, ofEntries, Value.dict.injEq]
    constructor
    · intro h key
      rw [h]
    · exact Dict.eq_of_get?_eq (Dict.sorted_ofList a) (Dict.sorted_ofList b)

end Value

end Swarm.Bencode
