import Swarm.Bencode.Decode
import Swarm.Bencode.Grammar
import Swarm.Proofs.Bytes.Decimal

/-!
# Reading strings and integers

A reader is exact for a form of octets when it succeeds just on the octets that start with a text
of that form, gives the value the text stands for, and takes the text and no octet more. The
readers of strings and of integers look for their mark in all the octets that are left, and are
exact nevertheless: no mark stands inside a length or a number.

## Main definitions

* `Reads form read`: the reader is exact for the form

## Main results

* `reads_string`, `reads_integer`: the readers of strings and of integers are exact
* `Reads.eq_ok_iff`: what an exact reader succeeds on, told by the size of what it takes
-/

namespace Swarm.Bencode

@[ext] theorem Reading.ext {α : Type} {a b : Reading α} (hvalue : a.value = b.value)
    (hsize : a.size = b.size) : a = b := by
  cases a
  cases b
  subst hvalue hsize
  rfl

theorem map_eq_ok_iff {ε α β : Type} {f : α → β} {result : Except ε α} {b : β} :
    result.map f = .ok b ↔ ∃ a, result = .ok a ∧ f a = b := by
  cases result <;> simp [Except.map]

theorem map_eq_error_iff {ε α β : Type} {f : α → β} {result : Except ε α} {fault : ε} :
    result.map f = .error fault ↔ result = .error fault := by
  cases result <;> simp [Except.map]

/-- **Exactness**: a reader succeeds just on the octets that start with a text of a form, and
takes that text. -/
structure Reads {α : Type} (form : Bytes → α → Prop)
    (read : Bytes → Except DecodeError (Reading α)) : Prop where
  /-- What is read is a text of the form. -/
  sound {data : Bytes} {reading : Reading α} : read data = .ok reading →
    ∃ text rest, data = text ++ rest ∧ reading.size = text.length ∧ form text reading.value
  /-- A text of the form is read, whatever follows. -/
  complete {text : Bytes} {value : α} : form text value → ∀ rest : Bytes,
    ∃ hpos : 0 < text.length, read (text ++ rest) = .ok ⟨value, text.length, hpos⟩

/-- An exact reader succeeds just where a front of the octets is a text of the form. -/
theorem Reads.eq_ok_iff {α : Type} {form : Bytes → α → Prop}
    {read : Bytes → Except DecodeError (Reading α)} (h : Reads form read) {data : Bytes} {value : α}
    {size : Nat} :
    (read data).map (fun reading => (reading.value, reading.size)) = .ok (value, size) ↔
      size ≤ data.length ∧ form (data.take size) value := by
  rw [map_eq_ok_iff]
  constructor
  · rintro ⟨reading, hread, hpair⟩
    obtain ⟨rfl, rfl⟩ := Prod.mk.inj hpair
    obtain ⟨text, rest, rfl, hsize, htext⟩ := h.sound hread
    rw [hsize, List.take_left]
    refine ⟨?_, htext⟩
    rw [List.length_append]
    omega
  · rintro ⟨hsize, htext⟩
    have hlength : (data.take size).length = size := List.length_take_of_le hsize
    obtain ⟨_, hread⟩ := h.complete htext (data.drop size)
    rw [List.take_append_drop] at hread
    exact ⟨_, hread, congrArg (Prod.mk value) hlength⟩

/-- A text that is read exactly is told from what follows it. -/
theorem Reads.append_inj {α : Type} {form : Bytes → α → Prop}
    {read : Bytes → Except DecodeError (Reading α)} (hread : Reads form read) {text other : Bytes}
    {a b : α} (h : form text a) (hother : form other b) {s t : Bytes}
    (heq : text ++ s = other ++ t) : text = other ∧ a = b ∧ s = t := by
  obtain ⟨_, ha⟩ := hread.complete h s
  obtain ⟨_, hb⟩ := hread.complete hother t
  rw [heq, hb, Except.ok.injEq, Reading.mk.injEq] at ha
  obtain ⟨rfl, hlength⟩ := ha
  obtain ⟨htext, hrest⟩ := List.append_inj heq hlength.symm
  exact ⟨htext, rfl, hrest⟩

/-! ## The octets up to a mark -/

section Mark

variable {mark : UInt8}

theorem takeWhile_ne_append {front : Bytes} (h : mark ∉ front) (rest : Bytes) :
    (front ++ mark :: rest).takeWhile (· != mark) = front := by
  have hfront : ∀ byte ∈ front, (byte != mark) = true := by
    intro byte hbyte
    simpa using fun heq : byte = mark => h (heq ▸ hbyte)
  rw [List.takeWhile_append_of_pos hfront, List.takeWhile_cons_of_neg (by simp), List.append_nil]

theorem dropWhile_ne_append {front : Bytes} (h : mark ∉ front) (rest : Bytes) :
    (front ++ mark :: rest).dropWhile (· != mark) = mark :: rest := by
  have hfront : ∀ byte ∈ front, (byte != mark) = true := by
    intro byte hbyte
    simpa using fun heq : byte = mark => h (heq ▸ hbyte)
  rw [List.dropWhile_append_of_pos hfront, List.dropWhile_cons_of_neg (by simp)]

/-- The search for a mark stops at the mark. -/
theorem eq_append_of_dropWhile_ne {data rest : Bytes} {byte : UInt8}
    (h : data.dropWhile (· != mark) = byte :: rest) :
    data = data.takeWhile (· != mark) ++ mark :: rest := by
  have hmark : byte = mark := by
    have hstop := List.head?_dropWhile_not (· != mark) data
    rw [h] at hstop
    simpa using hstop
  rw [← hmark, ← h, hmark, List.takeWhile_append_dropWhile]

end Mark

/-! ## Strings -/

theorem StringForm.head_isDigit {text data : Bytes} (h : StringForm text data) :
    ∃ byte rest, text = byte :: rest ∧ Bytes.isDigit byte = true := by
  obtain ⟨hne, hall, -⟩ := h
  rename_i digits
  obtain ⟨byte, rest, rfl⟩ := List.exists_cons_of_ne_nil hne
  exact ⟨byte, _, rfl, List.all_eq_true.mp hall byte List.mem_cons_self⟩

theorem StringForm.ne_nil {text data : Bytes} (h : StringForm text data) : text ≠ [] := by
  obtain ⟨byte, rest, rfl, -⟩ := h.head_isDigit
  exact List.cons_ne_nil _ _

/-- **Strings are read exactly.** -/
theorem reads_string : Reads StringForm readString where
  sound := by
    intro data reading h
    cases hdrop : data.dropWhile (· != colon) with
    | nil => simp [readString, hdrop] at h
    | cons byte rest =>
      cases hlength : Decimal.nat? (data.takeWhile (· != colon)) with
      | none => simp [readString, hdrop, hlength] at h
      | some length =>
        simp only [readString, hdrop, hlength] at h
        split at h
        · rename_i hfits
          obtain ⟨hne, hall, htoNat⟩ := Decimal.nat?_eq_some_iff.mp hlength
          obtain rfl := Except.ok.inj h
          refine ⟨data.takeWhile (· != colon) ++ colon :: rest.take length, rest.drop length,
            ?_, ?_, .mk hne hall (htoNat.trans hfits.symm)⟩
          · rw [List.append_assoc, List.cons_append, List.take_append_drop]
            exact eq_append_of_dropWhile_ne hdrop
          · rw [List.length_append, List.length_cons, hfits]
            show _ + 1 + length = _
            omega
        · exact absurd h (by simp)
  complete := by
    rintro _ data ⟨hne, hall, hlength⟩ rest
    rename_i digits
    -- No digit is a colon, so the search stops behind the digits.
    have hcolon : colon ∉ digits := by
      intro hmem
      exact absurd (List.all_eq_true.mp hall colon hmem) (by decide)
    have hread : Decimal.nat? digits = some data.length :=
      Decimal.nat?_eq_some_iff.mpr ⟨hne, hall, hlength⟩
    have hfits : (data ++ rest).take data.length = data := List.take_left
    have hsize : (digits ++ colon :: data).length = digits.length + 1 + data.length := by
      rw [List.length_append, List.length_cons]
      omega
    refine ⟨by omega, ?_⟩
    unfold readString
    rw [List.append_assoc, List.cons_append]
    simp only [takeWhile_ne_append hcolon, dropWhile_ne_append hcolon, hread, hfits, if_true,
      hsize]

/-! ## Integers -/

/-- **Integers are read exactly**, in their one written form. -/
theorem reads_integer :
    Reads (fun text n => text = Decimal.ofInt n.toInt ++ [closing]) readInteger where
  sound := by
    intro data reading h
    cases hdrop : data.dropWhile (· != closing) with
    | nil => simp [readInteger, hdrop] at h
    | cons byte rest =>
      simp only [readInteger, hdrop] at h
      split at h
      · exact absurd h (by simp)
      · rename_i hzero
        split at h
        · exact absurd h (by simp)
        · rename_i hminus
          split at h
          · rename_i n hn
            have htext := Decimal.eq_ofInt_iff.mpr ⟨hzero, hminus, hn⟩
            obtain rfl := Except.ok.inj h
            refine ⟨data.takeWhile (· != closing) ++ [closing], rest, ?_, ?_, ?_⟩
            · rw [List.append_assoc, List.singleton_append]
              exact eq_append_of_dropWhile_ne hdrop
            · rw [List.length_append, List.length_singleton]
            · exact congrArg (· ++ [closing]) htext
          · exact absurd h (by simp)
  complete := by
    rintro _ n rfl rest
    have hclosing : closing ∉ Decimal.ofInt n.toInt := by
      intro hmem
      exact absurd (Decimal.mem_ofInt hmem) (by decide)
    obtain ⟨hzero, hminus, hn⟩ := Decimal.eq_ofInt_iff.mp (rfl : Decimal.ofInt n.toInt = _)
    refine ⟨by simp, ?_⟩
    unfold readInteger
    rw [List.append_assoc, List.singleton_append]
    simp only [takeWhile_ne_append hclosing, dropWhile_ne_append hclosing, if_neg hzero,
      if_neg hminus, hn]
    congr 2
    rw [List.length_append, List.length_singleton]

end Swarm.Bencode
