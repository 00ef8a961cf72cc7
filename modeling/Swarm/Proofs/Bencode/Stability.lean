import Mathlib.Data.List.TakeWhile
import Swarm.Proofs.Bencode.Fault

/-!
# Octets that come later

A verdict on some octets holds whatever follows them, unless it says that they break off: what has
been read stays read, and a fault stays where it is, if the octets that raise it are all there. So
what breaks off a written form is always told as such.

## Main definitions

* `DecodeError.Final`: the faults that no further octets mend
* `DecodeError.BreaksOff`: the faults of octets that end too early

## Main results

* `Stops.append`: where reading stops for good
* `decode_append_of_ok`, `decode_append_of_final`: verdicts that hold whatever follows
* `decode_stable`: what more octets can change, and what is missing from a beginning
-/

namespace Swarm.Bencode

namespace DecodeError

/-- **Final faults**: inside all wrappers is one that no further octets mend. -/
def Final (fault : DecodeError) : Prop :=
  match fault.innermost with
  | .unknownType _ | .leadingZero | .negativeZero | .invalidDigits _ | .nonStringKey
  | .nestingTooDeep => True
  | _ => False

/-- **Octets that break off**: inside all wrappers is the fault that something is missing at the
end. -/
def BreaksOff (fault : DecodeError) : Prop :=
  fault.innermost ∈ [.emptyInput, .malformedString, .truncatedString, .unterminatedInteger,
    .unterminatedList, .unterminatedDictionary]

theorem final_or_breaksOff (fault : DecodeError) : fault.Final ∨ fault.BreaksOff := by
  induction fault with
  | listItem fault ih => exact ih
  | dictionaryValue fault ih => exact ih
  | _ => simp [Final, BreaksOff, innermost]

/-- The wrappers around a fault do not change what it is. -/
theorem innermost_inside (around : List Container) (fault : DecodeError) :
    (fault.inside around).innermost = fault.innermost := by
  induction around with
  | nil => rfl
  | cons container around ih =>
    cases container <;> exact ih

theorem final_inside_iff {around : List Container} {fault : DecodeError} :
    (fault.inside around).Final ↔ fault.Final := by
  rw [Final, Final, innermost_inside]

end DecodeError

variable {room : Nat} {data : Bytes} {fault : DecodeError}

/-! ## The faults of strings and integers -/

/-- A string has no fault that is final: its octets, or the colon before them, may follow. -/
theorem not_final_of_readString (h : readString data = .error fault) : ¬fault.Final := by
  rcases eq_or_eq_of_readString h with rfl | rfl <;> exact id

/-- What follows the closing octet of an integer is not looked at. -/
theorem readInteger_closing {body : Bytes} (h : closing ∉ body) (rest : Bytes) :
    readInteger (body ++ closing :: rest) = readInteger (body ++ [closing]) := by
  unfold readInteger
  simp only [takeWhile_ne_append h, dropWhile_ne_append h]

theorem readInteger_append (h : readInteger data = .error fault) (hfinal : fault.Final)
    (rest : Bytes) : readInteger (data ++ rest) = .error fault := by
  cases hdrop : data.dropWhile (· != closing) with
  | nil =>
    simp only [readInteger, hdrop, Except.error.injEq] at h
    subst h
    exact absurd hfinal id
  | cons byte tail =>
    have hbody : closing ∉ data.takeWhile (· != closing) := by
      intro hmem
      simpa using List.mem_takeWhile_imp hmem
    rw [eq_append_of_dropWhile_ne hdrop] at h ⊢
    rw [readInteger_closing hbody] at h
    rw [List.append_assoc, List.cons_append, readInteger_closing hbody, h]

/-! ## Where reading stops for good -/

theorem KeyFault.append (h : KeyFault data fault) (hfinal : fault.Final) (rest : Bytes) :
    KeyFault (data ++ rest) fault := by
  cases h with
  | missing => exact absurd hfinal id
  | other hbyte hdigit => exact .other hbyte hdigit
  | string hdigit h => exact absurd hfinal (not_final_of_readString h)
  | alone hkey => exact absurd hfinal id

theorem OwnFault.append (h : OwnFault room data fault) (hfinal : fault.Final) (rest : Bytes) :
    OwnFault room (data ++ rest) fault := by
  cases h with
  | empty => exact absurd hfinal id
  | unknown hdigit hint hlist hdict => exact .unknown hdigit hint hlist hdict
  | string hdigit h => exact absurd hfinal (not_final_of_readString h)
  | integer h => exact .integer (readInteger_append h hfinal rest)
  | tooDeep hroom hopen => exact .tooDeep hroom hopen
  | list hroom htext => exact absurd hfinal id
  | dict hroom htext hkey =>
    rw [List.cons_append, List.append_assoc]
    exact .dict hroom htext (hkey.append hfinal rest)

/-- The reader gets as far, whatever follows. -/
theorem Reaches.append {inner : Nat} {stop : Bytes} {around : List Container}
    (h : Reaches room data around inner stop) (rest : Bytes) :
    Reaches room (data ++ rest) around inner (stop ++ rest) := by
  induction h with
  | here => exact .here
  | item htext hbyte _ ih =>
    rw [List.cons_append, List.append_assoc, List.cons_append]
    exact .item htext hbyte ih
  | value htext hkey _ ih =>
    rw [List.cons_append, List.append_assoc, List.append_assoc, List.cons_append]
    exact .value htext hkey ih

/-- **Reading stops for good** at a fault that is final. -/
theorem Stops.append (h : Stops room data fault) (hfinal : fault.Final) (rest : Bytes) :
    Stops room (data ++ rest) fault := by
  obtain ⟨around, inner, stop, leaf, hreach, hleaf, rfl⟩ := h
  rw [DecodeError.final_inside_iff] at hfinal
  exact ⟨around, inner, stop ++ rest, leaf, hreach.append rest, hleaf.append hfinal rest, rfl⟩

/-! ## Verdicts -/

/-- What is read is read, whatever follows. -/
theorem decode_append_of_ok {value : Value} {size : Nat} (h : decode data = .ok (value, size))
    (rest : Bytes) : decode (data ++ rest) = .ok (value, size) := by
  obtain ⟨hsize, hform⟩ := decode_eq_ok_iff.mp h
  rw [decode_eq_ok_iff, List.take_append_of_le_length hsize, List.length_append]
  exact ⟨by omega, hform⟩

/-- A final fault is reported, whatever follows. -/
theorem decode_append_of_final (h : decode data = .error fault) (hfinal : fault.Final)
    (rest : Bytes) : decode (data ++ rest) = .error fault :=
  decode_eq_error_iff.mpr ((decode_eq_error_iff.mp h).append hfinal rest)

/-- A proper beginning of a written form breaks off. -/
theorem exists_breaksOff_of_take {value : Value} {size : Nat}
    (h : decode data = .ok (value, size)) {cut : Nat} (hcut : cut < size) :
    ∃ fault, decode (data.take cut) = .error fault ∧ fault.BreaksOff := by
  have hdata := List.take_append_drop cut data
  cases hdecode : decode (data.take cut) with
  | ok reading =>
    obtain ⟨other, otherSize⟩ := reading
    obtain ⟨hsize, -⟩ := decode_eq_ok_iff.mp hdecode
    -- The same reading of all the octets takes more than the beginning has.
    have hwhole := decode_append_of_ok hdecode (data.drop cut)
    rw [hdata, h, Except.ok.injEq, Prod.mk.injEq] at hwhole
    rw [List.length_take] at hsize
    omega
  | error fault =>
    refine ⟨fault, rfl, fault.final_or_breaksOff.resolve_left fun hfinal => ?_⟩
    have hwhole := decode_append_of_final hdecode hfinal (data.drop cut)
    rw [hdata, h] at hwhole
    exact absurd hwhole (by simp)

/-- **Verdicts are stable**: what is read, or refused for a final fault, is read or refused in the
same way whatever follows; so every proper beginning of what is read is refused, and the fault is
that it breaks off. -/
theorem decode_stable (data rest : Bytes) :
    (∀ value size, decode data = .ok (value, size) →
      decode (data ++ rest) = .ok (value, size)) ∧
    (∀ fault, decode data = .error fault → fault.Final →
      decode (data ++ rest) = .error fault) ∧
    ∀ value size, decode data = .ok (value, size) → ∀ cut < size, ∃ fault,
      decode (data.take cut) = .error fault ∧ fault.BreaksOff :=
  ⟨fun _ _ h => decode_append_of_ok h rest, fun _ h hfinal => decode_append_of_final h hfinal rest,
    fun _ _ h _ hcut => exists_breaksOff_of_take h hcut⟩

end Swarm.Bencode
