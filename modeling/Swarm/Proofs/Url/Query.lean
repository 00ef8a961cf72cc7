import Swarm.Url.Parse

/-!
# Queries that are encoded already

What has been encoded once is not changed when it is encoded again: a percent sign and the digits
behind it stand for themselves. So a query that is put together of parts that are encoded, the
query of an address that was read among them, comes out as it was put together. In the names and
values of pairs even a percent sign would be encoded, but words in small letters and decimal
numbers stand for themselves there too.

## Main definitions

* `Percent.Keeps`, `Percent.IsKept`: a character stands for itself, and all those of a text do
* `Query.IsWritten`: a text is a query as an address keeps it
* `Query.IsPlain`: a text is a name or a value in which nothing is encoded
* `Query.pairsText`: pairs of such names and values, each behind a sign

## Main results

* `Percent.IsKept.encode_eq`, `Percent.isKept_encode`: what is encoded is not encoded again
* `Query.IsWritten.ofText_eq`: a query as an address keeps it can be set
* `Query.foldl_appendPair`: plain pairs come to stand behind a query as they are
* `Address.isWritten_of_parse`: the query of an address that was read is as an address keeps it
* `Address.text_query_inj`: addresses that differ in their query differ in their text
-/

namespace Swarm

/-! ## Digits -/

namespace Hex

variable {value : UInt8}

/-- The digits in lower case, by their value. -/
def lowerDigits : List Char :=
  "0123456789abcdef".toList

/-- The digits in upper case, by their value. -/
def upperDigits : List Char :=
  "0123456789ABCDEF".toList

theorem forall_lt_sixteen {p : UInt8 → Prop} (h : ∀ n < 16, p (UInt8.ofNat n))
    (hvalue : value < 16) : p value := by
  have hlt : value.toNat < 16 := UInt8.lt_iff_toNat_lt.mp hvalue
  rw [← UInt8.ofNat_toNat (x := value)]
  exact h value.toNat hlt

theorem div_sixteen_lt (byte : UInt8) : byte / 16 < 16 := by
  have h := byte.toNat_lt
  rw [UInt8.lt_iff_toNat_lt, UInt8.toNat_div]
  show byte.toNat / 16 < 16
  omega

theorem mod_sixteen_lt (byte : UInt8) : byte % 16 < 16 := by
  rw [UInt8.lt_iff_toNat_lt, UInt8.toNat_mod]
  show byte.toNat % 16 < 16
  omega

theorem lowerDigits_getElem? (h : value < 16) :
    lowerDigits[value.toNat]? = some (lowerDigit value) :=
  forall_lt_sixteen (p := fun value => lowerDigits[value.toNat]? = some (lowerDigit value))
    (by decide) h

theorem upperDigit_mem (h : value < 16) : upperDigit value ∈ upperDigits :=
  forall_lt_sixteen (p := fun value => upperDigit value ∈ upperDigits) (by decide) h

/-- A digit is read as its value. -/
theorem digit?_of_lowerDigits {n : Nat} {c : Char} (h : lowerDigits[n]? = some c) :
    digit? c = some n := by
  have hall : ∀ (n : Nat) (hn : n < lowerDigits.length), digit? lowerDigits[n] = some n := by
    decide
  obtain ⟨hn, rfl⟩ := List.getElem?_eq_some_iff.mp h
  exact hall n hn

end Hex

namespace Url

/-! ## Encoding what is encoded -/

namespace Percent

/-- **A character stands for itself** where the characters of a set are encoded. -/
def Keeps (set : Char → Bool) (c : Char) : Prop :=
  c.toNat < 128 ∧ set c = false

/-- **A text stands for itself**: each of its characters does. -/
def IsKept (set : Char → Bool) (text : List Char) : Prop :=
  ∀ c ∈ text, Keeps set c

instance (set : Char → Bool) (text : List Char) [∀ c, Decidable (Keeps set c)] :
    Decidable (IsKept set text) :=
  List.decidableBAll (Keeps set) text

variable {set : Char → Bool} {text : List Char} {c : Char}

theorem IsKept.encode_eq (h : IsKept set text) : encode set text = text := by
  induction text with
  | nil => rfl
  | cons c text ih =>
    obtain ⟨⟨hascii, hset⟩, htext⟩ := List.forall_mem_cons.mp h
    have hrest : encode set text = text := ih htext
    rw [encode] at hrest ⊢
    rw [List.flatMap_cons, hrest]
    simp [hascii, hset]

theorem mem_of_mem_escape {d : Char} (h : d ∈ escape c) : d ∈ '%' :: Hex.upperDigits := by
  obtain ⟨byte, -, hd⟩ := List.mem_flatMap.mp h
  simp only [Hex.upper, List.mem_cons, List.not_mem_nil, or_false] at hd
  rcases hd with rfl | rfl | rfl
  · exact List.mem_cons_self
  · exact List.mem_cons_of_mem _ (Hex.upperDigit_mem (Hex.div_sixteen_lt byte))
  · exact List.mem_cons_of_mem _ (Hex.upperDigit_mem (Hex.mod_sixteen_lt byte))

/-- **What is encoded stands for itself**, if the percent sign and the digits do. -/
theorem isKept_encode (hset : IsKept set ('%' :: Hex.upperDigits)) (text : List Char) :
    IsKept set (encode set text) := by
  intro c h
  obtain ⟨d, -, hc⟩ := List.mem_flatMap.mp h
  -- a character is kept, which it is only if it stands for itself, or it is escaped
  by_cases hd : d.toNat < 128 && !set d
  · rw [if_pos hd, List.mem_singleton] at hc
    subst hc
    simpa [Keeps] using hd
  · rw [if_neg hd] at hc
    exact hset c (mem_of_mem_escape hc)

end Percent

/-! ## Queries as addresses keep them -/

namespace Query

variable {kind : SchemeKind} {query query' : String} {c : Char}

/-- The characters that stand for themselves in a query. -/
theorem keeps_set_iff : Percent.Keeps (set kind) c ↔
    32 ≤ c.toNat ∧ c.toNat < 127 ∧ c ∉ " \"#<>".toList ∧ ¬(kind ≠ .other ∧ c = '\'') := by
  cases kind <;>
    simp [Percent.Keeps, set, SchemeKind.isSpecial, Percent.specialQuery, Percent.query,
      Percent.controls, String.contains_char_eq] <;>
    grind

instance (kind : SchemeKind) (c : Char) : Decidable (Percent.Keeps (set kind) c) :=
  decidable_of_iff _ keeps_set_iff.symm

/-- **A text is a query as an address keeps it**: all its characters stand for themselves. -/
def IsWritten (kind : SchemeKind) (query : String) : Prop :=
  Percent.IsKept (set kind) query.toList

instance (kind : SchemeKind) (query : String) : Decidable (IsWritten kind query) :=
  inferInstanceAs (Decidable (Percent.IsKept (set kind) query.toList))

theorem isWritten_encode (kind : SchemeKind) (text : List Char) :
    IsWritten kind (encode kind text) := by
  rw [IsWritten, encode, String.toList_ofList]
  apply Percent.isKept_encode
  cases kind <;> decide

theorem IsWritten.append (h : IsWritten kind query) (h' : IsWritten kind query') :
    IsWritten kind (query ++ query') := by
  intro c hc
  rw [String.toList_append, List.mem_append] at hc
  exact hc.elim (h c) (h' c)

theorem not_keeps_of_isBreak (h : Text.isBreak c = true) : ¬Percent.Keeps (set kind) c := by
  simp only [Text.isBreak, Bool.or_eq_true, beq_iff_eq] at h
  rcases h with (rfl | rfl) | rfl <;> cases kind <;> decide

/-- **A query as an address keeps it can be set**: nothing in it is lost or encoded again. -/
theorem IsWritten.ofText_eq (h : IsWritten kind query) : ofText kind query = query := by
  have hbreaks : Text.withoutBreaks query.toList = query.toList := by
    apply List.filter_eq_self.mpr
    intro c hc
    rw [Bool.not_eq_true']
    exact Bool.eq_false_iff.mpr fun hbreak => not_keeps_of_isBreak hbreak (h c hc)
  rw [ofText, hbreaks, encode, Percent.IsKept.encode_eq h, String.ofList_toList]

/-! ## Pairs -/

/-- **A text is a name or a value in which nothing is encoded.** -/
def IsPlain (part : String) : Prop :=
  ∀ c ∈ part.toList, isPlain c = true

instance (part : String) : Decidable (IsPlain part) :=
  List.decidableBAll (isPlain · = true) part.toList

theorem flatMap_encodeChar_eq {text : List Char} (h : ∀ c ∈ text, isPlain c = true) :
    text.flatMap encodeChar = text := by
  induction text with
  | nil => rfl
  | cons c text ih =>
    obtain ⟨hc, hrest⟩ := List.forall_mem_cons.mp h
    rw [List.flatMap_cons, ih hrest, encodeChar, if_pos hc, List.singleton_append]

theorem IsPlain.encodePart_eq {part : String} (h : IsPlain part) : encodePart part = part := by
  rw [encodePart, flatMap_encodeChar_eq h, String.ofList_toList]

/-- Pairs of names and values, each behind a sign. -/
def pairsText : List (String × String) → String
  | [] => ""
  | (name, value) :: rest => "&" ++ name ++ "=" ++ value ++ pairsText rest

theorem appendPair_of_isPlain {name value : String} (hquery : query ≠ "") (hname : IsPlain name)
    (hvalue : IsPlain value) :
    appendPair query name value = query ++ ("&" ++ name ++ "=" ++ value) := by
  rw [appendPair, if_neg hquery, hname.encodePart_eq, hvalue.encodePart_eq]
  simp only [String.append_assoc]

/-- **Plain pairs come to stand behind a query** as they are. -/
theorem foldl_appendPair {pairs : List (String × String)} (hquery : query ≠ "")
    (hpairs : ∀ pair ∈ pairs, IsPlain pair.1 ∧ IsPlain pair.2) :
    pairs.foldl (fun query pair => appendPair query pair.1 pair.2) query =
      query ++ pairsText pairs := by
  induction pairs generalizing query with
  | nil => exact (String.append_empty).symm
  | cons pair pairs ih =>
    obtain ⟨⟨hname, hvalue⟩, hrest⟩ := List.forall_mem_cons.mp hpairs
    -- a query that is not empty does not become so
    have hnext : query ++ ("&" ++ pair.1 ++ "=" ++ pair.2) ≠ "" := by
      intro hempty
      exact hquery (String.append_eq_empty_iff.mp hempty).1
    rw [List.foldl_cons, appendPair_of_isPlain hquery hname hvalue, ih hnext hrest, pairsText,
      String.append_assoc]

end Query

/-! ## The query of an address that was read -/

namespace Written

variable {written : Written} {scheme : String} {text : List Char} {address : Address}

/-- **An address has the query that is written**, encoded for the kind of its scheme. -/
def Gives (written : Written) (address : Address) : Prop :=
  address.query = written.queryText (.of address.scheme)

/-- What is put together of the parts that were written has the query that was. -/
theorem gives_of_eq_ok {authority : Option Authority} {path : Path}
    (h : (.ok (written.address scheme authority path) : Except ParseError Address) = .ok address) :
    written.Gives address := by
  rw [← Except.ok.inj h]
  rfl

theorem gives_of_behindSlashes (h : written.behindSlashes scheme text = .ok address) :
    written.Gives address := by
  simp only [behindSlashes, bind, Except.bind, pure, Except.pure] at h
  split at h
  · cases h
  · exact gives_of_eq_ok h

theorem gives_of_other (h : written.other scheme text = .ok address) : written.Gives address := by
  unfold other at h
  split at h
  · exact gives_of_behindSlashes h
  · exact gives_of_eq_ok h
  · exact gives_of_eq_ok h

theorem gives_of_fileBehindSlashes (h : written.fileBehindSlashes text = .ok address) :
    written.Gives address := by
  simp only [fileBehindSlashes] at h
  split at h
  · exact gives_of_eq_ok h
  · generalize fileHost (Text.withoutBreaks _) = host at h
    cases host with
    | error fault => cases h
    | ok host =>
      simp only [Except.map] at h
      -- the path is read in another way where there is a host
      split at h <;> exact gives_of_eq_ok h

theorem gives_of_file (h : written.file text = .ok address) : written.Gives address := by
  simp only [file] at h
  split at h
  · exact gives_of_eq_ok h
  · split at h
    · exact gives_of_eq_ok h
    · split at h
      · exact gives_of_eq_ok h
      · -- only behind two slashes there may be a host
        split at h
        · exact gives_of_fileBehindSlashes h
        · exact gives_of_eq_ok h

theorem gives_of_withScheme (h : written.withScheme scheme text = .ok address) :
    written.Gives address := by
  unfold withScheme at h
  split at h
  · exact gives_of_file h
  · exact gives_of_behindSlashes h
  · exact gives_of_other h

end Written

namespace Address

variable {text : String} {address : Address}

/-- **The query of an address that was read** is as an address keeps it. -/
theorem isWritten_of_parse (h : parse text = .ok address) {query : String}
    (hquery : address.query = some query) : Query.IsWritten (.of address.scheme) query := by
  simp only [parse] at h
  split at h
  case h_2 => cases h
  case h_1 scheme rest _ =>
    have hgives : Written.Gives _ address := Written.gives_of_withScheme h
    rw [Written.Gives, hquery] at hgives
    obtain ⟨encoded, -, rfl⟩ := Option.map_eq_some_iff.mp hgives.symm
    exact Query.isWritten_encode (.of address.scheme) encoded

/-- Addresses that differ in their query differ in their text. -/
theorem text_query_inj {query query' : String} :
    Address.text { address with query := some query } =
        Address.text { address with query := some query' } ↔
      query = query' := by
  constructor
  · intro h
    have hcancel := (String.append_right_inj _).mp ((String.append_left_inj _).mp h)
    exact (String.append_right_inj "?").mp hcancel
  · rintro rfl
    rfl

end Address

end Url

end Swarm
