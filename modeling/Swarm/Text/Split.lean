/-!
# Splitting a text

## Main definitions

* `Text.splitAt`: the parts of a text between the places where a character stands

## Main results

* `Text.intercalate_splitAt`: the parts with the character between them make up the text
-/

namespace Swarm.Text

/-- The parts of a text between the places where a character stands; one part, if it stands
nowhere. -/
def splitAt (separator : Char) : List Char → List (List Char)
  | [] => [[]]
  | c :: rest =>
    if c = separator then [] :: splitAt separator rest
    else match splitAt separator rest with
      | [] => [[c]]
      | part :: parts => (c :: part) :: parts

theorem splitAt_ne_nil (separator : Char) (text : List Char) : splitAt separator text ≠ [] := by
  cases text with
  | nil => simp [splitAt]
  | cons c rest =>
    rw [splitAt]
    split
    · simp
    · split <;> simp

/-- The parts with the character between them make up the text. -/
theorem intercalate_splitAt (separator : Char) (text : List Char) :
    List.intercalate [separator] (splitAt separator text) = text := by
  induction text with
  | nil => rfl
  | cons c rest ih =>
    have hne := splitAt_ne_nil separator rest
    cases hsplit : splitAt separator rest with
    | nil => exact absurd hsplit hne
    | cons part parts =>
      rw [hsplit] at ih
      by_cases hc : c = separator
      · rw [splitAt, if_pos hc, hsplit, hc]
        simpa using ih
      · cases parts with
        | nil => simpa [splitAt, hc, hsplit] using ih
        | cons next others => simpa [splitAt, hc, hsplit] using ih

end Swarm.Text
