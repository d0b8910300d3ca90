import FleetOperator.Number.Quantity

/-!
# Texts that are no resource quantities

A line feed has no place in a resource quantity, so no text of several lines is one, and two such
texts are equivalent only if they are the same.
-/

namespace FleetOperator

/-- No integer is written with a line feed. -/
theorem Digits.toInt?_of_newline {text : List Char} (h : '\n' ∈ text) : toInt? text = none := by
  have hdigits : ∀ digits : List Char, '\n' ∈ digits → digits.all Char.isDigit = false := by
    intro digits hmem
    rw [List.all_eq_false]
    exact ⟨'\n', hmem, by decide⟩
  unfold toInt?
  split
  next negative digits heq =>
  have hmem : '\n' ∈ digits := by
    split at heq
    · next rest =>
      obtain ⟨rfl, rfl⟩ := Prod.mk.injEq .. ▸ heq
      simpa using h
    · next rest =>
      obtain ⟨rfl, rfl⟩ := Prod.mk.injEq .. ▸ heq
      simpa using h
    · obtain ⟨rfl, rfl⟩ := Prod.mk.injEq .. ▸ heq
      exact h
  simp [hdigits digits hmem]

namespace Quantity

/-- No suffix of a quantity has a line feed. -/
theorem scale?_of_newline {suffix : List Char} (h : '\n' ∈ suffix) : scale? suffix = none := by
  unfold scale?
  split
  case h_17 rest =>
      have hrest : '\n' ∈ rest := by simpa using h
      simp [exponent?, Digits.toInt?_of_newline hrest]
  case h_18 rest _ _ =>
      have hrest : '\n' ∈ rest := by simpa using h
      simp [exponent?, Digits.toInt?_of_newline hrest]
  all_goals first | rfl | simp at h

/-- No amount without a sign has a line feed. -/
theorem magnitude?_of_newline {text : List Char} (h : '\n' ∈ text) :
    (magnitude? text).run = none := by
  have hsuffix : '\n' ∈ text.dropWhile isNumberChar := by
    rw [← List.takeWhile_append_dropWhile (p := isNumberChar) (l := text), List.mem_append] at h
    rcases h with hnumber | hsuffix
    · have hchar : isNumberChar '\n' = true :=
        List.all_eq_true.1 List.all_takeWhile _ hnumber
      exact absurd hchar (by decide)
    · exact hsuffix
  simp only [magnitude?, scale?_of_newline hsuffix]
  split
  · rfl
  · split <;> rfl

/-- A text with a line feed is no quantity. -/
theorem parse?_of_newline {text : String} (h : '\n' ∈ text.toList) : parse? text = none := by
  have hnone : (amount? text).run = none := by
    unfold amount?
    split
    · rfl
    · next rest heq =>
      have hrest : '\n' ∈ rest := by simpa [heq] using h
      rw [ExceptT.run_bind, magnitude?_of_newline hrest]
      rfl
    · next rest heq =>
      have hrest : '\n' ∈ rest := by simpa [heq] using h
      exact magnitude?_of_newline hrest
    · exact magnitude?_of_newline h
  rw [parse?, read, hnone]

end Quantity

end FleetOperator
