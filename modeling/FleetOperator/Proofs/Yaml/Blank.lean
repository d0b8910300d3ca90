import FleetOperator.Proofs.Yaml.Writer
import FleetOperator.Text.Blank

/-!
# Blank documents

Which values are written as a document of blank characters. Read `isBlankText_write` first: only a
text of blank characters that needs no quotes, such as a no-break space, since every other value
shows a digit, a word, a quote or a mark.
-/

namespace FleetOperator

/-- The decimal digits of a number stand in front of what follows. -/
theorem Digits.mem_onto {c : Char} {rest : List Char} (h : c ∈ rest) (fuel n : Nat) :
    c ∈ onto fuel n rest := by
  induction fuel generalizing n rest with
  | zero => exact h
  | succ fuel ih =>
      simp only [onto]
      split
      · exact List.mem_cons_of_mem _ h
      · exact ih (List.mem_cons_of_mem _ h) _

/-- A number is written with a character that is not blank. -/
theorem Digits.ofNat_not_blank (n : Nat) : ∃ c ∈ ofNat n, Text.isBlank c = false := by
  have hdigit : ∀ digit < 10, Text.isBlank (Char.ofNat (48 + digit)) = false := by decide
  refine ⟨Char.ofNat (48 + n % 10), ?_, hdigit _ (Nat.mod_lt n (by decide))⟩
  simp only [ofNat, onto]
  split
  · exact List.mem_cons_self
  · exact mem_onto List.mem_cons_self _ _

/-- An integer is written with a character that is not blank. -/
theorem Digits.ofInt_not_blank (n : Int) : ∃ c ∈ ofInt n, Text.isBlank c = false := by
  obtain ⟨c, hmem, hblank⟩ := ofNat_not_blank n.natAbs
  unfold ofInt
  split
  · exact ⟨c, List.mem_cons_of_mem _ hmem, hblank⟩
  · exact ⟨c, hmem, hblank⟩

/-- A binary64 number is written with a point or an exponent. -/
theorem Double.text_not_blank (d : Double) : ∃ c ∈ d.text.toList, Text.isBlank c = false := by
  have hmark : '.' ∈ d.text.toList ∨ 'e' ∈ d.text.toList := by
    simp only [text, String.toList_ofList, List.mem_append (s := if d.negative then ['-'] else [])]
    refine Or.imp Or.inr Or.inr ?_
    split
    · simp
    · split
      · split
        · simp
        · split <;> simp
      · split
        · next hnil =>
          obtain ⟨c, hmem, _⟩ := Digits.ofNat_not_blank d.shortest.digits
          rw [hnil] at hmem
          simp at hmem
        · simp
        · simp
  rcases hmark with hmark | hmark
  · exact ⟨'.', hmark, by decide⟩
  · exact ⟨'e', hmark, by decide⟩

namespace Yaml

/-- Rows that follow a mark show the mark. -/
theorem mark_mem_after {c : Char} {mark : List Char} (h : c ∈ mark) (rows : List (List Char)) :
    ∃ row ∈ after mark rows, c ∈ row := by
  cases rows <;> simp [after, h]

/-- Rows below a mark show the mark. -/
theorem mark_mem_below {c : Char} {mark : List Char} (h : c ∈ mark) (indent : Nat)
    (rows : List (List Char)) : ∃ row ∈ below mark indent rows, c ∈ row := by
  cases rows <;> simp [below, h]

/-- A text that is not written plainly shows a quote or the mark of a block. -/
theorem textRows_not_blank (indent : Nat) {style : Style} (hstyle : style ≠ .plain)
    (text : List Char) : ∃ row ∈ textRows indent style text, ∃ c ∈ row, Text.isBlank c = false := by
  cases style with
  | plain => exact absurd rfl hstyle
  | singleQuoted => exact ⟨_, List.mem_cons_self, '\'', List.mem_cons_self, by decide⟩
  | doubleQuoted => exact ⟨_, List.mem_cons_self, '"', List.mem_cons_self, by decide⟩
  | literal => exact ⟨_, List.mem_cons_self, '|', List.mem_cons_self, by decide⟩
  | folded => exact ⟨_, List.mem_cons_self, '"', List.mem_cons_self, by decide⟩

/-- An entry shows a colon or a question mark. -/
theorem entryRows_not_blank (indent : Nat) (key : String) (value : Json)
    (nested : List (List Char)) :
    ∃ row ∈ entryRows indent key value nested, ∃ c ∈ row, Text.isBlank c = false := by
  simp only [entryRows]
  split
  · split
    · obtain ⟨row, hrow, hmem⟩ := mark_mem_below (List.mem_append_right _ List.mem_cons_self) _ _
      exact ⟨row, hrow, ':', hmem, by decide⟩
    · obtain ⟨row, hrow, hmem⟩ := mark_mem_after
        (List.mem_append_left _ (List.mem_append_right _ List.mem_cons_self)) _
      exact ⟨row, hrow, ':', hmem, by decide⟩
  · obtain ⟨row, hrow, hmem⟩ := mark_mem_after (show '?' ∈ ['?', ' '] by simp) _
    exact ⟨row, List.mem_append_left _ hrow, '?', hmem, by decide⟩

/-- A document whose rows show a character that is not blank is not blank. -/
theorem isBlankText_write_eq_false {value : Json}
    (h : ∀ indent, ∃ row ∈ rows indent value, ∃ c ∈ row, Text.isBlank c = false) :
    Text.isBlankText (write value) = false := by
  unfold write Text.isBlankText
  rw [String.toList_ofList, List.all_eq_false]
  obtain ⟨row, hrow, c, hmem, hblank⟩ := h _
  exact ⟨c, List.mem_flatMap.2 ⟨row, hrow, List.mem_append_left _ hmem⟩, by simp [hblank]⟩

/-- Whether a value is a text of blank characters that a document shows as it is. -/
def isBlankScalar : Json → Bool
  | .text text => Text.isBlankText text && styleOf false text == .plain
  | _ => false

/-- A document is blank exactly if its value is a text of blank characters that needs no quotes. -/
theorem isBlankText_write (value : Json) :
    Text.isBlankText (write value) = isBlankScalar value := by
  cases value with
  | null => decide
  | bool value => cases value <;> decide
  | number value =>
      refine isBlankText_write_eq_false fun indent ↦ ?_
      cases value with
      | integer n => simpa [rows] using Digits.ofInt_not_blank n
      | double d => simpa [rows] using d.text_not_blank
  | array items =>
      refine isBlankText_write_eq_false fun indent ↦ ?_
      cases items with
      | nil => exact ⟨_, List.mem_cons_self, '[', by simp, by decide⟩
      | cons item rest =>
          obtain ⟨row, hrow, hmem⟩ := mark_mem_after (show '-' ∈ ['-', ' '] by simp)
            (rows (indent + indentStep) item)
          exact ⟨row, by simp [rows, itemRows, hrow], '-', hmem, by decide⟩
  | object fields =>
      refine isBlankText_write_eq_false fun indent ↦ ?_
      cases fields with
      | nil => exact ⟨_, List.mem_cons_self, '\x7b', by simp, by decide⟩
      | cons field rest =>
          obtain ⟨row, hrow, hmem⟩ := entryRows_not_blank indent field.1 field.2
            (rows (indent + valueStep field.1 field.2) field.2)
          exact ⟨row, by simp [rows, fieldRows, hrow], hmem⟩
  | text text =>
      by_cases hplain : styleOf false text = .plain
      · have hrows : (write (.text text)).toList = text.toList ++ ['\n'] := by
          simp [write, rows, hplain, textRows]
        have hfeed : Text.isBlank '\n' = true := by decide
        simp [isBlankScalar, hplain, Text.isBlankText, hrows, hfeed]
      · have hblank : isBlankScalar (.text text) = false := by simp [isBlankScalar, hplain]
        rw [hblank]
        refine isBlankText_write_eq_false fun indent ↦ ?_
        rw [rows]
        exact textRows_not_blank indent hplain text.toList

end Yaml

end FleetOperator
