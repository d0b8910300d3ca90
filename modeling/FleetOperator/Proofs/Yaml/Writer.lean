import FleetOperator.Yaml.Document
import FleetOperator.Yaml.Writer

/-!
# Written YAML documents

A written document has at least one line and ends each of them, so it is never the empty text. That
it reads back as the value it was written from is a property of the document, `ReadsBack`.
-/

namespace FleetOperator.Yaml

/-- Whether a value that is written as a YAML document reads back as itself. -/
def ReadsBack (value : Json) : Prop := readJson? (write value) = some value

instance (value : Json) : Decidable (ReadsBack value) :=
  inferInstanceAs (Decidable (readJson? (write value) = some value))

/-- Rows that follow a mark are at least the row of the mark. -/
theorem after_ne_nil (mark : List Char) (rows : List (List Char)) : after mark rows ≠ [] := by
  cases rows <;> simp [after]

/-- Rows below a mark are at least the row of the mark. -/
theorem below_ne_nil (mark : List Char) (indent : Nat) (rows : List (List Char)) :
    below mark indent rows ≠ [] := by
  cases rows <;> simp [below]

/-- A text takes at least one row. -/
theorem textRows_ne_nil (indent : Nat) (style : Style) (text : List Char) :
    textRows indent style text ≠ [] := by
  cases style <;> simp [textRows]

/-- An entry takes at least one row. -/
theorem entryRows_ne_nil (indent : Nat) (key : String) (value : Json)
    (nested : List (List Char)) : entryRows indent key value nested ≠ [] := by
  simp only [entryRows]
  split
  · split
    · exact below_ne_nil _ _ _
    · exact after_ne_nil _ _
  · simp [after_ne_nil]

/-- A value takes at least one row. -/
theorem rows_ne_nil (indent : Nat) (value : Json) : rows indent value ≠ [] := by
  cases value with
  | null => simp [rows]
  | bool value => cases value <;> simp [rows]
  | number value => cases value <;> simp [rows]
  | text value =>
      rw [rows]
      exact textRows_ne_nil _ _ _
  | array items =>
      cases items with
      | nil => simp [rows]
      | cons item rest => simp [rows, itemRows, after_ne_nil]
  | object fields =>
      cases fields with
      | nil => simp [rows]
      | cons field rest => simp [rows, fieldRows, entryRows_ne_nil]

/-- A written document has a line feed. -/
theorem newline_mem_write (value : Json) : '\n' ∈ (write value).toList := by
  have hlines : ∀ indent, '\n' ∈ (rows indent value).flatMap fun row ↦ row ++ ['\n'] := by
    intro indent
    obtain ⟨row, hrow⟩ := List.exists_mem_of_ne_nil _ (rows_ne_nil indent value)
    exact List.mem_flatMap.2 ⟨row, hrow, by simp⟩
  unfold write
  rw [String.toList_ofList]
  exact hlines _

/-- A written document is not the empty text. -/
theorem write_ne_empty (value : Json) : write value ≠ "" := by
  intro h
  have hmem := newline_mem_write value
  rw [h] at hmem
  simp at hmem

end FleetOperator.Yaml
