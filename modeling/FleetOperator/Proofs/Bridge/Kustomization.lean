import FleetOperator.Bridge.Document
import FleetOperator.Drift.Normalize
import FleetOperator.Proofs.Json.Equivalence
import FleetOperator.Proofs.Number.Quantity
import FleetOperator.Proofs.Yaml.Blank

/-!
# Kustomization texts and documents

What the comparison of a kustomization text with a stored document decides. Read
`compared_with_stored` and `document_of_equalTexts` first: a text that was stored compares as equal
with what is stored exactly if it is not vacuous, and a text that compares as equal writes an
equivalent document. What the written text of a document reads back as is `ofYaml?_toYaml`.
-/

namespace FleetOperator.Kustomization

/-- Whether a text is there and yet writes no document that would be reported back: it is blank, or
its document is null or empty. -/
def isVacuous (text : Option String) : Bool :=
  text.any (· != "") &&
    match ofYaml? text with
    | .ok none => true
    | .ok (some (.object [])) => true
    | _ => false

/-- Whether a text is blank and yet is read as a value other than null, which is lost where the text
is written as a document. Blanks that YAML does not know as such are read as texts. -/
def isLost (text : Option String) : Bool :=
  text.any fun own ↦ Text.isBlankText own && Yaml.readJson? own != some .null

/-- A text that is set and not empty. -/
def given (text : Option String) : Option String := text.filter (· != "")

/-- A text that is not given writes no document. -/
theorem ofYaml?_of_given_none {text : Option String} (h : given text = none) :
    ofYaml? text = .ok none := by
  rcases text with _ | text
  · rfl
  · obtain rfl : text = "" := by simpa [given, Option.filter] using h
    rfl

/-- What is given is the text. -/
theorem eq_of_given_some {text : Option String} {own : String} (h : given text = some own) :
    text = some own ∧ own ≠ "" := by
  obtain ⟨rfl, hne⟩ := Option.filter_eq_some_iff.1 h
  exact ⟨rfl, by simpa using hne⟩

@[simp] theorem given_given (text : Option String) : given (given text) = given text := by
  simp [given, Option.filter_filter]

/-- What a text writes depends on the given text alone. -/
theorem ofYaml?_given (text : Option String) : ofYaml? (given text) = ofYaml? text := by
  cases hgiven : given text with
  | none =>
      rw [ofYaml?_of_given_none hgiven]
      rfl
  | some own => rw [(eq_of_given_some hgiven).1]

/-- Whether a text is vacuous depends on the given text alone. -/
theorem isVacuous_given (text : Option String) : isVacuous (given text) = isVacuous text := by
  cases hgiven : given text with
  | none =>
      rcases text with _ | text
      · rfl
      · obtain rfl : text = "" := by simpa [given, Option.filter] using hgiven
        rfl
  | some own => rw [(eq_of_given_some hgiven).1]

/-- A text that writes a document is read as that document, and is not blank. -/
theorem readJson?_of_ofYaml? {text : String} {document : Json}
    (h : ofYaml? (some text) = .ok (some document)) :
    Yaml.readJson? text = some document ∧ document ≠ .null := by
  unfold ofYaml? at h
  split at h
  · simp at h
  · next _ own hfilter =>
    obtain rfl : text = own := by simpa using (Option.filter_eq_some_iff.1 hfilter).1
    split at h
    · simp at h
    · simp at h
    · next found hne hfound =>
      obtain rfl : found = document := by simpa using h
      exact ⟨hfound, hne⟩

/-- A text that is not blank writes the value that it is read as, unless that is null. -/
theorem ofYaml?_of_readJson? {text : String} {value : Json}
    (hblank : Text.isBlankText text = false) (hread : Yaml.readJson? text = some value)
    (hnull : value ≠ .null) : ofYaml? (some text) = .ok (some value) := by
  have hfilter : (some text).filter (fun t ↦ !Text.isBlankText t) = some text := by
    simp [Option.filter, hblank]
  simp only [ofYaml?, hfilter, hread]

/-- A document that a text writes is ordered. -/
theorem ordered_of_ofYaml? {text : String} {document : Json}
    (h : ofYaml? (some text) = .ok (some document)) : document.Ordered := by
  exact Yaml.readJson?_ordered (readJson?_of_ofYaml? h).1

/-- A document that is neither null nor empty is written. -/
theorem toYaml_eq_some {document : Json} (hnull : document ≠ .null)
    (hempty : document ≠ .object []) :
    toYaml (some document) = some (Yaml.write document) := by
  unfold toYaml
  split <;> simp_all

/-- What is written for a document is its YAML text, and the document is neither null nor empty. -/
theorem eq_write_of_toYaml {document : Option Json} {text : String}
    (h : toYaml document = some text) :
    ∃ own, document = some own ∧ own ≠ .object [] ∧ own ≠ .null ∧ text = Yaml.write own := by
  unfold toYaml at h
  split at h
  · simp at h
  · simp at h
  · simp at h
  · next own hnull hempty =>
    exact ⟨own, rfl, by simpa using hempty, by simpa using hnull, by simpa using h.symm⟩

/-- What is written for a document is never the empty text. -/
theorem toYaml_ne_empty {document : Option Json} : toYaml document ≠ some "" := by
  intro h
  obtain ⟨own, _, _, _, htext⟩ := eq_write_of_toYaml h
  exact Yaml.write_ne_empty own htext.symm

/-- A document for which nothing is written is equivalent to the empty one. -/
theorem equal_empty_of_toYaml_none {document : Option Json} (h : toYaml document = none) :
    Json.equal (.object []) (document.getD (.object [])) = true := by
  unfold toYaml at h
  split at h <;> simp_all [Json.equal, Json.isZero, Json.allZero]

/-- A text that is not empty is vacuous exactly if nothing is reported for its document. -/
theorem isVacuous_eq {own : String} {stored : Option Json} (hne : own ≠ "")
    (hstored : ofYaml? (some own) = .ok stored) :
    isVacuous (some own) = (toYaml stored).isNone := by
  rcases stored with _ | document
  · simp [isVacuous, hstored, hne, toYaml]
  · obtain ⟨_, hnull⟩ := readJson?_of_ofYaml? hstored
    by_cases hempty : document = .object []
    · simp [isVacuous, hstored, hne, hempty, toYaml]
    · rw [toYaml_eq_some hnull hempty, isVacuous, hstored]
      split
      · simp_all
      · simp_all
      · simp

/-- Compared with the document that was stored for it, a text is equivalent exactly if it is not
vacuous. -/
theorem compared_with_stored {text : Option String} {stored : Option Json}
    (hstored : ofYaml? text = .ok stored)
    (hreads : ∀ document, stored = some document → Yaml.ReadsBack document) :
    Json.equalTexts ((adoptEquivalentYaml (given text) (toYaml stored)).getD "")
      ((toYaml stored).getD "") = !isVacuous text := by
  cases hgiven : given text with
  | none =>
      obtain rfl : none = stored := by
        simpa [ofYaml?_of_given_none hgiven] using hstored
      have hany : text.any (· != "") = false := by
        rcases text with _ | text
        · rfl
        · simpa [given, Option.filter] using hgiven
      simp [adoptEquivalentYaml, toYaml, isVacuous, hany]
  | some own =>
      obtain ⟨rfl, hne⟩ := eq_of_given_some hgiven
      rw [isVacuous_eq hne hstored]
      cases hseen : toYaml stored with
      | none => simpa [adoptEquivalentYaml, Json.equalTexts_empty_right, Bool.eq_false_iff] using hne
      | some seen =>
          obtain ⟨document, rfl, _, _, rfl⟩ := eq_write_of_toYaml hseen
          have hread := (readJson?_of_ofYaml? hstored).1
          have hback : Yaml.readJson? (Yaml.write document) = some document := hreads _ rfl
          have hsame := Json.equal_refl document (ordered_of_ofYaml? hstored)
          simp [adoptEquivalentYaml, hread, hback, hsame]

/-- A text of several lines is equivalent to no other text. -/
theorem eq_of_equalTexts_newline {a b : String} (hnewline : '\n' ∈ b.toList)
    (h : Json.equalTexts a b = true) : a = b := by
  simp only [Json.equalTexts, Quantity.parse?_of_newline hnewline, Bool.or_eq_true,
    beq_iff_eq] at h
  rcases h with h | h
  · exact h
  · split at h <;> simp_all

/-- A text that is read as a value writes an equivalent document, null counting as the empty one,
unless the value is lost. -/
theorem document_of_readJson? {text : String} {value : Json}
    (hread : Yaml.readJson? text = some value) :
    ∃ document, ofYaml? (some text) = .ok document ∧
      (isLost (some text) = false →
        document = some value ∨ document = none ∧ value = .null) := by
  by_cases hnull : value = .null
  · subst hnull
    refine ⟨none, ?_, fun _ ↦ Or.inr ⟨rfl, rfl⟩⟩
    cases hblank : Text.isBlankText text <;> simp [ofYaml?, Option.filter, hblank, hread]
  · cases hblank : Text.isBlankText text with
    | true =>
        refine ⟨none, by simp [ofYaml?, Option.filter, hblank], fun hkept ↦ ?_⟩
        simp [isLost, hblank, hread, hnull] at hkept
    | false => exact ⟨some value, ofYaml?_of_readJson? hblank hread hnull, fun _ ↦ Or.inl rfl⟩

/-- A text that compares as equal with what was written for a document is read as an equivalent
value: it either was taken for the written text or is the written text. -/
theorem value_of_equalTexts {own : String} {document : Json}
    (hback : Yaml.readJson? (Yaml.write document) = some document)
    (h : Json.equalTexts ((adoptEquivalentYaml (some own) (some (Yaml.write document))).getD "")
      (Yaml.write document) = true) :
    ∃ value, Yaml.readJson? own = some value ∧ Json.equal value document = true := by
  have hnewline := Yaml.newline_mem_write document
  simp only [adoptEquivalentYaml, hback] at h
  split at h
  · next value found hread hfound =>
    obtain rfl : document = found := by simpa using hfound
    by_cases hequal : Json.equal value document = true
    · exact ⟨value, hread, hequal⟩
    · rw [if_neg hequal] at h
      obtain rfl : own = Yaml.write document := eq_of_equalTexts_newline hnewline h
      obtain rfl : document = value := by simpa using hback.symm.trans hread
      exact ⟨document, hread, Json.equal_refl _ (Yaml.readJson?_ordered hread)⟩
  · obtain rfl : own = Yaml.write document := eq_of_equalTexts_newline hnewline h
    exact ⟨document, hback, Json.equal_refl _ (Yaml.readJson?_ordered hback)⟩

/-- A text that compares as equal with what is reported for a document writes an equivalent
document, unless its value is lost. -/
theorem document_of_equalTexts {text : Option String} {remote : Option Json}
    (hgiven : text ≠ some "")
    (hreads : ∀ document, remote = some document → Yaml.ReadsBack document)
    (h : Json.equalTexts ((adoptEquivalentYaml text (toYaml remote)).getD "")
      ((toYaml remote).getD "") = true) :
    ∃ document, ofYaml? text = .ok document ∧
      (isLost text = false →
        Json.equal (document.getD (.object [])) (remote.getD (.object [])) = true) := by
  cases hseen : toYaml remote with
  | none =>
      rw [hseen] at h
      have hown : text.getD "" = "" := by
        simpa [adoptEquivalentYaml, Json.equalTexts_empty_right] using h
      obtain rfl : text = none := by
        rcases text with _ | text
        · rfl
        · exact absurd (congrArg some hown) hgiven
      exact ⟨none, rfl, fun _ ↦ equal_empty_of_toYaml_none hseen⟩
  | some seen =>
      obtain ⟨document, rfl, _, _, rfl⟩ := eq_write_of_toYaml hseen
      rw [hseen] at h
      have hback : Yaml.readJson? (Yaml.write document) = some document := hreads _ rfl
      have hnewline := Yaml.newline_mem_write document
      -- A written document ends in a line break, so no quantity is equivalent to it.
      rcases text with _ | own
      · exact absurd (eq_of_equalTexts_newline hnewline h).symm (Yaml.write_ne_empty document)
      · obtain ⟨value, hread, hequal⟩ := value_of_equalTexts hback h
        obtain ⟨written, hwritten, hsame⟩ := document_of_readJson? hread
        refine ⟨written, hwritten, fun hkept ↦ ?_⟩
        rcases hsame hkept with rfl | ⟨rfl, rfl⟩
        · exact hequal
        · rw [Json.equal_null_left] at hequal
          exact Json.equal_of_isZero rfl hequal

/-- What is read back of a document that was written as a text: nothing of an empty one, and nothing
of a text of blank characters that needs no quotes. -/
def kept (document : Option Json) : Option Json :=
  document.filter fun own ↦ own != .object [] && !Yaml.isBlankScalar own

/-- The text that is written for a document reads back as what is kept of it. -/
theorem ofYaml?_toYaml {document : Option Json} (hnull : document ≠ some .null)
    (hreads : ∀ own, document = some own → Yaml.ReadsBack own) :
    ofYaml? (toYaml document) = .ok (kept document) := by
  rcases document with _ | own
  · rfl
  · by_cases hempty : own = .object []
    · subst hempty
      rfl
    · have hown : own ≠ .null := fun h ↦ hnull (congrArg some h)
      have hback : Yaml.readJson? (Yaml.write own) = some own := hreads own rfl
      rw [toYaml_eq_some hown hempty]
      cases hblank : Yaml.isBlankScalar own with
      | true =>
          have hdropped : Text.isBlankText (Yaml.write own) = true := by
            rw [Yaml.isBlankText_write, hblank]
          simp [ofYaml?, kept, Option.filter, hdropped, hblank]
      | false =>
          have hshown : Text.isBlankText (Yaml.write own) = false := by
            rw [Yaml.isBlankText_write, hblank]
          simp [ofYaml?, kept, Option.filter, hshown, hback, hblank, hempty]

/-- A document that a text writes is not null. -/
theorem ofYaml?_ne_null {text : Option String} {document : Option Json}
    (h : ofYaml? text = .ok document) : document ≠ some .null := by
  rintro rfl
  rcases text with _ | own
  · simp [ofYaml?] at h
  · exact (readJson?_of_ofYaml? h).2 rfl

/-- A text fails to write a document exactly if it is neither blank nor a YAML value. -/
theorem ofYaml?_fails_iff {text : Option String} :
    (∃ error, ofYaml? text = .error error) ↔
      ∃ own, text = some own ∧ Text.isBlankText own = false ∧ Yaml.readJson? own = none := by
  rcases text with _ | own
  · simp [ofYaml?]
  · cases hblank : Text.isBlankText own with
    | true => simp [ofYaml?, Option.filter, hblank]
    | false =>
        cases hread : Yaml.readJson? own with
        | none => simp [ofYaml?, Option.filter, hblank, hread]
        | some value => cases value <;> simp [ofYaml?, Option.filter, hblank, hread]

end FleetOperator.Kustomization
