import FleetOperator.Manifest.Document
import FleetOperator.Proofs.Text.Trim

/-!
# Splitting a manifest

What the documents of a manifest are, as parts of its text. Read `documents_are_runs` first: they
are the longest stretches of lines without a separator among them, in the order of the text, less
the blank ones. So whole documents that are joined by separators come back as they were.
-/

namespace FleetOperator

namespace Manifest

/-! ## Lines -/

/-- The lines of a text: each ends with its only line feed, which the last one may lack. -/
inductive IsLines : List Char → List (List Char) → Prop
  | none : IsLines [] []
  | last {line : List Char} (hline : line ≠ []) (h : '\n' ∉ line) : IsLines line [line]
  | feed {line rest : List Char} {lines : List (List Char)} (h : '\n' ∉ line)
      (hrest : IsLines rest lines) : IsLines (line ++ '\n' :: rest) ((line ++ ['\n']) :: lines)

/-- Whether a line separates documents: three dashes, and only blank characters behind them. -/
def Separates (line : List Char) : Prop :=
  ∃ blanks, line = ['-', '-', '-'] ++ blanks ∧ ∀ c ∈ blanks, Text.isBlank c = true

/-- What is told to be a separator separates documents. -/
theorem isSeparator_iff {line : List Char} : isSeparator line = true ↔ Separates line := by
  rw [isSeparator, beq_iff_eq]
  constructor
  · intro h
    obtain ⟨blanks, hline, hblanks⟩ := Text.exists_blanks line
    exact ⟨blanks, by rw [← h]; exact hline, hblanks⟩
  · rintro ⟨blanks, rfl, hblanks⟩
    rw [Text.trimEnd_append_blanks _ hblanks]
    decide

/-- A text without a line feed is one line. -/
theorem splitLines_of_not_mem {line : List Char} (hline : line ≠ []) (h : '\n' ∉ line) :
    splitLines line = [line] := by
  induction line with
  | nil => contradiction
  | cons c line ih =>
      obtain ⟨hc, hrest⟩ : '\n' ≠ c ∧ '\n' ∉ line := by simpa using h
      cases line with
      | nil => simp [splitLines, Ne.symm hc]
      | cons d line => rw [splitLines, if_neg (Ne.symm hc), ih (by simp) hrest]

/-- The first line ends with the first line feed. -/
theorem splitLines_append_feed {line : List Char} (h : '\n' ∉ line) (rest : List Char) :
    splitLines (line ++ '\n' :: rest) = (line ++ ['\n']) :: splitLines rest := by
  induction line with
  | nil => simp [splitLines]
  | cons c line ih =>
      obtain ⟨hc, hrest⟩ : '\n' ≠ c ∧ '\n' ∉ line := by simpa using h
      rw [List.cons_append, splitLines, if_neg (Ne.symm hc), ih hrest]
      rfl

/-- A text is split into its lines. -/
theorem splitLines_isLines (text : List Char) : IsLines text (splitLines text) := by
  induction text with
  | nil => exact .none
  | cons c rest ih =>
      rw [splitLines]
      split
      · next hc => exact hc ▸ .feed List.not_mem_nil ih
      · next hc =>
        have hfresh {line : List Char} (h : '\n' ∉ line) : '\n' ∉ c :: line := by
          simp [Ne.symm hc, h]
        -- The character stands in front of the first line of the rest.
        generalize splitLines rest = lines at ih
        cases ih with
        | none => exact .last (by simp) (hfresh List.not_mem_nil)
        | last _ h => exact .last (by simp) (hfresh h)
        | feed h hrest => exact .feed (hfresh h) hrest

/-- A text has no other lines than those it is split into. -/
theorem isLines_iff {text : List Char} {lines : List (List Char)} :
    IsLines text lines ↔ lines = splitLines text := by
  constructor
  · intro h
    induction h with
    | none => rfl
    | last hline h => rw [splitLines_of_not_mem hline h]
    | feed h _ ih => rw [splitLines_append_feed h, ih]
  · rintro rfl
    exact splitLines_isLines text

/-- The lines of a text together are the text. -/
theorem IsLines.flatten {text : List Char} {lines : List (List Char)} (h : IsLines text lines) :
    lines.flatten = text := by
  induction h with
  | none => rfl
  | last => simp
  | feed _ _ ih => simp [ih]

/-- Behind a line feed a new line begins. -/
theorem splitLines_append {text : List Char} (h : ∀ c ∈ text.getLast?, c = '\n')
    (rest : List Char) : splitLines (text ++ rest) = splitLines text ++ splitLines rest := by
  have hlines := splitLines_isLines text
  generalize splitLines text = lines at hlines
  induction hlines with
  | none => rfl
  | @last line hline hfeed =>
      have hlast := h _ (List.getLast?_eq_some_getLast hline)
      exact absurd (hlast ▸ List.getLast_mem hline) hfeed
  | @feed line text lines hfeed _ ih =>
      have hrest : ∀ c ∈ text.getLast?, c = '\n' := by
        intro c hc
        exact h c (by simp [List.getLast?_append, List.getLast?_cons, Option.mem_def.1 hc])
      rw [List.append_assoc, List.cons_append, splitLines_append_feed hfeed, ih hrest]
      rfl

/-! ## Runs of lines -/

/-- Consecutive lines among others: those before, the run itself, and those after. -/
structure Run where
  before : List (List Char)
  lines : List (List Char)
  after : List (List Char)

namespace Run

/-- The text of a run. -/
def text (run : Run) : List Char := run.lines.flatten

/-- A run with a line more before it. -/
def push (line : List Char) (run : Run) : Run := { run with before := line :: run.before }

/-- A run with a line more at its start. -/
def extend (line : List Char) (run : Run) : Run := { run with lines := line :: run.lines }

/-- Whether a run is a longest one without a separator among the lines of a text. -/
structure MaximalIn (run : Run) (all : List (List Char)) : Prop where
  parts : run.before ++ run.lines ++ run.after = all
  clear : ∀ line ∈ run.lines, ¬ Separates line
  starts : ∀ line ∈ run.before.getLast?, Separates line
  ends : ∀ line ∈ run.after.head?, Separates line

end Run

/-- The longest runs without a separator, in the order of the text. -/
def runs : List (List Char) → List Run
  | [] => [⟨[], [], []⟩]
  | line :: rest =>
    if isSeparator line then ⟨[], [], line :: rest⟩ :: (runs rest).map (Run.push line)
    else
      match runs rest with
      | [] => []
      | run :: others => run.extend line :: others.map (Run.push line)

variable {line : List Char} {rest : List (List Char)} {run : Run}

/-- The first run has nothing before it. -/
theorem exists_first_run (lines : List (List Char)) :
    ∃ first others, runs lines = first :: others ∧ first.before = [] := by
  induction lines with
  | nil => exact ⟨_, _, rfl, rfl⟩
  | cons line rest ih =>
      obtain ⟨first, others, hrest, hfirst⟩ := ih
      rw [runs, hrest]
      split
      · exact ⟨_, _, rfl, rfl⟩
      · exact ⟨_, _, rfl, hfirst⟩

/-- The segments of lines are the texts of the runs. -/
theorem segments_eq (lines : List (List Char)) : segments lines = (runs lines).map Run.text := by
  induction lines with
  | nil => rfl
  | cons line rest ih =>
      obtain ⟨first, others, hrest, -⟩ := exists_first_run rest
      rw [segments, runs, ih]
      split
      · rw [List.map_cons, List.map_map]
        rfl
      · rw [hrest, List.map_cons, List.map_cons, List.map_map]
        rfl

/-- The runs are in the order of the text. -/
theorem runs_ordered (lines : List (List Char)) :
    (runs lines).Pairwise fun a b ↦ a.before.length < b.before.length := by
  induction lines with
  | nil => simp [runs]
  | cons line rest ih =>
      obtain ⟨first, others, hrest, hfirst⟩ := exists_first_run rest
      have hpushed {list : List Run}
          (h : list.Pairwise fun a b ↦ a.before.length < b.before.length) :
          (list.map (Run.push line)).Pairwise fun a b ↦ a.before.length < b.before.length :=
        List.pairwise_map.2 (h.imp (by simp [Run.push]))
      rw [runs]
      split
      · exact .cons (by simp [Run.push]) (hpushed ih)
      · rw [hrest] at ih ⊢
        exact .cons (by simp [Run.push, Run.extend, hfirst]) (hpushed ih.of_cons)

/-- With a line more in front, the last of the lines before a run is a separator exactly if it was
one, or there was none and the line is one. -/
theorem starts_cons_iff {before : List (List Char)} :
    (∀ last ∈ (line :: before).getLast?, Separates last) ↔
      (before = [] → Separates line) ∧ ∀ last ∈ before.getLast?, Separates last := by
  cases before <;> simp [List.getLast?_cons]

/-- Among lines that begin with a separator, a longest run is the empty one at the start or one
among the rest. -/
theorem maximalIn_cons_of_separates (hline : Separates line) :
    run.MaximalIn (line :: rest) ↔
      run = ⟨[], [], line :: rest⟩ ∨
        ∃ inner : Run, inner.MaximalIn rest ∧ run = inner.push line := by
  obtain ⟨before, lines, after⟩ := run
  constructor
  · rintro ⟨hparts, hclear, hstarts, hends⟩
    cases before with
    | nil =>
        cases lines with
        | nil => exact .inl (by simpa using hparts)
        | cons first lines =>
            obtain ⟨rfl, -⟩ : first = line ∧ _ := by simpa using hparts
            exact absurd hline (hclear first List.mem_cons_self)
    | cons first before =>
        obtain ⟨rfl, hrest⟩ : first = line ∧ before ++ lines ++ after = rest := by
          simpa using hparts
        exact .inr ⟨⟨before, lines, after⟩,
          ⟨hrest, hclear, (starts_cons_iff.1 hstarts).2, hends⟩, rfl⟩
  · rintro (hrun | ⟨inner, hinner, hrun⟩)
    · cases hrun
      exact ⟨rfl, nofun, nofun, by simpa using hline⟩
    · cases hrun
      exact ⟨by simp [← hinner.parts], hinner.clear,
        starts_cons_iff.2 ⟨fun _ ↦ hline, hinner.starts⟩, hinner.ends⟩

/-- Among lines that begin with no separator, a longest run is the first one among the rest with the
line in front, or a later one. -/
theorem maximalIn_cons_of_not_separates (hline : ¬ Separates line) :
    run.MaximalIn (line :: rest) ↔ ∃ inner : Run, inner.MaximalIn rest ∧
      (inner.before = [] ∧ run = inner.extend line ∨
        inner.before ≠ [] ∧ run = inner.push line) := by
  obtain ⟨before, lines, after⟩ := run
  constructor
  · rintro ⟨hparts, hclear, hstarts, hends⟩
    cases before with
    | nil =>
        cases lines with
        | nil =>
            obtain rfl : after = line :: rest := by simpa using hparts
            exact absurd (hends line rfl) hline
        | cons first lines =>
            obtain ⟨rfl, hrest⟩ : first = line ∧ lines ++ after = rest := by simpa using hparts
            exact ⟨⟨[], lines, after⟩,
              ⟨hrest, fun _ h ↦ hclear _ (List.mem_cons_of_mem _ h), nofun, hends⟩, .inl ⟨rfl, rfl⟩⟩
    | cons first before =>
        obtain ⟨rfl, hrest⟩ : first = line ∧ before ++ lines ++ after = rest := by
          simpa using hparts
        obtain ⟨hnone, hlast⟩ := starts_cons_iff.1 hstarts
        exact ⟨⟨before, lines, after⟩, ⟨hrest, hclear, hlast, hends⟩, .inr ⟨mt hnone hline, rfl⟩⟩
  · rintro ⟨inner, hinner, ⟨hbefore, hrun⟩ | ⟨hbefore, hrun⟩⟩
    · cases hrun
      refine ⟨by simp [hbefore, ← hinner.parts], ?_, hinner.starts, hinner.ends⟩
      simpa using ⟨hline, hinner.clear⟩
    · cases hrun
      exact ⟨by simp [← hinner.parts], hinner.clear,
        starts_cons_iff.2 ⟨fun hnone ↦ absurd hnone hbefore, hinner.starts⟩, hinner.ends⟩

/-- The runs are the longest ones without a separator. -/
theorem mem_runs_iff {lines : List (List Char)} : run ∈ runs lines ↔ run.MaximalIn lines := by
  induction lines generalizing run with
  | nil =>
      obtain ⟨before, lines, after⟩ := run
      constructor
      · intro hmem
        obtain ⟨rfl, rfl, rfl⟩ : before = [] ∧ lines = [] ∧ after = [] := by simpa [runs] using hmem
        exact ⟨rfl, nofun, nofun, nofun⟩
      · rintro ⟨hparts, -, -, -⟩
        simpa [runs, and_assoc] using hparts
  | cons line rest ih =>
      by_cases hline : isSeparator line = true
      · rw [maximalIn_cons_of_separates (isSeparator_iff.1 hline), runs, if_pos hline]
        simp only [List.mem_cons, List.mem_map, ih, eq_comm]
      · have hclear : ¬ Separates line := mt isSeparator_iff.2 hline
        rw [maximalIn_cons_of_not_separates hclear, runs, if_neg hline]
        obtain ⟨first, others, hrest, hfirst⟩ := exists_first_run rest
        -- Only the first run of the rest has nothing before it.
        have hothers : ∀ other ∈ others, other.before ≠ [] := by
          intro other hother hnil
          have hordered := runs_ordered rest
          rw [hrest] at hordered
          simpa [hfirst, hnil] using List.rel_of_pairwise_cons hordered hother
        simp only [hrest, ← ih, List.mem_cons, List.mem_map]
        constructor
        · rintro (rfl | ⟨other, hother, rfl⟩)
          · exact ⟨first, .inl rfl, .inl ⟨hfirst, rfl⟩⟩
          · exact ⟨other, .inr hother, .inr ⟨hothers other hother, rfl⟩⟩
        · rintro ⟨inner, rfl | hinner, ⟨hnil, rfl⟩ | ⟨hcons, rfl⟩⟩
          · exact .inl rfl
          · exact absurd hfirst hcons
          · exact absurd hnil (hothers inner hinner)
          · exact .inr ⟨inner, hinner, rfl⟩

/-! ## Whole documents -/

/-- Whether a text is a whole document: it is not blank, ends with a line feed, and has no separator
among its lines. -/
structure IsWhole (document : String) : Prop where
  filled : ∃ c ∈ document.toList, Text.isBlank c = false
  ended : document.toList.getLast? = some '\n'
  clear : ∀ lines, IsLines document.toList lines → ∀ line ∈ lines, ¬ Separates line

/-- A text is a whole document exactly if it passes these checks. -/
theorem isWhole_iff {document : String} :
    IsWhole document ↔ document.toList.all Text.isBlank = false ∧
      document.toList.getLast? = some '\n' ∧
        ∀ line ∈ splitLines document.toList, isSeparator line = false := by
  have hfilled : (∃ c ∈ document.toList, Text.isBlank c = false) ↔
      document.toList.all Text.isBlank = false := by simp
  have hclear : (∀ lines, IsLines document.toList lines → ∀ line ∈ lines, ¬ Separates line) ↔
      ∀ line ∈ splitLines document.toList, isSeparator line = false := by
    simp [isLines_iff, ← isSeparator_iff]
  rw [← hfilled, ← hclear]
  exact ⟨fun h ↦ ⟨h.filled, h.ended, h.clear⟩, fun ⟨hfilled, hended, hclear⟩ ↦
    ⟨hfilled, hended, hclear⟩⟩

instance : DecidablePred IsWhole := fun _ ↦ decidable_of_iff _ isWhole_iff.symm

/-- Lines without a separator begin the first segment. -/
theorem segments_append {lines rest : List (List Char)}
    (h : ∀ line ∈ lines, ¬ Separates line) {first : List Char} {others : List (List Char)}
    (hrest : segments rest = first :: others) :
    segments (lines ++ rest) = (lines.flatten ++ first) :: others := by
  induction lines with
  | nil => exact hrest
  | cons line lines ih =>
      obtain ⟨hline, hlines⟩ := List.forall_mem_cons.1 h
      rw [List.cons_append, segments, if_neg (mt isSeparator_iff.1 hline), ih hlines]
      simp

namespace IsWhole

variable {document : String} (h : IsWhole document)
include h

/-- A whole document is a document by itself. -/
theorem split_eq : split document.toList = [document.toList] := by
  have hlines := splitLines_isLines document.toList
  have hsegments : segments (splitLines document.toList) = [document.toList] := by
    rw [← List.append_nil (splitLines document.toList), segments_append (h.clear _ hlines) rfl,
      hlines.flatten, List.append_nil]
  obtain ⟨c, hc, hblank⟩ := h.filled
  rw [split, hsegments]
  simpa using ⟨c, hc, hblank⟩

/-- A whole document in front of a separator is the first document. -/
theorem split_append (rest : List Char) :
    split (document.toList ++ ['-', '-', '-', '\n'] ++ rest) = document.toList :: split rest := by
  have hlines := splitLines_isLines document.toList
  have hseparator : splitLines (['-', '-', '-', '\n'] ++ rest) =
      ['-', '-', '-', '\n'] :: splitLines rest :=
    splitLines_append_feed (by decide : '\n' ∉ ['-', '-', '-']) rest
  have hsegments : segments (['-', '-', '-', '\n'] :: splitLines rest) =
      [] :: segments (splitLines rest) := by
    rw [segments, if_pos (by decide)]
  have hended : ∀ c ∈ document.toList.getLast?, c = '\n' := by simp [h.ended]
  obtain ⟨c, hc, hblank⟩ := h.filled
  rw [split, List.append_assoc, splitLines_append hended, hseparator,
    segments_append (h.clear _ hlines) hsegments, List.append_nil, hlines.flatten,
    List.filter_cons_of_pos (by simpa using ⟨c, hc, hblank⟩), split]

end IsWhole

/-- Whole documents with separators between them are split into themselves. -/
theorem documents_intercalate {list : List String} (h : ∀ document ∈ list, IsWhole document) :
    documents ("---\n".intercalate list) = list := by
  suffices hsplit : split ("---\n".intercalate list).toList = list.map String.toList by
    rw [documents, hsplit, List.map_map]
    simp [Function.comp_def]
  rw [String.toList_intercalate]
  induction list with
  | nil => rfl
  | cons document list ih =>
      obtain ⟨hdocument, hlist⟩ := List.forall_mem_cons.1 h
      cases list with
      | nil => simpa using hdocument.split_eq
      | cons next list =>
          rw [List.map_cons, List.map_cons, List.intercalate_cons_cons]
          exact (hdocument.split_append _).trans (congrArg _ (ih hlist))

/-- The documents of a manifest are, in the order of the text, the longest runs of lines that have
no separator among them and a character that is not blank. So whole documents that are joined by
separators come back as they were. -/
theorem documents_are_runs :
    (∀ manifest : String, ∃ lines : List (List Char),
      (∀ other, IsLines manifest.toList other ↔ other = lines) ∧
      ∃ found : List Run, (found.Pairwise fun a b ↦ a.before.length < b.before.length) ∧
        (∀ run, run ∈ found ↔
          run.MaximalIn lines ∧ ∃ c ∈ run.text, Text.isBlank c = false) ∧
        documents manifest = found.map fun run ↦ String.ofList run.text) ∧
    ∀ list : List String, (∀ document ∈ list, IsWhole document) →
      documents ("---\n".intercalate list) = list := by
  refine ⟨fun manifest ↦ ⟨splitLines manifest.toList, fun _ ↦ isLines_iff,
    (runs (splitLines manifest.toList)).filter fun run ↦ !run.text.all Text.isBlank,
    (runs_ordered _).filter _, ?_, ?_⟩, fun _ ↦ documents_intercalate⟩
  · intro run
    simp [List.mem_filter, mem_runs_iff]
  · rw [documents, split, segments_eq, List.filter_map, List.map_map]
    rfl

/-- Two documents, the second with a line that only looks like a separator. -/
theorem documents_are_runs_indented :
    (∀ document ∈ ["a: 1\n", "b: |\n  ---\n"], IsWhole document) ∧
      documents "a: 1\n---\nb: |\n  ---\n" = ["a: 1\n", "b: |\n  ---\n"] := by
  have hwhole : ∀ document ∈ ["a: 1\n", "b: |\n  ---\n"], IsWhole document := by decide +kernel
  exact ⟨hwhole, documents_are_runs.2 _ hwhole⟩

end Manifest

end FleetOperator
