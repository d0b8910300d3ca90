import FleetOperator.Text.Blank
import Mathlib.Data.List.TakeWhile

/-!
# Trimming

What is left of a text without the blank characters at its ends. Read `trim_eq_iff` first: blank
characters alone are taken away, and what is left neither begins nor ends with one.
-/

namespace FleetOperator.Text

/-- Behind a text without the blank characters at its end stand blank characters. -/
theorem exists_blanks (cs : List Char) :
    ∃ blanks, cs = trimEnd cs ++ blanks ∧ ∀ c ∈ blanks, isBlank c = true := by
  induction cs with
  | nil => exact ⟨[], rfl, nofun⟩
  | cons c rest ih =>
      obtain ⟨blanks, hrest, hblanks⟩ := ih
      rw [trimEnd]
      split
      · next hnone =>
        rw [hnone, List.nil_append] at hrest
        split
        · next hc =>
          have hall : ∀ d ∈ c :: blanks, isBlank d = true := List.forall_mem_cons.2 ⟨hc, hblanks⟩
          exact ⟨c :: blanks, by rw [List.nil_append, ← hrest], hall⟩
        · exact ⟨blanks, by rw [List.singleton_append, ← hrest], hblanks⟩
      · exact ⟨blanks, by rw [List.cons_append, ← hrest], hblanks⟩

/-- Blank characters at the end do not count. -/
theorem trimEnd_append_blanks (cs : List Char) {blanks : List Char}
    (h : ∀ c ∈ blanks, isBlank c = true) : trimEnd (cs ++ blanks) = trimEnd cs := by
  induction cs with
  | nil =>
      induction blanks with
      | nil => rfl
      | cons c rest ih =>
          have hrest : trimEnd rest = [] := ih fun c hc ↦ h c (List.mem_cons_of_mem _ hc)
          simp [trimEnd, hrest, h c List.mem_cons_self]
  | cons c rest ih => rw [List.cons_append, trimEnd, ih, trimEnd]

/-- A text ends without a blank character exactly if nothing is taken away at its end. -/
theorem trimEnd_eq_self_iff {cs : List Char} :
    trimEnd cs = cs ↔ ∀ c ∈ cs.getLast?, isBlank c = false := by
  induction cs with
  | nil => simp [trimEnd]
  | cons c rest ih =>
      cases rest with
      | nil => cases hc : isBlank c <;> simp [trimEnd, hc]
      | cons d others =>
          rw [List.getLast?_cons_cons, ← ih, trimEnd]
          split
          · next hnone => split <;> simp [hnone]
          · simp

/-- Nothing is left of a text that could be taken away at its end. -/
theorem trimEnd_twice (cs : List Char) : trimEnd (trimEnd cs) = trimEnd cs := by
  obtain ⟨blanks, hcs, hblanks⟩ := exists_blanks cs
  have htwice := trimEnd_append_blanks (trimEnd cs) hblanks
  rw [← hcs] at htwice
  exact htwice.symm

/-- What is taken away at the start are the blank characters there. -/
theorem trimStart_eq_dropWhile (cs : List Char) : trimStart cs = cs.dropWhile isBlank := by
  induction cs with
  | nil => rfl
  | cons c rest ih => cases hc : isBlank c <;> simp [trimStart, hc, ih]

/-- Whether a text is what is left of another one without the blank characters at its ends. -/
structure Trims (whole left : List Char) : Prop where
  around : ∃ front back, whole = front ++ (left ++ back) ∧
    (∀ c ∈ front, isBlank c = true) ∧ ∀ c ∈ back, isBlank c = true
  start : ∀ c ∈ left.head?, isBlank c = false
  finish : ∀ c ∈ left.getLast?, isBlank c = false

/-- Trimming leaves what stands between the blank characters at the ends. -/
theorem trim_eq_iff {whole left : List Char} :
    trim (String.ofList whole) = String.ofList left ↔ Trims whole left := by
  rw [trim, String.toList_ofList, String.ofList_inj, trimStart_eq_dropWhile]
  constructor
  · rintro rfl
    obtain ⟨back, hrest, hback⟩ := exists_blanks (whole.dropWhile isBlank)
    refine ⟨⟨whole.takeWhile isBlank, back, ?_, fun c hc ↦ ?_, hback⟩, ?_,
      trimEnd_eq_self_iff.1 (trimEnd_twice _)⟩
    · rw [← hrest, List.takeWhile_append_dropWhile]
    · exact List.all_eq_true.1 List.all_takeWhile c hc
    · intro c hc
      have hhead := List.head?_dropWhile_not isBlank whole
      have hfirst : (whole.dropWhile isBlank).head? = some c := by
        rw [hrest, List.head?_append, Option.mem_def.1 hc]
        rfl
      rwa [hfirst] at hhead
  · rintro ⟨⟨front, back, rfl, hfront, hback⟩, hstart, hfinish⟩
    rw [List.dropWhile_append_of_pos hfront]
    cases left with
    | nil =>
        rw [List.nil_append, List.dropWhile_eq_nil_iff.2 hback]
        rfl
    | cons c rest =>
        have hc : isBlank c = false := hstart c rfl
        rw [List.cons_append, List.dropWhile_cons_of_neg (by simp [hc]), ← List.cons_append,
          trimEnd_append_blanks _ hback, trimEnd_eq_self_iff.2 hfinish]

end FleetOperator.Text
