import FleetOperator.Proofs.Runs

/-!
# Runs of interpreted programs

What a program asks whose questions are answered by other programs. Read `Program.runs_interpret_iff`
first: its runs are those of the program itself, with each question and its answer replaced by what
was asked to find the answer. `Expanded.exists_origin` tells for a question in such a run what it
was asked for.
-/

namespace FleetOperator.Program

variable {I J : Interface} {α : Type}

/-- Whether exchanges are others with each one replaced by a run of the program that finds its
answer. -/
inductive Expanded (answer : (question : I.Call) → Program J (I.Answer question)) :
    List (Exchange I) → List (Exchange J) → Prop
  | nil : Expanded answer [] []
  | cons {exchange : Exchange I} {finding : List (Exchange J)} {rest : List (Exchange I)}
      {others : List (Exchange J)} (hfinding : (answer exchange.call).Runs finding exchange.answer)
      (hrest : Expanded answer rest others) :
      Expanded answer (exchange :: rest) (finding ++ others)

variable {answer : (question : I.Call) → Program J (I.Answer question)}

/-- The runs of an interpreted program are the expanded runs of the program. -/
theorem runs_interpret_iff {program : Program I α} {exchanged : List (Exchange J)} {value : α} :
    (program.interpret answer).Runs exchanged value ↔
      ∃ outer, program.Runs outer value ∧ Expanded answer outer exchanged := by
  induction program generalizing exchanged with
  | done found =>
      constructor
      · intro h
        obtain ⟨rfl, rfl⟩ := runs_pure_iff.1 h
        exact ⟨[], .done _, .nil⟩
      · rintro ⟨outer, hrun, hexpanded⟩
        cases hrun
        cases hexpanded
        exact .done _
  | ask question next ih =>
      constructor
      · intro h
        obtain ⟨finding, found, others, hfinding, hrest, rfl⟩ := runs_bind_iff.1 h
        obtain ⟨outer, hrun, hexpanded⟩ := (ih found).1 hrest
        exact ⟨⟨question, found⟩ :: outer, .ask found hrun, .cons hfinding hexpanded⟩
      · rintro ⟨outer, hrun, hexpanded⟩
        cases hrun with
        | ask found hrun =>
            cases hexpanded with
            | cons hfinding hrest =>
                exact runs_bind_iff.2 ⟨_, found, _, hfinding, (ih found).2 ⟨_, hrun, hrest⟩, rfl⟩

/-- An exchange of an expanded run belongs to the run of one of the programs that find answers, and
what stands before it are the earlier ones of this run and of those that came before. -/
theorem Expanded.exists_origin {outer : List (Exchange I)} {inner before after : List (Exchange J)}
    {exchange : Exchange J} (h : Expanded answer outer inner)
    (hsplit : inner = before ++ exchange :: after) :
    ∃ earlier origin later first part last, outer = earlier ++ origin :: later ∧
      Expanded answer earlier first ∧ before = first ++ part ∧
      (answer origin.call).Runs (part ++ exchange :: last) origin.answer := by
  induction h generalizing before with
  | nil => simp at hsplit
  | @cons origin finding rest others hfinding hrest ih =>
      rcases List.append_eq_append_iff.1 hsplit with
        ⟨between, rfl, hothers⟩ | ⟨between, rfl, hlast⟩
      · obtain ⟨earlier, found, later, first, part, last, rfl, hearlier, rfl, hrun⟩ := ih hothers
        exact ⟨origin :: earlier, found, later, finding ++ first, part, last, rfl,
          .cons hfinding hearlier, (List.append_assoc _ _ _).symm, hrun⟩
      · cases between with
        | nil =>
            -- The exchange is the first one after this run, so it belongs to the rest.
            obtain ⟨earlier, found, later, first, part, last, rfl, hearlier, hbefore, hrun⟩ :=
              ih (hlast.symm.trans (List.nil_append _).symm)
            refine ⟨origin :: earlier, found, later, before ++ first, part, last, rfl, ?_, ?_, hrun⟩
            · exact .cons (by simpa using hfinding) hearlier
            · rw [List.append_assoc, ← hbefore, List.append_nil]
        | cons found last =>
            obtain ⟨rfl, -⟩ := List.cons.inj hlast
            exact ⟨[], origin, rest, [], before, last, rfl, .nil, rfl, hfinding⟩

/-- An exchange whose question is asked as it is stays in an expanded run. -/
theorem Expanded.mem {answer : (question : I.Call) → Program I (I.Answer question)}
    {outer inner : List (Exchange I)} (h : Expanded answer outer inner) {exchange : Exchange I}
    (hself : answer exchange.call = call exchange.call) (hmem : exchange ∈ outer) :
    exchange ∈ inner := by
  induction h with
  | nil => exact hmem
  | @cons origin finding rest others hfinding hrest ih =>
      rcases List.mem_cons.1 hmem with rfl | hmem
      · rw [hself] at hfinding
        obtain ⟨found, last, rfl, hdone⟩ := runs_ask_iff.1 hfinding
        cases hdone
        exact List.mem_cons_self
      · exact List.mem_append_right _ (ih hmem)

/-- An interpreted program asks what the programs ask that find the answers. -/
theorem Asks.interpret {kind : J.Call → Prop} (h : ∀ question, (answer question).Asks kind)
    (program : Program I α) : (program.interpret answer).Asks kind := by
  induction program with
  | done value => trivial
  | ask question next ih => exact (h question).bind ih

end FleetOperator.Program
