import FleetOperator.Proofs.Cluster.Passes
import FleetOperator.Proofs.Runs

/-!
# Waiting for a cluster

How the wait for a cluster goes, whatever the platform answers. Read `wait_follows_reads` first: the
results of the reads alone decide how often a cluster is read and what the wait gives, and every read
but the first is put off by a delay that never gets shorter. `waitFrom_succ_runs_iff` is one attempt,
`waitFrom_runs_iff` a whole wait.
-/

namespace FleetOperator

/-! ## Delays -/

namespace PollPolicy

variable (policy : PollPolicy)

/-- The delays double until the factor stops growing. -/
theorem delayAfter_of_lt {attempt : Nat} (h : attempt < 32) : policy.delayAfter attempt =
    ⟨min (policy.initialDelay.nanoseconds * Nat.pow 2 attempt) Duration.greatest.nanoseconds⟩ := by
  rw [delayAfter, if_pos h]
  rfl

/-- No delay is shorter than an earlier one. -/
theorem delayAfter_mono {earlier later : Nat} (h : earlier ≤ later) :
    (policy.delayAfter earlier).nanoseconds ≤ (policy.delayAfter later).nanoseconds := by
  have hfactor : (if earlier < 32 then Nat.pow 2 earlier else Nat.pow 2 32 - 1) ≤
      if later < 32 then Nat.pow 2 later else Nat.pow 2 32 - 1 := by
    split
    · next hearlier =>
      split
      · exact Nat.pow_le_pow_right (by decide) h
      · calc Nat.pow 2 earlier ≤ Nat.pow 2 31 := Nat.pow_le_pow_right (by decide) (by omega)
          _ ≤ Nat.pow 2 32 - 1 := by decide
    · next hearlier =>
      have hlater : ¬ later < 32 := by omega
      exact Nat.le_of_eq (if_neg hlater).symm
  simp only [delayAfter, Duration.times]
  have hproduct := Nat.mul_le_mul_left policy.initialDelay.nanoseconds hfactor
  omega

end PollPolicy

namespace Cluster

variable {policy : PollPolicy} {instanceId name : String} {exchanged : List (Exchange effects)}

/-! ## One attempt -/

/-- Whether the result of a read ends the wait: it found a settled cluster, or failed in
transport. -/
def Decisive : Except RemoteError Platform.Cluster → Prop
  | .ok cluster => cluster.isSettled = true
  | .error (.transport _) => True
  | .error _ => False

/-- The failure that stays behind a read that does not end the wait. -/
def failureOf (name : String) : Except RemoteError Platform.Cluster → RemoteError
  | .ok _ => unreconciled name
  | .error failure => failure

/-- After a decisive read nothing is asked, and its result is that of the wait. -/
theorem afterRead_of_decisive {answer : Except RemoteError Platform.Cluster} (h : Decisive answer)
    (left attempt : Nat) : afterRead policy instanceId name left attempt answer = pure answer := by
  rcases answer with (_ | _ | detail) | cluster
  · exact h.elim
  · exact h.elim
  · rfl
  · exact if_pos h

/-- After any other read the wait goes on with an attempt less. -/
theorem afterRead_of_not_decisive {answer : Except RemoteError Platform.Cluster}
    (h : ¬ Decisive answer) (left attempt : Nat) :
    afterRead policy instanceId name left attempt answer =
      waitFrom policy instanceId name left (attempt + 1) (failureOf name answer) := by
  rcases answer with (_ | _ | detail) | cluster
  · rfl
  · rfl
  · exact absurd trivial h
  · exact if_neg h

/-- What is asked in an attempt, counted from zero, whose read gives a result. -/
def attemptExchanges (policy : PollPolicy) (instanceId name : String) (attempt : Nat)
    (answer : Except RemoteError Platform.Cluster) : List (Exchange effects) :=
  (if attempt > 0 then [⟨.sleep (policy.delayAfter (attempt - 1)), ()⟩] else []) ++
    [⟨.platform (.getCluster instanceId name), answer⟩]

/-- An attempt waits, unless it is the first one, reads once, and goes on as the read says. -/
theorem waitFrom_succ_runs_iff {left attempt : Nat} {last : RemoteError}
    {result : Except RemoteError Platform.Cluster} :
    (waitFrom policy instanceId name (left + 1) attempt last).Runs exchanged result ↔
      ∃ answer rest, exchanged = attemptExchanges policy instanceId name attempt answer ++ rest ∧
        (afterRead policy instanceId name left attempt answer).Runs rest result := by
  have hread : ∀ {reading : List (Exchange effects)},
      (callPlatform (.getCluster instanceId name) >>=
        afterRead policy instanceId name left attempt).Runs reading result ↔
      ∃ answer rest, reading = ⟨.platform (.getCluster instanceId name), answer⟩ :: rest ∧
        (afterRead policy instanceId name left attempt answer).Runs rest result :=
    Program.runs_ask_iff
  rw [waitFrom_succ]
  by_cases hfirst : attempt > 0
  · rw [if_pos hfirst]
    constructor
    · intro h
      obtain ⟨_, reading, rfl, hreading⟩ := Program.runs_ask_iff.1 h
      obtain ⟨answer, rest, rfl, hrest⟩ := hread.1 hreading
      exact ⟨answer, rest, by rw [attemptExchanges, if_pos hfirst]; rfl, hrest⟩
    · rintro ⟨answer, rest, rfl, hrest⟩
      rw [attemptExchanges, if_pos hfirst]
      exact Program.runs_ask_iff.2 ⟨(), _, rfl, hread.2 ⟨answer, rest, rfl, hrest⟩⟩
  · rw [if_neg hfirst]
    simp only [attemptExchanges, if_neg hfirst]
    exact hread

/-! ## A whole wait -/

/-- The results of the reads among exchanges, in their order. -/
def readResults (exchanged : List (Exchange effects)) :
    List (Except RemoteError Platform.Cluster) :=
  exchanged.filterMap fun
    | ⟨.platform (.getCluster _ _), answer⟩ => some answer
    | _ => none

/-- Whether the reads among exchanges give the results of a sequence, as many as there are. -/
def Follows (reads : Nat → Except RemoteError Platform.Cluster)
    (exchanged : List (Exchange effects)) : Prop :=
  ∀ i answer, (readResults exchanged)[i]? = some answer → answer = reads i

/-- The first read of exchanges that start with an attempt gives the first result of a sequence, and
the others go on with it. -/
theorem follows_append_iff {reads : Nat → Except RemoteError Platform.Cluster} {attempt : Nat}
    {answer : Except RemoteError Platform.Cluster} {rest : List (Exchange effects)} :
    Follows reads (attemptExchanges policy instanceId name attempt answer ++ rest) ↔
      answer = reads 0 ∧ Follows (fun i ↦ reads (i + 1)) rest := by
  have hresults : readResults (attemptExchanges policy instanceId name attempt answer ++ rest) =
      answer :: readResults rest := by
    unfold attemptExchanges
    split <;> rfl
  unfold Follows
  rw [hresults]
  constructor
  · exact fun h ↦ ⟨h 0 answer rfl, fun i other hother ↦ h (i + 1) other hother⟩
  · rintro ⟨rfl, hrest⟩ (_ | i) other hother
    · exact (Option.some.inj hother).symm
    · exact hrest i other hother

/-- How many reads there are of a wait and what it gives, when the reads give the results of a
sequence: it ends with the first decisive one, or as not reconciled when its attempts run out. -/
inductive Ends (policy : PollPolicy) (name : String) (reads : Nat → Except RemoteError Platform.Cluster)
    (left : Nat) (last : RemoteError) : Nat → Except RemoteError Platform.Cluster → Prop
  | decided {k : Nat} (hleft : k < left) (hbefore : ∀ i < k, ¬ Decisive (reads i))
      (hdecisive : Decisive (reads k)) : Ends policy name reads left last (k + 1) (reads k)
  | exhausted (hbefore : ∀ i < left, ¬ Decisive (reads i)) :
      Ends policy name reads left last left
        (.error (exhausted policy name
          (if left = 0 then last else failureOf name (reads (left - 1)))))

variable {reads : Nat → Except RemoteError Platform.Cluster} {last : RemoteError}
  {result : Except RemoteError Platform.Cluster}

/-- A wait without attempts gives at once that the cluster is not reconciled. -/
theorem ends_zero_iff {count : Nat} : Ends policy name reads 0 last count result ↔
    count = 0 ∧ result = .error (exhausted policy name last) := by
  constructor
  · intro h
    cases h with
    | decided hleft => exact absurd hleft (Nat.not_lt_zero _)
    | exhausted hbefore => exact ⟨rfl, rfl⟩
  · rintro ⟨rfl, rfl⟩
    exact .exhausted fun i hi ↦ absurd hi (Nat.not_lt_zero i)

/-- A wait ends with its first read if that is decisive, and otherwise as a wait with an attempt
less. -/
theorem ends_succ_iff {left count : Nat} : Ends policy name reads (left + 1) last count result ↔
    (Decisive (reads 0) ∧ count = 1 ∧ result = reads 0) ∨
      (¬ Decisive (reads 0) ∧ ∃ others, count = others + 1 ∧
        Ends policy name (fun i ↦ reads (i + 1)) left (failureOf name (reads 0)) others result) := by
  constructor
  · intro h
    cases h with
    | @decided k hleft hbefore hdecisive =>
        cases k with
        | zero => exact .inl ⟨hdecisive, rfl, rfl⟩
        | succ k =>
            have hrest : Ends policy name (fun i ↦ reads (i + 1)) left (failureOf name (reads 0))
                (k + 1) (reads (k + 1)) :=
              .decided (Nat.lt_of_succ_lt_succ hleft)
                (fun i hi ↦ hbefore (i + 1) (Nat.succ_lt_succ hi)) hdecisive
            exact .inr ⟨hbefore 0 (Nat.succ_pos k), k + 1, rfl, hrest⟩
    | exhausted hbefore =>
        refine .inr ⟨hbefore 0 (Nat.succ_pos left), left, rfl, ?_⟩
        have hothers : ∀ i < left, ¬ Decisive (reads (i + 1)) :=
          fun i hi ↦ hbefore (i + 1) (Nat.succ_lt_succ hi)
        cases left with
        | zero => exact .exhausted hothers
        | succ left => exact .exhausted hothers
  · rintro (⟨hdecisive, rfl, rfl⟩ | ⟨hfirst, others, rfl, hrest⟩)
    · exact .decided (Nat.succ_pos left) (fun i hi ↦ absurd hi (Nat.not_lt_zero i)) hdecisive
    · have hbefore {k : Nat} (h : ∀ i < k, ¬ Decisive (reads (i + 1))) :
          ∀ i < k + 1, ¬ Decisive (reads i) := by
        rintro (_ | i) hi
        · exact hfirst
        · exact h i (Nat.lt_of_succ_lt_succ hi)
      cases hrest with
      | decided hleft hothers hdecisive =>
          exact .decided (Nat.succ_lt_succ hleft) (hbefore hothers) hdecisive
      | exhausted hothers =>
          cases left with
          | zero => exact .exhausted (hbefore hothers)
          | succ left => exact .exhausted (hbefore hothers)

/-- A wait in which the reads give the results of a sequence asks in every attempt what an attempt
asks, as often as the results make it, and gives what they make it give. -/
theorem waitFrom_runs_iff {left attempt : Nat} :
    (waitFrom policy instanceId name left attempt last).Runs exchanged result ∧
        Follows reads exchanged ↔
      ∃ count, Ends policy name reads left last count result ∧
        exchanged = (List.range count).flatMap fun i ↦
          attemptExchanges policy instanceId name (attempt + i) (reads i) := by
  -- Induction on the attempts that are left; the sequence of results moves on with every read.
  induction left generalizing attempt last reads exchanged with
  | zero =>
      simp only [ends_zero_iff]
      constructor
      · rintro ⟨hruns, -⟩
        obtain ⟨rfl, rfl⟩ := Program.runs_pure_iff.1 hruns
        exact ⟨0, ⟨rfl, rfl⟩, rfl⟩
      · rintro ⟨_, ⟨rfl, rfl⟩, rfl⟩
        exact ⟨Program.runs_pure_iff.2 ⟨rfl, rfl⟩, fun i answer h ↦ by simp [readResults] at h⟩
  | succ left ih =>
      have hothers (count : Nat) :
          ((List.range (count + 1)).flatMap fun i ↦
              attemptExchanges policy instanceId name (attempt + i) (reads i)) =
            attemptExchanges policy instanceId name attempt (reads 0) ++
              (List.range count).flatMap fun i ↦
                attemptExchanges policy instanceId name (attempt + 1 + i) (reads (i + 1)) := by
        simp only [List.range_succ_eq_map, List.flatMap_cons, List.flatMap_map, Nat.add_zero,
          Nat.add_succ, Nat.succ_add]
      simp only [waitFrom_succ_runs_iff, ends_succ_iff]
      constructor
      · rintro ⟨⟨answer, rest, rfl, hrest⟩, hfollows⟩
        obtain ⟨rfl, hrestFollows⟩ := follows_append_iff.1 hfollows
        by_cases hdecisive : Decisive (reads 0)
        · rw [afterRead_of_decisive hdecisive] at hrest
          obtain ⟨rfl, rfl⟩ := Program.runs_pure_iff.1 hrest
          exact ⟨1, .inl ⟨hdecisive, rfl, rfl⟩, (hothers 0).symm⟩
        · rw [afterRead_of_not_decisive hdecisive] at hrest
          obtain ⟨count, hends, rfl⟩ := ih.1 ⟨hrest, hrestFollows⟩
          exact ⟨count + 1, .inr ⟨hdecisive, count, rfl, hends⟩, (hothers count).symm⟩
      · rintro ⟨_, ⟨hdecisive, rfl, rfl⟩ | ⟨hdecisive, count, rfl, hends⟩, rfl⟩
        · rw [hothers]
          refine ⟨⟨reads 0, [], rfl, ?_⟩, follows_append_iff.2 ⟨rfl, ?_⟩⟩
          · rw [afterRead_of_decisive hdecisive]
            exact Program.runs_pure_iff.2 ⟨rfl, rfl⟩
          · exact fun i answer h ↦ by simp [readResults] at h
        · rw [hothers]
          obtain ⟨hrest, hrestFollows⟩ := ih.2 ⟨count, hends, rfl⟩
          refine ⟨⟨reads 0, _, rfl, ?_⟩, follows_append_iff.2 ⟨rfl, hrestFollows⟩⟩
          rw [afterRead_of_not_decisive hdecisive]
          exact hrest

/-- The results of the reads decide how a wait ends. -/
theorem exists_unique_ends (policy : PollPolicy) (name : String) (left : Nat)
    (reads : Nat → Except RemoteError Platform.Cluster) (last : RemoteError) :
    ∃ count result, ∀ reached found,
      Ends policy name reads left last reached found ↔ reached = count ∧ found = result := by
  induction left generalizing reads last with
  | zero => exact ⟨0, _, fun reached found ↦ ends_zero_iff⟩
  | succ left ih =>
      by_cases hdecisive : Decisive (reads 0)
      · refine ⟨1, reads 0, fun reached found ↦ ?_⟩
        simp only [ends_succ_iff, hdecisive, not_true_eq_false, true_and, false_and, or_false]
      · obtain ⟨count, result, hunique⟩ := ih (fun i ↦ reads (i + 1)) (failureOf name (reads 0))
        refine ⟨count + 1, result, fun reached found ↦ ?_⟩
        simp only [ends_succ_iff, hdecisive, hunique, not_false_eq_true, true_and, false_and,
          false_or]
        constructor
        · rintro ⟨_, rfl, rfl, rfl⟩
          exact ⟨rfl, rfl⟩
        · rintro ⟨rfl, rfl⟩
          exact ⟨count, rfl, rfl, rfl⟩

/-- Whatever the results of the reads are, a wait reads a cluster until the first decisive one, and
no more often than it has attempts. It gives the result of that read, and that the cluster is not
reconciled when there is none. Before every read but the first it sleeps once, for a delay that
doubles up to the greatest one and never gets shorter. -/
theorem wait_follows_reads (policy : PollPolicy) (instanceId name : String)
    (reads : Nat → Except RemoteError Platform.Cluster) :
    ∃ count result,
      (∀ exchanged found,
        ((waitUntilSettled policy instanceId name).Runs exchanged found ∧
            Follows reads exchanged) ↔
          (exchanged = ((List.range count).flatMap fun i ↦
            attemptExchanges policy instanceId name i (reads i)) ∧ found = result)) ∧
      (∀ k, Decisive (reads k) → (∀ i < k, ¬ Decisive (reads i)) →
        count = min policy.attempts (k + 1) ∧ (k < policy.attempts → result = reads k)) ∧
      ((∀ i < policy.attempts, ¬ Decisive (reads i)) →
        count = policy.attempts ∧ ∃ what, result = .error (.notReconciled what)) ∧
      (∀ i < 32, policy.delayAfter i =
        ⟨min (policy.initialDelay.nanoseconds * Nat.pow 2 i) Duration.greatest.nanoseconds⟩) ∧
      ∀ i j, i ≤ j → (policy.delayAfter i).nanoseconds ≤ (policy.delayAfter j).nanoseconds := by
  obtain ⟨count, result, hends⟩ :=
    exists_unique_ends policy name policy.attempts reads (unreconciled name)
  have hexhausted (hbefore : ∀ i < policy.attempts, ¬ Decisive (reads i)) :
      policy.attempts = count ∧ ∃ what, result = .error (.notReconciled what) := by
    obtain ⟨hcount, hresult⟩ := (hends _ _).1 (.exhausted hbefore)
    exact ⟨hcount, _, hresult.symm⟩
  refine ⟨count, result, ?_, ?_, ?_, fun i ↦ policy.delayAfter_of_lt,
    fun i j ↦ policy.delayAfter_mono⟩
  · intro exchanged found
    rw [waitUntilSettled, waitFrom_runs_iff]
    simp only [hends, Nat.zero_add]
    constructor
    · rintro ⟨_, ⟨rfl, rfl⟩, rfl⟩
      exact ⟨rfl, rfl⟩
    · rintro ⟨rfl, rfl⟩
      exact ⟨count, ⟨rfl, rfl⟩, rfl⟩
  · intro k hdecisive hbefore
    by_cases hk : k < policy.attempts
    · obtain ⟨rfl, rfl⟩ := (hends _ _).1 (.decided hk hbefore hdecisive)
      exact ⟨by omega, fun _ ↦ rfl⟩
    · obtain ⟨hcount, -⟩ := hexhausted fun i hi ↦ hbefore i (by omega)
      exact ⟨by omega, fun hlt ↦ absurd hlt hk⟩
  · intro hbefore
    obtain ⟨hcount, hresult⟩ := hexhausted hbefore
    exact ⟨hcount.symm, hresult⟩

/-- A cluster that is not there at first and settled at the second read is read twice of five times,
with one delay in between. -/
theorem wait_follows_reads_twice :
    let settled : Platform.Cluster := { reconciliationStatus := some { code := 3 } }
    let reads : Nat → Except RemoteError Platform.Cluster := fun i ↦
      if i = 0 then .error (.notFound "cluster prod") else .ok settled
    Decisive (reads 1) ∧ (∀ i < 1, ¬ Decisive (reads i)) ∧
      (waitUntilSettled {} "inst-1" "prod").Runs
        [⟨.platform (.getCluster "inst-1" "prod"), .error (.notFound "cluster prod")⟩,
          ⟨.sleep (.ofSeconds 1), ()⟩,
          ⟨.platform (.getCluster "inst-1" "prod"), .ok settled⟩]
        (.ok settled) := by
  intro settled reads
  have hfirst : ∀ i < 1, ¬ Decisive (reads i) := by
    intro i hi
    obtain rfl : i = 0 := by omega
    exact id
  obtain ⟨count, result, hruns, hdecided, -⟩ := wait_follows_reads {} "inst-1" "prod" reads
  obtain ⟨hcount, hresult⟩ := hdecided 1 rfl hfirst
  obtain rfl : count = 2 := hcount
  obtain rfl := hresult (by decide)
  exact ⟨rfl, hfirst, ((hruns _ _).2 ⟨rfl, rfl⟩).1⟩

end Cluster

end FleetOperator
