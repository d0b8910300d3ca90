import FleetOperator.Platform.Download
import FleetOperator.Proofs.Text.Utf8

/-!
# Downloads in any schedule

The octets and the failures of a download come over two channels, and nothing orders what one
channel does against the other: each sender sends and leaves when it likes, and the loop that
collects the download takes from either channel. A `Session` is the download at one moment, and
`Session.Schedule` lists the ways it can go on. Read `collected_in_any_schedule` first: whichever
way it goes, the loop returns, and what it returns is what `collect` makes of the pieces in the
order in which they were taken and depends on nothing but the failures and the octets in a row.

The proof rests on `Session.Keeps`, which holds of a download that starts and is kept by each step.
-/

namespace FleetOperator.Platform

/-- A channel: what was sent and not yet taken, and what the sender has still to send. The sender is
`none` once it is gone. -/
structure Channel (α : Type) where
  queued : List α := []
  sender : Option (List α)

namespace Channel

variable {α : Type}

/-- The sender sends the next item, or leaves once it has sent all. -/
inductive Sends : Channel α → Channel α → Prop
  | send {queued rest : List α} {item : α} :
      Sends ⟨queued, some (item :: rest)⟩ ⟨queued ++ [item], some rest⟩
  | leave {queued : List α} : Sends ⟨queued, some []⟩ ⟨queued, none⟩

/-- The receiver is given the oldest item, or told that the channel has ended: the sender is gone
and nothing is left of what it sent. -/
inductive Gives : Channel α → Option α → Channel α → Prop
  | item {item : α} {queued : List α} {sender : Option (List α)} :
      Gives ⟨item :: queued, sender⟩ (some item) ⟨queued, sender⟩
  | ended : Gives ⟨[], none⟩ none ⟨[], none⟩

/-- The receiver has to wait for the sender. -/
def Pending (c : Channel α) : Prop := c.queued = [] ∧ c.sender ≠ none

/-- What the receiver has still to take, in order. -/
def content (c : Channel α) : List α := c.queued ++ c.sender.getD []

/-- How many items are still sent and taken, where the sender also leaves. -/
def size (c : Channel α) : Nat :=
  c.queued.length + c.sender.elim 0 fun rest ↦ 2 * rest.length + 1

variable {c d : Channel α} {item : α}

/-- Sending loses and reorders nothing. -/
theorem Sends.content (h : c.Sends d) : d.content = c.content := by
  cases h <;> simp [Channel.content]

theorem Sends.size (h : c.Sends d) : d.size < c.size := by
  cases h with
  | send =>
      simp [Channel.size]
      omega
  | leave => simp [Channel.size]

theorem Gives.content (h : c.Gives (some item) d) : c.content = item :: d.content := by
  cases h
  simp [Channel.content]

theorem Gives.size (h : c.Gives (some item) d) : d.size < c.size := by
  cases h
  simp [Channel.size]

/-- A channel that has ended carries nothing. -/
theorem Gives.ended_content (h : c.Gives none d) : c.content = [] := by
  cases h
  rfl

/-- A channel that has ended stays as it is. -/
theorem Gives.ended_eq (h : c.Gives none d) : d = c := by
  cases h
  rfl

/-- A channel for which the receiver does not wait has something for it. -/
theorem gives_of_not_pending (h : ¬ c.Pending) : ∃ given d, c.Gives given d := by
  obtain ⟨queued, sender⟩ := c
  cases queued with
  | cons item rest => exact ⟨some item, _, .item⟩
  | nil =>
      cases sender with
      | none => exact ⟨none, _, .ended⟩
      | some rest => exact absurd ⟨rfl, by simp⟩ h

end Channel

/-- A download at one moment: both channels, what the loop has collected, the pieces that it has
taken so far, and what it has returned. -/
structure Session where
  octets : Channel (List UInt8)
  failures : Channel RemoteError
  collector : Collector := {}
  taken : List Delivery := []
  result : Option (Except RemoteError String) := none

namespace Session

/-- A download of which nothing has been sent. -/
def start (chunks : List (List UInt8)) (errors : List RemoteError) : Session :=
  { octets := { sender := some chunks }, failures := { sender := some errors } }

/-- One turn of the loop. It takes what either open channel gives; a failure it returns at once, and
the text when both channels have ended. -/
inductive Turn (s : Session) : Session → Prop
  | octets {chunk : List UInt8} {octets : Channel (List UInt8)} (hruns : s.result = none)
      (hopen : s.collector.octetsOpen = true) (hgives : s.octets.Gives (some chunk) octets) :
      Turn s { s with
        octets, taken := s.taken ++ [.octets chunk]
        collector := { s.collector with received := s.collector.received ++ chunk } }
  | octetsEnd {octets : Channel (List UInt8)} (hruns : s.result = none)
      (hopen : s.collector.octetsOpen = true) (hgives : s.octets.Gives none octets) :
      Turn s { s with
        octets, taken := s.taken ++ [.octetsEnd]
        collector := { s.collector with octetsOpen := false } }
  | failure {error : RemoteError} {failures : Channel RemoteError} (hruns : s.result = none)
      (hopen : s.collector.failuresOpen = true) (hgives : s.failures.Gives (some error) failures) :
      Turn s { s with
        failures, taken := s.taken ++ [.failure error], result := some (.error error) }
  | failuresEnd {failures : Channel RemoteError} (hruns : s.result = none)
      (hopen : s.collector.failuresOpen = true) (hgives : s.failures.Gives none failures) :
      Turn s { s with
        failures, taken := s.taken ++ [.failuresEnd]
        collector := { s.collector with failuresOpen := false } }
  | finish (hruns : s.result = none) (hoctets : s.collector.octetsOpen = false)
      (hfailures : s.collector.failuresOpen = false) :
      Turn s { s with result := some s.collector.finish }

/-- A step of the loop or of one of the senders. -/
inductive Step (s : Session) : Session → Prop
  | turn {t : Session} (hturn : s.Turn t) : Step s t
  | octets {octets : Channel (List UInt8)} (hsends : s.octets.Sends octets) :
      Step s { s with octets }
  | failures {failures : Channel RemoteError} (hsends : s.failures.Sends failures) :
      Step s { s with failures }

/-- What can be reached in a number of steps. Who takes the next step is left open, so a channel may
stay silent for as long as there are other steps. -/
inductive Schedule (s : Session) : Nat → Session → Prop
  | refl : Schedule s 0 s
  | step {n : Nat} {t u : Session} (hrun : Schedule s n t) (hstep : t.Step u) :
      Schedule s (n + 1) u

/-- The loop waits: a channel is open, and no open channel has anything for it. -/
structure Waits (s : Session) : Prop where
  some_open : s.collector.octetsOpen = true ∨ s.collector.failuresOpen = true
  octets : s.collector.octetsOpen = true → s.octets.Pending
  failures : s.collector.failuresOpen = true → s.failures.Pending

/-! ## The loop goes on and ends -/

/-- A loop that has not returned takes a turn, unless it waits. -/
theorem turns_or_waits {s : Session} (hruns : s.result = none) : (∃ t, s.Turn t) ∨ s.Waits := by
  by_cases hoctets : s.collector.octetsOpen = true ∧ ¬ s.octets.Pending
  · obtain ⟨chunk | chunk, octets, hgives⟩ := Channel.gives_of_not_pending hoctets.2
    · exact .inl ⟨_, .octetsEnd hruns hoctets.1 hgives⟩
    · exact .inl ⟨_, .octets hruns hoctets.1 hgives⟩
  by_cases hfailures : s.collector.failuresOpen = true ∧ ¬ s.failures.Pending
  · obtain ⟨error | error, failures, hgives⟩ := Channel.gives_of_not_pending hfailures.2
    · exact .inl ⟨_, .failuresEnd hruns hfailures.1 hgives⟩
    · exact .inl ⟨_, .failure hruns hfailures.1 hgives⟩
  by_cases hopen : s.collector.octetsOpen = true ∨ s.collector.failuresOpen = true
  · exact .inr ⟨hopen, by simpa using hoctets, by simpa using hfailures⟩
  · simp only [not_or, Bool.not_eq_true] at hopen
    exact .inl ⟨_, .finish hruns hopen.1 hopen.2⟩

/-- The loop waits for nothing once both senders are gone. -/
theorem not_waits {s : Session} (hoctets : s.octets.sender = none)
    (hfailures : s.failures.sender = none) : ¬ s.Waits := by
  rintro ⟨hopen | hopen, hwait, hwait'⟩
  · exact (hwait hopen).2 hoctets
  · exact (hwait' hopen).2 hfailures

/-- How many steps are left at most. -/
def left (s : Session) : Nat :=
  s.octets.size + s.failures.size + s.collector.octetsOpen.toNat + s.collector.failuresOpen.toNat +
    if s.result = none then 1 else 0

/-- Each step takes at least one from the steps left. A channel that has ended gives nothing new,
and what counts the step is that the loop does not ask it again. -/
theorem Step.left {s t : Session} (h : s.Step t) : t.left < s.left := by
  cases h with
  | octets hsends =>
      have hsize := hsends.size
      simp only [Session.left]
      omega
  | failures hsends =>
      have hsize := hsends.size
      simp only [Session.left]
      omega
  | turn hturn =>
      cases hturn with
      | octets hruns hopen hgives =>
          have hsize := hgives.size
          simp only [Session.left]
          omega
      | octetsEnd hruns hopen hgives =>
          rw [hgives.ended_eq]
          simp [Session.left, hopen]
      | failure hruns hopen hgives =>
          have hsize := hgives.size
          simp only [Session.left, hruns, if_true, reduceCtorEq, if_false]
          omega
      | failuresEnd hruns hopen hgives =>
          rw [hgives.ended_eq]
          simp [Session.left, hopen]
      | finish hruns hoctets hfailures => simp [Session.left, hruns]

/-- The steps taken and the steps left are never more than those left at the start. -/
theorem Schedule.left {s t : Session} {n : Nat} (h : s.Schedule n t) : n + t.left ≤ s.left := by
  induction h with
  | refl => simp
  | step hrun hstep ih =>
      have hleft := hstep.left
      omega

theorem left_start (chunks : List (List UInt8)) (errors : List RemoteError) :
    (start chunks errors).left = 2 * (chunks.length + errors.length) + 5 := by
  simp [left, start, Channel.size]
  omega

/-! ## What the loop returns -/

/-- What a download gives: its first failure, and without one the text of its octets. -/
def outcome (errors : List RemoteError) (octets : List UInt8) : Except RemoteError String :=
  match errors with
  | error :: _ => .error error
  | [] => Collector.finish { received := octets }

/-- What becomes of a download if the loop is handed further pieces. -/
def proceed (s : Session) (later : List Delivery) : Except RemoteError String :=
  match s.result with
  | some result => result
  | none =>
    if s.collector.octetsOpen || s.collector.failuresOpen then s.collector.collect later
    else s.collector.finish

/-- What holds of a download of these chunks and errors at every moment. -/
structure Keeps (chunks : List (List UInt8)) (errors : List RemoteError) (s : Session) : Prop where
  /-- No octet is lost or out of place. -/
  octets : s.collector.received ++ s.octets.content.flatten = chunks.flatten
  octets_ended : s.collector.octetsOpen = false → s.octets.content = []
  /-- While the loop runs, it has taken no failure. -/
  failures : s.result = none → s.failures.content = errors
  failures_ended : s.result = none → s.collector.failuresOpen = false → errors = []
  failed : ∀ error, .failure error ∈ s.taken → s.result = some (.error error)
  /-- The pieces that were taken lead `collect` to where the loop stands. -/
  collected : ∀ later, collect (s.taken ++ later) = s.proceed later
  returned : ∀ result, s.result = some result → result = outcome errors chunks.flatten

variable {chunks : List (List UInt8)} {errors : List RemoteError} {s t : Session}

theorem keeps_start : Keeps chunks errors (start chunks errors) where
  octets := rfl
  octets_ended := nofun
  failures _ := rfl
  failures_ended _ := nofun
  failed := nofun
  collected _ := rfl
  returned := nofun

/-- While the loop runs, none of the pieces that it has taken is a failure. -/
theorem Keeps.not_failed (h : Keeps chunks errors s) (hruns : s.result = none)
    (error : RemoteError) : .failure error ∉ s.taken := by
  intro hmem
  rw [h.failed error hmem] at hruns
  cases hruns

/-- The next piece is handed to the loop where it stands. -/
theorem Keeps.collected_taking (h : Keeps chunks errors s) (piece : Delivery)
    (later : List Delivery) :
    collect (s.taken ++ [piece] ++ later) = s.proceed (piece :: later) := by
  rw [List.append_assoc, List.singleton_append, h.collected]

/-- A turn of the loop keeps what holds of the download. -/
theorem Keeps.turn (h : Keeps chunks errors s) (hturn : s.Turn t) : Keeps chunks errors t := by
  cases hturn with
  | @octets chunk octets hruns hopen hgives =>
      exact { h with
        octets := by rw [← h.octets, hgives.content]; simp
        octets_ended := by simp [hopen]
        failed := fun error hmem ↦ h.failed error (by simpa using hmem)
        collected := fun later ↦ by
          rw [h.collected_taking]
          simp [proceed, hruns, hopen, Collector.collect] }
  | @octetsEnd octets hruns hopen hgives =>
      exact { h with
        octets := by rw [← h.octets, hgives.ended_eq]
        octets_ended := fun _ ↦ by rw [hgives.ended_eq, hgives.ended_content]
        failed := fun error hmem ↦ h.failed error (by simpa using hmem)
        collected := fun later ↦ by
          rw [h.collected_taking]
          simp [proceed, hruns, hopen, Collector.collect] }
  | @failure error failures hruns hopen hgives =>
      have hfirst : errors = error :: failures.content := by
        rw [← h.failures hruns, hgives.content]
      exact { h with
        failures := nofun
        failures_ended := nofun
        failed := fun other hmem ↦ by
          rcases List.mem_append.1 hmem with hmem | hmem
          · exact absurd hmem (h.not_failed hruns other)
          · obtain rfl : other = error := by simpa using hmem
            rfl
        collected := fun later ↦ by
          rw [h.collected_taking]
          simp [proceed, hruns, hopen, Collector.collect]
        returned := by
          rintro _ ⟨⟩
          rw [hfirst]
          rfl }
  | @failuresEnd failures hruns hopen hgives =>
      exact { h with
        failures := by rw [hgives.ended_eq]; exact h.failures
        failures_ended := fun _ _ ↦ by rw [← h.failures hruns, hgives.ended_content]
        failed := fun error hmem ↦ h.failed error (by simpa using hmem)
        collected := fun later ↦ by
          rw [h.collected_taking]
          simp [proceed, hruns, hopen, Collector.collect] }
  | finish hruns hoctets hfailures =>
      -- Nothing is left in the channel of the octets, so all of them have been received.
      have hall : s.collector.received = chunks.flatten := by
        simpa [h.octets_ended hoctets] using h.octets
      exact { h with
        failures := nofun
        failures_ended := nofun
        failed := fun error hmem ↦ absurd hmem (h.not_failed hruns error)
        collected := fun later ↦ by
          rw [h.collected]
          simp [proceed, hruns, hoctets, hfailures]
        returned := by
          rintro _ ⟨⟩
          rw [h.failures_ended hruns hfailures, ← hall]
          rfl }

/-- Each step keeps what holds of the download. -/
theorem Keeps.step (h : Keeps chunks errors s) (hstep : s.Step t) : Keeps chunks errors t := by
  cases hstep with
  | turn hturn => exact h.turn hturn
  | octets hsends =>
      exact { h with
        octets := by rw [hsends.content]; exact h.octets
        octets_ended := by rw [hsends.content]; exact h.octets_ended }
  | failures hsends =>
      exact { h with failures := by rw [hsends.content]; exact h.failures }

/-- The invariant holds throughout a download. -/
theorem Schedule.keeps {n : Nat} (hrun : (start chunks errors).Schedule n s) :
    Keeps chunks errors s := by
  induction hrun with
  | refl => exact keeps_start
  | step _ hstep ih => exact ih.step hstep

end Session

/-- What is collected is a text exactly if the octets are what the text is written as. -/
theorem Collector.finish_eq_ok_iff {c : Collector} {text : String} :
    c.finish = .ok text ↔ Utf8.encode text.toList = c.received := by
  rw [← Utf8.decode_eq_ok_iff]
  unfold finish
  cases Utf8.decode c.received with
  | error fault => simp
  | ok characters =>
      simp only [Except.ok.injEq]
      constructor
      · rintro rfl
        simp
      · rintro rfl
        simp

/-- Octets that are no text are reported as such. -/
theorem Collector.finish_eq_error {c : Collector} {error : RemoteError}
    (h : c.finish = .error error) :
    ∃ fault, error = .transport ("cluster manifests are not UTF-8: " ++ fault) := by
  unfold finish at h
  split at h
  · cases h
  · next fault _ =>
    cases h
    exact ⟨fault.message, rfl⟩

open Session in
/-- A download in any schedule of the channels and the loop. It ends after a bounded number of
steps, and once both senders are gone the loop takes turns until it returns. A failure that it takes
it returns. Whatever it returns is what `collect` makes of the pieces in the order in which they
were taken, and is given by the first failure and the octets in a row: a text is returned exactly if
there is no failure and the octets are what the text is written as. -/
theorem collected_in_any_schedule {chunks : List (List UInt8)} {errors : List RemoteError}
    {n : Nat} {s : Session} (hrun : (start chunks errors).Schedule n s) :
    n ≤ 2 * (chunks.length + errors.length) + 5 ∧
    (s.result = none → (∃ t, s.Turn t) ∨ s.Waits) ∧
    (s.result = none → s.octets.sender = none → s.failures.sender = none → ∃ t, s.Turn t) ∧
    (∀ error, .failure error ∈ s.taken → s.result = some (.error error)) ∧
    ∀ result, s.result = some result →
      (∀ later, collect (s.taken ++ later) = result) ∧
      result = outcome errors chunks.flatten ∧
      (∀ text, result = .ok text ↔ errors = [] ∧ Utf8.encode text.toList = chunks.flatten) ∧
      (errors = [] → (∀ text, Utf8.encode text ≠ chunks.flatten) →
        ∃ fault, result = .error (.transport ("cluster manifests are not UTF-8: " ++ fault))) := by
  have hkeeps := hrun.keeps
  refine ⟨?bound, turns_or_waits, ?ends, hkeeps.failed, fun result hresult ↦ ?_⟩
  case bound =>
    have hleft := hrun.left
    rw [left_start] at hleft
    omega
  case ends =>
    intro hruns hoctets hfailures
    exact (turns_or_waits hruns).resolve_right (not_waits hoctets hfailures)
  obtain rfl := hkeeps.returned result hresult
  refine ⟨fun later ↦ by rw [hkeeps.collected, proceed, hresult], rfl, fun text ↦ ?text, ?fault⟩
  case text =>
    cases errors with
    | nil => simp [outcome, Collector.finish_eq_ok_iff]
    | cons error rest => simp [outcome]
  case fault =>
    rintro rfl hnone
    cases hend : outcome [] chunks.flatten with
    | ok text => exact absurd (Collector.finish_eq_ok_iff.1 hend) (hnone text.toList)
    | error error =>
        obtain ⟨fault, rfl⟩ := Collector.finish_eq_error hend
        exact ⟨fault, rfl⟩

/-- A download of one character in two chunks, whose failures end before the first chunk is sent. -/
def splitSession : Session where
  octets := { sender := none }
  failures := { sender := none }
  collector := { received := [0xC3, 0xA9], octetsOpen := false, failuresOpen := false }
  taken := [.failuresEnd, .octets [0xC3], .octets [0xA9], .octetsEnd]
  result := some (.ok "é")

open Session in
/-- The download goes on when the failures have ended, and the character is put together. -/
theorem schedule_split : (start [[0xC3], [0xA9]] []).Schedule 9 splitSession :=
  .step (.step (.step (.step (.step (.step (.step (.step (.step .refl
    (.failures .leave))
    (.turn (.failuresEnd rfl rfl .ended)))
    (.octets .send))
    (.turn (.octets rfl rfl .item)))
    (.octets .send))
    (.octets .leave))
    (.turn (.octets rfl rfl .item)))
    (.turn (.octetsEnd rfl rfl .ended)))
    (.turn (.finish rfl rfl rfl))

/-- The pieces of this download give the character, whatever would follow them. -/
theorem collected_in_any_schedule_split :
    (Session.start [[0xC3], [0xA9]] []).Schedule 9 splitSession ∧
    splitSession.result = some (.ok "é") ∧
    ∀ later, collect (splitSession.taken ++ later) = .ok "é" :=
  ⟨schedule_split, rfl, ((collected_in_any_schedule schedule_split).2.2.2.2 _ rfl).1⟩

end FleetOperator.Platform
