import FleetOperator.Drift.LateInit

/-!
# Slots in which an observed value is taken over

Late initialization and normalization both bring a desired value nearer to an observed one, slot by
slot and under a condition for each. A slot says what stands in it and when it is due. Read
`Slot.Follows` first: into a due slot the observed value is taken over exactly, and in any other
slot the desired one stays.
-/

namespace FleetOperator

/-- A slot of the values of a type: what stands in it, and when it is due to be taken over from an
observed value into a desired one. -/
structure Slot (σ : Type) where
  Value : Type
  get : σ → Value
  Due : σ → σ → Prop

namespace Slot

variable {σ β α : Type}

/-- Whether a value holds in a slot what was observed there if that is due, and else what was
desired. -/
def Follows (slot : Slot σ) (desired observed after : σ) : Prop :=
  (slot.Due desired observed → slot.get after = slot.get observed) ∧
    (¬ slot.Due desired observed → slot.get after = slot.get desired)

/-- A slot that is due when nothing is desired in it. -/
def unset (get : σ → Option α) : Slot σ where
  Value := Option α
  get
  Due desired _ := get desired = none

/-- A slot inside of a block that may be missing. It is due only if the block is there on both
sides. -/
def within (block : σ → Option β) (slot : Slot β) : Slot σ where
  Value := Option slot.Value
  get value := (block value).map slot.get
  Due desired observed :=
    ∃ own seen, block desired = some own ∧ block observed = some seen ∧ slot.Due own seen

/-- What a function makes of what stands in a slot. -/
def map (slot : Slot σ) (f : slot.Value → α) : Slot σ where
  Value := α
  get value := f (slot.get value)
  Due := slot.Due

variable {slot : Slot σ} {desired observed after : σ}

/-- A slot that follows and yet has changed was due, and holds what was observed. -/
theorem Follows.changed (h : slot.Follows desired observed after)
    (hchanged : slot.get after ≠ slot.get desired) :
    slot.Due desired observed ∧ slot.get after = slot.get observed := by
  have hdue : slot.Due desired observed := Classical.byContradiction fun hkept ↦
    hchanged (h.2 hkept)
  exact ⟨hdue, h.1 hdue⟩

/-- A slot that follows what is desired keeps it. -/
theorem Follows.of_self (h : slot.Follows desired desired after) :
    slot.get after = slot.get desired :=
  (Classical.em (slot.Due desired desired)).elim h.1 h.2

/-- What is made of a slot that follows follows as well. -/
theorem Follows.map (h : slot.Follows desired observed after) (f : slot.Value → α) :
    (slot.map f).Follows desired observed after :=
  ⟨fun hdue ↦ congrArg f (h.1 hdue), fun hkept ↦ congrArg f (h.2 hkept)⟩

/-- A slot that holds the observed value if it is due, and else the desired one, follows. -/
theorem follows_of_ite {p : Prop} [Decidable p] (hdue : slot.Due desired observed ↔ p)
    (h : slot.get after = if p then slot.get observed else slot.get desired) :
    slot.Follows desired observed after :=
  ⟨fun hp ↦ by rw [h, if_pos (hdue.1 hp)], fun hp ↦ by rw [h, if_neg (mt hdue.2 hp)]⟩

/-- A slot into which the observed value is adopted follows. -/
theorem unset_follows {get : σ → Option α} (h : get after = adopt (get desired) (get observed)) :
    (unset get).Follows desired observed after := by
  cases hown : get desired with
  | none =>
      rw [hown] at h
      exact ⟨fun _ ↦ h, fun hset ↦ absurd hown hset⟩
  | some value =>
      rw [hown] at h
      refine ⟨fun hunset ↦ ?_, fun _ ↦ h.trans hown.symm⟩
      exact absurd (hown.symm.trans hunset) (Option.some_ne_none value)

variable {block : σ → Option β} {inner : Slot β}

/-- A slot inside of blocks that are there follows if it does in the blocks. -/
theorem within_follows {own seen result : β} (hown : block desired = some own)
    (hseen : block observed = some seen) (hafter : block after = some result)
    (h : inner.Follows own seen result) : (inner.within block).Follows desired observed after := by
  constructor
  · rintro ⟨own', seen', hown', hseen', hdue⟩
    obtain rfl : own = own' := Option.some.inj (hown.symm.trans hown')
    obtain rfl : seen = seen' := Option.some.inj (hseen.symm.trans hseen')
    simp only [within, hafter, hseen, Option.map_some, h.1 hdue]
  · intro hkept
    have hdue : ¬ inner.Due own seen := fun hdue ↦ hkept ⟨own, seen, hown, hseen, hdue⟩
    simp only [within, hafter, hown, Option.map_some, h.2 hdue]

/-- A slot inside of a block that is missing on one side follows if the block stays as it is. -/
theorem within_follows_of_missing (hmissing : block desired = none ∨ block observed = none)
    (hafter : block after = block desired) :
    (inner.within block).Follows desired observed after := by
  constructor
  · rintro ⟨own, seen, hown, hseen, _⟩
    simp [hown, hseen] at hmissing
  · intro _
    simp only [within, hafter]

end Slot

end FleetOperator
