import FleetOperator.Json.Comparison
import FleetOperator.Proofs.Except
import FleetOperator.Proofs.Json.Differences

/-!
# Where comparisons break off

A comparison of JSON values breaks off where it has to read a text whose amount overflows. Read
`equal_by_canonical_or_overflow` first: a test for equivalence tells whether the canonical forms of
two values are equal, unless it comes to such a text in the first parts that are not equivalent.
`differences_named_or_overflow` is about all differences, which are named unless there is such a text
anywhere among the parts that are compared.
-/

namespace FleetOperator.Json

open Quantity (Overflow)

/-- Whether a comparison comes to a value, unless there is a reason for it to break off. -/
inductive ComesTo {α : Type} (value : α) (breaks : Prop) : Except Overflow α → Prop
  | done (h : ¬ breaks) : ComesTo value breaks (.ok value)
  | broken (h : breaks) : ComesTo value breaks (.error .overflow)

namespace ComesTo

variable {α : Type} {value : α} {breaks : Prop} {found : Except Overflow α}

/-- A comparison that comes to a value comes to the right one, and had no reason to break off. -/
theorem of_ok {other : α} (h : ComesTo value breaks found) (hfound : found = .ok other) :
    other = value ∧ ¬ breaks := by
  cases h with
  | done hbreaks => exact ⟨(Except.ok.inj hfound).symm, hbreaks⟩
  | broken => cases hfound

/-- A comparison breaks off exactly if it has a reason to. -/
theorem broken_iff (h : ComesTo value breaks found) : found = .error .overflow ↔ breaks := by
  cases h with
  | done hbreaks => simp [hbreaks]
  | broken hbreaks => simp [hbreaks]

/-- Without a reason to break off a comparison comes to its value. -/
theorem eq_ok (h : ComesTo value breaks found) (hbreaks : ¬ breaks) : found = .ok value := by
  cases h with
  | done => rfl
  | broken hbroken => exact absurd hbroken hbreaks

/-- A reason can be told in other words. -/
theorem congr {reason : Prop} (h : ComesTo value breaks found) (hreason : breaks ↔ reason) :
    ComesTo value reason found := by
  cases h with
  | done hbreaks => exact .done (hreason.not.1 hbreaks)
  | broken hbreaks => exact .broken (hreason.1 hbreaks)

/-- Of two comparisons one after the other either may break off. -/
theorem append {x y : List α} {reason : Prop} {first second : Except Overflow (List α)}
    (hx : ComesTo x breaks first) (hy : ComesTo y reason second) :
    ComesTo (x ++ y) (breaks ∨ reason) (do
      let found ← first
      return found ++ (← second)) := by
  cases hx with
  | broken hbreaks => exact .broken (.inl hbreaks)
  | done hbreaks =>
      cases hy with
      | broken hreason => exact .broken (.inr hreason)
      | done hreason => exact .done (not_or.2 ⟨hbreaks, hreason⟩)

/-- A test that is made only where another one holds. -/
theorem and {x y : Bool} {reason : Prop} {first second : Except Overflow Bool}
    (hx : ComesTo x breaks first) (hy : ComesTo y reason second) :
    ComesTo (x && y) (breaks ∨ x = true ∧ reason) (do
      if ← first then second else return false) := by
  cases hx with
  | broken hbreaks => exact .broken (.inl hbreaks)
  | done hbreaks =>
      cases x with
      | false => exact .done (by simpa using hbreaks)
      | true =>
          refine hy.congr ?_
          simp [hbreaks]

end ComesTo

/-! ## Texts -/

/-- Whether the reading of a text breaks off. -/
def Overflows (a : String) : Prop := Quantity.read a = .error .overflow

/-- A text whose reading breaks off is equivalent to no other one. -/
theorem equalTexts_of_overflows {a b : String} (hne : a ≠ b) (h : Overflows a ∨ Overflows b) :
    equalTexts a b = false := by
  have hnone : ∀ {c : String}, Overflows c → Quantity.parse? c = none := by
    intro c hc
    rw [Quantity.parse?, hc]
  rcases h with ha | hb
  · simp [equalTexts, hne, hnone ha]
  · cases hx : Quantity.parse? a <;> simp [equalTexts, hne, hnone hb, hx]

/-- A comparison of two texts breaks off if they are different and the reading of one of them
does. -/
theorem equalTexts?_comes (a b : String) :
    ComesTo (equalTexts a b) (a ≠ b ∧ (Overflows a ∨ Overflows b)) (equalTexts? a b) := by
  by_cases hsame : a = b
  · subst hsame
    rw [equalTexts?, equalTexts_refl, beq_self_eq_true, if_pos rfl]
    exact .done fun h ↦ h.1 rfl
  · rw [equalTexts?, equalTexts, beq_eq_false_iff_ne.2 hsame, if_neg Bool.false_ne_true,
      Bool.false_or, Quantity.parse?, Quantity.parse?]
    cases hx : Quantity.read a with
    | error e => exact .broken ⟨hsame, .inl hx⟩
    | ok x =>
        cases hy : Quantity.read b with
        | error e => exact .broken ⟨hsame, .inr hy⟩
        | ok y =>
            have hbreaks : ¬ (a ≠ b ∧ (Overflows a ∨ Overflows b)) := by
              simp [Overflows, hx, hy]
            cases x <;> cases y <;> exact .done hbreaks

/-- Two texts of which an amount is read are found equivalent exactly if the amounts are the same. -/
theorem equalTexts?_of_read {a b : String} {x y : Int} (ha : Quantity.read a = .ok (some x))
    (hb : Quantity.read b = .ok (some y)) : equalTexts? a b = .ok (decide (x = y)) := by
  by_cases hsame : a = b
  · subst hsame
    obtain rfl : x = y := Option.some.inj (Except.ok.inj (ha.symm.trans hb))
    rw [equalTexts?, beq_self_eq_true, if_pos rfl, decide_eq_true rfl]
    rfl
  · rw [equalTexts?, beq_eq_false_iff_ne.2 hsame, if_neg Bool.false_ne_true, ha, hb]
    rfl

/-! ## Locations -/

/-- The parts that are compared in turn: the items of two lists of one length, and the fields of one
object with those of another one. -/
def pairsOf : Json → Json → List (Json × Json)
  | array x, array y => if x.length = y.length then x.zip y else []
  | object x, object y => x.map fun entry ↦ (entry.2, field y entry.1)
  | _, _ => []

/-- The parts of two values stand at locations that lead to them. -/
theorem exists_leads_of_mem_pairsOf {a b : Json} (ha : a.Ordered) {pair : Json × Json}
    (hpair : pair ∈ pairsOf a b) : ∃ step, Leads step a b pair.1 pair.2 := by
  cases a <;> cases b <;> try cases hpair
  case array.array x y =>
    rw [pairsOf] at hpair
    split_ifs at hpair with hlength
    · obtain ⟨position, hfound⟩ := List.mem_iff_getElem?.1 hpair
      obtain ⟨hx, hy⟩ := List.getElem?_zip_eq_some.1 hfound
      exact ⟨_, .item hlength hx hy⟩
    · cases hpair
  case object.object x y =>
    obtain ⟨entry, hentry, rfl⟩ := List.mem_map.1 hpair
    refine ⟨.key entry.1, ?_⟩
    have hleads := Leads.key x y entry.1
    rwa [field_of_mem ha.nodup hentry] at hleads

/-- Whether a comparison has a reason to break off at a location: its parts there are two different
texts, and the reading of one of them breaks off. -/
inductive BreaksAt : Json → Json → List Step → Prop
  | here {a b : String} (hne : a ≠ b) (h : Overflows a ∨ Overflows b) :
      BreaksAt (text a) (text b) []
  | under {a b x y : Json} {step : Step} {rest : List Step} (hleads : Leads step a b x y)
      (h : BreaksAt x y rest) : BreaksAt a b (step :: rest)

section

variable {a b : Json} {steps : List Step}

/-- Where a comparison has a reason to break off, the values are not equivalent. -/
theorem BreaksAt.not_equal (h : BreaksAt a b steps) (ha : a.Ordered) (hb : b.Ordered) :
    equal a b = false := by
  induction h with
  | here hne hoverflows => rw [equal, equalTexts_of_overflows hne hoverflows]
  | under hleads _ ih =>
      obtain ⟨hx, hy⟩ := hleads.ordered ha hb
      refine eq_false_of_ne_true fun hequal ↦ ?_
      exact Bool.false_ne_true ((ih hx hy).symm.trans (hleads.equal ha hb hequal))

/-- A comparison has a reason to break off in either order. -/
theorem BreaksAt.swap (h : BreaksAt a b steps) : BreaksAt b a steps := by
  induction h with
  | here hne hoverflows => exact .here hne.symm hoverflows.symm
  | under hleads _ ih => exact .under hleads.swap ih

/-- A comparison of two texts has a reason to break off if they are different and the reading of one
of them does. -/
theorem exists_breaksAt_text_iff {x y : String} :
    (∃ steps, BreaksAt (text x) (text y) steps) ↔ x ≠ y ∧ (Overflows x ∨ Overflows y) := by
  constructor
  · rintro ⟨_, ⟨hne, hoverflows⟩ | ⟨⟨⟩, -⟩⟩
    exact ⟨hne, hoverflows⟩
  · exact fun h ↦ ⟨[], .here h.1 h.2⟩

/-- A comparison of two values that are not both texts has a reason to break off if the comparison of
two of their parts has one. -/
theorem exists_breaksAt_iff_parts (ha : a.Ordered)
    (hother : ∀ x y, ¬ (a = text x ∧ b = text y)) :
    (∃ steps, BreaksAt a b steps) ↔
      ∃ pair ∈ pairsOf a b, ∃ steps, BreaksAt pair.1 pair.2 steps := by
  constructor
  · rintro ⟨_, _ | ⟨hleads, h⟩⟩
    · exact absurd ⟨rfl, rfl⟩ (hother _ _)
    · cases hleads with
      | item hlength hx hy =>
          refine ⟨(_, _), ?_, _, h⟩
          rw [pairsOf, if_pos hlength]
          exact List.mem_of_getElem? (List.getElem?_zip_eq_some.2 ⟨hx, hy⟩)
      | key x y name =>
          cases hfound : lookup name x with
          | none =>
              -- A field that is missing counts as null, and null has no parts.
              rw [field, hfound] at h
              cases h with
              | under hleads => cases hleads
          | some value =>
              rw [field, hfound, Option.getD_some] at h
              rw [lookup_eq_find] at hfound
              exact ⟨_, List.mem_map_of_mem (Dict.mem_of_find hfound), _, h⟩
  · rintro ⟨pair, hpair, steps, h⟩
    obtain ⟨step, hleads⟩ := exists_leads_of_mem_pairsOf ha hpair
    exact ⟨step :: steps, .under hleads h⟩

end

/-! ## Equivalence -/

/-- Whether a test for equivalence breaks off: two different texts of which the reading of one breaks
off are compared, alone or as the first parts that are not equivalent. -/
inductive BreaksOff : Json → Json → Prop
  | texts {a b : String} (hne : a ≠ b) (h : Overflows a ∨ Overflows b) :
      BreaksOff (text a) (text b)
  | parts {a b x y : Json} {before after : List (Json × Json)}
      (hpairs : pairsOf a b = before ++ (x, y) :: after)
      (hbefore : ∀ earlier ∈ before, equal earlier.1 earlier.2 = true) (h : BreaksOff x y) :
      BreaksOff a b

/-- The parts of equivalent values are equivalent. -/
theorem equal_of_mem_pairsOf {a b : Json} {pair : Json × Json} (hequal : equal a b = true)
    (hpair : pair ∈ pairsOf a b) : equal pair.1 pair.2 = true := by
  cases a <;> cases b <;> try cases hpair
  case array.array x y =>
    obtain ⟨hlength, hitems⟩ := equalItems_iff_getElem?.1 (by rwa [equal] at hequal)
    rw [pairsOf, if_pos hlength] at hpair
    obtain ⟨position, hfound⟩ := List.mem_iff_getElem?.1 hpair
    obtain ⟨hx, hy⟩ := List.getElem?_zip_eq_some.1 hfound
    exact hitems position _ _ hx hy
  case object.object x y =>
    obtain ⟨entry, hentry, rfl⟩ := List.mem_map.1 hpair
    rw [equal, Bool.or_eq_true, Bool.and_eq_true, Bool.and_eq_true] at hequal
    rcases hequal with ⟨hx, hy⟩ | ⟨hfields, -⟩
    · exact equal_of_isZero (allZero_iff.1 hx entry hentry) (isZero_field hy entry.1)
    · exact equalFields_iff.1 hfields entry hentry

namespace BreaksOff

variable {a b : Json}

/-- Values on which a test breaks off are not equivalent. -/
theorem not_equal (h : BreaksOff a b) : equal a b = false := by
  induction h with
  | texts hne hoverflows => rw [equal, equalTexts_of_overflows hne hoverflows]
  | parts hpairs _ _ ih =>
      refine eq_false_of_ne_true fun hequal ↦ ?_
      have hpair := equal_of_mem_pairsOf hequal (hpairs ▸ List.mem_append_cons_self)
      exact Bool.false_ne_true (ih.symm.trans hpair)

/-- Where a test breaks off, there is a location at which it has a reason to. -/
theorem exists_breaksAt (h : BreaksOff a b) (ha : a.Ordered) (hb : b.Ordered) :
    ∃ steps, BreaksAt a b steps := by
  induction h with
  | texts hne hoverflows => exact ⟨[], .here hne hoverflows⟩
  | parts hpairs _ _ ih =>
      obtain ⟨step, hleads⟩ := exists_leads_of_mem_pairsOf ha (hpairs ▸ List.mem_append_cons_self)
      obtain ⟨hx, hy⟩ := hleads.ordered ha hb
      obtain ⟨steps, hbreaks⟩ := ih hx hy
      exact ⟨step :: steps, .under hleads hbreaks⟩

end BreaksOff

/-- A test of two texts breaks off if they are different and the reading of one of them does. -/
theorem breaksOff_text_iff {x y : String} :
    BreaksOff (text x) (text y) ↔ x ≠ y ∧ (Overflows x ∨ Overflows y) := by
  constructor
  · rintro (⟨hne, hoverflows⟩ | ⟨hpairs, -, -⟩)
    · exact ⟨hne, hoverflows⟩
    · simp [pairsOf] at hpairs
  · exact fun h ↦ .texts h.1 h.2

/-- A test of two values that are not both texts breaks off if the test of the first parts that are
not equivalent does. -/
theorem breaksOff_iff_parts {a b : Json} (hother : ∀ x y, ¬ (a = text x ∧ b = text y)) :
    (∃ before pair after, pairsOf a b = before ++ pair :: after ∧
      (∀ earlier ∈ before, equal earlier.1 earlier.2 = true) ∧ BreaksOff pair.1 pair.2) ↔
      BreaksOff a b := by
  constructor
  · rintro ⟨before, pair, after, hpairs, hbefore, h⟩
    exact .parts hpairs hbefore h
  · rintro (_ | ⟨hpairs, hbefore, h⟩)
    · exact absurd ⟨rfl, rfl⟩ (hother _ _)
    · exact ⟨_, _, _, hpairs, hbefore, h⟩

/-- A test of values without parts that are not both texts does not break off. -/
theorem not_breaksOff {a b : Json} (hother : ∀ x y, ¬ (a = text x ∧ b = text y))
    (hpairs : pairsOf a b = []) : ¬ BreaksOff a b := by
  rw [← breaksOff_iff_parts hother, hpairs]
  simp

/-- The first of several parts that breaks off is the first one, or comes after the first one, which
holds. -/
theorem exists_first_cons_iff {α : Type} {holds : α → Bool} {breaks : α → Prop} {first : α}
    {rest : List α} :
    (breaks first ∨ holds first = true ∧ ∃ before part after, rest = before ++ part :: after ∧
      (∀ earlier ∈ before, holds earlier = true) ∧ breaks part) ↔
    ∃ before part after, first :: rest = before ++ part :: after ∧
      (∀ earlier ∈ before, holds earlier = true) ∧ breaks part := by
  constructor
  · rintro (hbreaks | ⟨hfirst, before, part, after, rfl, hbefore, hbreaks⟩)
    · exact ⟨[], first, rest, rfl, by simp, hbreaks⟩
    · exact ⟨first :: before, part, after, rfl, by simpa using ⟨hfirst, hbefore⟩, hbreaks⟩
  · rintro ⟨before, part, after, hparts, hbefore, hbreaks⟩
    cases before with
    | nil =>
        obtain ⟨rfl, -⟩ := List.cons.inj hparts
        exact .inl hbreaks
    | cons =>
        obtain ⟨rfl, rfl⟩ := List.cons.inj hparts
        rw [List.forall_mem_cons] at hbefore
        exact .inr ⟨hbefore.1, _, part, after, rfl, hbefore.2, hbreaks⟩

/-- The rest is tested only if the first test holds. -/
theorem allM_cons {α : Type} {test : α → Except Overflow Bool} {first : α} {rest : List α} :
    (first :: rest).allM test = (do if ← test first then rest.allM test else return false) := by
  rw [List.allM]
  refine bind_congr fun holds ↦ ?_
  cases holds <;> rfl

/-- One test after another comes to whether all of them hold, or breaks off at the first one that
does not hold. -/
theorem comesTo_allM {α : Type} {holds : α → Bool} {breaks : α → Prop}
    {test : α → Except Overflow Bool} : (parts : List α) →
    (∀ part ∈ parts, ComesTo (holds part) (breaks part) (test part)) →
    ComesTo (parts.all holds) (∃ before part after, parts = before ++ part :: after ∧
      (∀ earlier ∈ before, holds earlier = true) ∧ breaks part) (parts.allM test)
  | [], _ => .done (by simp)
  | first :: rest, h => by
      rw [List.forall_mem_cons] at h
      rw [allM_cons]
      exact (h.1.and (comesTo_allM rest h.2)).congr exists_first_cons_iff

/-- Items are tested one after another. -/
theorem equalItems?_eq_allM : (x y : List Json) →
    equalItems? x y = (x.zip y).allM fun pair ↦ equal? pair.1 pair.2
  | a :: x, b :: y => by
      rw [equalItems?, List.zip_cons_cons, allM_cons, ← equalItems?_eq_allM x y]
  | [], _ => rfl
  | _ :: _, [] => rfl

/-- Fields are tested one after another. -/
theorem equalFields?_eq_allM (other : List (String × Json)) : (x : List (String × Json)) →
    equalFields? x other =
      (x.map fun entry ↦ (entry.2, field other entry.1)).allM fun pair ↦ equal? pair.1 pair.2
  | [] => rfl
  | entry :: x => by
      rw [equalFields?, List.map_cons, allM_cons, ← equalFields?_eq_allM other x]

/-- Items of two lists of one length are equivalent if all pairs of them are. -/
theorem equalItems_eq_all : (x y : List Json) → x.length = y.length →
    equalItems x y = (x.zip y).all fun pair ↦ equal pair.1 pair.2
  | [], [], _ => rfl
  | a :: x, b :: y, hlength => by
      rw [equalItems, List.zip_cons_cons, List.all_cons,
        equalItems_eq_all x y (by simpa using hlength)]

/-- Fields are equivalent to those of another object if all of them are. -/
theorem equalFields_eq_all (x other : List (String × Json)) : equalFields x other =
    (x.map fun entry ↦ (entry.2, field other entry.1)).all fun pair ↦ equal pair.1 pair.2 := by
  rw [Bool.eq_iff_iff, equalFields_iff]
  simp

mutual

/-- A test for equivalence comes to its value, or breaks off. -/
theorem equal?_comes : (a b : Json) → ComesTo (equal a b) (BreaksOff a b) (equal? a b)
  | object x, b => by
      cases b with
      | object y =>
          have hfields : ComesTo (equalFields x y) (BreaksOff (object x) (object y))
              (equalFields? x y) := by
            rw [equalFields_eq_all, equalFields?_eq_allM]
            have hparts := breaksOff_iff_parts (a := object x) (b := object y) (by simp)
            refine (comesTo_allM _ fun pair hpair ↦ ?_).congr hparts
            obtain ⟨entry, hentry, rfl⟩ := List.mem_map.1 hpair
            exact equalField?_comes x entry hentry (field y entry.1)
          rw [equal?]
          cases hzero : allZero x && allZero y with
          | true =>
              have hequal : equal (object x) (object y) = true := by rw [equal, hzero, Bool.true_or]
              rw [hequal]
              exact .done fun h ↦ Bool.false_ne_true (h.not_equal.symm.trans hequal)
          | false =>
              rw [equal, hzero, Bool.false_or, if_neg Bool.false_ne_true]
              refine (hfields.and (@ComesTo.done _ _ False id)).congr ?_
              simp
      | null | bool | number | text | array => exact .done (not_breaksOff (by simp) rfl)
  | array x, b => by
      cases b with
      | array y =>
          rw [equal?, equal]
          split
          · next hlength =>
            rw [equalItems_eq_all x y hlength, equalItems?_eq_allM]
            refine (comesTo_allM _ fun pair hpair ↦
              equalItem?_comes x pair.1 (List.of_mem_zip hpair).1 pair.2).congr ?_
            rw [← breaksOff_iff_parts (by simp), pairsOf, if_pos hlength]
          · next hlength =>
            have hother : equalItems x y = false :=
              eq_false_of_ne_true fun h ↦ hlength (equalItems_iff_getElem?.1 h).1
            rw [hother]
            exact .done (not_breaksOff (by simp) (if_neg hlength))
      | null | bool | number | text | object => exact .done (not_breaksOff (by simp) rfl)
  | text x, b => by
      cases b with
      | text y =>
          rw [equal?, equal]
          exact (equalTexts?_comes x y).congr breaksOff_text_iff.symm
      | null | bool | number | array | object => exact .done (not_breaksOff (by simp) rfl)
  | null, b | bool _, b | number _, b => by
      cases b <;> exact .done (not_breaksOff (by simp) rfl)

/-- A test of an item comes to its value, or breaks off. -/
theorem equalItem?_comes : (x : List Json) → ∀ a ∈ x, ∀ b,
    ComesTo (equal a b) (BreaksOff a b) (equal? a b)
  | first :: rest, a, ha, b => by
      rcases List.mem_cons.1 ha with hfirst | ha
      · rw [hfirst]
        exact equal?_comes first b
      · exact equalItem?_comes rest a ha b

/-- A test of a field comes to its value, or breaks off. -/
theorem equalField?_comes : (x : List (String × Json)) → ∀ entry ∈ x, ∀ b,
    ComesTo (equal entry.2 b) (BreaksOff entry.2 b) (equal? entry.2 b)
  | (key, value) :: rest, entry, hentry, b => by
      rcases List.mem_cons.1 hentry with hfirst | hentry
      · rw [hfirst]
        exact equal?_comes value b
      · exact equalField?_comes rest entry hentry b

end

/-- A test finds two values equivalent exactly if they are. -/
theorem equal?_eq_ok_true_iff {a b : Json} : equal? a b = .ok true ↔ equal a b = true := by
  constructor
  · exact fun h ↦ ((equal?_comes a b).of_ok h).1.symm
  · intro h
    rw [← h]
    exact (equal?_comes a b).eq_ok fun hbreaks ↦ Bool.false_ne_true (hbreaks.not_equal.symm.trans h)

/-- Two values are found equivalent exactly if their canonical forms are equal, and a test breaks off
exactly where the first parts that are not equivalent have to be read and overflow. So to be found
equivalent is an equivalence relation, and adding or removing fields of zero values anywhere on either
side does not change what is found unless one of the tests breaks off. -/
theorem equal_by_canonical_or_overflow (a b : InOrder) :
    (equal? a.1 b.1 = .ok true ↔ a.1.canonical = b.1.canonical) ∧
    (equal? a.1 b.1 = .error .overflow ↔ BreaksOff a.1 b.1) ∧
    (Equivalence fun x y : InOrder ↦ equal? x.1 y.1 = .ok true) ∧
    ∀ c d : InOrder, Relation.EqvGen AddsZero a.1 c.1 → Relation.EqvGen AddsZero b.1 d.1 →
      (equal? a.1 b.1 = .ok true ↔ equal? c.1 d.1 = .ok true) ∧
      (equal? a.1 b.1 = equal? c.1 d.1 ∨ BreaksOff a.1 b.1 ∨ BreaksOff c.1 d.1) := by
  obtain ⟨hcanonical, hequivalence, hzeros⟩ := equal_iff_canonical_eq
  refine ⟨equal?_eq_ok_true_iff.trans (hcanonical a b), (equal?_comes a.1 b.1).broken_iff, ?_, ?_⟩
  · simpa only [equal?_eq_ok_true_iff] using hequivalence
  · intro c d hac hbd
    have hsame := hzeros a b c d hac hbd
    refine ⟨by rw [equal?_eq_ok_true_iff, equal?_eq_ok_true_iff, hsame], ?_⟩
    by_cases hab : BreaksOff a.1 b.1
    · exact .inr (.inl hab)
    · by_cases hcd : BreaksOff c.1 d.1
      · exact .inr (.inr hcd)
      · left
        rw [(equal?_comes a.1 b.1).eq_ok hab, (equal?_comes c.1 d.1).eq_ok hcd, hsame]

/-- An amount is found equivalent to another spelling of it, also where an empty field stands beside
it. But a text whose amount overflows is found to be different from a missing one, and not from an
empty one: that test breaks off. -/
theorem equal_by_canonical_or_overflow_padded :
    let long := "170141183460469231731687303715884105727e-10"
    equal? (object [("cpu", text "1"), ("labels", object [])]) (object [("cpu", text "1000m")]) =
        .ok true ∧
      equal? (object []) (object [("cpu", text long)]) = .ok false ∧
      AddsZero (object []) (object [("cpu", text "")]) ∧
      equal? (object [("cpu", text "")]) (object [("cpu", text long)]) = .error .overflow := by
  intro long
  have hordered (value : String) : (object [("cpu", text value)]).Ordered := by
    simp [Ordered, OrderedFields]
  have hpadded : (object [("cpu", text "1"), ("labels", object [])]).Ordered := by
    simp only [Ordered, OrderedFields, List.Pairwise.nil, and_true]
    decide
  have hlabels : AddsZero (object [("cpu", text "1")])
      (object [("cpu", text "1"), ("labels", object [])]) :=
    @AddsZero.here [("cpu", text "1")] "labels" (object []) (by decide) (by decide)
  have hone : Quantity.parse? "1" = some 1000000000 := by decide +kernel
  have hmilli : Quantity.parse? "1000m" = some 1000000000 := by decide +kernel
  have hlong : Overflows long := by unfold Overflows; decide +kernel
  refine ⟨?_, by decide +kernel, @AddsZero.here [] "cpu" (text "") (by decide) (by decide), ?_⟩
  · obtain ⟨hequal, -, -, hzeros⟩ :=
      equal_by_canonical_or_overflow ⟨_, hordered "1"⟩ ⟨_, hordered "1000m"⟩
    refine (hzeros ⟨_, hpadded⟩ ⟨_, hordered "1000m"⟩ (.rel _ _ hlabels) (.refl _)).1.1 ?_
    refine hequal.2 ?_
    simp [canonical.eq_def, canonicalFields, isZero, allZero, hone, hmilli]
  · refine (equal_by_canonical_or_overflow ⟨_, hordered ""⟩ ⟨_, hordered long⟩).2.1.2 ?_
    exact @BreaksOff.parts _ _ _ _ [] _ rfl (by simp) (.texts (by decide) (.inr hlong))

/-! ## Differences -/

/-- The differences of two values are looked for only if they are not equivalent. -/
theorem comesTo_unless_equal {a b : Json} (ha : a.Ordered) (hb : b.Ordered) {paths : List String}
    {found : Except Overflow (List String)}
    (h : equal? a b = .ok false → ComesTo paths (∃ steps, BreaksAt a b steps) found) :
    ComesTo (if equal a b then [] else paths) (∃ steps, BreaksAt a b steps)
      (do if ← equal? a b then return [] else found) := by
  cases hfound : equal? a b with
  | error e => exact .broken (((equal?_comes a b).broken_iff.1 hfound).exists_breaksAt ha hb)
  | ok value =>
      rw [hfound] at h
      obtain ⟨rfl, -⟩ := (equal?_comes a b).of_ok hfound
      cases hvalue : equal a b with
      | false => exact h (by rw [hvalue])
      | true =>
          refine .done ?_
          rintro ⟨steps, hsteps⟩
          exact Bool.false_ne_true ((hsteps.not_equal ha hb).symm.trans hvalue)

/-- Two values without parts that are not both texts are named as a whole. -/
theorem comesTo_ends {a b : Json} (ha : a.Ordered) (hb : b.Ordered) {path : String}
    (hother : ∀ x y, ¬ (a = text x ∧ b = text y)) (hpairs : pairsOf a b = []) :
    ComesTo (if equal a b then [] else [path]) (∃ steps, BreaksAt a b steps)
      (do if ← equal? a b then return [] else return [path]) := by
  refine comesTo_unless_equal ha hb fun _ ↦ .done ?_
  rw [exists_breaksAt_iff_parts ha hother, hpairs]
  simp

mutual

/-- The differences of two values are named unless there is a reason to break off. -/
theorem differencesAt?_comes (path : String) : (a : Json) → {b : Json} → a.Ordered → b.Ordered →
    ComesTo (differencesAt path a b) (∃ steps, BreaksAt a b steps) (differencesAt? path a b)
  | object x, b, ha, hb => by
      cases b with
      | object y =>
          rw [differencesAt, differencesAt?]
          refine comesTo_unless_equal ha hb fun _ ↦ ?_
          -- The fields that only the second object has are compared with null.
          refine ((differencesInFields?_comes path x ha.2 hb.2).append
            (@ComesTo.done _ _ False id)).congr ?_
          rw [or_false, exists_breaksAt_iff_parts ha (by simp), pairsOf]
      | null | bool | number | text | array =>
          simp only [differencesAt, differencesAt?]
          exact comesTo_ends ha hb (by simp) rfl
  | array x, b, ha, hb => by
      cases b with
      | array y =>
          rw [differencesAt, differencesAt?]
          refine comesTo_unless_equal ha hb fun _ ↦ ?_
          split
          · next hlength =>
            refine (differencesInItems?_comes path 0 x ha hb).congr ?_
            rw [exists_breaksAt_iff_parts ha (by simp), pairsOf, if_pos hlength]
          · next hlength =>
            refine .done ?_
            rw [exists_breaksAt_iff_parts ha (by simp), pairsOf, if_neg hlength]
            simp
      | null | bool | number | text | object =>
          simp only [differencesAt, differencesAt?]
          exact comesTo_ends ha hb (by simp) rfl
  | text x, b, ha, hb => by
      cases b with
      | text y =>
          simp only [differencesAt, differencesAt?]
          refine comesTo_unless_equal ha hb fun hequal ↦ .done ?_
          rw [equal?] at hequal
          rw [exists_breaksAt_text_iff]
          exact ((equalTexts?_comes x y).of_ok hequal).2
      | null | bool | number | array | object =>
          simp only [differencesAt, differencesAt?]
          exact comesTo_ends ha hb (by simp) rfl
  | null, b, ha, hb | bool _, b, ha, hb | number _, b, ha, hb => by
      simp only [differencesAt, differencesAt?]
      exact comesTo_ends ha hb (by simp) (by simp [pairsOf])

/-- The differences of items are named unless there is a reason to break off. -/
theorem differencesInItems?_comes (path : String) (index : Nat) : (x : List Json) →
    {y : List Json} → OrderedItems x → OrderedItems y →
    ComesTo (differencesInItems path index x y)
      (∃ pair ∈ x.zip y, ∃ steps, BreaksAt pair.1 pair.2 steps)
      (differencesInItems? path index x y)
  | [], _, _, _ => .done (by simp)
  | a :: x, y, ha, hb => by
      cases y with
      | nil => exact .done (by simp)
      | cons b y =>
          rw [differencesInItems, differencesInItems?]
          refine ((differencesAt?_comes _ a ha.1 hb.1).append
            (differencesInItems?_comes path (index + 1) x ha.2 hb.2)).congr ?_
          rw [List.zip_cons_cons, List.exists_mem_cons_iff]

/-- The differences of fields are named unless there is a reason to break off. -/
theorem differencesInFields?_comes (path : String) : (x : List (String × Json)) →
    {y : List (String × Json)} → OrderedFields x → OrderedFields y →
    ComesTo (differencesInFields path y x)
      (∃ pair ∈ x.map fun entry ↦ (entry.2, field y entry.1),
        ∃ steps, BreaksAt pair.1 pair.2 steps)
      (differencesInFields? path y x)
  | [], _, _, _ => .done (by simp)
  | (key, a) :: x, y, hx, hy => by
      rw [differencesInFields, differencesInFields?]
      refine ((differencesAt?_comes _ a hx.1 (ordered_field hy key)).append
        (differencesInFields?_comes path x hx.2 hy)).congr ?_
      rw [List.map_cons, List.exists_mem_cons_iff]

end

/-- The differences of two values are named unless a part of one of them that has to be read breaks
off. What is named are the paths of exactly those locations at which the two values differ, each
location once. So nothing is named exactly if the values are found to be equivalent, and the same is
named whichever value comes first. -/
theorem differences_named_or_overflow (a b : InOrder) :
    (differences? a.1 b.1 = .error .overflow ↔ ∃ steps, BreaksAt a.1 b.1 steps) ∧
    ∀ paths, differences? a.1 b.1 = .ok paths →
      (∃ found : List (List Step), found.Nodup ∧
        (∀ steps, steps ∈ found ↔ DiffersAt a.1 b.1 steps) ∧ paths = found.map (pathTo "$")) ∧
      (paths = [] ↔ equal? a.1 b.1 = .ok true) ∧
      ∃ others, differences? b.1 a.1 = .ok others ∧ others.Perm paths := by
  have hcomes (x y : InOrder) := differencesAt?_comes "$" x.1 x.2 y.2
  refine ⟨(hcomes a b).broken_iff, fun paths hpaths ↦ ?_⟩
  obtain ⟨rfl, hbreaks⟩ := (hcomes a b).of_ok hpaths
  obtain ⟨⟨found, hnodup, hfound, hnamed⟩, hnone, hperm⟩ := differences_locate a b
  refine ⟨⟨found, hnodup, hfound, hnamed⟩, ?_, differences b.1 a.1, ?_, hperm⟩
  · exact hnone.trans equal?_eq_ok_true_iff.symm
  · refine (hcomes b a).eq_ok ?_
    rintro ⟨steps, hsteps⟩
    exact hbreaks ⟨steps, hsteps.swap⟩

/-- Of two descriptions that say the same no difference is named. The comparison of a description with
a text whose amount overflows breaks off at the description. -/
theorem differences_named_or_overflow_tenths :
    let a := object [("description", text "170141183460469231731687303715884105727e-10")]
    let b := object [("description", text "17")]
    differences? a a = .ok [] ∧ BreaksAt a b [.key "description"] ∧
      differences? a b = .error .overflow := by
  intro a b
  have hordered (value : String) : (object [("description", text value)]).Ordered := by
    simp [Ordered, OrderedFields]
  have hoverflows : Overflows "170141183460469231731687303715884105727e-10" := by
    unfold Overflows
    decide +kernel
  have hbreaks : BreaksAt a b [.key "description"] :=
    .under (.key _ _ "description") (.here (by decide) (.inl hoverflows))
  exact ⟨by decide +kernel, hbreaks,
    (differences_named_or_overflow ⟨a, hordered _⟩ ⟨b, hordered _⟩).1.2 ⟨_, hbreaks⟩⟩

end FleetOperator.Json
