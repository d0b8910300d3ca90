import FleetOperator.Number.Quantity
import Mathlib.Data.List.TakeWhile
import Mathlib.Data.Nat.Digits.Defs

/-!
# How quantities are spelled

The grammar of resource quantities, stated apart from their reading. A `Spelling` is a sign, digits
around a point that may be missing, and a suffix: a unit or an exponent of 32 bits. Read
`magnitude?_text` and `exists_spelling` first: a spelling is read part by part, and every text that
is read as a quantity, or whose reading breaks off, is spelled so.
-/

namespace FleetOperator

/-- The natural number that decimal digits write, the last one counting once. -/
def Digits.numeral (digits : List Char) : Nat :=
  Nat.ofDigits 10 (digits.reverse.map fun c ↦ c.toNat - '0'.toNat)

/-- Digits in front of others count as often as the others have places. -/
theorem Digits.numeral_append (digits others : List Char) : numeral (digits ++ others) =
    numeral digits * 10 ^ others.length + numeral others := by
  simp only [numeral, List.reverse_append, List.map_append, Nat.ofDigits_append, List.length_map,
    List.length_reverse]
  ring

/-- Reading digits one after the other gives the number that they write. -/
theorem Digits.toNat_eq_numeral (digits : List Char) : toNat digits = numeral digits := by
  -- The digits that were read before count as often as there are places left.
  have hfrom : ∀ start, digits.foldl (fun n c ↦ n * 10 + (c.toNat - 48)) start =
      start * 10 ^ digits.length + numeral digits := by
    induction digits with
    | nil => intro start; simp [numeral]
    | cons c rest ih =>
        intro start
        have hfirst : numeral [c] = c.toNat - 48 := Nat.ofDigits_singleton
        rw [List.foldl_cons, ih, List.length_cons, ← List.singleton_append, numeral_append, hfirst]
        ring
  simpa [toNat] using hfrom 0

namespace Quantity

/-! ## The grammar -/

/-- A sign in front of digits, which may be left out. -/
inductive Sign where
  | absent
  | plus
  | minus
deriving DecidableEq, Repr

namespace Sign

/-- How a sign is written. -/
def text : Sign → List Char
  | absent => []
  | plus => ['+']
  | minus => ['-']

/-- An integer under a sign. -/
def apply : Sign → Int → Int
  | minus, n => -n
  | _, n => n

end Sign

/-- What a quantity may be counted in. -/
inductive Measure where
  | one | nano | micro | milli | kilo | mega | giga | tera | peta | exa
  | kibi | mebi | gibi | tebi | pebi | exbi
deriving DecidableEq, Repr

namespace Measure

/-- How a unit is written. -/
def text : Measure → List Char
  | one => []
  | nano => ['n']
  | micro => ['u']
  | milli => ['m']
  | kilo => ['k']
  | mega => ['M']
  | giga => ['G']
  | tera => ['T']
  | peta => ['P']
  | exa => ['E']
  | kibi => ['K', 'i']
  | mebi => ['M', 'i']
  | gibi => ['G', 'i']
  | tebi => ['T', 'i']
  | pebi => ['P', 'i']
  | exbi => ['E', 'i']

/-- The power of ten that a unit stands for. -/
def decimal : Measure → Int
  | nano => -9
  | micro => -6
  | milli => -3
  | kilo => 3
  | mega => 6
  | giga => 9
  | tera => 12
  | peta => 15
  | exa => 18
  | _ => 0

/-- The power of two that a unit stands for. -/
def binary : Measure → Nat
  | kibi => 10
  | mebi => 20
  | gibi => 30
  | tebi => 40
  | pebi => 50
  | exbi => 60
  | _ => 0

end Measure

/-- An exponent behind its mark: digits after an optional sign that write an integer of 32 bits. -/
structure Exponent where
  isCapital : Bool
  sign : Sign
  digits : List Char
  all_digits : digits.all Char.isDigit = true
  nonempty : digits ≠ []
  fits : (fit32 (sign.apply (Digits.numeral digits))).isSome = true

/-- What may stand behind the number of a quantity. -/
inductive Suffix where
  | unit (measure : Measure)
  | exponent (exponent : Exponent)

namespace Suffix

/-- How a suffix is written. -/
def text : Suffix → List Char
  | unit measure => measure.text
  | exponent e => (if e.isCapital then 'E' else 'e') :: (e.sign.text ++ e.digits)

/-- The power of ten that a suffix stands for. -/
def decimal : Suffix → Int
  | unit measure => measure.decimal
  | exponent e => e.sign.apply (Digits.numeral e.digits)

/-- The power of two that a suffix stands for. -/
def binary : Suffix → Nat
  | unit measure => measure.binary
  | exponent _ => 0

end Suffix

/-- A spelling of a quantity: a sign, digits before and after a point, and a suffix. The point may
be left out when no digit follows it. -/
structure Spelling where
  sign : Sign
  whole : List Char
  isPointed : Bool
  fraction : List Char
  suffix : Suffix
  whole_digits : whole.all Char.isDigit = true
  fraction_digits : fraction.all Char.isDigit = true
  has_digit : whole ++ fraction ≠ []
  pointed : isPointed = false → fraction = []

namespace Spelling

/-- The number of a spelling as it is written. -/
def numberText (s : Spelling) : List Char :=
  s.whole ++ if s.isPointed then '.' :: s.fraction else []

/-- A spelling as it is written. -/
def text (s : Spelling) : String :=
  String.ofList (s.sign.text ++ (s.numberText ++ s.suffix.text))

/-- The number that the digits on both sides of the point write together. -/
def number (s : Spelling) : Nat := Digits.numeral (s.whole ++ s.fraction)

end Spelling

/-! ## Reading an exponent -/

/-- A digit is neither a sign nor a point. -/
theorem ne_of_isDigit {c d : Char} (hdigit : c.isDigit = true) (hother : d.isDigit = false) :
    c ≠ d := by
  rintro rfl
  simp [hdigit] at hother

/-- Digits after an optional sign are read as the integer that they write. -/
theorem toInt?_text (sign : Sign) {digits : List Char} (hdigits : digits.all Char.isDigit = true)
    (hne : digits ≠ []) :
    Digits.toInt? (sign.text ++ digits) = some (sign.apply (Digits.numeral digits)) := by
  have hgiven : (digits.isEmpty || !digits.all Char.isDigit) = false := by
    simp [hdigits, hne]
  cases sign with
  | plus => simp [Digits.toInt?, Sign.text, Sign.apply, hgiven, Digits.toNat_eq_numeral]
  | minus => simp [Digits.toInt?, Sign.text, Sign.apply, hgiven, Digits.toNat_eq_numeral]
  | absent =>
      obtain ⟨c, rest, rfl⟩ := List.exists_cons_of_ne_nil hne
      have hc : c.isDigit = true := by simp at hdigits; exact hdigits.1
      have hminus : c ≠ '-' := ne_of_isDigit hc (by decide)
      have hplus : c ≠ '+' := ne_of_isDigit hc (by decide)
      change Digits.toInt? (c :: rest) = some (Digits.numeral (c :: rest) : Int)
      unfold Digits.toInt?
      split
      next heq =>
      split at heq
      · next h => exact absurd (List.cons.inj h).1 hminus
      · next h => exact absurd (List.cons.inj h).1 hplus
      · obtain ⟨rfl, rfl⟩ := Prod.mk.injEq .. ▸ heq
        rw [hgiven, Digits.toNat_eq_numeral]
        rfl

/-- Only digits after an optional sign are read as an integer. -/
theorem exists_of_toInt? {text : List Char} {n : Int} (h : Digits.toInt? text = some n) :
    ∃ (sign : Sign) (digits : List Char), text = sign.text ++ digits ∧
      digits.all Char.isDigit = true ∧ digits ≠ [] ∧ n = sign.apply (Digits.numeral digits) := by
  unfold Digits.toInt? at h
  split at h
  next negative digits heq =>
  split at h
  · simp at h
  · next hgiven =>
    have hn := (Option.some.inj h).symm
    rw [Digits.toNat_eq_numeral] at hn
    obtain ⟨hne, hdigits⟩ : digits ≠ [] ∧ digits.all Char.isDigit = true := by
      simpa [not_or] using hgiven
    split at heq
    · next rest =>
      obtain ⟨rfl, rfl⟩ := Prod.mk.injEq .. ▸ heq
      exact ⟨.minus, rest, rfl, hdigits, hne, hn⟩
    · next rest =>
      obtain ⟨rfl, rfl⟩ := Prod.mk.injEq .. ▸ heq
      exact ⟨.plus, rest, rfl, hdigits, hne, hn⟩
    · obtain ⟨rfl, rfl⟩ := Prod.mk.injEq .. ▸ heq
      exact ⟨.absent, text, rfl, hdigits, hne, hn⟩

/-! ## Reading a suffix -/

/-- A suffix is read as the powers that it stands for. -/
theorem scale?_text (suffix : Suffix) :
    scale? suffix.text = some (suffix.decimal, suffix.binary) := by
  cases suffix with
  | unit measure => cases measure <;> rfl
  | exponent e =>
      have hread : exponent? (e.sign.text ++ e.digits) =
          some (e.sign.apply (Digits.numeral e.digits)) := by
        obtain ⟨n, hn⟩ := Option.isSome_iff_exists.1 e.fits
        obtain rfl : e.sign.apply (Digits.numeral e.digits) = n := by
          unfold fit32 at hn
          split at hn
          · exact Option.some.inj hn
          · simp at hn
        rw [exponent?, toInt?_text e.sign e.all_digits e.nonempty, Option.bind_some, hn]
      -- Neither the unit `E` nor the unit `Ei` has a digit behind its letter.
      have hne : e.sign.text ++ e.digits ≠ [] := by simp [e.nonempty]
      have hbinary : e.sign.text ++ e.digits ≠ ['i'] := by
        intro h
        have hnone : exponent? ['i'] = none := by decide
        simp [h, hnone] at hread
      simp only [Suffix.text, Suffix.decimal, Suffix.binary]
      generalize e.sign.text ++ e.digits = rest at *
      cases e.isCapital with
      | false => simp [scale?, hread]
      | true =>
          rw [if_pos rfl]
          unfold scale?
          split <;> simp_all

/-- Only a suffix is read as powers. -/
theorem exists_of_scale? {text : List Char} {powers : Int × Nat} (h : scale? text = some powers) :
    ∃ suffix : Suffix, suffix.text = text := by
  have hexponent : ∀ (isCapital : Bool) {rest : List Char},
      (exponent? rest).map (·, 0) = some powers →
      ∃ suffix : Suffix, suffix.text = (if isCapital then 'E' else 'e') :: rest := by
    intro isCapital rest hread
    obtain ⟨n, hn, -⟩ := Option.map_eq_some_iff.1 hread
    obtain ⟨value, hvalue, hfits⟩ := Option.bind_eq_some_iff.1 hn
    obtain ⟨sign, digits, rfl, hdigits, hne, rfl⟩ := exists_of_toInt? hvalue
    exact ⟨.exponent ⟨isCapital, sign, digits, hdigits, hne, by simp [hfits]⟩, rfl⟩
  unfold scale? at h
  split at h
  case h_1 => exact ⟨.unit .one, rfl⟩
  case h_2 => exact ⟨.unit .nano, rfl⟩
  case h_3 => exact ⟨.unit .micro, rfl⟩
  case h_4 => exact ⟨.unit .milli, rfl⟩
  case h_5 => exact ⟨.unit .kilo, rfl⟩
  case h_6 => exact ⟨.unit .mega, rfl⟩
  case h_7 => exact ⟨.unit .giga, rfl⟩
  case h_8 => exact ⟨.unit .tera, rfl⟩
  case h_9 => exact ⟨.unit .peta, rfl⟩
  case h_10 => exact ⟨.unit .exa, rfl⟩
  case h_11 => exact ⟨.unit .kibi, rfl⟩
  case h_12 => exact ⟨.unit .mebi, rfl⟩
  case h_13 => exact ⟨.unit .gibi, rfl⟩
  case h_14 => exact ⟨.unit .tebi, rfl⟩
  case h_15 => exact ⟨.unit .pebi, rfl⟩
  case h_16 => exact ⟨.unit .exbi, rfl⟩
  case h_17 => exact hexponent false h
  case h_18 => exact hexponent true h
  case h_19 => simp at h

/-! ## Reading a quantity -/

/-- A checked operation has a result or none, and does not break off. -/
theorem run_checked {α : Type} (checked : Option α) :
    (liftM checked : ExceptT Overflow Option α).run = checked.map .ok := by
  cases checked <;> rfl

/-- A checked operation comes first and has a result, or there is none. -/
theorem run_checked_bind {α β : Type} (checked : Option α) (f : α → ExceptT Overflow Option β) :
    (liftM checked >>= f).run = checked.bind fun a ↦ (f a).run := by
  cases checked <;> rfl

/-- No suffix starts like a number. -/
theorem Suffix.not_isNumberChar {suffix : Suffix} {c : Char} {rest : List Char}
    (h : suffix.text = c :: rest) : isNumberChar c = false := by
  cases suffix with
  | unit measure =>
      cases measure <;> simp only [text, Measure.text, List.cons.injEq, reduceCtorEq] at h <;>
        (rw [← h.1]; rfl)
  | exponent e =>
      obtain ⟨hmark, -⟩ := List.cons.inj h
      rw [← hmark]
      cases e.isCapital <;> rfl

namespace Spelling

variable (s : Spelling)

/-- The number of a spelling consists of digits and points. -/
theorem all_numberText : s.numberText.all isNumberChar = true := by
  have hdigits : ∀ digits : List Char, digits.all Char.isDigit = true →
      digits.all isNumberChar = true := by
    intro digits h
    exact List.all_eq_true.2 fun c hc ↦ by simp [isNumberChar, List.all_eq_true.1 h c hc]
  rw [numberText, List.all_append, hdigits _ s.whole_digits, Bool.true_and]
  split
  · rw [List.all_cons, hdigits _ s.fraction_digits]
    rfl
  · rfl

/-- A spelling without its sign is taken apart where its suffix starts. -/
theorem span_numberText :
    (s.numberText ++ s.suffix.text).takeWhile isNumberChar = s.numberText ∧
      (s.numberText ++ s.suffix.text).dropWhile isNumberChar = s.suffix.text := by
  have hnumber := List.all_eq_true.1 s.all_numberText
  rw [List.takeWhile_append_of_pos hnumber, List.dropWhile_append_of_pos hnumber]
  cases hsuffix : s.suffix.text with
  | nil => simp
  | cons c rest =>
      have hc := Suffix.not_isNumberChar hsuffix
      simp [hc]

/-- A number is taken apart at its point. -/
theorem splitAtPoint_numberText : splitAtPoint s.numberText = (s.whole, s.fraction) := by
  have hwhole : ∀ c ∈ s.whole, (c != '.') = true := by
    intro c hc
    simpa using ne_of_isDigit (List.all_eq_true.1 s.whole_digits c hc) (d := '.') (by decide)
  rw [splitAtPoint, numberText, List.takeWhile_append_of_pos hwhole,
    List.dropWhile_append_of_pos hwhole]
  cases hpoint : s.isPointed with
  | true => simp
  | false => simp [s.pointed hpoint]

/-- A spelling without its sign is read part by part: the scale of its suffix is corrected by the
number of digits behind the point and by the nine places of a nano unit. -/
theorem magnitude?_text :
    magnitude? (s.numberText ++ s.suffix.text) = (do
      let places ← fit32 s.fraction.length
      let decimal ← fit32 (s.suffix.decimal - places)
      let decimal ← fit32 (decimal + 9)
      scaled? s.number s.suffix.binary decimal) := by
  obtain ⟨hnumber, hsuffix⟩ := s.span_numberText
  have hdigit : (s.whole.isEmpty && s.fraction.isEmpty) = false := by
    have := s.has_digit
    simpa [List.append_eq_nil_iff] using this
  have hpoint : s.fraction.contains '.' = false := by
    rw [List.contains_eq_mem, decide_eq_false_iff_not]
    intro hmem
    exact absurd (List.all_eq_true.1 s.fraction_digits _ hmem) (by decide)
  unfold magnitude?
  rw [hnumber, hsuffix]
  simp only [s.splitAtPoint_numberText, hdigit, hpoint, Bool.false_eq_true, if_false]
  rw [scale?_text, Digits.toNat_eq_numeral, ← number]
  refine ExceptT.ext ?_
  rw [run_checked_bind, Option.bind_some]

/-- A spelling is read without its sign, and what is read is negated under a minus. -/
theorem amount?_text :
    amount? s.text = if s.sign = .minus
      then do unchecked fit128 (-(← magnitude? (s.numberText ++ s.suffix.text)))
      else magnitude? (s.numberText ++ s.suffix.text) := by
  rw [text, amount?, String.toList_ofList]
  cases hsign : s.sign with
  | plus => rfl
  | minus => rfl
  | absent =>
      -- Without a sign the text starts with a digit or with the point.
      obtain ⟨c, rest, hrest, hc⟩ : ∃ c rest, s.numberText = c :: rest ∧ isNumberChar c = true := by
        cases hnumber : s.numberText with
        | nil =>
            have hwhole : s.whole = [] := (List.append_eq_nil_iff.1 hnumber).1
            cases hpoint : s.isPointed with
            | true => simp [numberText, hpoint] at hnumber
            | false => exact absurd (by rw [hwhole, s.pointed hpoint, List.nil_append]) s.has_digit
        | cons c rest =>
            exact ⟨c, rest, rfl, List.all_eq_true.1 s.all_numberText c (by simp [hnumber])⟩
      have hminus : c ≠ '-' := by rintro rfl; exact absurd hc (by decide)
      have hplus : c ≠ '+' := by rintro rfl; exact absurd hc (by decide)
      rw [hrest, Sign.text, List.nil_append, List.cons_append]
      split
      · next h => simp at h
      · next h => exact absurd (List.cons.inj h).1 hminus
      · next h => exact absurd (List.cons.inj h).1 hplus
      · rw [if_neg (by simp)]

end Spelling

/-- A number without a point has nothing behind it. -/
theorem splitAtPoint_of_no_point {number : List Char} (h : '.' ∉ number) :
    (splitAtPoint number).2 = [] := by
  have hall : ∀ c ∈ number, (c != '.') = true := by
    rintro c hc
    simpa using fun heq : c = '.' ↦ h (heq ▸ hc)
  rw [splitAtPoint, List.dropWhile_eq_nil_iff.2 hall, List.tail_nil]

/-- A number is put together again from what stands before and behind its first point. -/
theorem splitAtPoint_append (number : List Char) :
    (splitAtPoint number).1 ++
      (if '.' ∈ number then '.' :: (splitAtPoint number).2 else []) = number := by
  have hparts := List.takeWhile_append_dropWhile (p := (· != '.')) (l := number)
  simp only [splitAtPoint]
  cases hrest : number.dropWhile (· != '.') with
  | nil =>
      have hall := List.dropWhile_eq_nil_iff.1 hrest
      have hpoint : '.' ∉ number := fun hmem ↦ by simpa using hall _ hmem
      rw [if_neg hpoint, List.append_nil, List.takeWhile_eq_self_iff.2 hall]
  | cons c rest =>
      obtain rfl : c = '.' := by
        have hhead := List.head?_dropWhile_not (· != '.') number
        simpa [hrest] using hhead
      have hpoint : '.' ∈ number := by rw [← hparts, hrest]; simp
      rw [if_pos hpoint, List.tail_cons, ← hrest, hparts]

/-- A number has digits alone before its first point, and also behind it if there is no other. -/
theorem splitAtPoint_digits {number : List Char} (hnumber : ∀ c ∈ number, isNumberChar c = true)
    (hpoint : '.' ∉ (splitAtPoint number).2) :
    (splitAtPoint number).1.all Char.isDigit = true ∧
      (splitAtPoint number).2.all Char.isDigit = true := by
  have hdigit : ∀ c ∈ number, c ≠ '.' → c.isDigit = true := by
    intro c hc hne
    simpa [isNumberChar, hne] using hnumber c hc
  constructor
  · refine List.all_eq_true.2 fun c hc ↦ hdigit c (List.takeWhile_subset _ hc) ?_
    simpa using List.mem_takeWhile_imp hc
  · refine List.all_eq_true.2 fun c hc ↦ hdigit c ?_ fun heq ↦ hpoint (heq ▸ hc)
    exact List.dropWhile_subset _ (List.mem_of_mem_tail hc)

/-- Only digits around a point with a suffix are read as an amount, or break off. -/
theorem exists_of_magnitude? (sign : Sign) {text : List Char} {outcome : Except Overflow Int}
    (h : (magnitude? text).run = some outcome) :
    ∃ s : Spelling, s.sign = sign ∧ s.numberText ++ s.suffix.text = text := by
  have hnumber : ∀ c ∈ text.takeWhile isNumberChar, isNumberChar c = true :=
    fun c hc ↦ List.mem_takeWhile_imp hc
  have hparts := splitAtPoint_append (text.takeWhile isNumberChar)
  unfold magnitude? at h
  dsimp only at h
  split at h
  · simp at h
  · next hdigit =>
    split at h
    · simp at h
    · next hpoint =>
      rw [run_checked_bind] at h
      obtain ⟨powers, hpowers, -⟩ := Option.bind_eq_some_iff.1 h
      obtain ⟨suffix, hsuffix⟩ := exists_of_scale? hpowers
      obtain ⟨hwhole, hfraction⟩ := splitAtPoint_digits hnumber (by simpa using hpoint)
      refine ⟨⟨sign, _, decide ('.' ∈ text.takeWhile isNumberChar), _, suffix, hwhole, hfraction,
        ?_, ?_⟩, rfl, ?_⟩
      · simpa using hdigit
      · exact fun hmissing ↦ splitAtPoint_of_no_point (of_decide_eq_false hmissing)
      · simp only [Spelling.numberText, decide_eq_true_eq]
        rw [hparts, hsuffix, List.takeWhile_append_dropWhile]

/-- Only spellings are read as quantities, or break off. -/
theorem exists_spelling {text : String} {outcome : Except Overflow Int}
    (h : (amount? text).run = some outcome) : ∃ s : Spelling, s.text = text := by
  have hspelled : ∀ (sign : Sign) {rest : List Char} {outcome : Except Overflow Int},
      (magnitude? rest).run = some outcome → text.toList = sign.text ++ rest →
      ∃ s : Spelling, s.text = text := by
    intro sign rest outcome hread htext
    obtain ⟨s, rfl, rfl⟩ := exists_of_magnitude? sign hread
    exact ⟨s, by rw [Spelling.text, ← htext, String.ofList_toList]⟩
  unfold amount? at h
  split at h
  · simp at h
  · next rest htext =>
    rw [ExceptT.run_bind] at h
    obtain ⟨first, hread, -⟩ := Option.bind_eq_some_iff.1 h
    exact hspelled .minus hread htext
  · next rest htext => exact hspelled .plus h htext
  · exact hspelled .absent h rfl

end Quantity

end FleetOperator
