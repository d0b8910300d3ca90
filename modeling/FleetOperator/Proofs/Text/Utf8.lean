import FleetOperator.Proofs.Except
import FleetOperator.Text.Utf8

/-!
# Reading UTF-8

Reading octets is the inverse of writing characters. Read `decode_eq_ok_iff` first: octets are read
as a text exactly if they are what the text is written as. `WellFormed` lists the octets that stand
for one character, and the decoder and the encoder are each compared with this list.
-/

namespace FleetOperator.Utf8

/-- The octets that stand for a character: from the first octet follow the number of octets and the
range of the second one, and every later octet adds six bits. -/
inductive WellFormed : List UInt8 → Char → Prop
  | one {a : UInt8} (ha : a.toNat ≤ 0x7F) : WellFormed [a] (Char.ofNat a.toNat)
  | two {a b : UInt8} (ha : 0xC2 ≤ a.toNat ∧ a.toNat ≤ 0xDF)
      (hb : 0x80 ≤ b.toNat ∧ b.toNat ≤ 0xBF) :
      WellFormed [a, b] (Char.ofNat ((a.toNat - 0xC0) * 64 + (b.toNat - 0x80)))
  | three {a b c : UInt8} (ha : 0xE0 ≤ a.toNat ∧ a.toNat ≤ 0xEF)
      (hb : 0x80 ≤ b.toNat ∧ b.toNat ≤ 0xBF) (hlow : a.toNat = 0xE0 → 0xA0 ≤ b.toNat)
      (hhigh : a.toNat = 0xED → b.toNat ≤ 0x9F) (hc : 0x80 ≤ c.toNat ∧ c.toNat ≤ 0xBF) :
      WellFormed [a, b, c]
        (Char.ofNat (((a.toNat - 0xE0) * 64 + (b.toNat - 0x80)) * 64 + (c.toNat - 0x80)))
  | four {a b c d : UInt8} (ha : 0xF0 ≤ a.toNat ∧ a.toNat ≤ 0xF4)
      (hb : 0x80 ≤ b.toNat ∧ b.toNat ≤ 0xBF) (hlow : a.toNat = 0xF0 → 0x90 ≤ b.toNat)
      (hhigh : a.toNat = 0xF4 → b.toNat ≤ 0x8F) (hc : 0x80 ≤ c.toNat ∧ c.toNat ≤ 0xBF)
      (hd : 0x80 ≤ d.toNat ∧ d.toNat ≤ 0xBF) :
      WellFormed [a, b, c, d]
        (Char.ofNat ((((a.toNat - 0xF0) * 64 + (b.toNat - 0x80)) * 64 + (c.toNat - 0x80)) * 64 +
          (d.toNat - 0x80)))

/-! ## The encoder -/

/-- The code of the character of a code. -/
theorem code_ofNat {n : Nat} (h : n.isValidChar) : (Char.ofNat n).val.toNat = n := by
  rw [Char.ofNat, dif_pos h]
  rfl

/-- An octet is that of its number. -/
theorem ofNat_eq_of_toNat {n : Nat} {octet : UInt8} (h : n = octet.toNat) :
    UInt8.ofNat n = octet := by
  rw [h, UInt8.ofNat_toNat]

/-- Octets that stand for a character are what the character is written as. -/
theorem WellFormed.encode {octets : List UInt8} {c : Char} (h : WellFormed octets c) :
    String.utf8EncodeChar c = octets := by
  cases h with
  | @one a ha =>
      have hcode := @code_ofNat a.toNat (by unfold Nat.isValidChar; omega)
      simp only [String.utf8EncodeChar, hcode]
      rw [if_pos (by omega), UInt8.ofNat_toNat]
  | @two a b ha hb =>
      have hcode := @code_ofNat ((a.toNat - 0xC0) * 64 + (b.toNat - 0x80))
        (by unfold Nat.isValidChar; omega)
      simp only [String.utf8EncodeChar, hcode]
      rw [if_neg (by omega), if_pos (by omega), @ofNat_eq_of_toNat _ a (by omega),
        @ofNat_eq_of_toNat _ b (by omega)]
  | @three a b c ha hb hlow hhigh hc =>
      have hcode := @code_ofNat
        (((a.toNat - 0xE0) * 64 + (b.toNat - 0x80)) * 64 + (c.toNat - 0x80))
        (by unfold Nat.isValidChar; omega)
      simp only [String.utf8EncodeChar, hcode]
      rw [if_neg (by omega), if_neg (by omega), if_pos (by omega),
        @ofNat_eq_of_toNat _ a (by omega), @ofNat_eq_of_toNat _ b (by omega),
        @ofNat_eq_of_toNat _ c (by omega)]
  | @four a b c d ha hb hlow hhigh hc hd =>
      have hcode := @code_ofNat
        ((((a.toNat - 0xF0) * 64 + (b.toNat - 0x80)) * 64 + (c.toNat - 0x80)) * 64 +
          (d.toNat - 0x80)) (by unfold Nat.isValidChar; omega)
      simp only [String.utf8EncodeChar, hcode]
      rw [if_neg (by omega), if_neg (by omega), if_neg (by omega),
        @ofNat_eq_of_toNat _ a (by omega), @ofNat_eq_of_toNat _ b (by omega),
        @ofNat_eq_of_toNat _ c (by omega), @ofNat_eq_of_toNat _ d (by omega)]

/-- The octet of a number below 256 has this number. -/
theorem toNat_octet {n : Nat} (h : n < 256) : (UInt8.ofNat n).toNat = n := by
  rw [UInt8.toNat_ofNat', Nat.mod_eq_of_lt h]

/-- What a character is written as stands for the character. -/
theorem wellFormed_encode (c : Char) : WellFormed (String.utf8EncodeChar c) c := by
  have hvalid : c.toNat < 0xD800 ∨ 0xDFFF < c.toNat ∧ c.toNat < 0x110000 := c.valid
  have hcode : Char.ofNat c.toNat = c := Char.ofNat_toNat c
  simp only [String.utf8EncodeChar, Char.toNat_val]
  generalize c.toNat = n at hvalid hcode ⊢
  split
  · have ha := @toNat_octet n (by omega)
    have hform := @WellFormed.one (UInt8.ofNat n) (by omega)
    rwa [ha, hcode] at hform
  split
  · have ha := @toNat_octet (n / 64 % 32 + 192) (by omega)
    have hb := @toNat_octet (n % 64 + 128) (by omega)
    have hform := @WellFormed.two (UInt8.ofNat (n / 64 % 32 + 192)) (UInt8.ofNat (n % 64 + 128))
      (by omega) (by omega)
    have hvalue : (n / 64 % 32 + 192 - 0xC0) * 64 + (n % 64 + 128 - 0x80) = n := by omega
    rwa [ha, hb, hvalue, hcode] at hform
  split
  · have ha := @toNat_octet (n / 4096 % 16 + 224) (by omega)
    have hb := @toNat_octet (n / 64 % 64 + 128) (by omega)
    have hc := @toNat_octet (n % 64 + 128) (by omega)
    have hform := @WellFormed.three (UInt8.ofNat (n / 4096 % 16 + 224))
      (UInt8.ofNat (n / 64 % 64 + 128)) (UInt8.ofNat (n % 64 + 128))
      (by omega) (by omega) (by omega) (by omega) (by omega)
    have hvalue : ((n / 4096 % 16 + 224 - 0xE0) * 64 + (n / 64 % 64 + 128 - 0x80)) * 64 +
        (n % 64 + 128 - 0x80) = n := by omega
    rwa [ha, hb, hc, hvalue, hcode] at hform
  · have ha := @toNat_octet (n / 262144 % 8 + 240) (by omega)
    have hb := @toNat_octet (n / 4096 % 64 + 128) (by omega)
    have hc := @toNat_octet (n / 64 % 64 + 128) (by omega)
    have hd := @toNat_octet (n % 64 + 128) (by omega)
    have hform := @WellFormed.four (UInt8.ofNat (n / 262144 % 8 + 240))
      (UInt8.ofNat (n / 4096 % 64 + 128)) (UInt8.ofNat (n / 64 % 64 + 128))
      (UInt8.ofNat (n % 64 + 128))
      (by omega) (by omega) (by omega) (by omega) (by omega) (by omega)
    have hvalue : (((n / 262144 % 8 + 240 - 0xF0) * 64 + (n / 4096 % 64 + 128 - 0x80)) * 64 +
        (n / 64 % 64 + 128 - 0x80)) * 64 + (n % 64 + 128 - 0x80) = n := by omega
    rwa [ha, hb, hc, hd, hvalue, hcode] at hform

/-! ## The decoder -/

/-- The first octet of a character of two. -/
theorem start?_two {n : Nat} (h : 0xC2 ≤ n ∧ n ≤ 0xDF) :
    Pending.start? n = some { owed := 1, bits := n - 0xC0 } := by
  rw [Pending.start?, if_pos h]

/-- The first octet of a character of three. -/
theorem start?_three {n : Nat} (h : 0xE0 ≤ n ∧ n ≤ 0xEF) :
    Pending.start? n = some
      { owed := 2, low := if n = 0xE0 then 0xA0 else 0x80, high := if n = 0xED then 0x9F else 0xBF
        bits := n - 0xE0 } := by
  rw [Pending.start?, if_neg (by omega)]
  by_cases hfirst : n = 0xE0
  · simp [hfirst]
  by_cases hsurrogate : n = 0xED
  · simp [hsurrogate]
  · rw [if_neg hfirst, if_neg hsurrogate, if_pos (by omega), if_neg hfirst, if_neg hsurrogate]

/-- The first octet of a character of four. -/
theorem start?_four {n : Nat} (h : 0xF0 ≤ n ∧ n ≤ 0xF4) :
    Pending.start? n = some
      { owed := 3, low := if n = 0xF0 then 0x90 else 0x80, high := if n = 0xF4 then 0x8F else 0xBF
        bits := n - 0xF0 } := by
  rw [Pending.start?, if_neg (by omega), if_neg (by omega), if_neg (by omega), if_neg (by omega)]
  by_cases hfirst : n = 0xF0
  · simp [hfirst]
  by_cases hlast : n = 0xF4
  · simp [hlast]
  · rw [if_neg hfirst, if_pos (by omega), if_neg hfirst, if_neg hlast]

/-- Only these octets start a character of more than one. -/
theorem start?_range {n : Nat} {p : Pending} (h : Pending.start? n = some p) :
    (0xC2 ≤ n ∧ n ≤ 0xDF) ∨ (0xE0 ≤ n ∧ n ≤ 0xEF) ∨ (0xF0 ≤ n ∧ n ≤ 0xF4) := by
  unfold Pending.start? at h
  grind

/-- Octets that stand for a character are read as it. -/
theorem WellFormed.decode {front : List UInt8} {c : Char} (h : WellFormed front c) (index : Nat)
    (rest : List UInt8) : decodeFrom index none (front ++ rest) =
      (decodeFrom (index + front.length) none rest).map (c :: ·) := by
  cases h with
  | one ha => simp [decodeFrom, ha]
  | @two a b ha hb => simp [decodeFrom, start?_two ha, hb, show ¬ a.toNat ≤ 127 by omega]
  | @three a b c ha hb hlow hhigh hc =>
      have hrange : (if a.toNat = 0xE0 then 0xA0 else 0x80) ≤ b.toNat ∧
          b.toNat ≤ if a.toNat = 0xED then 0x9F else 0xBF := by
        split <;> split <;> omega
      simp [decodeFrom, start?_three ha, hrange, hc, show ¬ a.toNat ≤ 127 by omega]
  | @four a b c d ha hb hlow hhigh hc hd =>
      have hrange : (if a.toNat = 0xF0 then 0x90 else 0x80) ≤ b.toNat ∧
          b.toNat ≤ if a.toNat = 0xF4 then 0x8F else 0xBF := by
        split <;> split <;> omega
      simp [decodeFrom, start?_four ha, hrange, hc, hd, show ¬ a.toNat ≤ 127 by omega]

/-- The last octet that a character owes is followed by other characters. -/
theorem decodeFrom_last {p : Pending} (howed : p.owed ≤ 1) {index : Nat} {octets : List UInt8}
    {text : List Char} (h : decodeFrom index (some p) octets = .ok text) :
    ∃ octet rest tail next, octets = octet :: rest ∧ (p.low ≤ octet.toNat ∧ octet.toNat ≤ p.high) ∧
      text = Char.ofNat (p.bits * 64 + (octet.toNat - 0x80)) :: tail ∧
      decodeFrom next none rest = .ok tail := by
  cases octets with
  | nil => simp [decodeFrom] at h
  | cons octet rest =>
      simp only [decodeFrom, howed, if_true] at h
      split at h
      · next hrange =>
        obtain ⟨tail, htail, rfl⟩ := map_eq_ok.1 h
        exact ⟨octet, rest, tail, _, rfl, hrange, rfl, htail⟩
      · simp at h

/-- An octet that a character owes is followed by the others. -/
theorem decodeFrom_more {p : Pending} (howed : ¬ p.owed ≤ 1) {index : Nat} {octets : List UInt8}
    {text : List Char} (h : decodeFrom index (some p) octets = .ok text) :
    ∃ octet rest, octets = octet :: rest ∧ (p.low ≤ octet.toNat ∧ octet.toNat ≤ p.high) ∧
      decodeFrom index (some
        { owed := p.owed - 1, bits := p.bits * 64 + (octet.toNat - 0x80), taken := p.taken + 1 })
        rest = .ok text := by
  cases octets with
  | nil => simp [decodeFrom] at h
  | cons octet rest =>
      simp only [decodeFrom, howed, if_false] at h
      split at h
      · next hrange => exact ⟨octet, rest, rfl, hrange, h⟩
      · simp at h

/-- What is read begins with a character and the octets that stand for it. -/
theorem wellFormed_of_decodeFrom {index : Nat} {a : UInt8} {octets : List UInt8} {text : List Char}
    (h : decodeFrom index none (a :: octets) = .ok text) :
    ∃ front rest c tail next, a :: octets = front ++ rest ∧ WellFormed front c ∧
      text = c :: tail ∧ decodeFrom next none rest = .ok tail := by
  simp only [decodeFrom] at h
  split at h
  · next ha =>
    obtain ⟨tail, htail, rfl⟩ := map_eq_ok.1 h
    exact ⟨[a], octets, _, tail, _, rfl, .one ha, rfl, htail⟩
  · split at h
    · next p hstart =>
      rcases start?_range hstart with ha | ha | ha
      · rw [start?_two ha] at hstart
        cases hstart
        obtain ⟨b, rest, tail, next, rfl, hb, rfl, htail⟩ := decodeFrom_last (by simp) h
        exact ⟨[a, b], rest, _, tail, next, rfl, .two ha hb, rfl, htail⟩
      · rw [start?_three ha] at hstart
        cases hstart
        obtain ⟨b, octets, rfl, hb, h⟩ := decodeFrom_more (by simp) h
        obtain ⟨c, rest, tail, next, rfl, hc, rfl, htail⟩ := decodeFrom_last (by simp) h
        simp only at hb hc
        refine ⟨[a, b, c], rest, _, tail, next, rfl, .three ha ?_ ?_ ?_ hc, rfl, htail⟩ <;>
          (split at hb <;> split at hb <;> omega)
      · rw [start?_four ha] at hstart
        cases hstart
        obtain ⟨b, octets, rfl, hb, h⟩ := decodeFrom_more (by simp) h
        obtain ⟨c, octets, rfl, hc, h⟩ := decodeFrom_more (by simp) h
        obtain ⟨d, rest, tail, next, rfl, hd, rfl, htail⟩ := decodeFrom_last (by simp) h
        simp only at hb hc hd
        refine ⟨[a, b, c, d], rest, _, tail, next, rfl, .four ha ?_ ?_ ?_ hc hd, rfl, htail⟩ <;>
          (split at hb <;> split at hb <;> omega)
    · simp at h

/-- What a text is written as is read as the text. -/
theorem decodeFrom_encode (text : List Char) (index : Nat) :
    decodeFrom index none (encode text) = .ok text := by
  induction text generalizing index with
  | nil => rfl
  | cons c rest ih =>
      rw [encode, List.flatMap_cons, (wellFormed_encode c).decode, ← encode, ih]
      rfl

/-- What is read as a text is what the text is written as. -/
theorem encode_of_decodeFrom {octets : List UInt8} {index : Nat} {text : List Char}
    (h : decodeFrom index none octets = .ok text) : encode text = octets := by
  -- The induction is on the number of octets, of which each character takes at least one.
  induction hlength : octets.length using Nat.strongRecOn generalizing octets index text with
  | _ length ih =>
      subst hlength
      cases octets with
      | nil =>
          obtain rfl : [] = text := by simpa [decodeFrom] using h
          rfl
      | cons a octets =>
          obtain ⟨front, rest, c, tail, next, hsplit, hform, rfl, htail⟩ :=
            wellFormed_of_decodeFrom h
          have hshorter : rest.length < (a :: octets).length := by
            rw [hsplit, List.length_append]
            cases hform <;> simp
          rw [encode, List.flatMap_cons, hform.encode, hsplit, ← encode, ih _ hshorter htail rfl]

/-- Octets are read as a text exactly if they are what the text is written as. -/
theorem decode_eq_ok_iff {octets : List UInt8} {text : List Char} :
    decode octets = .ok text ↔ encode text = octets := by
  constructor
  · exact encode_of_decodeFrom
  · rintro rfl
    exact decodeFrom_encode text 0

end FleetOperator.Utf8
