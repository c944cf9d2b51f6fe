import Admission.Http
import Admission.Proofs.Decimal.Numerals
import Admission.Proofs.Yaml.Line

/-!
# Integers without quotes

A scalar without quotes that writes an integer is read as one if 64 bits hold it.  One that they do
not hold is a real number where it is decimal, and a text where it has a mark for its base.

* `Scalar.Writes` — the integers that texts write, of any size;
* `Scalar.Writes.integer?_eq` — such a text is read as its integer if that is held;
* `Scalar.ofPlain_of_mark`, `Decimal.readBinary64?_of_readInt?` — and if it is not;
* `Scalar.beginsNumber` — what begins with a sign or a digit is none of the words;
* `Decimal.Numeral.isWord` — a numeral is a plain scalar wherever a value is wanted.
-/

namespace Admission

namespace Yaml.Scalar

/-- The integer that a text writes: decimal, or after `0x` or `0o` in base 16 or 8. -/
inductive Writes : List Char → Int → Prop where
  | decimal {number : List Char} {v : Int} (h : Decimal.readInt? number = some v) : Writes number v
  | based {mark : Char} {base : Nat} {digits : List Char} {values : List Nat}
      (hmark : mark = 'x' ∧ base = 16 ∨ mark = 'o' ∧ base = 8)
      (h : digits.mapM (digitIn? base) = some values) (hne : values ≠ []) :
      Writes ('0' :: mark :: digits) (values.foldl (fun n d => n * base + d) 0 : Nat)

theorem digitIn?_of_isDigit {c : Char} (h : c.isDigit = true) :
    digitIn? 10 c = some (c.toNat - '0'.toNat) := by
  have hlt : c.toNat - '0'.toNat < 10 := by
    simp only [Char.isDigit, Bool.and_eq_true, decide_eq_true_eq] at h
    have h1 : c.toNat ≤ 57 := h.2
    have h2 : '0'.toNat = 48 := rfl
    omega
  unfold digitIn?
  rw [if_pos h]
  exact if_pos hlt

theorem mapM_digitIn? {digits : List Char} (h : ∀ c ∈ digits, c.isDigit = true) :
    digits.mapM (digitIn? 10) = some (digits.map fun c => c.toNat - '0'.toNat) := by
  induction digits with
  | nil => rfl
  | cons c rest ih =>
    rw [List.mapM_cons, digitIn?_of_isDigit (h c (by simp)), ih fun d hd => h d (by simp [hd])]
    rfl

/-- Digits without a sign are read as the number they stand for, if it is held. -/
theorem inBase?_of_mapM {base : Nat} {digits : List Char} {values : List Nat}
    (h : digits.mapM (digitIn? base) = some values) (hne : values ≠ []) :
    inBase? base digits = held? (values.foldl (fun n d => n * base + d) 0 : Nat) := by
  have hsign : ∀ c rest, digits = c :: rest → c ≠ '-' ∧ c ≠ '+' := by
    intro c rest hcons
    subst hcons
    have hnone : digitIn? base '-' = none ∧ digitIn? base '+' = none := by simp [digitIn?]
    constructor
    · rintro rfl
      simp [List.mapM_cons, hnone.1] at h
    · rintro rfl
      simp [List.mapM_cons, hnone.2] at h
  obtain ⟨value, others, rfl⟩ := List.exists_cons_of_ne_nil hne
  unfold inBase?
  split
  rename_i negative rest hsplit
  split at hsplit
  · exact absurd rfl (hsign _ _ rfl).1
  · exact absurd rfl (hsign _ _ rfl).2
  · cases hsplit
    rw [h]
    rfl

/-- The same after a minus sign. -/
theorem inBase?_minus_of_mapM {base : Nat} {digits : List Char} {values : List Nat}
    (h : digits.mapM (digitIn? base) = some values) (hne : values ≠ []) :
    inBase? base ('-' :: digits) =
      held? (-(values.foldl (fun n d => n * base + d) 0 : Nat) : Int) := by
  obtain ⟨value, others, rfl⟩ := List.exists_cons_of_ne_nil hne
  simp only [inBase?, h]
  rfl

theorem foldl_map_digits (digits : List Char) :
    (digits.map fun c => c.toNat - '0'.toNat).foldl (fun n d => n * 10 + d) 0 =
      Decimal.ofDigits digits := by
  rw [List.foldl_map]
  rfl

/-- A decimal is an integer if it is held. -/
theorem integer?_of_readInt? {number : List Char} {v : Int} (h : Decimal.readInt? number = some v) :
    integer? number = held? v := by
  obtain ⟨negative, digits, hnumeral, rfl⟩ := Decimal.exists_numeral_of_readInt? h
  have hmap := mapM_digitIn? hnumeral.all_digits
  have hne : (digits.map fun c => c.toNat - '0'.toNat) ≠ [] := by
    simpa using hnumeral.nonempty
  have hplain := inBase?_of_mapM hmap hne
  have hminus := inBase?_minus_of_mapM hmap hne
  rw [foldl_map_digits] at hplain hminus
  obtain ⟨rfl, rfl⟩ | ⟨rfl, rfl | rfl⟩ := hnumeral.spelled
  · exact hminus
  · exact hplain
  · -- a digit stands where a mark for the base would
    unfold integer?
    split
    · exact absurd (hnumeral.all_digits 'x' (by simp)) (by decide)
    · exact absurd (hnumeral.all_digits 'o' (by simp)) (by decide)
    · exact absurd (hnumeral.all_digits '+' (by simp)) (by decide)
    · exact hplain

/-- What a text without quotes writes is an integer if it is held. -/
theorem Writes.integer?_eq {number : List Char} {v : Int} (h : Writes number v) :
    integer? number = held? v := by
  cases h with
  | decimal h => exact integer?_of_readInt? h
  | based hmark h hne =>
    obtain ⟨rfl, rfl⟩ | ⟨rfl, rfl⟩ := hmark
    · exact inBase?_of_mapM h hne
    · exact inBase?_of_mapM h hne

/-- Whether a text begins as a number does: with a sign or a digit. -/
def beginsNumber (text : List Char) : Bool :=
  text.head?.any fun c => c == '-' || c == '+' || c.isDigit

theorem Writes.beginsNumber {number : List Char} {v : Int} (h : Writes number v) :
    beginsNumber number = true := by
  cases h with
  | decimal h =>
    obtain ⟨negative, digits, hnumeral, -⟩ := Decimal.exists_numeral_of_readInt? h
    obtain ⟨c, rest, rfl, hc⟩ := hnumeral.head
    simpa [Scalar.beginsNumber, or_assoc] using hc
  | based => rfl

/-- What begins as a number does is none of the words. -/
theorem ne_of_beginsNumber {text : String} (h : beginsNumber text.toList = true) (word : String)
    (hword : beginsNumber word.toList = false) : text ≠ word := by
  rintro rfl
  rw [h] at hword
  cases hword

theorem beginsNumber_lowerName {text : String} (h : beginsNumber text.toList = true) :
    beginsNumber (Header.lowerName text).toList = true := by
  unfold Header.lowerName
  rw [String.toList_ofList]
  cases hlist : text.toList with
  | nil => simp [hlist, beginsNumber] at h
  | cons c rest =>
    simp only [hlist, beginsNumber, List.head?_cons, Option.any_some, Bool.or_eq_true,
      beq_iff_eq] at h
    obtain (rfl | rfl) | hc := h
    · rfl
    · rfl
    · simp [beginsNumber, Decimal.isDigit_toLower hc, hc]

/-! ## With a mark for the base -/

section Mark

variable {mark : Char} {digits : List Char}

/-- With a mark for its base, a number is no decimal, neither whole nor with a point. -/
theorem readInt?_of_mark (h : mark.isDigit = false) :
    Decimal.readInt? ('0' :: mark :: digits) = none := by
  simp [Decimal.readInt?, h]

theorem readBinary64?_of_mark (h : mark = 'x' ∨ mark = 'o') :
    Decimal.readBinary64? ('0' :: mark :: digits) = none := by
  have hdigit : mark.isDigit = false := by
    rcases h with rfl | rfl <;> rfl
  have hpower : (mark == 'e' || mark == 'E') = false := by
    rcases h with rfl | rfl <;> rfl
  have hword : ∀ word : String, word.toList.head? ≠ some '0' →
      (String.ofList (('0' :: mark :: digits).map Char.toLower) == word) = false := by
    intro word hhead
    rw [beq_eq_false_iff_ne]
    rintro rfl
    exact hhead (by simp)
  have hmantissa : Decimal.readMantissa? ('0' :: mark :: digits) =
      some (Decimal.ofDigits ['0'], 0, mark :: digits) := by
    have hpoint : mark ≠ '.' := by
      rcases h with rfl | rfl <;> decide
    have htake : ('0' :: mark :: digits).takeWhile Char.isDigit = ['0'] := by
      simp [hdigit]
    have hdrop : ('0' :: mark :: digits).dropWhile Char.isDigit = mark :: digits := by
      simp [hdigit]
    unfold Decimal.readMantissa?
    rw [htake, hdrop]
    simp [hpoint]
  have hread : Decimal.readBinary64? ('0' :: mark :: digits) =
      Decimal.readMagnitude? false ('0' :: mark :: digits) := rfl
  rw [hread]
  unfold Decimal.readMagnitude?
  simp only [hword "nan" (by decide), hword "inf" (by decide), hword "infinity" (by decide),
    hmantissa, hpower, Bool.or_self, Bool.false_eq_true, if_false]

/-- With a mark for its base, a number that is not held is kept as a text. -/
theorem ofPlain_of_mark {number : String} (hmark : mark = 'x' ∨ mark = 'o')
    (hnumber : number.toList = '0' :: mark :: digits) (h : integer? number.toList = none) :
    ofPlain number = .text number := by
  have hne : ∀ word : String, word.toList.head? ≠ some '0' → number ≠ word := by
    rintro word hhead rfl
    exact hhead (by simp [hnumber])
  have hspecial : specialReals.contains number = false := by
    rw [List.contains_eq_mem, decide_eq_false_iff_not]
    intro hmem
    have hall : ∀ word ∈ specialReals, word.toList.head? ≠ some '0' := by decide
    exact hne number (hall number hmem) rfl
  have hnull : ["~", "null"].contains number = false := by
    simp [hne "~" (by decide), hne "null" (by decide)]
  have hread : Decimal.readBinary64? number.toList = none := by
    rw [hnumber]
    exact readBinary64?_of_mark hmark
  unfold ofPlain
  simp only [h, hnull, hspecial, hread, hne "true" (by decide), hne "false" (by decide),
    Option.isSome_none, Bool.or_self, Bool.false_eq_true, if_false]

end Mark

end Yaml.Scalar

/-! ## Decimals -/

theorem Decimal.readBinary64?_of_readInt? {number : List Char} {v : Int}
    (h : readInt? number = some v) (hv : Yaml.Scalar.held? v = none) :
    readBinary64? number = some (nearest (v < 0) v.natAbs 0) := by
  obtain ⟨negative, digits, hnumeral, rfl⟩ := exists_numeral_of_readInt? h
  rw [hnumeral.readBinary64?_eq]
  have hne : signed negative (ofDigits digits) ≠ 0 := by
    intro hzero
    rw [hzero] at hv
    cases hv
  cases negative with
  | false =>
    have : ¬(ofDigits digits : Int) < 0 := by omega
    simp [signed, this]
  | true =>
    have : ofDigits digits ≠ 0 := by simpa [signed] using hne
    simp [signed, Nat.pos_of_ne_zero this]

/-- No digit means more than itself. -/
theorem Yaml.digit_solid {c : Char} (h : c.isDigit = true) :
    c ∉ indicators ∧ isSpace c = false ∧ c ≠ ':' ∧ c ≠ '-' := by
  have hne : ∀ d : Char, d.isDigit = false → c ≠ d := by
    rintro d hd rfl
    rw [h] at hd
    cases hd
  refine ⟨?_, ?_, hne ':' rfl, hne '-' rfl⟩
  · intro hmem
    have hall : indicators.all (fun d => !d.isDigit) = true := rfl
    have hc := List.all_eq_true.mp hall c hmem
    simp [h] at hc
  · simp [isSpace, isBlank, endsLine, isBreak, hne ' ' rfl, hne '\t' rfl, hne '\n' rfl,
      hne '\r' rfl, hne endMark rfl]

/-- A numeral is a plain scalar wherever a value is wanted. -/
theorem Decimal.Numeral.isWord {text digits : List Char} {negative : Bool}
    (h : Numeral text negative digits) : Yaml.IsWord text := by
  obtain ⟨c, rest, hcons, hc⟩ := h.exists_cons
  have hsolid : ∀ d ∈ digits, Yaml.isSpace d = false ∧ d ≠ ':' := fun d hd =>
    ⟨(Yaml.digit_solid (h.all_digits d hd)).2.1, (Yaml.digit_solid (h.all_digits d hd)).2.2.1⟩
  have hsigned : ∀ sign ∈ ['-', '+'], Yaml.IsWord (sign :: digits) := by
    intro sign hsign
    have hchar : sign ∉ Yaml.indicators ∧ Yaml.isSpace sign = false ∧ sign ≠ ':' := by
      obtain rfl | rfl : sign = '-' ∨ sign = '+' := by simpa using hsign
      · decide
      · decide
    refine ⟨⟨sign, digits, rfl, hchar.1, fun _ => h.nonempty⟩, ?_⟩
    intro d hd
    obtain rfl | hd := List.mem_cons.mp hd
    · exact hchar.2
    · exact hsolid d hd
  obtain ⟨-, rfl⟩ | ⟨-, rfl | rfl⟩ := h.spelled
  · exact hsigned '-' (by decide)
  · exact hsigned '+' (by decide)
  · have hdigit := Yaml.digit_solid hc
    exact ⟨⟨c, rest, hcons, hdigit.1, fun heq => absurd heq hdigit.2.2.2⟩, hsolid⟩

end Admission
