import Mathlib.Tactic.IntervalCases
import Admission.Json.Quoted

/-!
# How a string is spelled

A string may be spelled in many ways, since most characters may be escaped and need not be; each
spelling has one meaning.  The rules are stated from left to right: what a spelling means, and
what is left of the text behind the closing quote.

* `Spells` — the rules, one for each way to write a character;
* `unescape?_eq_some_iff` — the reader accepts what the rules allow, and nothing else;
* `Spells.functional` — a text is read in at most one way;
* `spells_escape` — what is written is a spelling of what it was written for, whatever characters
  that has.
-/

namespace Admission.Json

/-- A text begins with a string's body and its closing quote, and goes on with the rest.  A
character is spelled by itself, by a letter, or by its number: by one code unit, or by two if one
does not suffice.  Quotes, backslashes and controls do not stand for themselves. -/
inductive Spells : List Char → List Char → List Char → Prop
  | close (rest : List Char) : Spells ('"' :: rest) [] rest
  | plain {c : Char} {text s rest : List Char} : c ≠ '"' → c ≠ '\\' → 32 ≤ c.toNat →
      Spells text s rest → Spells (c :: text) (c :: s) rest
  | short {letter c : Char} {text s rest : List Char} : shortEscape? letter = some c →
      Spells text s rest → Spells ('\\' :: letter :: text) (c :: s) rest
  | unit {a b c d : Char} {unit : Nat} {text s rest : List Char} : codeUnit? a b c d = some unit →
      unit < 0xD800 ∨ 0xDFFF < unit → Spells text s rest →
      Spells ('\\' :: 'u' :: a :: b :: c :: d :: text) (Char.ofNat unit :: s) rest
  | pair {a b c d a' b' c' d' : Char} {high low : Nat} {text s rest : List Char} :
      codeUnit? a b c d = some high → 0xD800 ≤ high → high ≤ 0xDBFF →
      codeUnit? a' b' c' d' = some low → 0xDC00 ≤ low → low ≤ 0xDFFF → Spells text s rest →
      Spells ('\\' :: 'u' :: a :: b :: c :: d :: '\\' :: 'u' :: a' :: b' :: c' :: d' :: text)
        (Char.ofNat (0x10000 + (high - 0xD800) * 0x400 + (low - 0xDC00)) :: s) rest

variable {text s rest : List Char}

/-! ## The reader -/

/-- One more character in front of what was read. -/
theorem map_cons_eq_some {c : Char} {read : Option (List Char × List Char)} :
    (read.map fun (s, tail) => (c :: s, tail)) = some (s, rest) ↔
      ∃ more, read = some (more, rest) ∧ s = c :: more := by
  cases read <;> grind

/-- The reader accepts what the rules allow. -/
theorem unescape?_of_spells (h : Spells text s rest) : unescape? text = some (s, rest) := by
  induction h with
  | close rest => rw [unescape?]
  | @plain c text s rest hquote hslash hcontrol _ ih =>
    have hstands : ¬(c = '\\' ∨ c.toNat < 32) := by
      rintro (rfl | hlow)
      · exact hslash rfl
      · omega
    rw [unescape?.eq_5 c text hquote (fun _ _ _ _ _ h => absurd h hslash)
      (fun _ _ h => absurd h hslash), if_neg hstands, map_cons_eq_some]
    exact ⟨s, ih, rfl⟩
  | @short letter c text s rest hletter _ ih =>
    have hnumber : letter ≠ 'u' := by
      rintro rfl
      cases hletter
    rw [unescape?.eq_4 letter text (fun _ _ _ _ _ h => absurd h hnumber), hletter,
      map_cons_eq_some]
    exact ⟨s, ih, rfl⟩
  | @unit _ _ _ _ _ _ s _ hunit hrange _ ih =>
    rw [unescape?, hunit]
    dsimp only
    rw [if_pos hrange, map_cons_eq_some]
    exact ⟨s, ih, rfl⟩
  | @pair _ _ _ _ _ _ _ _ _ _ _ s _ hhigh hhigh₁ hhigh₂ hlow hlow₁ hlow₂ _ ih =>
    rw [unescape?, hhigh]
    dsimp only
    rw [if_neg (by omega), if_neg (by omega)]
    simp only [hlow]
    rw [if_neg (by omega), map_cons_eq_some]
    exact ⟨s, ih, rfl⟩

/-- The reader accepts nothing else. -/
theorem spells_of_unescape? (h : unescape? text = some (s, rest)) : Spells text s rest := by
  -- One case for each way through the reader; those that refuse the text give nothing.
  fun_induction unescape? text generalizing s rest with
  | case2 => cases h; exact .close _
  | case4 _ _ _ _ _ _ hunit hrange ih =>
    obtain ⟨more, hmore, rfl⟩ := map_cons_eq_some.1 h
    exact .unit hunit hrange (ih hmore)
  | case8 _ _ _ _ _ hhigh hhigh₁ hhigh₂ _ _ _ _ _ _ hlow hlow₁ ih =>
    obtain ⟨more, hmore, rfl⟩ := map_cons_eq_some.1 h
    exact .pair hhigh (by omega) (by omega) hlow (by omega) (by omega) (ih hmore)
  | case11 _ _ _ _ hletter ih =>
    obtain ⟨more, hmore, rfl⟩ := map_cons_eq_some.1 h
    exact .short hletter (ih hmore)
  | case13 _ _ hquote _ _ hstands ih =>
    obtain ⟨more, hmore, rfl⟩ := map_cons_eq_some.1 h
    exact .plain hquote (fun hslash => hstands (.inl hslash)) (by omega) (ih hmore)
  | case1 | case3 | case5 | case6 | case7 | case9 | case10 | case12 => cases h

/-- **The reader keeps the rules**: it accepts what they allow, and nothing else. -/
theorem unescape?_eq_some_iff : unescape? text = some (s, rest) ↔ Spells text s rest :=
  ⟨spells_of_unescape?, unescape?_of_spells⟩

/-- A character beyond the first sixteen bits is spelled by two code units, or stands for itself. -/
example : unescape? (("\\ud83d\\ude00" ++ "😀\"rest").toList) =
    some (['😀', '😀'], "rest".toList) := by
  decide +kernel

/-- A text is read in at most one way. -/
theorem Spells.functional {s' rest' : List Char} (h : Spells text s rest)
    (h' : Spells text s' rest') : s = s' ∧ rest = rest' := by
  have hsame := (unescape?_of_spells h).symm.trans (unescape?_of_spells h')
  grind

/-! ## What is written -/

/-- A hexadecimal digit is read as what it was written for. -/
theorem hexValue?_hexDigit {n : Nat} (h : n < 16) : hexValue? (hexDigit n) = some n := by
  interval_cases n <;> rfl

/-- A control is read back from its number. -/
theorem codeUnit?_control {n : Nat} (h : n < 32) :
    codeUnit? '0' '0' (hexDigit (n / 16)) (hexDigit (n % 16)) = some n := by
  have hzero : hexValue? '0' = some 0 := rfl
  unfold codeUnit?
  rw [hzero, hexValue?_hexDigit (by omega), hexValue?_hexDigit (by omega)]
  exact congrArg some (by omega)

/-- A character that is written in front of a spelling is read in front of what it spells. -/
theorem Spells.escapeChar (c : Char) (h : Spells text s rest) :
    Spells (escapeChar c ++ text) (c :: s) rest := by
  -- The letters that stand for controls are found by the number of the control.
  have hletter : ∀ {letter : Char} {n : Nat}, c.toNat = n →
      shortEscape? letter = some (Char.ofNat n) → shortEscape? letter = some c :=
    fun hn hshort => by rw [hshort, ← hn, Char.ofNat_toNat]
  unfold Json.escapeChar
  split_ifs with hquote hslash hbackspace htab hfeed hform hreturn hcontrol
  · exact .short (by rw [hquote]; rfl) h
  · exact .short (by rw [hslash]; rfl) h
  · exact .short (hletter hbackspace rfl) h
  · exact .short (hletter htab rfl) h
  · exact .short (hletter hfeed rfl) h
  · exact .short (hletter hform rfl) h
  · exact .short (hletter hreturn rfl) h
  · have hunit := Spells.unit (codeUnit?_control hcontrol) (by omega) h
    rwa [Char.ofNat_toNat] at hunit
  · exact .plain hquote hslash (by omega) h

/-- **What is written is read back**, whatever characters it has. -/
theorem spells_escape (s rest : List Char) : Spells (escape s ++ '"' :: rest) s rest := by
  induction s with
  | nil => exact .close rest
  | cons c s ih =>
    rw [escape, List.flatMap_cons, List.append_assoc]
    exact ih.escapeChar c

end Admission.Json
