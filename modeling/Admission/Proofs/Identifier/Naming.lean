import Admission.Identifier
import Mathlib.Data.List.DropRight

/-!
# The name in a text

Text in a header names an address once the blanks around it are cut off and then one bracket at
either end.  What is cut and what is left make up the text, and whether the name is padded, or
there is none, can be read off the text.

* `Trimmed`, `trimmed_trim` — text without blanks at either end;
* `exists_brackets` — the brackets that are cut off, and the name between them;
* `beginsBlank_stripBrackets_iff`, `endsBlank_stripBrackets_iff` — a name is padded on a side
  exactly where a blank stands directly inside the bracket on that side;
* `IsHollow`, `named?_eq_none_iff` — the four texts that name nothing.
-/

namespace Admission.Identifier

/-- Text begins with a blank. -/
def BeginsBlank (text : List Char) : Prop :=
  ∃ c ∈ text.head?, isBlank c = true

/-- Text ends with a blank. -/
def EndsBlank (text : List Char) : Prop :=
  ∃ c ∈ text.getLast?, isBlank c = true

/-- A blank stands directly behind an opening bracket at the head of a text. -/
def OpensBlank (text : List Char) : Prop :=
  ∃ c rest, text = '[' :: c :: rest ∧ isBlank c = true

/-- A blank stands directly before a closing bracket at the end of a text. -/
def ClosesBlank (text : List Char) : Prop :=
  ∃ front c, text = front ++ [c, ']'] ∧ isBlank c = true

/-- Text without blanks at either end. -/
structure Trimmed (text : List Char) : Prop where
  head : ¬ BeginsBlank text
  last : ¬ EndsBlank text

variable {text : List Char}

theorem not_beginsBlank_dropWhile (text : List Char) : ¬ BeginsBlank (text.dropWhile isBlank) := by
  rintro ⟨c, hc, hblank⟩
  have hnot := List.head?_dropWhile_not isBlank text
  rw [Option.mem_def.1 hc] at hnot
  exact Bool.false_ne_true (hnot.symm.trans hblank)

/-- What is cut off at the end does not change how a text begins. -/
theorem BeginsBlank.of_prefix {first : List Char} (hinitial : first <+: text)
    (h : BeginsBlank first) : BeginsBlank text := by
  obtain ⟨c, hc, hblank⟩ := h
  obtain ⟨rest, rfl⟩ := hinitial
  exact ⟨c, by rw [List.head?_append, Option.mem_def.1 hc]; rfl, hblank⟩

theorem trimmed_trim (text : List Char) : Trimmed (trim text) where
  head h := by
    have hinitial : trim text <+: text.dropWhile isBlank := List.rdropWhile_prefix isBlank _
    exact not_beginsBlank_dropWhile text (h.of_prefix hinitial)
  last := by
    rintro ⟨c, hc, hblank⟩
    have hhead : BeginsBlank ((text.dropWhile isBlank).reverse.dropWhile isBlank) := by
      refine ⟨c, ?_, hblank⟩
      rwa [trim, List.getLast?_reverse] at hc
    exact not_beginsBlank_dropWhile _ hhead

/-! ## Brackets -/

/-- Text without an opening bracket at its head. -/
def withoutOpening (text : List Char) : List Char :=
  match text with
  | '[' :: rest => rest
  | _ => text

/-- Text without a closing bracket at its end. -/
def withoutClosing (text : List Char) : List Char :=
  match text.reverse with
  | ']' :: rest => rest.reverse
  | _ => text

theorem stripBrackets_eq (text : List Char) :
    stripBrackets text = withoutClosing (withoutOpening text) := rfl

theorem exists_opening (text : List Char) : ∃ opening, text = opening ++ withoutOpening text ∧
    (opening = ['['] ∨ opening = [] ∧ text.head? ≠ some '[') := by
  unfold withoutOpening
  split
  · exact ⟨['['], rfl, .inl rfl⟩
  · next hnot =>
    refine ⟨[], rfl, .inr ⟨rfl, fun hhead => ?_⟩⟩
    obtain ⟨rest, hrest⟩ := List.head?_eq_some_iff.1 hhead
    exact hnot rest hrest

theorem exists_closing (text : List Char) : ∃ closing, text = withoutClosing text ++ closing ∧
    (closing = [']'] ∨ closing = [] ∧ (withoutClosing text).getLast? ≠ some ']') := by
  unfold withoutClosing
  split
  · next rest hrest =>
    refine ⟨[']'], ?_, .inl rfl⟩
    rw [← List.reverse_cons, ← hrest, List.reverse_reverse]
  · next hnot =>
    refine ⟨[], (List.append_nil text).symm, .inr ⟨rfl, fun hlast => ?_⟩⟩
    rw [← List.head?_reverse] at hlast
    obtain ⟨rest, hrest⟩ := List.head?_eq_some_iff.1 hlast
    exact hnot rest hrest

/-- **What is cut off and what is left.**  A bracket is cut off wherever there is one to cut. -/
theorem exists_brackets (text : List Char) : ∃ opening closing,
    text = opening ++ stripBrackets text ++ closing ∧
      (opening = ['['] ∨ opening = [] ∧ text.head? ≠ some '[') ∧
      (closing = [']'] ∨ closing = [] ∧ (stripBrackets text).getLast? ≠ some ']') := by
  obtain ⟨opening, htext, hopening⟩ := exists_opening text
  obtain ⟨closing, hrest, hclosing⟩ := exists_closing (withoutOpening text)
  rw [stripBrackets_eq]
  refine ⟨opening, closing, ?_, hopening, hclosing⟩
  rw [List.append_assoc, ← hrest, ← htext]

/-- A name begins with a blank exactly where one stands directly behind the opening bracket. -/
theorem beginsBlank_stripBrackets_iff (h : Trimmed text) :
    BeginsBlank (stripBrackets text) ↔ OpensBlank text := by
  obtain ⟨opening, closing, htext, hopening, hclosing⟩ := exists_brackets text
  generalize stripBrackets text = name at *
  constructor
  · rintro ⟨c, hc, hblank⟩
    obtain ⟨rest, rfl⟩ := List.head?_eq_some_iff.1 hc
    rcases hopening with rfl | ⟨rfl, -⟩
    · exact ⟨c, rest ++ closing, htext, hblank⟩
    · exact absurd ⟨c, by rw [htext]; rfl, hblank⟩ h.head
  · rintro ⟨c, rest, rfl, hblank⟩
    rcases hopening with rfl | ⟨-, hhead⟩
    · have hrest : c :: rest = name ++ closing := by simpa using htext
      cases name with
      | nil =>
        rcases hclosing with rfl | ⟨rfl, -⟩
        · obtain ⟨rfl, -⟩ := List.cons.inj hrest
          cases hblank
        · cases hrest
      | cons first name =>
        obtain ⟨rfl, -⟩ := List.cons.inj hrest
        exact ⟨c, rfl, hblank⟩
    · exact absurd rfl hhead

/-- A name ends with a blank exactly where one stands directly before the closing bracket. -/
theorem endsBlank_stripBrackets_iff (h : Trimmed text) :
    EndsBlank (stripBrackets text) ↔ ClosesBlank text := by
  obtain ⟨opening, closing, htext, hopening, hclosing⟩ := exists_brackets text
  generalize stripBrackets text = name at *
  constructor
  · rintro ⟨c, hc, hblank⟩
    obtain ⟨front, rfl⟩ := List.getLast?_eq_some_iff.1 hc
    rcases hclosing with rfl | ⟨rfl, -⟩
    · exact ⟨opening ++ front, c, by simpa using htext, hblank⟩
    · exact absurd ⟨c, by rw [htext]; simp, hblank⟩ h.last
  · rintro ⟨front, c, rfl, hblank⟩
    rcases hclosing with rfl | ⟨rfl, hlast⟩
    · have hclosed : front ++ [c] ++ [']'] = opening ++ name ++ [']'] := by simpa using htext
      have hfront := List.append_cancel_right hclosed
      rcases name.eq_nil_or_concat' with rfl | ⟨name, last, rfl⟩
      · rcases hopening with rfl | ⟨rfl, -⟩
        · have hbracket : front ++ [c] = [] ++ ['['] := hfront
          obtain ⟨-, hc⟩ := List.append_inj' hbracket rfl
          obtain rfl := List.singleton_inj.1 hc
          cases hblank
        · simp at hfront
      · rw [← List.append_assoc] at hfront
        obtain ⟨-, hc⟩ := List.append_inj' hfront rfl
        obtain rfl := List.singleton_inj.1 hc
        exact ⟨c, List.getLast?_concat, hblank⟩
    · rcases name.eq_nil_or_concat' with rfl | ⟨name, last, rfl⟩
      · have hlength := congrArg List.length htext
        rcases hopening with rfl | ⟨rfl, -⟩ <;> simp at hlength
      · refine absurd ?_ hlast
        have hend := congrArg List.getLast? htext
        simpa using hend.symm

/-! ## Hollow texts -/

/-- A text that names nothing: but for the blanks around it, at most one opening bracket and at
most one closing bracket. -/
def IsHollow (text : List Char) : Prop :=
  trim text ∈ [[], ['['], [']'], ['[', ']']]

instance (text : List Char) : Decidable (IsHollow text) :=
  inferInstanceAs (Decidable (trim text ∈ [[], ['['], [']'], ['[', ']']]))

/-- Nothing is left between the brackets just where there is nothing else. -/
theorem stripBrackets_eq_nil_iff :
    stripBrackets text = [] ↔ text ∈ [[], ['['], [']'], ['[', ']']] := by
  constructor
  · intro hname
    obtain ⟨opening, closing, htext, hopening, hclosing⟩ := exists_brackets text
    rw [hname] at htext
    rcases hopening with rfl | ⟨rfl, -⟩ <;> rcases hclosing with rfl | ⟨rfl, -⟩ <;> simp [htext]
  · intro htext
    simp only [List.mem_cons, List.not_mem_nil, or_false] at htext
    rcases htext with rfl | rfl | rfl | rfl <;> rfl

/-- **Hollow texts are those that name nothing.** -/
theorem named?_eq_none_iff : named? text = none ↔ IsHollow text := by
  rw [named?, IsHollow, ← stripBrackets_eq_nil_iff]
  cases stripBrackets (trim text) <;> simp

/-- Any other text names what is left of it. -/
theorem named?_of_not_isHollow (h : ¬ IsHollow text) :
    named? text = some (String.ofList (stripBrackets (trim text))) := by
  rw [IsHollow, ← stripBrackets_eq_nil_iff, ← List.isEmpty_iff] at h
  rw [named?, if_neg h]

end Admission.Identifier
