import Mathlib.Data.List.Basic
import Admission.Proofs.Json.Strings

/-!
# The grammar of the format

A text is a value with blanks around it.  The rules say from left to right how a value begins a
text and what is left behind it, so that a value inside another one is read by the same rules.
Members are kept as they stand, the same name twice if need be.

* `Value`, `Reads`, `IsText` — values, and the texts that are read as them;
* `Reads.of_quote`, `Reads.of_brace` — what begins with a quote is a string, and what begins with
  a brace is an object;
* `isText_singleton_iff` — an object written with a single member is a text of the format, and has
  that member only;
* `readSingleton?_singleton` — the reader of such objects gives back what was written.
-/

namespace Admission.Json

/-- A value of the format; a number is kept as it is written. -/
inductive Value where
  | null
  | truth (holds : Bool)
  | number (numeral : List Char)
  | string (s : List Char)
  | array (items : List Value)
  | object (members : List (List Char × Value))

/-- Whether a character may stand between the parts of a text. -/
def isBlank (c : Char) : Bool :=
  [' ', '\t', '\n', '\r'].contains c

/-- A text goes on behind some blanks, or behind none. -/
inductive Blanks : List Char → List Char → Prop
  | none (text : List Char) : Blanks text text
  | more {c : Char} {text rest : List Char} : isBlank c = true → Blanks text rest →
      Blanks (c :: text) rest

/-- One digit or more. -/
def IsDigits (digits : List Char) : Prop :=
  digits ≠ [] ∧ ∀ c ∈ digits, c.isDigit = true

/-- The ways to write a number: a whole number without leading zeros, and then a fraction and an
exponent if need be. -/
structure IsNumeral (sign whole fraction exponent : List Char) : Prop where
  sign : sign = [] ∨ sign = ['-']
  whole : whole = ['0'] ∨ IsDigits whole ∧ whole.head? ≠ some '0'
  fraction : fraction = [] ∨ ∃ digits, fraction = '.' :: digits ∧ IsDigits digits
  exponent : exponent = [] ∨ ∃ letter sign digits, exponent = letter :: (sign ++ digits) ∧
    (letter = 'e' ∨ letter = 'E') ∧ (sign = [] ∨ sign = ['+'] ∨ sign = ['-']) ∧ IsDigits digits

/-- A text begins with the name of a member and its colon, and goes on with the member's value. -/
def Names (text name value : List Char) : Prop :=
  ∃ body after colon, Blanks text ('"' :: body) ∧ Spells body name after ∧
    Blanks after (':' :: colon) ∧ Blanks colon value

mutual

/-- A text begins with a value, and goes on with the rest. -/
inductive Reads : List Char → Value → List Char → Prop
  | null (rest : List Char) : Reads ('n' :: 'u' :: 'l' :: 'l' :: rest) .null rest
  | true (rest : List Char) : Reads ('t' :: 'r' :: 'u' :: 'e' :: rest) (.truth true) rest
  | false (rest : List Char) :
      Reads ('f' :: 'a' :: 'l' :: 's' :: 'e' :: rest) (.truth false) rest
  | number {sign whole fraction exponent : List Char} (rest : List Char) :
      IsNumeral sign whole fraction exponent →
      Reads (sign ++ whole ++ fraction ++ exponent ++ rest)
        (.number (sign ++ whole ++ fraction ++ exponent)) rest
  | string {text s rest : List Char} : Spells text s rest → Reads ('"' :: text) (.string s) rest
  | noItems {text rest : List Char} : Blanks text (']' :: rest) →
      Reads ('[' :: text) (.array []) rest
  | items {text rest : List Char} {items : List Value} : Items text items rest →
      Reads ('[' :: text) (.array items) rest
  | noMembers {text rest : List Char} : Blanks text ('\x7d' :: rest) →
      Reads ('\x7b' :: text) (.object []) rest
  | members {text rest : List Char} {members : List (List Char × Value)} :
      Members text members rest → Reads ('\x7b' :: text) (.object members) rest

/-- A text begins with the items of an array and its closing bracket. -/
inductive Items : List Char → List Value → List Char → Prop
  | last {text first after rest : List Char} {v : Value} : Blanks text first →
      Reads first v after → Blanks after (']' :: rest) → Items text [v] rest
  | more {text first after next rest : List Char} {v : Value} {items : List Value} :
      Blanks text first → Reads first v after → Blanks after (',' :: next) →
      Items next items rest → Items text (v :: items) rest

/-- A text begins with the members of an object and its closing brace. -/
inductive Members : List Char → List (List Char × Value) → List Char → Prop
  | last {text name first after rest : List Char} {v : Value} : Names text name first →
      Reads first v after → Blanks after ('\x7d' :: rest) → Members text [(name, v)] rest
  | more {text name first after next rest : List Char} {v : Value}
      {members : List (List Char × Value)} : Names text name first → Reads first v after →
      Blanks after (',' :: next) → Members next members rest →
      Members text ((name, v) :: members) rest

end

/-- A text is a value with blanks around it. -/
def IsText (text : List Char) (v : Value) : Prop :=
  ∃ first after, Blanks text first ∧ Reads first v after ∧ Blanks after []

variable {text s rest : List Char} {v : Value}

/-! ## How a value begins -/

/-- What is not blank is not left out. -/
theorem Blanks.eq_of_not_blank {c : Char} (h : Blanks (c :: text) rest)
    (hc : isBlank c = false) : rest = c :: text := by
  cases h with
  | none => rfl
  | more hblank => rw [hblank] at hc; cases hc

/-- A number begins with its sign or with a digit, and with nothing else. -/
theorem IsNumeral.cons_ne {sign whole fraction exponent : List Char}
    (h : IsNumeral sign whole fraction exponent) {c : Char} (hsign : c ≠ '-')
    (hdigit : c.isDigit = false) : c :: text ≠ sign ++ whole ++ fraction ++ exponent ++ rest := by
  intro hwhole
  rcases h.sign with rfl | rfl
  · rcases h.whole with rfl | ⟨⟨hne, hdigits⟩, -⟩
    · cases hwhole
      cases hdigit
    · obtain ⟨first, more, rfl⟩ := List.exists_cons_of_ne_nil hne
      cases hwhole
      rw [hdigits c List.mem_cons_self] at hdigit
      cases hdigit
  · cases hwhole
    exact hsign rfl

/-- What begins with a quote is a string. -/
theorem Reads.of_quote (h : Reads ('"' :: text) v rest) :
    ∃ s, v = .string s ∧ Spells text s rest := by
  generalize hwhole : '"' :: text = whole at h
  cases h with
  | string hspells =>
    cases hwhole
    exact ⟨_, rfl, hspells⟩
  | number _ hnumeral => exact absurd hwhole (hnumeral.cons_ne (by decide) rfl)
  | null | true | false | noItems | items | noMembers | members => cases hwhole

/-- What begins with a brace is an object. -/
theorem Reads.of_brace (h : Reads ('\x7b' :: text) v rest) :
    v = .object [] ∧ Blanks text ('\x7d' :: rest) ∨
      ∃ members, v = .object members ∧ Members text members rest := by
  generalize hwhole : '\x7b' :: text = whole at h
  cases h with
  | noMembers hclose =>
    cases hwhole
    exact .inl ⟨rfl, hclose⟩
  | members hmembers =>
    cases hwhole
    exact .inr ⟨_, rfl, hmembers⟩
  | number _ hnumeral => exact absurd hwhole (hnumeral.cons_ne (by decide) rfl)
  | null | true | false | string | noItems | items => cases hwhole

/-- A string is read as what it was written for. -/
theorem Reads.of_escape {after : List Char} (h : Reads ('"' :: (escape s ++ '"' :: after)) v rest) :
    v = .string s ∧ rest = after := by
  obtain ⟨s', rfl, hspells⟩ := h.of_quote
  obtain ⟨rfl, rfl⟩ := hspells.functional (spells_escape s after)
  exact ⟨rfl, rfl⟩

/-- A name without blanks around it and its colon is read as it is written. -/
theorem Names.of_escape {name after value : List Char} {c : Char} (hc : isBlank c = false)
    (h : Names ('"' :: (escape s ++ '"' :: ':' :: c :: after)) name value) :
    name = s ∧ value = c :: after := by
  obtain ⟨body, behind, colon, hopen, hspells, hcolon, hvalue⟩ := h
  obtain rfl := List.tail_eq_of_cons_eq (hopen.eq_of_not_blank rfl)
  obtain ⟨rfl, rfl⟩ := hspells.functional (spells_escape s _)
  obtain rfl := List.tail_eq_of_cons_eq (hcolon.eq_of_not_blank rfl)
  exact ⟨rfl, hvalue.eq_of_not_blank hc⟩

/-! ## An object with a single member -/

/-- An object with a single string, as it is written. -/
theorem toList_singleton (key value : String) :
    (singleton key value).toList =
      '\x7b' :: '"' :: (escape key.toList ++ '"' :: ':' :: '"' ::
        (escape value.toList ++ ['"', '\x7d'])) := by
  simp [singleton, quote]

/-- What the reader of such objects accepts is a text of the format. -/
theorem isText_of_readSingleton? {key value : List Char}
    (h : readSingleton? text = some (key, value)) :
    IsText text (.object [(key, .string value)]) := by
  -- Each test that the reader makes fixes one more piece of the text.
  unfold readSingleton? at h
  split at h
  case h_2 => cases h
  split_ifs at h with hopen
  split at h
  case h_2 => cases h
  next hkey =>
  split at h
  case h_2 => cases h
  next hvalue =>
  split_ifs at h with hclose
  cases h
  obtain rfl : _ = '\x7b' := Char.toNat_inj.1 (of_not_not hopen)
  obtain rfl : _ = '\x7d' := Char.toNat_inj.1 hclose
  have hname : Names ('"' :: _) key ('"' :: _) :=
    ⟨_, _, _, .none _, spells_of_unescape? hkey, .none _, .none _⟩
  exact ⟨_, [], .none _,
    .members (.last hname (.string (spells_of_unescape? hvalue)) (.none _)), .none _⟩

/-- **The reader of such objects gives back what was written.** -/
theorem readSingleton?_singleton (key value : String) :
    readSingleton? (singleton key value).toList = some (key.toList, value.toList) := by
  rw [toList_singleton, readSingleton?, if_neg (by decide),
    unescape?_of_spells (spells_escape _ _)]
  simp only [unescape?_of_spells (spells_escape _ _)]
  rfl

/-- **An object written with a single member is read as that**: it is a text of the format, and
there is nothing else that it could be read as. -/
theorem isText_singleton_iff (key value : String) :
    IsText (singleton key value).toList v ↔
      v = .object [(key.toList, .string value.toList)] := by
  constructor
  · rw [toList_singleton]
    rintro ⟨first, after, hfirst, hreads, hafter⟩
    obtain rfl := hfirst.eq_of_not_blank rfl
    rcases hreads.of_brace with ⟨-, hclose⟩ | ⟨members, rfl, hmembers⟩
    · cases hclose.eq_of_not_blank rfl
    · cases hmembers with
      | last hnames hvalue hclose =>
        obtain ⟨rfl, rfl⟩ := hnames.of_escape rfl
        obtain ⟨rfl, -⟩ := hvalue.of_escape
        rfl
      | more hnames hvalue hcomma _ =>
        -- The value is followed by the closing brace, and not by another member.
        obtain ⟨rfl, rfl⟩ := hnames.of_escape rfl
        obtain ⟨-, rfl⟩ := hvalue.of_escape
        cases hcomma.eq_of_not_blank rfl
  · rintro rfl
    exact isText_of_readSingleton? (readSingleton?_singleton key value)

end Admission.Json
