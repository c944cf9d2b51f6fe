import Admission.Proofs.Identifier.Padding

/-!
# What counts in a line

Of the lines of a header the first counts, if all of it is readable; of the forwarded header only
what stands before the first comma.  A text is taken apart in one way: blanks at either end, between
them a bracket at either end, and what is left is a name.  So a name may stand among blanks, bare or
in a pair of brackets, and it is the same name.

* `Request.FirstLine`, `Header.Readable`, `FirstPart` — the line, and the part of it, that count;
* `Cut`, `named?_eq_some_iff` — a text taken apart, and the name that is left;
* `Plain`, `Wraps`, `Wraps.named?_eq` — names among blanks and in brackets.
-/

namespace Admission

/-- The value of the first line of a header, whatever lines stand before and behind it; the name is
in lower case. -/
def Request.FirstLine (r : Request) (name : String) (value : List UInt8) : Prop :=
  ∃ before line after, r.headers = before ++ line :: after ∧
    (∀ earlier ∈ before, Header.lowerName earlier.name ≠ name) ∧
    Header.lowerName line.name = name ∧ line.value = value

theorem Request.header?_eq_some_iff {r : Request} {name : String} {value : List UInt8} :
    r.header? name = some value ↔ r.FirstLine name value := by
  rw [header?, Option.map_eq_some_iff]
  simp only [List.find?_eq_some_iff_append, beq_iff_eq, Bool.not_eq_true', beq_eq_false_iff_ne]
  constructor
  · rintro ⟨line, ⟨hname, before, after, hheaders, hbefore⟩, hvalue⟩
    exact ⟨before, line, after, hheaders, hbefore, hname, hvalue⟩
  · rintro ⟨before, line, after, hheaders, hbefore, hname, hvalue⟩
    exact ⟨line, ⟨hname, before, after, hheaders, hbefore⟩, hvalue⟩

namespace Header

/-- The characters that the bytes of a value stand for. -/
def text (value : List UInt8) : List Char :=
  value.map fun b => Char.ofNat b.toNat

/-- Text of characters that can be seen and of blanks. -/
def Readable (line : List Char) : Prop :=
  ∀ c ∈ line, isVisible c = true ∨ Identifier.isBlank c = true

instance (line : List Char) : Decidable (Readable line) :=
  inferInstanceAs (Decidable (∀ c ∈ line, _))

/-- A byte is readable just where it stands for such a character. -/
theorem isReadable_iff {b : UInt8} : isReadable b = true ↔
    isVisible (Char.ofNat b.toNat) = true ∨ Identifier.isBlank (Char.ofNat b.toNat) = true := by
  refine ⟨seen_or_blank_of_isReadable, fun h => ?_⟩
  have hcode : (Char.ofNat b.toNat).toNat = b.toNat := by
    have hvalid : b.toNat.isValidChar := .inl (Nat.lt_trans b.toNat_lt (by decide))
    rw [Char.ofNat, dif_pos hvalid]
    rfl
  simp only [isReadable, Bool.or_eq_true, Bool.and_eq_true, decide_eq_true_eq, beq_iff_eq,
    UInt8.le_iff_toNat_le, UInt8.lt_iff_toNat_lt, UInt8.reduceToNat, ← UInt8.toNat_inj]
  rcases h with hvisible | hblank
  · rw [isVisible, hcode, Bool.and_eq_true, decide_eq_true_eq, decide_eq_true_eq] at hvisible
    exact .inl ⟨by omega, hvisible.2⟩
  · rw [Identifier.isBlank, Bool.or_eq_true, beq_iff_eq, beq_iff_eq] at hblank
    rcases hblank with hspace | htab
    · rw [hspace] at hcode
      exact .inl (by rw [← hcode]; decide)
    · rw [htab] at hcode
      exact .inr hcode.symm

theorem readable?_eq_some_iff {value : List UInt8} {line : List Char} :
    readable? value = some line ↔ line = text value ∧ Readable line := by
  have hreadable : value.all isReadable = true ↔ Readable (text value) := by
    simp only [List.all_eq_true, isReadable_iff, Readable, text, List.forall_mem_map]
  unfold readable?
  split
  · next hall =>
    rw [Option.some.injEq]
    constructor
    · rintro rfl
      exact ⟨rfl, hreadable.1 hall⟩
    · rintro ⟨rfl, -⟩
      rfl
  · next hnot =>
    constructor
    · intro h
      cases h
    · rintro ⟨rfl, h⟩
      exact absurd (hreadable.2 h) hnot

end Header

namespace Identifier

variable {text line part : List Char} {r t : Request} {id : String}

/-! ## Taking a text apart -/

/-- The part of a line that counts where only the first does: what stands before its first comma,
or all of it. -/
def FirstPart (line part : List Char) : Prop :=
  ',' ∉ part ∧ (line = part ∨ ∃ rest, line = part ++ ',' :: rest)

theorem firstPart_iff : FirstPart line part ↔ line.takeWhile (· != ',') = part := by
  constructor
  · rintro ⟨hcomma, rfl | ⟨rest, rfl⟩⟩
    · exact List.takeWhile_eq_self_iff.2 fun c hc => by
        simpa using fun h : c = ',' => hcomma (h ▸ hc)
    · rw [List.takeWhile_append_of_pos fun c hc => by
        simpa using fun h : c = ',' => hcomma (h ▸ hc)]
      simp
  · rintro rfl
    refine ⟨fun hmem => ?_, ?_⟩
    · simpa using List.mem_takeWhile_imp hmem
    · have hsplit := List.takeWhile_append_dropWhile (p := (· != ',')) (l := line)
      cases hrest : line.dropWhile (· != ',') with
      | nil =>
        rw [hrest, List.append_nil] at hsplit
        exact .inl hsplit.symm
      | cons c rest =>
        have hc := List.head?_dropWhile_not (· != ',') line
        rw [hrest] at hc hsplit
        obtain rfl : c = ',' := by simpa using hc
        exact .inr ⟨rest, hsplit.symm⟩

/-- A text taken apart: blanks at either end, between them a bracket at either end if there is one
to cut off, and the name that is left. -/
structure Cut (text : List Char) where
  left : List Char
  opening : List Char
  name : List Char
  closing : List Char
  right : List Char
  text_eq : text = left ++ (opening ++ name ++ closing) ++ right
  blank : ∀ c ∈ left ++ right, isBlank c = true
  trimmed : Trimmed (opening ++ name ++ closing)
  opens : opening = ['['] ∨ opening = [] ∧ (name ++ closing).head? ≠ some '['
  closes : closing = [']'] ∨ closing = [] ∧ name.getLast? ≠ some ']'

theorem dropWhile_of_not_beginsBlank (h : ¬ BeginsBlank text) : text.dropWhile isBlank = text := by
  cases text with
  | nil => rfl
  | cons c rest =>
    refine List.dropWhile_cons_of_neg fun hblank => h ⟨c, rfl, hblank⟩

theorem reverse_not_beginsBlank (h : ¬ EndsBlank text) : ¬ BeginsBlank text.reverse := by
  rintro ⟨c, hc, hblank⟩
  exact h ⟨c, by rwa [List.head?_reverse] at hc, hblank⟩

/-- Blanks around a text that has none at its ends are what is cut off. -/
theorem trim_append_append {left right : List Char} (hblank : ∀ c ∈ left ++ right, isBlank c = true)
    (h : Trimmed text) : trim (left ++ text ++ right) = text := by
  have hleft : ∀ c ∈ left, isBlank c = true := fun c hc => hblank c (List.mem_append_left _ hc)
  have hright : ∀ c ∈ right.reverse, isBlank c = true := fun c hc =>
    hblank c (List.mem_append_right _ (List.mem_reverse.1 hc))
  rw [trim, List.append_assoc, List.dropWhile_append_of_pos hleft]
  cases text with
  | nil =>
    rw [List.nil_append, List.dropWhile_eq_nil_iff.2 fun c hc => hright c (List.mem_reverse.2 hc)]
    rfl
  | cons c rest =>
    have hbegin : (c :: rest ++ right).dropWhile isBlank = c :: rest ++ right :=
      List.dropWhile_cons_of_neg fun hc => h.head ⟨c, rfl, hc⟩
    rw [hbegin, List.reverse_append, List.dropWhile_append_of_pos hright,
      dropWhile_of_not_beginsBlank (reverse_not_beginsBlank h.last), List.reverse_reverse]

/-- A text is the blanks that are cut off and what is left. -/
theorem exists_blanks (text : List Char) : ∃ left right, text = left ++ trim text ++ right ∧
    ∀ c ∈ left ++ right, isBlank c = true := by
  refine ⟨text.takeWhile isBlank, (text.dropWhile isBlank).rtakeWhile isBlank, ?_, fun c hc => ?_⟩
  · have hend : trim text ++ (text.dropWhile isBlank).rtakeWhile isBlank = text.dropWhile isBlank :=
      List.rdropWhile_append_rtakeWhile
    rw [List.append_assoc, hend, List.takeWhile_append_dropWhile]
  · rcases List.mem_append.1 hc with hc | hc
    · exact List.mem_takeWhile_imp hc
    · exact List.mem_rtakeWhile_imp hc

theorem withoutOpening_of_head? (h : text.head? ≠ some '[') : withoutOpening text = text := by
  obtain ⟨opening, htext, rfl | ⟨rfl, -⟩⟩ := exists_opening text
  · exact absurd (by rw [htext]; rfl) h
  · exact htext.symm

theorem withoutClosing_of_getLast? (h : text.getLast? ≠ some ']') : withoutClosing text = text := by
  obtain ⟨closing, htext, rfl | ⟨rfl, -⟩⟩ := exists_closing text
  · exact absurd (by rw [htext, List.getLast?_concat]) h
  · rw [List.append_nil] at htext
    exact htext.symm

/-- A text is taken apart in one way, which leaves the name that the brackets leave. -/
theorem Cut.name_eq (cut : Cut text) : cut.name = stripBrackets (trim text) := by
  obtain ⟨left, opening, name, closing, right, htext, hblank, htrimmed, hopens, hcloses⟩ := cut
  have htrim : trim text = opening ++ name ++ closing := by
    rw [htext, trim_append_append hblank htrimmed]
  rw [htrim, stripBrackets_eq, List.append_assoc]
  have hopening : withoutOpening (opening ++ (name ++ closing)) = name ++ closing := by
    rcases hopens with rfl | ⟨rfl, hhead⟩
    · rfl
    · exact withoutOpening_of_head? hhead
  have hclosing : withoutClosing (name ++ closing) = name := by
    rcases hcloses with rfl | ⟨rfl, hlast⟩
    · simp [withoutClosing]
    · rw [List.append_nil, withoutClosing_of_getLast? hlast]
  rw [hopening, hclosing]

theorem nonempty_cut (text : List Char) : Nonempty (Cut text) := by
  obtain ⟨left, right, htext, hblank⟩ := exists_blanks text
  obtain ⟨opening, closing, htrim, hopening, hclosing⟩ := exists_brackets (trim text)
  refine ⟨⟨left, opening, stripBrackets (trim text), closing, right, ?_, hblank, ?_, ?_, hclosing⟩⟩
  · rw [← htrim, ← htext]
  · rw [← htrim]
    exact trimmed_trim text
  · rcases hopening with rfl | ⟨rfl, hhead⟩
    · exact .inl rfl
    · rw [htrim] at hhead
      exact .inr ⟨rfl, hhead⟩

/-- The name in a text is what is left of it when it is taken apart, if anything is. -/
theorem named?_eq_some_iff :
    named? text = some id ↔ ∃ cut : Cut text, cut.name ≠ [] ∧ id = String.ofList cut.name := by
  have hcut : ∀ cut : Cut text, named? text =
      if cut.name.isEmpty then none else some (String.ofList cut.name) := by
    intro cut
    rw [named?, cut.name_eq]
  constructor
  · intro h
    obtain ⟨cut⟩ := nonempty_cut text
    rw [hcut cut] at h
    split at h
    · cases h
    · next hname => exact ⟨cut, by simpa using hname, (Option.some.inj h).symm⟩
  · rintro ⟨cut, hname, rfl⟩
    rw [hcut cut, if_neg (by simpa using hname)]

/-! ## Blanks and brackets around a name -/

/-- Text without commas and brackets, and without blanks at its ends. -/
structure Plain (text : List Char) : Prop where
  trimmed : Trimmed text
  unmarked : ∀ c ∈ text, c ≠ ',' ∧ c ≠ '[' ∧ c ≠ ']'

/-- A line is a text among blanks, bare or in a pair of brackets. -/
def Wraps (text line : List Char) : Prop :=
  ∃ left opening closing right, line = left ++ (opening ++ text ++ closing) ++ right ∧
    (∀ c ∈ left ++ right, isBlank c = true) ∧
    (opening = [] ∧ closing = [] ∨ opening = ['['] ∧ closing = [']'])

namespace Wraps

theorem refl (text : List Char) : Wraps text text :=
  ⟨[], [], [], [], by simp, by simp, .inl ⟨rfl, rfl⟩⟩

theorem mem_of_mem_text (h : Wraps text line) {c : Char} (hc : c ∈ text) : c ∈ line := by
  obtain ⟨left, opening, closing, right, rfl, -, -⟩ := h
  simp [hc]

theorem of_mem_line (h : Wraps text line) {c : Char} (hc : c ∈ line) :
    c ∈ text ∨ isBlank c = true ∨ c = '[' ∨ c = ']' := by
  obtain ⟨left, opening, closing, right, rfl, hblank, hmarks⟩ := h
  simp only [List.mem_append] at hc hblank
  rcases hmarks with ⟨rfl, rfl⟩ | ⟨rfl, rfl⟩ <;> grind

/-- A wrapped text is what is left when the line is taken apart. -/
theorem stripBrackets_trim_eq (h : Wraps text line) (hplain : Plain text) :
    stripBrackets (trim line) = text := by
  obtain ⟨left, opening, closing, right, hline, hblank, hmarks⟩ := h
  have hhead : text.head? ≠ some '[' := fun h =>
    (hplain.unmarked _ (List.mem_of_head? h)).2.1 rfl
  have hlast : text.getLast? ≠ some ']' := fun h =>
    (hplain.unmarked _ (List.mem_of_getLast? h)).2.2 rfl
  rcases hmarks with ⟨rfl, rfl⟩ | ⟨rfl, rfl⟩
  · let cut : Cut line := ⟨left, [], text, [], right, hline, hblank, by simpa using hplain.trimmed,
      .inr ⟨rfl, by rwa [List.append_nil]⟩, .inr ⟨rfl, hlast⟩⟩
    exact cut.name_eq.symm
  · have htrimmed : Trimmed (['['] ++ text ++ [']']) := by
      constructor
      · rintro ⟨c, hc, hblank⟩
        cases hc
        cases hblank
      · rintro ⟨c, hc, hblank⟩
        rw [List.getLast?_concat] at hc
        cases hc
        cases hblank
    let cut : Cut line := ⟨left, ['['], text, [']'], right, hline, hblank, htrimmed, .inl rfl,
      .inl rfl⟩
    exact cut.name_eq.symm

theorem named?_eq (h : Wraps text line) (hplain : Plain text) : named? line = named? text := by
  rw [named?, named?, h.stripBrackets_trim_eq hplain, (refl text).stripBrackets_trim_eq hplain]

/-- A line around a text without commas has none. -/
theorem takeWhile_eq (h : Wraps text line) (hplain : Plain text) :
    line.takeWhile (· != ',') = line := by
  refine List.takeWhile_eq_self_iff.2 fun c hc => ?_
  rcases h.of_mem_line hc with htext | hblank | rfl | rfl
  · simpa using (hplain.unmarked c htext).1
  · refine bne_iff_ne.2 ?_
    rintro rfl
    cases hblank
  · rfl
  · rfl

/-- A line is as readable as what it is wrapped around. -/
theorem readable_iff (h : Wraps text line) : Header.Readable line ↔ Header.Readable text := by
  constructor
  · exact fun hline c hc => hline c (h.mem_of_mem_text hc)
  · intro htext c hc
    rcases h.of_mem_line hc with hmem | hblank | rfl | rfl
    · exact htext c hmem
    · exact .inr hblank
    · exact .inl rfl
    · exact .inl rfl

end Wraps

/-- What is read of a header is its first line, if all of that is readable. -/
theorem bind_readable?_eq {name : String} {value : List UInt8} (h : r.FirstLine name value) :
    (r.header? name).bind Header.readable? =
      if Header.Readable (Header.text value) then some (Header.text value) else none := by
  rw [Request.header?_eq_some_iff.2 h, Option.bind_some]
  split
  · next hreadable => exact Header.readable?_eq_some_iff.2 ⟨rfl, hreadable⟩
  · next hnot =>
    exact Option.eq_none_iff_forall_ne_some.2 fun line hline =>
      hnot ((Header.readable?_eq_some_iff.1 hline).1 ▸ (Header.readable?_eq_some_iff.1 hline).2)

end Identifier
end Admission
