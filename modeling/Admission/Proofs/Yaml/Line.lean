import Mathlib.Data.List.TakeWhile
import Admission.Yaml.Document

/-!
# The text of one setting

A text that sets the burst in the limiter's table, and nothing else, is laid out here for every
word that may stand as its value.  Up to the word the layout does not depend on it; the word itself
runs to the end of its line, and the end of the text ends both tables.

* `IsWord` — the words that are plain scalars wherever a value is wanted;
* `Layout.next?_atValue` — the step that takes the word;
* `read?_line` — the one document of the text.
-/

namespace Admission.Yaml

/-- The characters that begin something else than a plain scalar, at some place at least. -/
def indicators : List Char :=
  ['[', ']', '\x7b', '\x7d', ',', '?', ':', '*', '&', '\'', '"', '|', '>', '#', '%', '@', '!',
    Char.ofNat 96]

/-- A word that is a plain scalar wherever a value is wanted. -/
structure IsWord (word : List Char) : Prop where
  begins : ∃ c rest, word = c :: rest ∧ c ∉ indicators ∧ (c = '-' → rest ≠ [])
  solid : ∀ c ∈ word, isSpace c = false ∧ c ≠ ':'

theorem Plain.piece_word {word : List Char} (h : ∀ c ∈ word, isSpace c = false ∧ c ≠ ':')
    {d : Char} (hd : isSpace d = true) (rest : List Char) :
    piece false (word ++ d :: rest) = word := by
  induction word with
  | nil => simp [piece, hd]
  | cons c others ih =>
    obtain ⟨hspace, hcolon⟩ := h c (by simp)
    rw [List.cons_append, piece, ih fun e he => h e (by simp [he])]
    simp [hspace, admits, hcolon]

namespace Layout

/-- After the name of a table at the beginning of a text. -/
def afterTable (t : List Char) : Layout :=
  { start (":\n  burst: ".toList ++ t) with
    cursor := ⟨":\n  burst: ".toList ++ t, 7, 0, 7, false⟩
    tokens := [.plain "limiter"]
    keyAllowed := false
    pending := ⟨true, false, 0, .start ("limiter:\n  burst: ".toList ++ t)⟩ }

/-- After the colon that follows it. -/
def inTable (t : List Char) : Layout :=
  { afterTable t with
    cursor := ⟨"\n  burst: ".toList ++ t, 8, 0, 8, false⟩
    tokens := [.value, .plain "limiter", .key, .blockMapping]
    indent := 1
    indents := [⟨0, false⟩, ⟨-1, true⟩]
    pending := { (afterTable t).pending with possible := false } }

/-- After a name in the table. -/
def afterName (t : List Char) : Layout :=
  { inTable t with
    cursor := ⟨": ".toList ++ t, 16, 1, 7, false⟩
    tokens := .plain "burst" :: (inTable t).tokens
    indent := 0
    indents := [⟨-1, true⟩]
    pending := ⟨true, false, 4, ⟨"burst: ".toList ++ t, 11, 1, 2, true⟩⟩ }

/-- After the colon that follows it. -/
def atValue (t : List Char) : Layout :=
  { afterName t with
    cursor := ⟨' ' :: t, 17, 1, 8, false⟩
    tokens := [.value, .plain "burst", .key, .blockMapping] ++ (inTable t).tokens
    indent := 3
    indents := [⟨2, false⟩, ⟨0, true⟩, ⟨-1, true⟩]
    pending := { (afterName t).pending with possible := false } }

/-- A word where no key may begin is a plain scalar. -/
theorem token?_word {s : Layout} {word rest : List Char} (h : IsWord word)
    (hrest : s.cursor.rest = word ++ rest) : s.token? = s.plain? := by
  obtain ⟨c, others, rfl, hindicator, hminus⟩ := h.begins
  have hpeek : s.cursor.peek = c := by simp [Cursor.peek, hrest]
  have hnext : c = '-' → isSpace (s.cursor.peekAt 1) = false := by
    intro hc
    obtain ⟨e, more, rfl⟩ := List.exists_cons_of_ne_nil (hminus hc)
    have : s.cursor.peekAt 1 = e := by simp [Cursor.peekAt, hrest]
    rw [this]
    exact (h.solid e (by simp)).1
  simp only [indicators, List.mem_cons, List.not_mem_nil, or_false, not_or] at hindicator
  unfold token?
  simp only [hpeek]
  by_cases hc : c = '-'
  · simp [hc, hnext hc, Quoted.Style.mark, isReserved]
  · simp [hc, hindicator, Quoted.Style.mark, isReserved]

/-- Where a word begins after `limiter:` and `burst:`. -/
def atWord (t : List Char) : Layout :=
  { atValue t with cursor := ⟨t, 18, 1, 9, false⟩ }

def afterWord (word : List Char) : Layout :=
  { atValue (word ++ ['\n']) with
    cursor := ⟨[], 19 + word.length, 2, 0, true⟩
    tokens := .plain (String.ofList word) :: (atValue []).tokens
    indent := 2
    indents := [⟨0, true⟩, ⟨-1, true⟩]
    keyAllowed := true }

theorem skipSpace?_blank (fuel : Nat) {s : Layout} (h : s.cursor.peek = ' ') :
    skipSpace? (fuel + 1) s = skipSpace? fuel { s with cursor := s.cursor.skipBlank } := by
  simp [skipSpace?, h, isBlank]

theorem skipSpace?_stop (fuel : Nat) {s : Layout} (h : isSpace s.cursor.peek = false)
    (hsharp : s.cursor.peek ≠ '#') : skipSpace? (fuel + 1) s = some s := by
  simp only [isSpace, endsLine, Bool.or_eq_false_iff] at h
  have htab : (s.cursor.peek == '\t') = false := by
    simp only [isBlank, Bool.or_eq_false_iff] at h
    exact h.1.2
  simp [skipSpace?, h.1, h.2.1, htab, hsharp]

theorem skipToToken?_atValue {word : List Char} (h : IsWord word) (rest : List Char) :
    (atValue (word ++ rest)).skipToToken? = some (atWord (word ++ rest)) := by
  obtain ⟨c, others, rfl, hindicator, -⟩ := h.begins
  have hsharp : c ≠ '#' := by
    rintro rfl
    exact hindicator (by decide)
  calc (atValue (c :: others ++ rest)).skipToToken?
      = skipSpace? (others.length + rest.length + 2) (atWord (c :: others ++ rest)) := by
        rw [skipToToken?, skipSpace?_blank _ rfl]
        simp [atValue, atWord, Cursor.skipBlank]
    _ = some (atWord (c :: others ++ rest)) :=
        skipSpace?_stop _ (h.solid c (by simp)).1 hsharp

/-- A word up to the end of its line is the whole scalar if the text ends there. -/
theorem scan_word {word : List Char} (h : IsWord word) (fuel : Nat) :
    Plain.scan false 3 (fuel + 1) .empty ⟨word ++ ['\n'], 18, 1, 9, false⟩ =
      some (word, ⟨[], 19 + word.length, 2, 0, true⟩) := by
  obtain ⟨c, others, hword, hindicator, -⟩ := h.begins
  set start : Cursor := ⟨word ++ ['\n'], 18, 1, 9, false⟩ with hstart
  set lineEnd : Cursor := ⟨['\n'], 18 + word.length, 1, 9 + word.length, false⟩ with hlineEnd
  have hhead : (start.atMarker || start.peek == '#') = false := by
    have hsharp : c ≠ '#' := by
      rintro rfl
      exact hindicator (by decide)
    simp [hstart, Cursor.atMarker, Cursor.peek, hword, hsharp]
  have hpiece : Plain.piece false start.rest = word := Plain.piece_word h.solid rfl []
  have hsteps : start.steps word.length = lineEnd := by
    simp [hstart, hlineEnd, Cursor.steps]
  have hbreak : (!(isBlank lineEnd.peek || isBreak lineEnd.peek)) = false := rfl
  have hgap : Plain.skipGap 3 (lineEnd.rest.length + 1) .empty lineEnd =
      some (Gap.empty.addBreak, ⟨[], 19 + word.length, 2, 0, true⟩) := by
    rw [hlineEnd, Nat.add_comm 19, Nat.add_comm 18]
    rfl
  have hempty : word.isEmpty = false := by simp [hword]
  unfold Plain.scan
  dsimp only
  rw [hpiece, hsteps, hhead, hbreak, hgap, hempty]
  rfl

theorem plain?_atWord {word : List Char} (h : IsWord word) :
    (atWord (word ++ ['\n'])).plain? = some (afterWord word) := by
  have hdrop : ({ (atWord (word ++ ['\n'])).noteKey with keyAllowed := false } : Layout).dropOnes =
      { atWord (word ++ ['\n']) with indent := 2, indents := [⟨0, true⟩, ⟨-1, true⟩] } := rfl
  unfold plain?
  rw [hdrop]
  have hscan := scan_word h (word ++ ['\n']).length
  calc _ = (Plain.scan false 3 ((word ++ ['\n']).length + 1) .empty
          ⟨word ++ ['\n'], 18, 1, 9, false⟩).bind fun read => some
            { atWord (word ++ ['\n']) with
              cursor := read.2
              tokens := .plain (String.ofList read.1) :: (atValue []).tokens
              indent := 2
              indents := [⟨0, true⟩, ⟨-1, true⟩]
              keyAllowed := false || read.2.fresh } := rfl
    _ = some (afterWord word) := by rw [hscan]; rfl

theorem next?_atValue {word : List Char} (h : IsWord word) :
    (atValue (word ++ ['\n'])).next? = some (false, afterWord word) := by
  obtain ⟨c, others, hword, -⟩ := h.begins
  have hpeek : ((atWord (word ++ ['\n'])).cursor.peek == endMark) = false := by
    have hc := (h.solid c (by simp [hword])).1
    simp only [isSpace, endsLine, Bool.or_eq_false_iff] at hc
    simpa [atWord, Cursor.peek, hword] using hc.2.2
  have hretire : ∀ t, (atWord t).retireKey? = some (atWord t) := fun _ => rfl
  have hunroll : ∀ t, (atWord t).unroll (atWord t).column = atWord t := fun _ => rfl
  have hcolumn : ∀ t, ((atWord t).cursor.column == 0) = false := fun _ => rfl
  have hmarker : ∀ t, (atWord t).cursor.atMarker = false := fun _ => rfl
  have hindent : ∀ t, ¬(atWord t).column < (atWord t).indent := fun _ =>
    (by decide : ¬(9 : Int) < 3)
  have htoken : (atWord (word ++ ['\n'])).token? = (atWord (word ++ ['\n'])).plain? :=
    token?_word h rfl
  unfold next?
  simp only [skipToToken?_atValue h, hretire, hunroll, hpeek, hcolumn, hmarker, hindent, htoken,
    plain?_atWord h, Option.bind_eq_bind, Option.bind_some, Option.map_some, Bool.false_and,
    Bool.false_eq_true, if_false]

/-- After the word the text ends, and with it both tables. -/
theorem next?_afterWord (word : List Char) :
    (afterWord word).next? = some (true, { afterWord word with
      tokens := .blockEnd :: .blockEnd :: (afterWord word).tokens
      indent := -1
      indents := [] }) := rfl

theorem next?_start (t : List Char) :
    (start ("limiter:\n  burst: ".toList ++ t)).next? = some (false, afterTable t) := rfl

theorem next?_afterTable (t : List Char) : (afterTable t).next? = some (false, inTable t) := rfl

theorem next?_inTable (t : List Char) : (inTable t).next? = some (false, afterName t) := rfl

theorem next?_afterName (t : List Char) : (afterName t).next? = some (false, atValue t) := rfl

/-- All of the text, token by token. -/
theorem all?_line {word : List Char} (h : IsWord word) (fuel : Nat) :
    all? (fuel + 6) (start ("limiter:\n  burst: ".toList ++ (word ++ ['\n']))) =
      some [.blockMapping, .key, .plain "limiter", .value, .blockMapping, .key, .plain "burst",
        .value, .plain (String.ofList word), .blockEnd, .blockEnd] := by
  simp only [all?, next?_start, next?_afterTable, next?_inTable, next?_afterName,
    next?_atValue h, next?_afterWord]
  rfl

end Layout

/-- The text of one setting is a table with a table. -/
theorem read?_line {word : String} (h : IsWord word.toList) :
    read? ("limiter:\n  burst: " ++ word ++ "\n") =
      some [.mapping [(.scalar (.text "limiter"),
        .mapping [(.scalar (.text "burst"), .scalar (.ofPlain word))])]] := by
  have htext : ("limiter:\n  burst: " ++ word ++ "\n").toList =
      "limiter:\n  burst: ".toList ++ (word.toList ++ ['\n']) := by
    rw [String.toList_append, String.toList_append, List.append_assoc]
    rfl
  have htokens : tokens? ("limiter:\n  burst: " ++ word ++ "\n") =
      some [.blockMapping, .key, .plain "limiter", .value, .blockMapping, .key, .plain "burst",
        .value, .plain word, .blockEnd, .blockEnd] := by
    have hlength : ("limiter:\n  burst: ".toList ++ (word.toList ++ ['\n'])).length + 1 =
        word.toList.length + 14 + 6 := by
      simp
    rw [tokens?, htext, hlength, Layout.all?_line h, String.ofList_toList]
  have hlimiter : Scalar.ofPlain "limiter" = .text "limiter" := by decide +kernel
  have hburst : Scalar.ofPlain "burst" = .text "burst" := by decide +kernel
  rw [read?, htokens, ← hlimiter, ← hburst]
  rfl

end Admission.Yaml
