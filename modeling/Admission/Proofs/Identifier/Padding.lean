import Admission.Proofs.Address.Written
import Admission.Proofs.Identifier.Naming
import Admission.Proofs.Identifier.Order

/-!
# Padded identifiers

An identifier is taken from the first header whose text is not hollow, or else from an address.
Blanks are cut off before brackets are, and not once more: a blank that stands directly inside a
bracket stays, at the head or the end of the identifier, and alone if there is nothing else.  No
other identifier is padded, and none is empty.

* `decisive?`, `realIp_of_decisive?`, `eq_of_realIp` — the header text that the identifier is taken
  from, if it is not an address;
* `of_decisive?`, `nameIn_ne_empty` — such a text is readable, and something is left of it;
* `realIp_padded_iff` — who is padded, and which headers are passed over;
* `realIp_blank` — an identifier that is a single blank.
-/

namespace Admission

/-- A readable byte is a character that can be seen, or a blank. -/
theorem Header.seen_or_blank_of_isReadable {b : UInt8} (h : isReadable b = true) :
    isVisible (Char.ofNat b.toNat) = true ∨ Identifier.isBlank (Char.ofNat b.toNat) = true := by
  have hcode : ∀ n < 127, 32 ≤ n ∨ n = 9 →
      isVisible (Char.ofNat n) = true ∨ Identifier.isBlank (Char.ofNat n) = true := by decide
  simp only [isReadable, Bool.or_eq_true, Bool.and_eq_true, decide_eq_true_eq, beq_iff_eq,
    UInt8.le_iff_toNat_le, UInt8.lt_iff_toNat_lt, UInt8.reduceToNat] at h
  rcases h with ⟨hlow, hhigh⟩ | rfl
  · exact hcode b.toNat hhigh (.inl hlow)
  · exact hcode 9 (by decide) (.inr rfl)

/-- Readable text is made of such characters. -/
theorem Header.seen_or_blank_of_readable? {value : List UInt8} {line : List Char}
    (h : readable? value = some line) :
    ∀ c ∈ line, isVisible c = true ∨ Identifier.isBlank c = true := by
  unfold readable? at h
  split at h
  · next hall =>
    obtain rfl := Option.some.inj h
    intro c hc
    obtain ⟨b, hb, rfl⟩ := List.mem_map.1 hc
    exact seen_or_blank_of_isReadable (List.all_eq_true.1 hall b hb)
  · cases h

namespace Identifier

/-- The text that `x-forwarded-for` has for an address. -/
def forwardedText? (r : Request) : Option (List Char) :=
  ((r.header? "x-forwarded-for").bind Header.readable?).map fun line =>
    line.takeWhile (· != ',')

/-- The text that `x-real-ip` has for an address. -/
def realIpText? (r : Request) : Option (List Char) :=
  (r.header? "x-real-ip").bind Header.readable?

/-- The header text that the identifier is taken from: the first that is not hollow. -/
def decisive? (r : Request) : Option (List Char) :=
  ((forwardedText? r).filter fun text => !decide (IsHollow text)).or
    ((realIpText? r).filter fun text => !decide (IsHollow text))

/-- The name that is left of a text. -/
def nameIn (text : List Char) : String :=
  String.ofList (stripBrackets (trim text))

variable {r : Request} {text : List Char}

theorem bind_named?_eq (source : Option (List Char)) :
    source.bind named? = (source.filter fun text => !decide (IsHollow text)).map nameIn := by
  cases source with
  | none => rfl
  | some text =>
    by_cases h : IsHollow text
    · simp [Option.filter, h, named?_eq_none_iff.2 h]
    · simp [Option.filter, h, named?_of_not_isHollow h, nameIn]

theorem forwarded?_eq (r : Request) : forwarded? r = (forwardedText? r).bind named? := by
  rw [forwarded?, forwardedText?, Option.bind_map]
  rfl

theorem realIpHeader?_eq (r : Request) : realIpHeader? r = (realIpText? r).bind named? := rfl

/-- What the headers say is what the decisive text names. -/
theorem headers_eq (r : Request) :
    (forwarded? r).or (realIpHeader? r) = (decisive? r).map nameIn := by
  rw [forwarded?_eq, realIpHeader?_eq, bind_named?_eq, bind_named?_eq, decisive?, Option.map_or]

/-- **A text that is not hollow is taken**: the identifier is the name that is left of it. -/
theorem realIp_of_decisive? (h : decisive? r = some text) : realIp r = .ok (nameIn text) := by
  have hheaders := headers_eq r
  rw [h, Option.map_some, Option.or_eq_some_iff] at hheaders
  rw [realIp_eq_ok_iff]
  rcases hheaders with hforwarded | ⟨hnone, hrealIp⟩
  · exact ⟨.forwarded, hforwarded, fun other hrank => absurd hrank (Nat.not_lt_zero _)⟩
  · refine ⟨.realIp, hrealIp, fun other hrank => ?_⟩
    cases other with
    | forwarded => exact hnone
    | realIp | connection | peer => exact absurd hrank (by decide)

/-- Of brackets alone one is cut off at either end, and the others are a name. -/
example : ["[[", "]]", "][", "[[]]"].map (fun text => nameIn text.toList) =
    ["[", "]", "][", "[]"] := by
  decide

/-- **The identifier is the name in the decisive text**, or else an address. -/
theorem eq_of_realIp {id : String} (h : realIp r = .ok id) :
    (∃ text, decisive? r = some text ∧ id = nameIn text) ∨
      decisive? r = none ∧ ∃ a : SocketAddress, id = a.ip.write := by
  cases hdecisive : decisive? r with
  | some text =>
    rw [realIp_of_decisive? hdecisive] at h
    exact .inl ⟨text, rfl, (Except.ok.inj h).symm⟩
  | none =>
    have hheaders := headers_eq r
    rw [hdecisive, Option.map_none, Option.or_eq_none_iff] at hheaders
    obtain ⟨s, hs, -⟩ := realIp_eq_ok_iff.1 h
    cases s with
    | forwarded => cases hheaders.1.symm.trans hs
    | realIp => cases hheaders.2.symm.trans hs
    | connection | peer =>
      obtain ⟨a, -, ha⟩ := Option.map_eq_some_iff.1 hs
      exact .inr ⟨rfl, a, ha.symm⟩

/-! ## The decisive text -/

theorem seen_or_blank_of_forwardedText? (h : forwardedText? r = some text) :
    ∀ c ∈ text, isVisible c = true ∨ isBlank c = true := by
  obtain ⟨line, hline, rfl⟩ := Option.map_eq_some_iff.1 h
  obtain ⟨value, -, hvalue⟩ := Option.bind_eq_some_iff.1 hline
  intro c hc
  exact Header.seen_or_blank_of_readable? hvalue c ((List.takeWhile_sublist _).subset hc)

theorem seen_or_blank_of_realIpText? (h : realIpText? r = some text) :
    ∀ c ∈ text, isVisible c = true ∨ isBlank c = true := by
  obtain ⟨value, -, hvalue⟩ := Option.bind_eq_some_iff.1 h
  exact Header.seen_or_blank_of_readable? hvalue

/-- The decisive text is readable, and it is not hollow. -/
theorem of_decisive? (h : decisive? r = some text) :
    ¬ IsHollow text ∧ ∀ c ∈ text, isVisible c = true ∨ isBlank c = true := by
  rw [decisive?, Option.or_eq_some_iff] at h
  rcases h with hforwarded | ⟨-, hrealIp⟩
  · obtain ⟨htext, hsolid⟩ := Option.filter_eq_some_iff.1 hforwarded
    exact ⟨by simpa using hsolid, seen_or_blank_of_forwardedText? htext⟩
  · obtain ⟨htext, hsolid⟩ := Option.filter_eq_some_iff.1 hrealIp
    exact ⟨by simpa using hsolid, seen_or_blank_of_realIpText? htext⟩

/-- A name has no characters but those of its text. -/
theorem mem_of_mem_nameIn {c : Char} (h : c ∈ (nameIn text).toList) : c ∈ text := by
  rw [nameIn, String.toList_ofList] at h
  obtain ⟨opening, closing, htrim, -, -⟩ := exists_brackets (trim text)
  have hinside : c ∈ trim text := by
    rw [htrim]
    simp [h]
  have hinitial : trim text <+: text.dropWhile isBlank := List.rdropWhile_prefix isBlank _
  exact (List.dropWhile_sublist isBlank).subset (hinitial.subset hinside)

theorem nameIn_ne_empty (h : ¬ IsHollow text) : nameIn text ≠ "" := by
  intro hempty
  refine h (stripBrackets_eq_nil_iff.1 ?_)
  have hlist := congrArg String.toList hempty
  rwa [nameIn, String.toList_ofList] at hlist

theorem not_isBlank_of_isVisible {c : Char} (h : isVisible c = true) : ¬ isBlank c = true := by
  intro hblank
  simp only [isBlank, Bool.or_eq_true, beq_iff_eq] at hblank
  rcases hblank with rfl | rfl <;> cases h

/-- What can be seen is not padded. -/
theorem not_beginsBlank_of_seen {s : String} (h : Seen s) : ¬ BeginsBlank s.toList := by
  rintro ⟨c, hc, hblank⟩
  exact not_isBlank_of_isVisible (h c (List.mem_of_head? hc)) hblank

theorem not_endsBlank_of_seen {s : String} (h : Seen s) : ¬ EndsBlank s.toList := by
  rintro ⟨c, hc, hblank⟩
  exact not_isBlank_of_isVisible (h c (List.mem_of_getLast? hc)) hblank

/-- **No identifier is empty, and one is padded only from inside a bracket.**  It begins or ends
with a blank exactly where the header text that it is taken from, cut to what stands between its
outer blanks, has a blank directly inside the bracket at its head or at its end; there is no other
blank than the space and the tab.  A header with an empty text, with blanks, or with one bracket of
either kind among blanks is passed over, as if none of its lines were there. -/
theorem realIp_padded_iff (r : Request) :
    (∀ id, realIp r = .ok id →
      id ≠ "" ∧ (∀ c ∈ id.toList, isVisible c = true ∨ isBlank c = true) ∧
      (BeginsBlank id.toList ↔ ∃ text, decisive? r = some text ∧ OpensBlank (trim text)) ∧
      (EndsBlank id.toList ↔ ∃ text, decisive? r = some text ∧ ClosesBlank (trim text))) ∧
    (∀ text, forwardedText? r = some text → IsHollow text →
      realIp (r.without "x-forwarded-for") = realIp r) ∧
    (∀ text, realIpText? r = some text → IsHollow text →
      realIp (r.without "x-real-ip") = realIp r) := by
  refine ⟨fun id hid => ?_, fun text htext hhollow => ?_, fun text htext hhollow => ?_⟩
  · rcases eq_of_realIp hid with ⟨text, hdecisive, rfl⟩ | ⟨hundecided, a, rfl⟩
    · obtain ⟨hsolid, hchars⟩ := of_decisive? hdecisive
      have hname : (nameIn text).toList = stripBrackets (trim text) := String.toList_ofList
      refine ⟨nameIn_ne_empty hsolid, fun c hc => hchars c (mem_of_mem_nameIn hc), ?_, ?_⟩
      · rw [hname, beginsBlank_stripBrackets_iff (trimmed_trim text), hdecisive]
        simp
      · rw [hname, endsBlank_stripBrackets_iff (trimmed_trim text), hdecisive]
        simp
    · have hseen := a.ip.seen_write
      refine ⟨a.ip.write_ne_empty, fun c hc => .inl (hseen c hc), ?_, ?_⟩
      · simp [hundecided, not_beginsBlank_of_seen hseen]
      · simp [hundecided, not_endsBlank_of_seen hseen]
  · have hnone : forwarded? r = none := by
      rw [forwarded?_eq, htext, Option.bind_some, named?_eq_none_iff]
      exact hhollow
    exact Source.forwarded.realIp_removed hnone
  · have hnone : realIpHeader? r = none := by
      rw [realIpHeader?_eq, htext, Option.bind_some, named?_eq_none_iff]
      exact hhollow
    exact Source.realIp.realIp_removed hnone

/-- A pair of brackets is passed over; behind it the address `[ 1.2.3.4]` leaves its blank at the
head of the identifier. -/
theorem realIp_padded_iff_of_blank_inside :
    let r : Request := ⟨"GET", ⟨none, "", "/", none⟩,
      [⟨"X-Forwarded-For", [91, 93]⟩,
        ⟨"X-Real-IP", [91, 32, 49, 46, 50, 46, 51, 46, 52, 93]⟩], none, none, false, ""⟩
    forwardedText? r = some ['[', ']'] ∧ IsHollow ['[', ']'] ∧ realIp r = .ok " 1.2.3.4" ∧
      realIp (r.without "x-forwarded-for") = .ok " 1.2.3.4" ∧
      OpensBlank (trim "[ 1.2.3.4]".toList) ∧ BeginsBlank " 1.2.3.4".toList := by
  intro r
  have hforwarded : forwardedText? r = some ['[', ']'] := by decide
  have hhollow : IsHollow ['[', ']'] := by decide
  have hid : realIp r = .ok " 1.2.3.4" := by decide
  have hdecisive : decisive? r = some "[ 1.2.3.4]".toList := by decide
  have hopens : OpensBlank (trim "[ 1.2.3.4]".toList) := ⟨' ', "1.2.3.4]".toList, rfl, rfl⟩
  obtain ⟨hids, hwithout, -⟩ := realIp_padded_iff r
  obtain ⟨-, -, hbegins, -⟩ := hids _ hid
  exact ⟨hforwarded, hhollow, hid, (hwithout _ hforwarded hhollow).trans hid, hopens,
    hbegins.2 ⟨_, hdecisive, hopens⟩⟩

/-- A header that carries a blank in brackets gives an identifier that is nothing but the blank;
without the header there is none. -/
theorem realIp_blank :
    let r : Request := ⟨"GET", ⟨none, "", "/", none⟩, [⟨"X-Real-IP", [91, 32, 93]⟩], none, none,
      false, ""⟩
    realIp r = .ok " " ∧ BeginsBlank " ".toList ∧ EndsBlank " ".toList ∧
      realIp (r.without "x-real-ip") = .error .missing := by
  intro r
  exact ⟨by decide, ⟨' ', rfl, rfl⟩, ⟨' ', rfl, rfl⟩, by decide⟩

end Identifier
end Admission
