import Admission.Address.Basic

/-!
# Written addresses

The text of an address is never empty, and all of it can be seen: digits, points and colons, and no
blank among them.

* `isVisible`, `Seen` — the characters that leave a mark, and texts made of them;
* `seen_joined`, `joined_ne_empty` — texts with separators between them;
* `IpAddress.seen_write`, `IpAddress.write_ne_empty` — every address, of either version.
-/

namespace Admission

/-- Whether a character can be seen: it is printable and no blank. -/
def isVisible (c : Char) : Bool :=
  33 ≤ c.toNat && c.toNat < 127

/-- Every character of a text can be seen. -/
def Seen (s : String) : Prop :=
  ∀ c ∈ s.toList, isVisible c = true

instance (s : String) : Decidable (Seen s) :=
  decidable_of_iff (s.toList.all isVisible = true) List.all_eq_true

section

variable {s t separator : String} {parts : List String}

theorem Seen.append (hs : Seen s) (ht : Seen t) : Seen (s ++ t) := by
  intro c hc
  rw [String.toList_append] at hc
  rcases List.mem_append.1 hc with hc | hc
  · exact hs c hc
  · exact ht c hc

theorem append_ne_empty_left (hs : s ≠ "") (t : String) : s ++ t ≠ "" := by
  intro h
  exact hs (String.append_eq_empty_iff.1 h).1

theorem append_ne_empty_right (s : String) (ht : t ≠ "") : s ++ t ≠ "" := by
  intro h
  exact ht (String.append_eq_empty_iff.1 h).2

theorem joined_cons_cons (separator first second : String) (rest : List String) :
    joined separator (first :: second :: rest) =
      first ++ separator ++ joined separator (second :: rest) :=
  String.intercalate_cons_cons

/-- Whatever stands in joined texts stands in a part or in the separator. -/
theorem mem_joined {c : Char} (h : c ∈ (joined separator parts).toList) :
    c ∈ separator.toList ∨ ∃ part ∈ parts, c ∈ part.toList := by
  induction parts with
  | nil => simp [joined] at h
  | cons first rest ih =>
    cases rest with
    | nil => exact .inr ⟨first, List.mem_cons_self .., by simpa [joined] using h⟩
    | cons second rest =>
      rw [joined_cons_cons, String.toList_append, String.toList_append, List.mem_append,
        List.mem_append] at h
      rcases h with (hfirst | hseparator) | hrest
      · exact .inr ⟨first, List.mem_cons_self .., hfirst⟩
      · exact .inl hseparator
      · rcases ih hrest with hseparator | ⟨part, hpart, hc⟩
        · exact .inl hseparator
        · exact .inr ⟨part, List.mem_cons_of_mem _ hpart, hc⟩

/-- Where the parts and the separator can be seen, all can. -/
theorem seen_joined (hseparator : Seen separator) (hparts : ∀ part ∈ parts, Seen part) :
    Seen (joined separator parts) := by
  intro c hc
  rcases mem_joined hc with hc | ⟨part, hpart, hc⟩
  · exact hseparator c hc
  · exact hparts part hpart c hc

/-- Where the first part is not empty, the whole is not. -/
theorem joined_ne_empty {first : String} (hfirst : first ≠ "") (rest : List String) :
    joined separator (first :: rest) ≠ "" := by
  cases rest with
  | nil => simpa [joined] using hfirst
  | cons second rest =>
    rw [joined_cons_cons]
    exact append_ne_empty_left (append_ne_empty_left hfirst _) _

end

/-! ## Digits -/

/-- A digit below sixteen can be seen. -/
theorem isVisible_digitChar {d : Nat} (h : d < 16) : isVisible d.digitChar = true := by
  revert d
  decide

/-- The digits of a number are those of its base. -/
theorem exists_digit_of_mem_toDigits {base : Nat} (hbase : 1 < base) (n : Nat) :
    ∀ c ∈ Nat.toDigits base n, ∃ d < base, c = d.digitChar := by
  induction n using Nat.strongRecOn with
  | ind n ih =>
    intro c hc
    by_cases hn : n < base
    · rw [Nat.toDigits_of_lt_base hn, List.mem_singleton] at hc
      exact ⟨n, hn, hc⟩
    · have hbelow : n / base < n := Nat.div_lt_self (by omega) hbase
      rw [Nat.toDigits_of_base_le hbase (by omega), List.mem_append, List.mem_singleton] at hc
      rcases hc with hc | rfl
      · exact ih _ hbelow c hc
      · exact ⟨n % base, Nat.mod_lt n (by omega), rfl⟩

theorem isVisible_of_mem_toDigits {base : Nat} (hbase : 1 < base) (hle : base ≤ 16) (n : Nat) :
    ∀ c ∈ Nat.toDigits base n, isVisible c = true := by
  intro c hc
  obtain ⟨d, hd, rfl⟩ := exists_digit_of_mem_toDigits hbase n c hc
  exact isVisible_digitChar (Nat.lt_of_lt_of_le hd hle)

theorem seen_toString (n : Nat) : Seen (toString n) := by
  intro c hc
  have hdigits : (toString n).toList = Nat.toDigits 10 n := Nat.toList_repr
  rw [hdigits] at hc
  exact isVisible_of_mem_toDigits (by decide) (by decide) n c hc

theorem toString_ne_empty (n : Nat) : toString n ≠ "" := by
  intro h
  have hdigits : (toString n).toList = Nat.toDigits 10 n := Nat.toList_repr
  rw [h] at hdigits
  exact Nat.toDigits_ne_nil hdigits.symm

/-! ## Addresses -/

namespace Ipv4

theorem seen_write (ip : Ipv4) : Seen ip.write := by
  refine seen_joined (by decide) fun part hpart => ?_
  obtain ⟨octet, -, rfl⟩ := List.mem_map.1 hpart
  exact seen_toString octet.toNat

theorem write_ne_empty (ip : Ipv4) : ip.write ≠ "" := by
  obtain ⟨⟨⟨octets⟩, hsize⟩⟩ := ip
  match octets, hsize with
  | first :: rest, _ => exact joined_ne_empty (toString_ne_empty first.toNat) _

end Ipv4

namespace Ipv6

theorem seen_writeGroup (g : UInt16) : Seen (writeGroup g) := by
  intro c hc
  rw [writeGroup, String.toList_ofList] at hc
  exact isVisible_of_mem_toDigits (by decide) (by decide) g.toNat c hc

theorem writeGroup_ne_empty (g : UInt16) : writeGroup g ≠ "" := by
  intro h
  have hdigits := congrArg String.toList h
  rw [writeGroup, String.toList_ofList] at hdigits
  exact Nat.toDigits_ne_nil hdigits

theorem seen_writeGroups (groups : List UInt16) : Seen (writeGroups groups) := by
  refine seen_joined (by decide) fun part hpart => ?_
  obtain ⟨g, -, rfl⟩ := List.mem_map.1 hpart
  exact seen_writeGroup g

theorem seen_write (ip : Ipv6) : Seen ip.write := by
  unfold write
  split
  · next inner _ => exact Seen.append (by decide) inner.seen_write
  · dsimp only
    split
    · exact ((seen_writeGroups _).append (by decide)).append (seen_writeGroups _)
    · exact seen_writeGroups _

theorem write_ne_empty (ip : Ipv6) : ip.write ≠ "" := by
  unfold write
  split
  · exact append_ne_empty_left (by decide) _
  · dsimp only
    split
    · exact append_ne_empty_left (append_ne_empty_right _ (by decide)) _
    · obtain ⟨⟨⟨groups⟩, hsize⟩⟩ := ip
      match groups, hsize with
      | first :: rest, _ => exact joined_ne_empty (writeGroup_ne_empty first) _

end Ipv6

/-- **The text of an address can be seen**, all of it. -/
theorem IpAddress.seen_write (ip : IpAddress) : Seen ip.write := by
  cases ip with
  | v4 ip => exact ip.seen_write
  | v6 ip => exact ip.seen_write

/-- **The text of an address is not empty.** -/
theorem IpAddress.write_ne_empty (ip : IpAddress) : ip.write ≠ "" := by
  cases ip with
  | v4 ip => exact ip.write_ne_empty
  | v6 ip => exact ip.write_ne_empty

end Admission
