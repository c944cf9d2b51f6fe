import Admission.Proofs.Address.Written
import Mathlib.Data.List.TakeWhile

/-!
# Addresses are told apart by their text

An address can be read off its text, so no two addresses have the same text.  What stands between
the points or the colons are the numbers of the address; where a run of zero groups is left out
there stands nothing, and the run is as long as the other groups leave room for among eight.

* `joined_inj` — joined texts come apart at their separators;
* `Ipv6.zeroRun_spec` — the run of zero groups that is left out;
* `Ipv6.places`, `Ipv6.write_of_unmapped`, `Ipv6.places_inj` — what stands between the colons;
* `Ipv4.write_inj`, `Ipv6.write_inj`, `IpAddress.write_inj` — equal texts, equal addresses.
-/

namespace Admission

/-! ## Joined texts -/

section

variable {separator : String} {mark : Char} {parts others : List String}

/-- Texts that do not hold the separator come apart where they were joined. -/
theorem splitOn_joined (hseparator : separator.toList = [mark]) (hne : parts ≠ [])
    (hparts : ∀ part ∈ parts, mark ∉ part.toList) :
    (joined separator parts).toList.splitOn mark = parts.map String.toList := by
  rw [joined, String.toList_intercalate, hseparator]
  refine List.splitOn_intercalate mark (fun part hpart => ?_) (by simpa using hne)
  obtain ⟨text, htext, rfl⟩ := List.mem_map.1 hpart
  exact hparts text htext

theorem joined_inj (hseparator : separator.toList = [mark]) (hne : parts ≠ []) (hne' : others ≠ [])
    (hparts : ∀ part ∈ parts, mark ∉ part.toList) (hothers : ∀ part ∈ others, mark ∉ part.toList)
    (h : joined separator parts = joined separator others) : parts = others := by
  have hsplit := congrArg (fun s : String => s.toList.splitOn mark) h
  simp only [splitOn_joined hseparator hne hparts, splitOn_joined hseparator hne' hothers] at hsplit
  exact (List.map_inj_right fun _ _ => String.toList_inj.1).1 hsplit

theorem joined_append (hne : parts ≠ []) (hne' : others ≠ []) :
    joined separator (parts ++ others) =
      joined separator parts ++ separator ++ joined separator others := by
  induction parts with
  | nil => exact absurd rfl hne
  | cons first rest ih =>
    cases rest with
    | nil =>
      cases others with
      | nil => exact absurd rfl hne'
      | cons second others =>
        rw [List.singleton_append, joined_cons_cons]
        simp [joined]
    | cons second rest =>
      have hrest := ih (List.cons_ne_nil _ _)
      rw [List.cons_append] at hrest
      rw [List.cons_append, List.cons_append, joined_cons_cons, hrest, joined_cons_cons]
      simp only [String.append_assoc]

/-- Two parts or more have a separator between them. -/
theorem mark_mem_joined (hseparator : separator.toList = [mark]) (first second : String)
    (rest : List String) : mark ∈ (joined separator (first :: second :: rest)).toList := by
  rw [joined_cons_cons, String.toList_append, String.toList_append, hseparator]
  simp

end

/-! ## Numbers -/

/-- Different digits are different characters. -/
theorem digitChar_inj {d e : Nat} (hd : d < 16) (he : e < 16) (h : d.digitChar = e.digitChar) :
    d = e := by
  have hall : ∀ d < 16, ∀ e < 16, d.digitChar = e.digitChar → d = e := by decide
  exact hall d hd e he h

/-- A number can be read off its digits. -/
theorem toDigits_inj {base : Nat} (hbase : 1 < base) (hle : base ≤ 16) {n m : Nat}
    (h : Nat.toDigits base n = Nat.toDigits base m) : n = m := by
  -- The last digit is the remainder, and the others are those of the quotient.
  have hlong : ∀ {k : Nat}, base ≤ k → ∀ d, [d] ≠ Nat.toDigits base k := by
    intro k hk d hsingle
    rw [Nat.toDigits_of_base_le hbase hk] at hsingle
    have hlength := congrArg List.length hsingle
    have hpos := Nat.length_toDigits_pos (b := base) (n := k / base)
    simp only [List.length_append, List.length_singleton] at hlength
    omega
  induction n using Nat.strongRecOn generalizing m with
  | ind n ih =>
    rcases Nat.lt_or_ge n base with hn | hn <;> rcases Nat.lt_or_ge m base with hm | hm
    · rw [Nat.toDigits_of_lt_base hn, Nat.toDigits_of_lt_base hm] at h
      exact digitChar_inj (by omega) (by omega) (List.singleton_inj.1 h)
    · rw [Nat.toDigits_of_lt_base hn] at h
      exact absurd h (hlong hm _)
    · rw [Nat.toDigits_of_lt_base hm] at h
      exact absurd h.symm (hlong hn _)
    · rw [Nat.toDigits_of_base_le hbase hn, Nat.toDigits_of_base_le hbase hm] at h
      obtain ⟨hfront, hlast⟩ := List.append_inj' h rfl
      have hquotient := ih (n / base) (Nat.div_lt_self (by omega) hbase) hfront
      have hrem := digitChar_inj (Nat.lt_of_lt_of_le (Nat.mod_lt n (by omega)) hle)
        (Nat.lt_of_lt_of_le (Nat.mod_lt m (by omega)) hle) (List.singleton_inj.1 hlast)
      rw [← Nat.div_add_mod n base, ← Nat.div_add_mod m base, hquotient, hrem]

theorem toString_inj {n m : Nat} (h : toString n = toString m) : n = m := by
  have hn : (toString n).toList = Nat.toDigits 10 n := Nat.toList_repr
  have hm : (toString m).toList = Nat.toDigits 10 m := Nat.toList_repr
  exact toDigits_inj (by decide) (by decide) (hn.symm.trans (h ▸ hm))

/-- No digit is a point or a colon. -/
theorem not_mem_toDigits {base : Nat} (hbase : 1 < base) (hle : base ≤ 16) {mark : Char}
    (hmark : mark = '.' ∨ mark = ':') (n : Nat) : mark ∉ Nat.toDigits base n := by
  intro h
  obtain ⟨d, hd, rfl⟩ := exists_digit_of_mem_toDigits hbase n _ h
  have hall : ∀ d < 16, ¬ (d.digitChar = '.' ∨ d.digitChar = ':') := by decide
  exact hall d (by omega) hmark

/-! ## Version 4 -/

namespace Ipv4

variable {ip other : Ipv4}

theorem map_octets_ne_nil (ip : Ipv4) :
    ip.octets.toList.map (fun b => toString b.toNat) ≠ [] := by
  intro h
  have hlength := congrArg List.length h
  simp at hlength

/-- What stands between the points holds no point and no colon. -/
theorem not_mem_octet {mark : Char} (hmark : mark = '.' ∨ mark = ':') :
    ∀ part ∈ ip.octets.toList.map (fun b => toString b.toNat), mark ∉ part.toList := by
  intro part hpart
  obtain ⟨octet, -, rfl⟩ := List.mem_map.1 hpart
  have hdigits : (toString octet.toNat).toList = Nat.toDigits 10 octet.toNat := Nat.toList_repr
  rw [hdigits]
  exact not_mem_toDigits (by decide) (by decide) hmark _

/-- **Addresses of version 4 are told apart by their text.** -/
theorem write_inj (h : ip.write = other.write) : ip = other := by
  have hparts := joined_inj (rfl : ".".toList = ['.']) ip.map_octets_ne_nil other.map_octets_ne_nil
    (not_mem_octet (.inl rfl)) (not_mem_octet (.inl rfl)) h
  have hoctets := (List.map_inj_right fun a b hab =>
    UInt8.toNat_inj.1 (toString_inj hab)).1 hparts
  cases ip
  cases other
  rw [Ipv4.mk.injEq]
  exact Vector.toList_inj.1 hoctets

theorem colon_not_mem_write (ip : Ipv4) : ':' ∉ ip.write.toList := by
  intro h
  rcases mem_joined h with hpoint | ⟨part, hpart, hcolon⟩
  · revert hpoint
    decide
  · exact not_mem_octet (.inr rfl) part hpart hcolon

theorem point_mem_write (ip : Ipv4) : '.' ∈ ip.write.toList := by
  obtain ⟨⟨⟨octets⟩, hsize⟩⟩ := ip
  match octets, hsize with
  | [_, _, _, _], _ => exact mark_mem_joined rfl _ _ _

end Ipv4

/-! ## Version 6 -/

namespace Ipv6

variable {ip other : Ipv6} {groups : List UInt16}

/-- The zeros that a list begins with. -/
theorem replicate_append_drop_leadingZeros (groups : List UInt16) :
    List.replicate (leadingZeros groups) 0 ++ groups.drop (leadingZeros groups) = groups := by
  have hzeros : groups.takeWhile (· == 0) = List.replicate (leadingZeros groups) 0 :=
    List.eq_replicate_iff.2 ⟨rfl, fun g hg => by simpa using List.mem_takeWhile_imp hg⟩
  have hsplit := List.takeWhile_append_dropWhile (p := (· == 0)) (l := groups)
  have hrest : groups.drop (leadingZeros groups) = groups.dropWhile (· == 0) :=
    (congrArg (List.drop _) hsplit.symm).trans List.drop_left
  rw [hrest, ← hzeros, hsplit]

/-- **The run that is left out** is made of zeros: they and the groups on either side are all. -/
theorem zeroRun_spec (groups : List UInt16) :
    groups.take (zeroRun groups).1 ++ (List.replicate (zeroRun groups).2 0 ++
      groups.drop ((zeroRun groups).1 + (zeroRun groups).2)) = groups := by
  induction groups with
  | nil => rfl
  | cons g rest ih =>
    rw [zeroRun]
    dsimp only
    split
    · rw [List.take_zero, List.nil_append, Nat.zero_add]
      exact replicate_append_drop_leadingZeros (g :: rest)
    · rw [List.take_succ_cons, Nat.add_right_comm, List.drop_succ_cons, List.cons_append, ih]

/-- What stands between the colons where some groups are written: their texts, or nothing at one
place if there are none. -/
def texts (groups : List UInt16) : List String :=
  if groups = [] then [""] else groups.map writeGroup

/-- What stands between the colons of an address that is not mapped: nothing at the place of the
run that is left out, and texts of groups before and after it. -/
def places (groups : List UInt16) : List String :=
  if 2 ≤ (zeroRun groups).2 then
    texts (groups.take (zeroRun groups).1) ++
      "" :: texts (groups.drop ((zeroRun groups).1 + (zeroRun groups).2))
  else groups.map writeGroup

theorem texts_ne_nil (groups : List UInt16) : texts groups ≠ [] := by
  unfold texts
  split
  · exact List.cons_ne_nil _ _
  · next h => simpa using h

theorem joined_texts (groups : List UInt16) : joined ":" (texts groups) = writeGroups groups := by
  unfold texts
  split
  · next h => rw [h]; simp [joined, writeGroups]
  · rfl

/-- **An address that is not mapped is its places with colons between them.** -/
theorem write_of_unmapped (h : ip.mapped? = none) :
    ip.write = joined ":" (places ip.groups.toList) := by
  rw [write, h]
  dsimp only
  unfold places
  split
  · have hcolons : ":" ++ (joined ":" [""] ++ ":") = "::" := by decide
    have hright : joined ":" ([""] ++ texts (ip.groups.toList.drop
        ((zeroRun ip.groups.toList).1 + (zeroRun ip.groups.toList).2))) =
          joined ":" [""] ++ ":" ++ joined ":" (texts _) :=
      joined_append (List.cons_ne_nil "" []) (texts_ne_nil _)
    rw [List.singleton_append] at hright
    rw [joined_append (texts_ne_nil _) (List.cons_ne_nil _ _), hright, joined_texts, joined_texts,
      ← hcolons]
    simp only [String.append_assoc]
  · rfl

theorem writeGroup_inj {g k : UInt16} (h : writeGroup g = writeGroup k) : g = k := by
  have hdigits := congrArg String.toList h
  rw [writeGroup, writeGroup, String.toList_ofList, String.toList_ofList] at hdigits
  exact UInt16.toNat_inj.1 (toDigits_inj (by decide) (by decide) hdigits)

theorem map_writeGroup_inj {first second : List UInt16}
    (h : first.map writeGroup = second.map writeGroup) : first = second :=
  (List.map_inj_right fun _ _ => writeGroup_inj).1 h

theorem empty_not_mem_map (groups : List UInt16) : "" ∉ groups.map writeGroup := by
  intro h
  obtain ⟨g, -, hg⟩ := List.mem_map.1 h
  exact writeGroup_ne_empty g hg

/-- The groups before an empty place can be read off what stands between the colons. -/
theorem takeWhile_texts (groups : List UInt16) (rest : List String) :
    (texts groups ++ "" :: rest).takeWhile (· != "") = groups.map writeGroup := by
  unfold texts
  split
  · next h =>
    rw [h]
    rfl
  · have hnone : ∀ part ∈ groups.map writeGroup, (part != "") = true := by
      intro part hpart
      refine bne_iff_ne.2 ?_
      rintro rfl
      exact empty_not_mem_map groups hpart
    rw [List.takeWhile_append_of_pos hnone]
    simp

theorem reverse_texts (groups : List UInt16) : (texts groups).reverse = texts groups.reverse := by
  unfold texts
  by_cases h : groups = []
  · simp [h]
  · rw [if_neg h, if_neg (by simpa using h), List.map_reverse]

/-- The groups on either side of an empty place can be read off what stands between the colons. -/
theorem texts_append_inj {front back front' back' : List UInt16}
    (h : texts front ++ "" :: texts back = texts front' ++ "" :: texts back') :
    front = front' ∧ back = back' := by
  have hreverse : ∀ first second : List UInt16,
      (texts first ++ "" :: texts second).reverse =
        texts second.reverse ++ "" :: texts first.reverse := by
    intro first second
    rw [List.reverse_append, List.reverse_cons, List.append_assoc, List.singleton_append,
      reverse_texts, reverse_texts]
  refine ⟨map_writeGroup_inj ?_, List.reverse_inj.1 (map_writeGroup_inj ?_)⟩
  · rw [← takeWhile_texts front (texts back), h, takeWhile_texts]
  · have hback := congrArg List.reverse h
    rw [hreverse, hreverse] at hback
    rw [← takeWhile_texts back.reverse (texts front.reverse), hback, takeWhile_texts]

/-- **As many groups can be read off their places**, however long the run that is left out. -/
theorem places_inj {others : List UInt16} (hlength : groups.length = others.length)
    (h : places groups = places others) : groups = others := by
  have hspec := zeroRun_spec groups
  have hspec' := zeroRun_spec others
  unfold places at h
  split at h <;> split at h
  · -- The runs are as long as the groups beside them leave room for.
    obtain ⟨hfront, hback⟩ := texts_append_inj h
    have hrun : (zeroRun groups).2 = (zeroRun others).2 := by
      have hgroups := congrArg List.length hspec
      have hothers := congrArg List.length hspec'
      rw [hfront, hback] at hgroups
      simp only [List.length_append, List.length_replicate] at hgroups hothers
      omega
    rw [hfront, hback, hrun] at hspec
    exact hspec.symm.trans hspec'
  · have hempty : "" ∈ others.map writeGroup := h ▸ List.mem_append_right _ (List.mem_cons_self ..)
    exact absurd hempty (empty_not_mem_map others)
  · have hempty : "" ∈ groups.map writeGroup := h ▸ List.mem_append_right _ (List.mem_cons_self ..)
    exact absurd hempty (empty_not_mem_map groups)
  · exact map_writeGroup_inj h

/-- A group and its neighbour are the four bytes of the address that is mapped. -/
theorem groups_of_mapped? {inner : Ipv4} (h : ip.mapped? = some inner) :
    ∃ high low : UInt16, ip.groups.toList = [0, 0, 0, 0, 0, 0xffff, high, low] ∧
      inner.octets.toList = [high.toNat / 256, high.toNat % 256, low.toNat / 256,
        low.toNat % 256].map UInt8.ofNat := by
  unfold mapped? at h
  split at h
  · next high low hgroups =>
    obtain rfl := Option.some.inj h
    exact ⟨high, low, hgroups, by simp [Vector.toList]⟩
  · cases h

/-- A group can be read off its two bytes. -/
theorem bytes_inj {g k : UInt16} (hhigh : UInt8.ofNat (g.toNat / 256) = UInt8.ofNat (k.toNat / 256))
    (hlow : UInt8.ofNat (g.toNat % 256) = UInt8.ofNat (k.toNat % 256)) : g = k := by
  have hg := g.toNat_lt
  have hk := k.toNat_lt
  have hhigh := congrArg UInt8.toNat hhigh
  have hlow := congrArg UInt8.toNat hlow
  simp only [UInt8.toNat_ofNat'] at hhigh hlow
  exact UInt16.toNat_inj.1 (by omega)

/-- Addresses that map the same address are the same. -/
theorem mapped?_inj {inner : Ipv4} (h : ip.mapped? = some inner) (h' : other.mapped? = some inner) :
    ip.groups.toList = other.groups.toList := by
  obtain ⟨high, low, hgroups, hinner⟩ := groups_of_mapped? h
  obtain ⟨high', low', hgroups', hinner'⟩ := groups_of_mapped? h'
  rw [hinner] at hinner'
  simp only [List.map_cons, List.map_nil, List.cons.injEq, and_true] at hinner'
  obtain ⟨hhigh, hhigh', hlow, hlow'⟩ := hinner'
  rw [hgroups, hgroups', bytes_inj hhigh hhigh', bytes_inj hlow hlow']

theorem write_of_mapped {inner : Ipv4} (h : ip.mapped? = some inner) :
    ip.write = "::ffff:" ++ inner.write := by
  rw [write, h]

/-- What stands between the colons holds no point and no colon. -/
theorem not_mem_places {mark : Char} (hmark : mark = '.' ∨ mark = ':') :
    ∀ part ∈ places groups, mark ∉ part.toList := by
  have hmap : ∀ some : List UInt16, ∀ part ∈ some.map writeGroup, mark ∉ part.toList := by
    intro some part hpart
    obtain ⟨g, -, rfl⟩ := List.mem_map.1 hpart
    rw [writeGroup, String.toList_ofList]
    exact not_mem_toDigits (by decide) (by decide) hmark _
  have hempty : mark ∉ "".toList := List.not_mem_nil
  have htexts : ∀ some : List UInt16, ∀ part ∈ texts some, mark ∉ part.toList := by
    intro some part hpart
    unfold texts at hpart
    split at hpart
    · rwa [List.mem_singleton.1 hpart]
    · exact hmap some part hpart
  intro part hpart
  unfold places at hpart
  split at hpart
  · rcases List.mem_append.1 hpart with hfront | hrest
    · exact htexts _ part hfront
    · rcases List.mem_cons.1 hrest with rfl | hback
      · exact hempty
      · exact htexts _ part hback
  · exact hmap _ part hpart

theorem places_ne_nil (ip : Ipv6) : places ip.groups.toList ≠ [] := by
  unfold places
  split
  · exact fun h => texts_ne_nil _ (List.append_eq_nil_iff.1 h).1
  · intro h
    have hlength := congrArg List.length h
    simp at hlength

/-- Only an address that is mapped has points in its text. -/
theorem point_mem_write_iff : '.' ∈ ip.write.toList ↔ ip.mapped?.isSome = true := by
  cases h : ip.mapped? with
  | some inner =>
    rw [write_of_mapped h, String.toList_append, List.mem_append]
    exact iff_of_true (.inr inner.point_mem_write) rfl
  | none =>
    refine iff_of_false (fun hpoint => ?_) Bool.false_ne_true
    rw [write_of_unmapped h] at hpoint
    rcases mem_joined hpoint with hcolon | ⟨part, hpart, hpoint⟩
    · revert hcolon
      decide
    · exact not_mem_places (.inl rfl) part hpart hpoint

/-- An address has two groups and more. -/
theorem exists_groups (ip : Ipv6) :
    ∃ first second rest, ip.groups.toList = first :: second :: rest := by
  obtain ⟨⟨⟨groups⟩, hsize⟩⟩ := ip
  match groups, hsize with
  | first :: second :: rest, _ => exact ⟨first, second, rest, rfl⟩

theorem colon_mem_write (ip : Ipv6) : ':' ∈ ip.write.toList := by
  cases h : ip.mapped? with
  | some inner =>
    rw [write_of_mapped h, String.toList_append, List.mem_append]
    exact .inl (by decide)
  | none =>
    rw [write, h]
    dsimp only
    split
    · rw [String.toList_append, String.toList_append, List.mem_append, List.mem_append]
      exact .inl (.inr (by decide))
    · obtain ⟨first, second, rest, hgroups⟩ := ip.exists_groups
      rw [hgroups]
      exact mark_mem_joined rfl _ _ _

/-- **Addresses of version 6 are told apart by their text.** -/
theorem write_inj (h : ip.write = other.write) : ip = other := by
  have hgroups : ip.groups.toList = other.groups.toList := by
    have hmapped : ip.mapped?.isSome = true ↔ other.mapped?.isSome = true := by
      rw [← point_mem_write_iff, ← point_mem_write_iff, h]
    cases hip : ip.mapped? with
    | some inner =>
      obtain ⟨inner', hother⟩ := Option.isSome_iff_exists.1 (hmapped.1 (by rw [hip]; rfl))
      rw [write_of_mapped hip, write_of_mapped hother] at h
      have hinner : inner.write.toList = inner'.write.toList := by
        have hlists := congrArg String.toList h
        rw [String.toList_append, String.toList_append] at hlists
        exact List.append_cancel_left hlists
      obtain rfl := Ipv4.write_inj (String.toList_inj.1 hinner)
      exact mapped?_inj hip hother
    | none =>
      have hother : other.mapped? = none := by
        rw [hip] at hmapped
        exact Option.not_isSome_iff_eq_none.1 fun hsome => Bool.false_ne_true (hmapped.2 hsome)
      rw [write_of_unmapped hip, write_of_unmapped hother] at h
      refine places_inj (by simp) ?_
      exact joined_inj (rfl : ":".toList = [':']) ip.places_ne_nil other.places_ne_nil
        (not_mem_places (.inr rfl)) (not_mem_places (.inr rfl)) h
  cases ip
  cases other
  rw [Ipv6.mk.injEq]
  exact Vector.toList_inj.1 hgroups

end Ipv6

/-- **Addresses are told apart by their text**: those of one version by what stands between their
marks, and those of different versions by the colons. -/
theorem IpAddress.write_inj {ip other : IpAddress} (h : ip.write = other.write) : ip = other := by
  cases ip with
  | v4 ip =>
    cases other with
    | v4 other => rw [Ipv4.write_inj h]
    | v6 other =>
      have hsame : ip.write = other.write := h
      exact absurd (hsame ▸ other.colon_mem_write) ip.colon_not_mem_write
  | v6 ip =>
    cases other with
    | v4 other =>
      have hsame : ip.write = other.write := h
      exact absurd (hsame ▸ ip.colon_mem_write) other.colon_not_mem_write
    | v6 other => rw [Ipv6.write_inj h]

end Admission
