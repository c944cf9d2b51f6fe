import Admission.Proofs.Address.Distinct
import Admission.Proofs.Identifier.Lines

/-!
# The first usable source

A request may tell its client's address in four places: the first line of `x-forwarded-for`, the
first line of `x-real-ip`, and the two addresses that a server may have recorded.  What each of them
names is said here without the order in which they are asked, and a source is usable if it names
anything.  The first usable source decides, and nothing else in the request matters.

* `Source.Names`, `Source.Usable` — what a source names;
* `Source.names_iff` — the four questions of `realIp` ask for just that;
* `Source.Alike` — nothing that a source is asked for differs between two requests;
* `realIp_of_first_usable` — the first usable source decides, alone;
* `realIp_eq_iff_same_ip` — where only recorded addresses are left, they are the identifiers.
-/

namespace Admission.Identifier

variable {text : List Char} {r t : Request} {id : String}

/-! ## What a source names -/

namespace Source

/-- The text that counts in a readable line: of the forwarded header its first part. -/
inductive Shows (r : Request) : Source → List Char → Prop
  | forwarded {value : List UInt8} {part : List Char} : r.FirstLine "x-forwarded-for" value →
      Header.Readable (Header.text value) → FirstPart (Header.text value) part →
      Shows r .forwarded part
  | realIp {value : List UInt8} : r.FirstLine "x-real-ip" value →
      Header.Readable (Header.text value) → Shows r .realIp (Header.text value)

/-- What a source names: what is left of its text when that is taken apart, if anything is; or the
address that was recorded. -/
inductive Names (r : Request) : Source → String → Prop
  | line {s : Source} {text : List Char} (cut : Cut text) : Shows r s text → cut.name ≠ [] →
      Names r s (String.ofList cut.name)
  | connection {a : SocketAddress} : r.connection = some a → Names r .connection a.ip.write
  | peer {a : SocketAddress} : r.peer = some a → Names r .peer a.ip.write

/-- A source is usable if it names anything. -/
def Usable (s : Source) (r : Request) : Prop :=
  ∃ id, s.Names r id

/-- Nothing that a source is asked for differs between two requests: the same first line or none, or
readable lines with the same first part where no more than that counts; the same address or none. -/
inductive Alike (r t : Request) : Source → Prop
  | line {s : Source} {name : String} : s.header? = some name →
      (∀ value, r.FirstLine name value ↔ t.FirstLine name value) → Alike r t s
  | part {text : List Char} : Shows r .forwarded text → Shows t .forwarded text →
      Alike r t .forwarded
  | connection : r.connection = t.connection → Alike r t .connection
  | peer : r.peer = t.peer → Alike r t .peer

variable {s other : Source}

theorem shows_forwarded_iff : Shows r .forwarded text ↔ forwardedText? r = some text := by
  rw [forwardedText?, Option.map_eq_some_iff]
  simp only [Option.bind_eq_some_iff, Request.header?_eq_some_iff, Header.readable?_eq_some_iff,
    ← firstPart_iff]
  constructor
  · intro h
    cases h with
    | forwarded hline hreadable hpart => exact ⟨_, ⟨_, hline, rfl, hreadable⟩, hpart⟩
  · rintro ⟨_, ⟨value, hline, rfl, hreadable⟩, hpart⟩
    exact .forwarded hline hreadable hpart

theorem shows_realIp_iff : Shows r .realIp text ↔ realIpText? r = some text := by
  rw [realIpText?]
  simp only [Option.bind_eq_some_iff, Request.header?_eq_some_iff, Header.readable?_eq_some_iff]
  constructor
  · intro h
    cases h with
    | realIp hline hreadable => exact ⟨_, hline, rfl, hreadable⟩
  · rintro ⟨value, hline, rfl, hreadable⟩
    exact .realIp hline hreadable

/-- A line names what is left of the text that counts in it. -/
theorem names_iff_of_line (h : s.header?.isSome = true) : s.Names r id ↔
    ∃ text, Shows r s text ∧ ∃ cut : Cut text, cut.name ≠ [] ∧ id = String.ofList cut.name := by
  constructor
  · intro hnames
    cases hnames with
    | line cut hshows hname => exact ⟨_, hshows, cut, hname, rfl⟩
    | connection | peer => cases h
  · rintro ⟨text, hshows, cut, hname, rfl⟩
    exact .line cut hshows hname

/-- **What a source names is the answer that is had from it.** -/
theorem names_iff : s.Names r id ↔ s.answer? r = some id := by
  cases s with
  | forwarded =>
    rw [names_iff_of_line rfl, answer?, forwarded?_eq, Option.bind_eq_some_iff]
    simp only [shows_forwarded_iff, named?_eq_some_iff]
  | realIp =>
    rw [names_iff_of_line rfl, answer?, realIpHeader?_eq, Option.bind_eq_some_iff]
    simp only [shows_realIp_iff, named?_eq_some_iff]
  | connection =>
    rw [answer?, Option.map_eq_some_iff]
    constructor
    · intro h
      cases h with
      | line _ hshows => cases hshows
      | connection ha => exact ⟨_, ha, rfl⟩
    · rintro ⟨a, ha, rfl⟩
      exact .connection ha
  | peer =>
    rw [answer?, Option.map_eq_some_iff]
    constructor
    · intro h
      cases h with
      | line _ hshows => cases hshows
      | peer ha => exact ⟨_, ha, rfl⟩
    · rintro ⟨a, ha, rfl⟩
      exact .peer ha

theorem usable_iff : s.Usable r ↔ (s.answer? r).isSome = true := by
  simp only [Usable, names_iff, Option.isSome_iff_exists]

instance (s : Source) (r : Request) : Decidable (s.Usable r) :=
  decidable_of_iff _ usable_iff.symm

theorem not_usable_iff : ¬ s.Usable r ↔ s.answer? r = none := by
  rw [usable_iff, Option.not_isSome_iff_eq_none]

/-- A source of which nothing differs gives the same answer. -/
theorem Alike.answer?_eq (h : s.Alike r t) : s.answer? r = s.answer? t := by
  cases h with
  | @line _ name hname hlines =>
    have hheader : r.header? name = t.header? name :=
      Option.ext fun value => by
        simpa only [Option.mem_def, Request.header?_eq_some_iff] using hlines value
    cases s with
    | forwarded =>
      obtain rfl := Option.some.inj hname
      simp only [answer?, forwarded?, hheader]
    | realIp =>
      obtain rfl := Option.some.inj hname
      simp only [answer?, realIpHeader?, hheader]
    | connection | peer => cases hname
  | part hr ht =>
    simp only [answer?, forwarded?_eq, shows_forwarded_iff.1 hr, shows_forwarded_iff.1 ht]
  | connection h => simp only [answer?, h]
  | peer h => simp only [answer?, h]

end Source

/-! ## The first usable source -/

/-- An identifier is what the first usable source names. -/
theorem realIp_eq_ok_iff_names : realIp r = .ok id ↔ ∃ s : Source, s.Names r id ∧
    ∀ other : Source, other.rank < s.rank → ¬ other.Usable r := by
  simp only [realIp_eq_ok_iff, Source.names_iff, Source.not_usable_iff]

/-- There is none if no source is usable, and the error says so. -/
theorem realIp_eq_error_iff_names {e : IdentifierError} :
    realIp r = .error e ↔ e = .missing ∧ ∀ s : Source, ¬ s.Usable r := by
  simp only [realIp_eq_error_iff, Source.not_usable_iff]

/-- **A source whose line is wrapped gives the answer of the bare line.** -/
theorem Source.answer?_of_wraps {s : Source} {name : String} {value wrapped : List UInt8}
    (hname : s.header? = some name) (hr : r.FirstLine name value) (ht : t.FirstLine name wrapped)
    (hplain : Plain (Header.text value))
    (hwraps : Wraps (Header.text value) (Header.text wrapped)) : s.answer? t = s.answer? r := by
  have hread := bind_readable?_eq hr
  have hreadWrapped := bind_readable?_eq ht
  simp only [hwraps.readable_iff] at hreadWrapped
  cases s with
  | forwarded =>
    obtain rfl := Option.some.inj hname
    rw [answer?, forwarded?, forwarded?, hread, hreadWrapped]
    split
    · rw [Option.bind_some, Option.bind_some, hwraps.takeWhile_eq hplain,
        (Wraps.refl _).takeWhile_eq hplain, hwraps.named?_eq hplain]
    · rfl
  | realIp =>
    obtain rfl := Option.some.inj hname
    rw [answer?, realIpHeader?, realIpHeader?, hread, hreadWrapped]
    split
    · rw [Option.bind_some, Option.bind_some, hwraps.named?_eq hplain]
    · rfl
  | connection | peer => cases hname

/-- **The first usable source decides, alone.**  An identifier is what the first usable source
names, and there is none, which the only error says, if no source is usable.  A request that is
like another in its first usable source has the same identifier, whatever its later sources, the
further lines of its headers and the rest of it are, if its earlier sources are as they were or are
not usable either.  A source that is not usable might as well be absent.  And a name without commas,
brackets and blanks at its ends may stand among blanks, bare or in a pair of brackets: that is all
the same. -/
theorem realIp_of_first_usable :
    (∀ r id, realIp r = .ok id ↔ ∃ s : Source, s.Names r id ∧
      ∀ other : Source, other.rank < s.rank → ¬ other.Usable r) ∧
    (∀ r e, realIp r = .error e ↔ e = .missing ∧ ∀ s : Source, ¬ s.Usable r) ∧
    (∀ (r t : Request) (s : Source), s.Usable r → s.Alike r t →
      (∀ other : Source, other.rank < s.rank →
        ¬ other.Usable r ∧ (other.Alike r t ∨ ¬ other.Usable t)) → realIp t = realIp r) ∧
    (∀ (r : Request) (s : Source), ¬ s.Usable r → realIp (s.removed r) = realIp r) ∧
    (∀ (r t : Request) (s : Source) (name : String) (value wrapped : List UInt8),
      s.header? = some name → r.FirstLine name value → t.FirstLine name wrapped →
      Plain (Header.text value) → Wraps (Header.text value) (Header.text wrapped) →
      (∀ other : Source, other ≠ s → other.Alike r t) → realIp t = realIp r) := by
  refine ⟨fun r id => realIp_eq_ok_iff_names, fun r e => realIp_eq_error_iff_names, ?_,
    fun r s hunusable => s.realIp_removed (Source.not_usable_iff.1 hunusable), ?_⟩
  · rintro r t s ⟨id, hnames⟩ halike hearlier
    have hr : realIp r = .ok id :=
      realIp_eq_ok_iff_names.2 ⟨s, hnames, fun other hrank => (hearlier other hrank).1⟩
    rw [hr]
    refine realIp_eq_ok_iff_names.2 ⟨s, ?_, fun other hrank => ?_⟩
    · rw [Source.names_iff] at hnames ⊢
      rwa [← halike.answer?_eq]
    · obtain ⟨hunusable, hlike | hnot⟩ := hearlier other hrank
      · rw [Source.not_usable_iff] at hunusable ⊢
        rwa [← hlike.answer?_eq]
      · exact hnot
  · intro r t s name value wrapped hname hr ht hplain hwraps hothers
    refine realIp_congr_answers fun other => ?_
    by_cases hother : other = s
    · rw [hother]
      exact Source.answer?_of_wraps hname hr ht hplain hwraps
    · exact (hothers other hother).answer?_eq.symm

/-- An empty pair of brackets is passed over, and so are the further line, the recorded address and
the brackets around the address that is left. -/
theorem realIp_of_first_usable_behind_brackets :
    let request := fun headers : List Header =>
      (⟨"GET", ⟨none, "", "/", none⟩, headers, none, none, false, ""⟩ : Request)
    let r := request [⟨"X-Forwarded-For", [91, 93]⟩, ⟨"X-Real-IP", [9, 91, 58, 58, 93, 32]⟩]
    let t : Request :=
      { request [⟨"X-Real-Ip", [9, 91, 58, 58, 93, 32]⟩, ⟨"X-Real-IP", [49]⟩] with
        connection := some (.v4 .loopback 80) }
    let bare := request [⟨"X-Forwarded-For", [91, 93]⟩, ⟨"X-Real-IP", [58, 58]⟩]
    ¬ Source.forwarded.Usable r ∧ ¬ Source.forwarded.Usable t ∧ Source.realIp.Alike r t ∧
      realIp r = .ok "::" ∧ realIp t = realIp r ∧ realIp (Source.forwarded.removed r) = realIp r ∧
      r.FirstLine "x-real-ip" [9, 91, 58, 58, 93, 32] ∧
      Wraps (Header.text [58, 58]) (Header.text [9, 91, 58, 58, 93, 32]) ∧
      realIp r = realIp bare := by
  intro request r t bare
  obtain ⟨-, -, halone, habsent, hwrapped⟩ := realIp_of_first_usable
  have hunusable : ¬ Source.forwarded.Usable r := by decide
  have hunusable' : ¬ Source.forwarded.Usable t := by decide
  have husable : Source.realIp.Usable r := by decide
  have hline : r.FirstLine "x-real-ip" [9, 91, 58, 58, 93, 32] :=
    Request.header?_eq_some_iff.1 (by decide)
  have hsame : ∀ {q : Request} {name : String}, r.header? name = q.header? name →
      ∀ value, r.FirstLine name value ↔ q.FirstLine name value := by
    intro q name h value
    rw [← Request.header?_eq_some_iff, ← Request.header?_eq_some_iff, h]
  have halike : Source.realIp.Alike r t := .line rfl (hsame (by decide))
  have hplain : Plain (Header.text [58, 58]) :=
    ⟨⟨by rintro ⟨c, ⟨⟩, ⟨⟩⟩, by rintro ⟨c, ⟨⟩, ⟨⟩⟩⟩, by simp [Header.text]⟩
  have hwraps : Wraps (Header.text [58, 58]) (Header.text [9, 91, 58, 58, 93, 32]) :=
    ⟨['\t'], ['['], [']'], [' '], by decide,
      List.forall_mem_cons.2 ⟨rfl, List.forall_mem_singleton.2 rfl⟩, .inr ⟨rfl, rfl⟩⟩
  refine ⟨hunusable, hunusable', halike, by decide, ?_, habsent r .forwarded hunusable, hline,
    hwraps, ?_⟩
  · refine halone r t .realIp husable halike fun other hrank => ?_
    cases other with
    | forwarded => exact ⟨hunusable, .inr hunusable'⟩
    | realIp | connection | peer => exact absurd hrank (by decide)
  · refine hwrapped bare r .realIp "x-real-ip" _ _ rfl
      (Request.header?_eq_some_iff.1 (by decide)) hline hplain hwraps fun other hother => ?_
    cases other with
    | forwarded => exact .line rfl fun value => (hsame (by decide) value).symm
    | realIp => exact absurd rfl hother
    | connection => exact .connection rfl
    | peer => exact .peer rfl

/-! ## Peers -/

/-- The address that a server has recorded for a request: that of the connection, or where there is
none, that of the peer. -/
def Records (r : Request) (a : SocketAddress) : Prop :=
  r.connection = some a ∨ r.connection = none ∧ r.peer = some a

/-- A request without a usable line is known by the address that was recorded. -/
theorem realIp_of_records {a : SocketAddress}
    (hlines : ∀ s : Source, s.header?.isSome = true → ¬ s.Usable r) (h : Records r a) :
    realIp r = .ok a.ip.write := by
  rcases h with hconnection | ⟨hnone, hpeer⟩
  · refine realIp_eq_ok_iff_names.2 ⟨.connection, .connection hconnection, fun other hrank => ?_⟩
    cases other with
    | forwarded | realIp => exact hlines _ rfl
    | connection | peer => exact absurd hrank (by decide)
  · refine realIp_eq_ok_iff_names.2 ⟨.peer, .peer hpeer, fun other hrank => ?_⟩
    cases other with
    | forwarded | realIp => exact hlines _ rfl
    | connection => simp [Source.not_usable_iff, Source.answer?, hnone]
    | peer => exact absurd hrank (by decide)

/-- **Peers are told apart by their address, and by nothing else.**  Two requests without a usable
line have the same identifier just when the addresses that were recorded for them are the same,
whatever the ports, the flow labels and the scopes are, and wherever the addresses were recorded. -/
theorem realIp_eq_iff_same_ip {a b : SocketAddress}
    (hr : ∀ s : Source, s.header?.isSome = true → ¬ s.Usable r)
    (ht : ∀ s : Source, s.header?.isSome = true → ¬ s.Usable t)
    (ha : Records r a) (hb : Records t b) :
    realIp r = .ok a.ip.write ∧ realIp t = .ok b.ip.write ∧
      (realIp r = realIp t ↔ a.ip = b.ip) := by
  have hra := realIp_of_records hr ha
  have htb := realIp_of_records ht hb
  refine ⟨hra, htb, ?_⟩
  rw [hra, htb, Except.ok.injEq]
  exact ⟨IpAddress.write_inj, congrArg IpAddress.write⟩

/-- One host comes from two ports, recorded in different places.  Another has the address of version
6 that maps an address of version 4, which is a third. -/
theorem realIp_eq_iff_same_ip_of_mapped :
    let request := fun connection peer : Option SocketAddress =>
      (⟨"GET", ⟨none, "", "/", none⟩, [⟨"X-Real-IP", [32]⟩], connection, peer, false, ""⟩ : Request)
    let mapped : Ipv6 := ⟨#v[0, 0, 0, 0, 0, 0xffff, 0x7f00, 1]⟩
    let first := request (some (.v6 mapped 80 0 0)) (some (.v4 .loopback 1))
    let second := request none (some (.v6 mapped 443 7 2))
    let third := request none (some (.v4 .loopback 80))
    (∀ connection peer, ∀ s : Source, s.header?.isSome = true →
        ¬ s.Usable (request connection peer)) ∧
      Records first (.v6 mapped 80 0 0) ∧ Records second (.v6 mapped 443 7 2) ∧
      Records third (.v4 .loopback 80) ∧ realIp first = .ok "::ffff:127.0.0.1" ∧
      realIp first = realIp second ∧ realIp first ≠ realIp third := by
  intro request mapped first second third
  have hlines : ∀ connection peer, ∀ s : Source, s.header?.isSome = true →
      ¬ s.Usable (request connection peer) := by
    intro connection peer s hs
    cases s with
    | forwarded | realIp => exact Source.not_usable_iff.2 rfl
    | connection | peer => cases hs
  have hfirst : Records first (.v6 mapped 80 0 0) := .inl rfl
  have hsecond : Records second (.v6 mapped 443 7 2) := .inr ⟨rfl, rfl⟩
  have hthird : Records third (.v4 .loopback 80) := .inr ⟨rfl, rfl⟩
  obtain ⟨-, -, hsame⟩ := realIp_eq_iff_same_ip (hlines _ _) (hlines _ _) hfirst hsecond
  obtain ⟨htext, -, hother⟩ := realIp_eq_iff_same_ip (hlines _ _) (hlines _ _) hfirst hthird
  exact ⟨hlines, hfirst, hsecond, hthird, htext.trans (by decide +kernel), hsame.2 rfl,
    fun h => by cases hother.1 h⟩

end Admission.Identifier
