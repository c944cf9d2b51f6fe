import Mathlib.Data.List.Basic
import Mathlib.Tactic.Set
import Admission.CommandLine

/-!
# What stands at a setting

The settings are six, in two tables.  A tree of values gives a setting the value that stands under
its name in its table, and the settings that a tree makes are read from these six values alone.

* `Setting` — the settings, with their tables, names and kinds;
* `Value.lookup_put`, `Value.lookup_merge_leaf`, `Value.exists_merge_eq_put` — one arrival in a
  list of entries;
* `Setting.standing` — the value that stands at a setting, and what a changed table makes of it;
* `Settings.ofEntries_eq_ok_iff` — the settings of a tree, setting by setting.
-/

namespace Admission

theorem Except.bind_eq_ok_iff {ε α β : Type} {x : Except ε α} {f : α → Except ε β} {b : β} :
    (x >>= f) = .ok b ↔ ∃ a, x = .ok a ∧ f a = .ok b := by
  cases x with
  | error e => simp [bind, Except.bind]
  | ok a => simp [bind, Except.bind]

/-! ## Entries -/

namespace Value

variable {key name : String} {v : Value} {entries : List (String × Value)}

theorem lookup_put (key name : String) (v : Value) (entries : List (String × Value)) :
    lookup name (put key v entries) = if name = key then some v else lookup name entries := by
  induction entries with
  | nil =>
    by_cases h : name = key
    · simp [put, lookup, h]
    · simp [put, lookup, h, Ne.symm h]
  | cons entry rest ih =>
    obtain ⟨k, w⟩ := entry
    by_cases hk : k = key
    · subst hk
      by_cases h : name = k
      · simp [put, lookup, h]
      · simp [put, lookup, h, Ne.symm h]
    · by_cases h : k = name
      · subst h
        simp [put, lookup, hk]
      · simp [put, lookup, hk, h, ih]

theorem lookup_put_self (key : String) (v : Value) (entries : List (String × Value)) :
    lookup key (put key v entries) = some v := by
  simp [lookup_put]

/-- Whatever arrives, the entries change under its name alone. -/
theorem exists_merge_eq_put (root : List (String × Value)) (name : String) (v : Value) :
    ∃ w, merge root name v = put (Header.lowerName name) w root := by
  cases v with
  | leaf origin value => exact ⟨_, rfl⟩
  | sequence origin items => exact ⟨_, rfl⟩
  | table origin incoming =>
    cases incoming with
    | nil => exact ⟨_, rfl⟩
    | cons entry rest => exact ⟨_, rfl⟩

theorem lookup_merge_of_ne {root : List (String × Value)} (h : key ≠ Header.lowerName name) :
    lookup key (merge root name v) = lookup key root := by
  obtain ⟨w, hw⟩ := exists_merge_eq_put root name v
  simp [hw, lookup_put, h]

/-- The entries of the table that stands under a key; there are none where no table does. -/
def under (root : List (String × Value)) (key : String) : List (String × Value) :=
  ((lookup key root).getD absent).entries

/-- Whether what stands under a key, if anything does, is a table. -/
def TableUnder (root : List (String × Value)) (key : String) : Prop :=
  ∀ v, lookup key root = some v → v = .table v.tableOrigin v.entries

theorem tableUnder_put_table {root : List (String × Value)} (h : TableUnder root key)
    (name : String) (origin : Option Origin) (entries : List (String × Value)) :
    TableUnder (put name (.table origin entries) root) key := by
  intro w hw
  rw [lookup_put] at hw
  split at hw
  · cases hw
    rfl
  · exact h w hw

theorem tableUnder_put_of_ne {root : List (String × Value)} (h : TableUnder root key)
    (hne : key ≠ name) (v : Value) : TableUnder (put name v root) key := by
  intro w hw
  rw [lookup_put, if_neg hne] at hw
  exact h w hw

/-- A table that arrives where a table stands, or nothing, is put together with it. -/
theorem exists_merge_table {root : List (String × Value)} (name : String)
    (h : TableUnder root (Header.lowerName name)) (from_ : Option Origin)
    (incoming : List (String × Value)) :
    ∃ origin, merge root name (.table from_ incoming) =
      put (Header.lowerName name)
        (.table origin (mergeAll (under root (Header.lowerName name)) incoming)) root := by
  set there := (lookup (Header.lowerName name) root).getD (.table none []) with hthere
  have htable : there = .table there.tableOrigin (under root (Header.lowerName name)) := by
    unfold under
    cases hv : lookup (Header.lowerName name) root with
    | none => simp [hthere, hv, tableOrigin, absent, entries]
    | some v =>
      rw [hthere, hv]
      exact h v hv
  have hentries : there.entries = under root (Header.lowerName name) := by
    rw [htable]
    rfl
  refine ⟨there.tableOrigin, ?_⟩
  cases incoming with
  | nil =>
    calc merge root name (.table from_ []) = put (Header.lowerName name) there root := rfl
      _ = _ := by rw [mergeAll]; exact congrArg (put _ · root) htable
  | cons entry rest =>
    calc merge root name (.table from_ (entry :: rest))
        = put (Header.lowerName name)
            (.table there.tableOrigin (mergeAll there.entries (entry :: rest))) root := rfl
      _ = _ := by rw [hentries]

end Value

/-! ## Settings -/

/-- The settings. -/
inductive Setting where
  | listen
  | rate
  | burst
  | expiresIn
  | reclaimInterval
  | maxVisitors
deriving DecidableEq

namespace Setting

/-- The table that a setting stands in. -/
def table : Setting → String
  | listen => "server"
  | _ => "limiter"

/-- The name of a setting in its table. -/
def name : Setting → String
  | listen => "listen_addr"
  | rate => "rate"
  | burst => "burst"
  | expiresIn => "expires_in_secs"
  | reclaimInterval => "reclaim_interval_secs"
  | maxVisitors => "max_visitors"

/-- The key by which a setting is reported. -/
def key (k : Setting) : String :=
  k.table ++ "." ++ k.name

/-- All settings. -/
def all : List Setting :=
  [listen, rate, burst, expiresIn, reclaimInterval, maxVisitors]

/-- The setting of a name in a table. -/
def named? (table name : String) : Option Setting :=
  all.find? fun k => k.table = table ∧ k.name = name

theorem named?_eq_some_iff {table name : String} {k : Setting} :
    named? table name = some k ↔ k.table = table ∧ k.name = name := by
  constructor
  · intro h
    simpa [named?] using List.find?_some h
  · rintro ⟨rfl, rfl⟩
    cases k <;> decide

/-- What a setting is set to. -/
def Kind : Setting → Type
  | listen => SocketAddress
  | rate => Binary64
  | burst => UInt32
  | expiresIn | reclaimInterval => Nat
  | maxVisitors => Option Nat

instance : (k : Setting) → DecidableEq k.Kind
  | listen => inferInstanceAs (DecidableEq SocketAddress)
  | rate => inferInstanceAs (DecidableEq Binary64)
  | burst => inferInstanceAs (DecidableEq UInt32)
  | expiresIn | reclaimInterval => inferInstanceAs (DecidableEq Nat)
  | maxVisitors => inferInstanceAs (DecidableEq (Option Nat))

/-- The setting in all settings. -/
def of (s : Settings) : (k : Setting) → k.Kind
  | listen => s.listen
  | rate => s.limiter.rate
  | burst => s.limiter.burst
  | expiresIn => s.limiter.expiresInSecs
  | reclaimInterval => s.limiter.reclaimIntervalSecs
  | maxVisitors => s.limiter.maxVisitors

/-- The reader of a setting. -/
def read : (k : Setting) → Located → Except SettingsError k.Kind
  | listen => Located.address
  | rate => Located.real
  | burst => Located.burst
  | expiresIn | reclaimInterval => Located.natural
  | maxVisitors => Located.cap

/-- What the options say about a setting.  Two settings have no option. -/
def flag? (o : Options) : (k : Setting) → Option k.Kind
  | listen => o.listen
  | rate => o.rate
  | burst => o.burst
  | expiresIn => o.expiresInSecs
  | reclaimInterval | maxVisitors => none

theorem of_apply (o : Options) (s : Settings) (k : Setting) :
    k.of (o.apply s) = (k.flag? o).getD (k.of s) := by
  cases k <;> rfl

/-- The value that stands at a setting. -/
def standing (root : List (String × Value)) (k : Setting) : Option Value :=
  Value.lookup k.name (Value.under root k.table)

theorem standing_nil (k : Setting) : standing [] k = none :=
  rfl

theorem standing_put_table (table : String) (origin : Option Origin)
    (entries root : List (String × Value)) (k : Setting) :
    standing (Value.put table (.table origin entries) root) k =
      if k.table = table then Value.lookup k.name entries else standing root k := by
  unfold standing Value.under
  rw [Value.lookup_put]
  split <;> rfl

theorem standing_put_of_ne {table : String} {k : Setting} (h : k.table ≠ table) (v : Value)
    (root : List (String × Value)) : standing (Value.put table v root) k = standing root k := by
  unfold standing Value.under
  rw [Value.lookup_put, if_neg h]

/-- What a value that may be left out makes of a setting. -/
def readStanding (k : Setting) (v : Option Value) : Except SettingsError k.Kind :=
  readOr (k.of .blank) k.read (v.map (Located.mk k.key))

end Setting

/-! ## The settings of a tree -/

/-- A tree whose settings stand in tables, if they stand anywhere. -/
def Tabled (root : List (String × Value)) : Prop :=
  ∀ k : Setting, Value.TableUnder root k.table

theorem tabled_nil : Tabled [] := by
  intro k v h
  cases h

/-- The limiter's settings in a table are those of its parts. -/
theorem LimiterSettings.ofTable_eq_ok_iff (origin : Option Origin)
    (entries : List (String × Value)) (s : LimiterSettings) (listen : SocketAddress) :
    ofTable ⟨"limiter", .table origin entries⟩ = .ok s ↔
      ∀ k : Setting, k.table = "limiter" →
        k.readStanding (Value.lookup k.name entries) = .ok (k.of ⟨listen, s⟩) := by
  unfold ofTable
  simp only [Except.bind_eq_ok_iff]
  constructor
  · rintro ⟨-, -, r, hr, b, hb, e, he, i, hi, m, hm, hs⟩ k hk
    cases hs
    cases k with
    | listen => exact absurd hk (by decide)
    | rate => exact hr
    | burst => exact hb
    | expiresIn => exact he
    | reclaimInterval => exact hi
    | maxVisitors => exact hm
  · intro h
    exact ⟨(), rfl, _, h .rate rfl, _, h .burst rfl, _, h .expiresIn rfl,
      _, h .reclaimInterval rfl, _, h .maxVisitors rfl, rfl⟩

/-- Where the limiter's table is left out, all of its settings are blank. -/
theorem LimiterSettings.blank_eq_iff (s : LimiterSettings) (listen : SocketAddress) :
    .blank = s ↔
      ∀ k : Setting, k.table = "limiter" → k.readStanding none = .ok (k.of ⟨listen, s⟩) := by
  constructor
  · rintro rfl k hk
    cases k with
    | listen => exact absurd hk (by decide)
    | _ => rfl
  · intro h
    obtain ⟨rate, burst, expiresIn, reclaimInterval, maxVisitors⟩ := s
    cases Except.ok.inj (h .rate rfl)
    cases Except.ok.inj (h .burst rfl)
    cases Except.ok.inj (h .expiresIn rfl)
    cases Except.ok.inj (h .reclaimInterval rfl)
    cases Except.ok.inj (h .maxVisitors rfl)
    rfl

namespace Settings

variable {root : List (String × Value)}

theorem listen_eq_ok_iff (hroot : Tabled root) (a : SocketAddress) :
    readOr defaultListen listenOfTable
        ((Value.lookup "server" root).map (Located.mk "server")) = .ok a ↔
      Setting.listen.readStanding (Setting.listen.standing root) = .ok a := by
  unfold Setting.standing Value.under
  cases hv : Value.lookup "server" root with
  | none =>
    rw [Setting.table, hv]
    rfl
  | some v =>
    rw [Setting.table, hv, hroot .listen v hv]
    rfl

theorem limiter_eq_ok_iff (hroot : Tabled root) (s : Settings) :
    readOr .blank LimiterSettings.ofTable
        ((Value.lookup "limiter" root).map (Located.mk "limiter")) = .ok s.limiter ↔
      ∀ k : Setting, k.table = "limiter" →
        k.readStanding (k.standing root) = .ok (k.of s) := by
  have hstanding : ∀ k : Setting, k.table = "limiter" → k.standing root =
      Value.lookup k.name ((Value.lookup "limiter" root).getD Value.absent).entries := by
    intro k hk
    unfold Setting.standing Value.under
    rw [hk]
  cases hv : Value.lookup "limiter" root with
  | none =>
    refine Iff.trans ?_ (LimiterSettings.blank_eq_iff s.limiter s.listen) |>.trans ?_
    · exact ⟨Except.ok.inj, congrArg _⟩
    · refine forall₂_congr fun k hk => ?_
      rw [hstanding k hk, hv]
      rfl
  | some v =>
    have htable := hroot .rate v hv
    rw [htable]
    refine (LimiterSettings.ofTable_eq_ok_iff _ _ s.limiter s.listen).trans ?_
    refine forall₂_congr fun k hk => ?_
    rw [hstanding k hk, hv]
    rfl

/-- The settings of a tree are those that the readers make of what stands at each. -/
theorem ofEntries_eq_ok_iff (hroot : Tabled root) (s : Settings) :
    ofEntries root = .ok s ↔ ∀ k : Setting, k.readStanding (k.standing root) = .ok (k.of s) := by
  unfold ofEntries
  simp only [Except.bind_eq_ok_iff]
  constructor
  · rintro ⟨a, ha, l, hl, hs⟩ k
    cases hs
    by_cases hk : k.table = "limiter"
    · exact (limiter_eq_ok_iff hroot ⟨a, l⟩).mp hl k hk
    · cases k with
      | listen => exact (listen_eq_ok_iff hroot a).mp ha
      | _ => exact absurd rfl hk
  · intro h
    exact ⟨s.listen, (listen_eq_ok_iff hroot _).mpr (h .listen),
      s.limiter, (limiter_eq_ok_iff hroot s).mpr fun k _ => h k, rfl⟩

end Settings
end Admission
