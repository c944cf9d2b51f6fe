import Mathlib.Logic.Function.Basic
import Mathlib.Data.List.Nodup
import Admission.Proofs.Settings.Standing

/-!
# Layered settings

A source tells some of the settings: a file in its tables, a variable by a key with a point.
Whatever else stands in it concerns no setting.  Each entry that arrives changes what stands at
the settings it tells and at no other, so of two sources the later one wins, setting by setting,
whatever else either of them says.

* `Source.told?` — what the entries of a source tell, each setting at most once;
* `KeyPath.arrive_of_told`, `arriveAll_of_told` — one entry, and a whole source;
* `Settings.load_eq_ok_iff`, `ofText_eq_ok_iff` — the settings that are loaded, setting by setting;
* `Setting.typed?` — the values of a setting's own kind;
* `Settings.load_layered` — a setting is its option's value, or else the environment's, or else
  the file's, or else blank.
-/

namespace Admission

/-- What is told of a setting: a single value, and where it came from. -/
abbrev Told : Type :=
  List (Setting × Option Origin × Leaf)

namespace Told

/-- What stands at the settings after they have been told. -/
def after (told : Told) (standing : Setting → Option Value) : Setting → Option Value :=
  told.foldl (fun f tell => Function.update f tell.1 (some (.leaf tell.2.1 tell.2.2))) standing

theorem after_append (first second : Told) (standing : Setting → Option Value) :
    (first ++ second).after standing = second.after (first.after standing) :=
  List.foldl_append

/-- What is told of a setting, as a value. -/
def value? (told : Told) (k : Setting) : Option Value :=
  (told.lookup k).map fun tell => .leaf tell.1 tell.2

/-- Told once at most, a setting stands as it was told, or as before. -/
theorem after_apply {told : Told} (honce : (told.map Prod.fst).Nodup)
    (standing : Setting → Option Value) (k : Setting) :
    told.after standing k = (told.value? k).or (standing k) := by
  induction told generalizing standing with
  | nil => rfl
  | cons tell rest ih =>
    obtain ⟨j, origin, leaf⟩ := tell
    rw [List.map_cons, List.nodup_cons] at honce
    obtain ⟨hj, hrest⟩ := honce
    have hstep : Told.after ((j, origin, leaf) :: rest) standing k =
        (value? rest k).or (Function.update standing j (some (.leaf origin leaf)) k) :=
      ih hrest _
    rw [hstep]
    by_cases h : k = j
    · subst h
      have hnone : rest.lookup k = none := by
        rw [List.lookup_eq_none_iff]
        intro tell htell
        have : tell.1 ∈ rest.map Prod.fst := List.mem_map_of_mem htell
        simpa using fun heq : k = tell.1 => hj (heq ▸ this)
      simp [value?, hnone]
    · have hbeq : (k == j) = false := by simpa using h
      simp [value?, List.lookup_cons, hbeq, Function.update_of_ne h]

end Told

/-! ## Sources -/

namespace Source

/-- What an entry in a table tells: of a setting, the single value under its name. -/
def toldIn? (table : String) : String × Value → Option Told
  | (name, v) =>
    match Setting.named? table (Header.lowerName name), v with
    | none, _ => some []
    | some k, .leaf origin leaf => some [(k, origin, leaf)]
    | some _, _ => none

/-- What entries tell, one after another. -/
def toldByAll? (tell? : String × Value → Option Told) : List (String × Value) → Option Told
  | [] => some []
  | entry :: rest =>
    match tell? entry, toldByAll? tell? rest with
    | some told, some others => some (told ++ others)
    | _, _ => none

/-- Whether settings stand in a table of this name. -/
def holdsSettings (table : String) : Bool :=
  (Setting.all.map Setting.table).contains table

/-- What a value under a name at the top tells. -/
def toldUnder? (table : String) (v : Value) : Option Told :=
  if holdsSettings table then
    match v with
    | .table _ entries => toldByAll? (toldIn? table) entries
    | _ => none
  else some []

/-- What an entry at the top tells: that of its table, or of one setting by its key. -/
def toldBy? : String × Value → Option Told
  | (key, v) =>
    match KeyPath.read? key with
    | some [.name table] => toldUnder? (Header.lowerName table) v
    | some [.name table, .name name] => toldIn? (Header.lowerName table) (name, v)
    | _ => none

/-- What the entries of a source tell, each setting at most once. -/
def told? (entries : List (String × Value)) : Option Told :=
  (toldByAll? toldBy? entries).filter fun told => (told.map Prod.fst).Nodup

/-- What a text tells. -/
def toldByText? (text : String) : Option Told :=
  (ofText none text).toOption.bind told?

/-- What the file of a path tells, if one is given. -/
def toldByFile? (s : Surroundings) : Option String → Option Told
  | some path => (ofFile s path).toOption.bind told?
  | none => some []

/-- What the environment tells. -/
def toldByEnvironment? (s : Surroundings) : Option Told :=
  told? (ofEnvironment s.environment)

theorem told?_eq_some_iff {entries : List (String × Value)} {told : Told} :
    told? entries = some told ↔
      toldByAll? toldBy? entries = some told ∧ (told.map Prod.fst).Nodup := by
  simp [told?, Option.filter_eq_some_iff]

theorem holdsSettings_iff {table : String} :
    holdsSettings table = true ↔ ∃ k : Setting, k.table = table := by
  constructor
  · intro h
    simp only [holdsSettings, List.contains_eq_mem, List.mem_map, decide_eq_true_eq] at h
    obtain ⟨k, -, hk⟩ := h
    exact ⟨k, hk⟩
  · rintro ⟨k, rfl⟩
    cases k <;> decide

theorem toldByAll?_cons {tell? : String × Value → Option Told} {entry : String × Value}
    {rest : List (String × Value)} {told : Told}
    (h : toldByAll? tell? (entry :: rest) = some told) :
    ∃ first others, tell? entry = some first ∧ toldByAll? tell? rest = some others ∧
      told = first ++ others := by
  rw [toldByAll?] at h
  split at h
  case h_1 first others hfirst hothers =>
    exact ⟨first, others, hfirst, hothers, (Option.some.inj h).symm⟩
  case h_2 => cases h

/-- The variables of the settings, in whatever case their names are written. -/
theorem toldBy?_of_variable (k : Setting) {name : String}
    (h : Header.lowerName name = "tollgate__" ++ k.table ++ "__" ++ k.name) (text : String) :
    toldByAll? toldBy? (ofEnvironment [(name, text)]) =
      some [(k, some .environment, variableValue text)] := by
  have hkey : variableKey? name = some k.key := by
    rw [variableKey?, h]
    cases k <;> decide
  have hentries : ofEnvironment [(name, text)] =
      [(k.key, .leaf (some .environment) (variableValue text))] := by
    simp [ofEnvironment, hkey]
  rw [hentries]
  cases k <;> rfl

/-! ## Arrivals -/

section Table

variable {table : String}

/-- A table filled from the entries that stand in it changes nothing. -/
theorem standing_put_under (table : String) (origin : Option Origin)
    (root : List (String × Value)) :
    Setting.standing (Value.put table (.table origin (Value.under root table)) root) =
      Setting.standing root := by
  funext k
  rw [Setting.standing_put_table]
  split
  case isTrue h => rw [Setting.standing, h]
  case isFalse => rfl

/-- An entry that arrives in a table changes what stands at the setting it tells. -/
theorem standing_merge {entry : String × Value} {told : Told}
    (h : toldIn? table entry = some told) (before after : Option Origin)
    (entries root : List (String × Value)) :
    Setting.standing
        (Value.put table (.table after (Value.merge entries entry.1 entry.2)) root) =
      told.after (Setting.standing (Value.put table (.table before entries) root)) := by
  obtain ⟨name, v⟩ := entry
  funext k
  rw [Setting.standing_put_table]
  unfold toldIn? at h
  dsimp only at h ⊢
  split at h
  case h_1 hnone =>
    cases h
    have hk : k.table = table → k.name ≠ Header.lowerName name := by
      intro htable hname
      have hsome := Setting.named?_eq_some_iff.mpr ⟨htable, hname⟩
      rw [hnone] at hsome
      cases hsome
    have hstanding := Setting.standing_put_table table before entries root k
    rw [Told.after, List.foldl_nil, hstanding]
    split
    case isTrue htable => rw [Value.lookup_merge_of_ne (hk htable)]
    case isFalse => rfl
  case h_2 j origin leaf hsome =>
    cases h
    obtain ⟨htable, hname⟩ := Setting.named?_eq_some_iff.mp hsome
    rw [Told.after, List.foldl_cons, List.foldl_nil, Function.update_apply,
      Setting.standing_put_table, Value.merge, Value.lookup_put]
    by_cases hkj : k = j
    · subst hkj
      simp [htable, hname]
    · have hne : ¬(k.table = table ∧ k.name = Header.lowerName name) := by
        intro hk
        have hsome' := Setting.named?_eq_some_iff.mpr hk
        rw [hsome] at hsome'
        exact hkj (Option.some.inj hsome').symm
      by_cases hk : k.table = table
      · have hname' : k.name ≠ Header.lowerName name := fun h => hne ⟨hk, h⟩
        simp [hk, hkj, hname']
      · simp [hk, hkj]
  case h_3 => cases h

/-- The same for the entries of a table that arrives in it, one after another. -/
theorem standing_mergeAll {incoming : List (String × Value)} {told : Told}
    (h : toldByAll? (toldIn? table) incoming = some told) (before after : Option Origin)
    (entries root : List (String × Value)) :
    Setting.standing
        (Value.put table (.table after (Value.mergeAll entries incoming)) root) =
      told.after (Setting.standing (Value.put table (.table before entries) root)) := by
  induction incoming generalizing entries told with
  | nil =>
    cases h
    funext k
    rw [Value.mergeAll, Told.after, List.foldl_nil, Setting.standing_put_table,
      Setting.standing_put_table]
  | cons entry rest ih =>
    obtain ⟨first, others, hfirst, hothers, rfl⟩ := toldByAll?_cons h
    calc _ = others.after (Setting.standing
          (Value.put table (.table before (Value.merge entries entry.1 entry.2)) root)) :=
          ih hothers _
      _ = others.after (first.after _) := by rw [standing_merge hfirst before before]
      _ = _ := (Told.after_append first others _).symm

end Table

end Source

namespace KeyPath

variable {root : List (String × Value)}

theorem tabled_put_table (hroot : Tabled root) (table : String) (origin : Option Origin)
    (entries : List (String × Value)) : Tabled (Value.put table (.table origin entries) root) :=
  fun k => Value.tableUnder_put_table (hroot k) table origin entries

/-- Where no setting stands, anything may arrive. -/
theorem standing_put_stranger {table : String} (hroot : Tabled root)
    (h : Source.holdsSettings table = false) (v : Value) :
    Tabled (Value.put table v root) ∧
      Setting.standing (Value.put table v root) = Setting.standing root := by
  have hne : ∀ k : Setting, k.table ≠ table := by
    intro k hk
    have := Source.holdsSettings_iff.mpr ⟨k, hk⟩
    simp [h] at this
  exact ⟨fun k => Value.tableUnder_put_of_ne (hroot k) (hne k) v,
    funext fun k => Setting.standing_put_of_ne (hne k) v root⟩

theorem merge_of_toldUnder (hroot : Tabled root) {table : String} {v : Value} {told : Told}
    (h : Source.toldUnder? (Header.lowerName table) v = some told) :
    Tabled (Value.merge root table v) ∧
      Setting.standing (Value.merge root table v) = told.after (Setting.standing root) := by
  unfold Source.toldUnder? at h
  split at h
  case isTrue hholds =>
    obtain ⟨k, hk⟩ := Source.holdsSettings_iff.mp hholds
    cases v with
    | leaf | sequence => cases h
    | table from_ entries =>
      obtain ⟨origin, hmerge⟩ := Value.exists_merge_table table (hk ▸ hroot k) from_ entries
      rw [hmerge, Source.standing_mergeAll h none, Source.standing_put_under]
      exact ⟨tabled_put_table hroot _ _ _, rfl⟩
  case isFalse hholds =>
    cases h
    obtain ⟨w, hw⟩ := Value.exists_merge_eq_put root table v
    rw [hw]
    exact standing_put_stranger hroot (by simpa using hholds) w

/-- An entry arrives, and what it tells stands. -/
theorem arrive_of_told (hroot : Tabled root) {key : String} {v : Value} {told : Told}
    (h : Source.toldBy? (key, v) = some told) :
    ∃ root', arrive root key v = .ok root' ∧ Tabled root' ∧
      Setting.standing root' = told.after (Setting.standing root) := by
  unfold Source.toldBy? at h
  dsimp only at h
  split at h
  case h_1 table hread =>
    refine ⟨Value.merge root table v, ?_, merge_of_toldUnder hroot h⟩
    rw [arrive, hread]
    rfl
  case h_2 table name hread =>
    set there := (Value.lookup (Header.lowerName table) root).getD Value.absent
    refine ⟨Value.put (Header.lowerName table)
      (.table there.tableOrigin (Value.merge there.entries name v)) root, ?_,
      tabled_put_table hroot _ _ _, ?_⟩
    · rw [arrive, hread]
      rfl
    · calc _ = told.after (Setting.standing (Value.put (Header.lowerName table)
            (.table none (Value.under root (Header.lowerName table))) root)) :=
            Source.standing_merge h none _ _ _
        _ = _ := by rw [Source.standing_put_under]
  case h_3 => cases h

/-- The entries of a source arrive, and what they tell stands. -/
theorem arriveAll_of_told (hroot : Tabled root) {entries : List (String × Value)} {told : Told}
    (h : Source.toldByAll? Source.toldBy? entries = some told) :
    ∃ root', arriveAll root entries = .ok root' ∧ Tabled root' ∧
      Setting.standing root' = told.after (Setting.standing root) := by
  induction entries generalizing root told with
  | nil =>
    cases h
    exact ⟨root, rfl, hroot, rfl⟩
  | cons entry rest ih =>
    obtain ⟨first, others, hfirst, hothers, rfl⟩ := Source.toldByAll?_cons h
    obtain ⟨middle, harrive, hmiddle, hstanding⟩ := arrive_of_told hroot hfirst
    obtain ⟨last, harriveAll, hlast, hstanding'⟩ := ih hmiddle hothers
    refine ⟨last, ?_, hlast, ?_⟩
    · rw [arriveAll, harrive]
      exact harriveAll
    · rw [hstanding', hstanding, Told.after_append]

/-- A whole source arrives: what it tells stands, and the rest as before. -/
theorem arriveAll_of_told? (hroot : Tabled root) {entries : List (String × Value)} {told : Told}
    (h : Source.told? entries = some told) :
    ∃ root', arriveAll root entries = .ok root' ∧ Tabled root' ∧
      ∀ k : Setting, k.standing root' = (told.value? k).or (k.standing root) := by
  obtain ⟨hsaid, honce⟩ := Source.told?_eq_some_iff.mp h
  obtain ⟨root', harrive, hroot', hstanding⟩ := arriveAll_of_told hroot hsaid
  refine ⟨root', harrive, hroot', fun k => ?_⟩
  rw [hstanding, Told.after_apply honce]

end KeyPath

/-! ## What is loaded -/

namespace Settings

variable {s : Surroundings} {path : Option String} {fromFile fromEnvironment : Told}

theorem eq_ok_of_told {read : Except SettingsError (List (String × Value))} {told : Told}
    (h : read.toOption.bind Source.told? = some told) :
    ∃ entries, read = .ok entries ∧ Source.told? entries = some told := by
  cases read with
  | error e => cases h
  | ok entries => exact ⟨entries, rfl, h⟩

/-- What a text makes of a setting is what its value reads as. -/
theorem ofText_eq_ok_iff {text : String} {told : Told} (h : Source.toldByText? text = some told)
    (settings : Settings) :
    ofText text = .ok settings ↔
      ∀ k : Setting, k.readStanding (told.value? k) = .ok (k.of settings) := by
  obtain ⟨entries, htext, htold⟩ := eq_ok_of_told h
  obtain ⟨root, harrive, hroot, hstanding⟩ := KeyPath.arriveAll_of_told? tabled_nil htold
  have hload : ofText text = ofEntries root := by
    rw [ofText, htext]
    simp only [bind, Except.bind, harrive]
  rw [hload, ofEntries_eq_ok_iff hroot]
  simp [hstanding, Setting.standing_nil]

/-- The entries of the file come first, if there is one, and then those of the environment. -/
theorem load_of_told (h : Source.toldByFile? s path = some fromFile) :
    ∃ file, Source.told? file = some fromFile ∧ load s path = (do
      let entries ← KeyPath.arriveAll [] file
      ofEntries (← KeyPath.arriveAll entries (Source.ofEnvironment s.environment))) := by
  cases path with
  | none =>
    cases h
    exact ⟨[], rfl, rfl⟩
  | some path =>
    obtain ⟨file, hfile, htold⟩ := eq_ok_of_told h
    refine ⟨file, htold, ?_⟩
    simp only [load, hfile]
    rfl

/-- What is loaded, setting by setting: the environment's value is read, or else the file's. -/
theorem load_eq_ok_iff (hfile : Source.toldByFile? s path = some fromFile)
    (henvironment : Source.toldByEnvironment? s = some fromEnvironment) (settings : Settings) :
    load s path = .ok settings ↔ ∀ k : Setting,
      k.readStanding ((fromEnvironment.value? k).or (fromFile.value? k)) = .ok (k.of settings) := by
  obtain ⟨file, htold, hload⟩ := load_of_told hfile
  obtain ⟨root, harrive, hroot, hstanding⟩ := KeyPath.arriveAll_of_told? tabled_nil htold
  obtain ⟨root', harrive', hroot', hstanding'⟩ := KeyPath.arriveAll_of_told? hroot henvironment
  have hentries : load s path = ofEntries root' := by
    rw [hload]
    simp only [bind, Except.bind, harrive, harrive']
  rw [hentries, ofEntries_eq_ok_iff hroot']
  simp [hstanding', hstanding, Setting.standing_nil]

end Settings

/-! ## Well-typed values -/

/-- The number of 64 bits that a value is: an integer without a sign, or a real number rounded and
held to the range.  An integer beyond 63 bits is written as a real number. -/
def Leaf.natural? : Leaf → Option Nat
  | .integer z => if 0 ≤ z then some z.toNat else none
  | .real x => some (x.toBounded Located.greatest64 Binary64.roundHalfAway)
  | _ => none

namespace Setting

/-- A value of the kind of a setting: the text of an address, a number, a natural number in the
range, or nothing for the cap. -/
def typed? : (k : Setting) → Leaf → Option k.Kind
  | listen, .text text => SocketAddress.ofText? text
  | rate, .real x => some x
  | rate, .integer z => some (.ofInt z)
  | burst, leaf => leaf.natural?.bind fun n => if n < 4294967296 then some (.ofNat n) else none
  | expiresIn, leaf | reclaimInterval, leaf => leaf.natural?
  | maxVisitors, leaf => if leaf = .null then some none else leaf.natural?.map some
  | _, _ => none

theorem natural_of_natural? {leaf : Leaf} {n : Nat} (h : leaf.natural? = some n) (key : String)
    (origin : Option Origin) : Located.natural ⟨key, .leaf origin leaf⟩ = .ok n := by
  cases leaf with
  | integer z =>
    simp only [Leaf.natural?, Option.ite_none_right_eq_some, Option.some.injEq] at h
    obtain ⟨hz, rfl⟩ := h
    simp [Located.natural, hz]
  | real x =>
    cases h
    rfl
  | null | truth | text => cases h

theorem cap_of_natural? {leaf : Leaf} {n : Nat} (h : leaf.natural? = some n) (key : String)
    (origin : Option Origin) : Located.cap ⟨key, .leaf origin leaf⟩ = .ok (some n) := by
  have hcap : leaf ≠ .null → Located.cap ⟨key, .leaf origin leaf⟩ =
      (Located.natural ⟨key, .leaf origin leaf⟩).map some := by
    intro hnull
    cases leaf with
    | null => exact absurd rfl hnull
    | _ => rfl
  have hnull : leaf ≠ .null := by
    rintro rfl
    cases h
  rw [hcap hnull, natural_of_natural? h]
  rfl

/-- The reader of a setting takes a value of its kind as it is. -/
theorem read_of_typed? {k : Setting} {leaf : Leaf} {x : k.Kind} (h : k.typed? leaf = some x)
    (key : String) (origin : Option Origin) : k.read ⟨key, .leaf origin leaf⟩ = .ok x := by
  cases k with
  | listen =>
    cases leaf with
    | text text =>
      have haddress : Located.address ⟨key, .leaf origin (.text text)⟩ = .ok x := by
        have h : SocketAddress.ofText? text = some x := h
        rw [Located.address, Located.text]
        dsimp only
        rw [h]
      exact haddress
    | null | truth | integer | real => cases h
  | rate =>
    cases leaf with
    | real y | integer z =>
      cases h
      rfl
    | null | truth | text => cases h
  | burst =>
    obtain ⟨n, hn, hx⟩ := Option.bind_eq_some_iff.mp h
    rw [Option.ite_none_right_eq_some] at hx
    obtain ⟨hlt, hx⟩ := hx
    cases hx
    calc Located.burst ⟨key, .leaf origin leaf⟩
        = if n < 4294967296 then .ok (UInt32.ofNat n)
          else .error (.wrongType (.natural n) .unsigned32 key none) := by
          rw [Located.burst, natural_of_natural? hn]
      _ = .ok (UInt32.ofNat n) := if_pos hlt
  | expiresIn => exact natural_of_natural? h key origin
  | reclaimInterval => exact natural_of_natural? h key origin
  | maxVisitors =>
    by_cases hnull : leaf = .null
    · subst hnull
      cases h
      rfl
    · have htyped : maxVisitors.typed? leaf = leaf.natural?.map some := if_neg hnull
      rw [htyped] at h
      obtain ⟨n, hn, hx⟩ := Option.map_eq_some_iff.mp h
      cases hx
      exact cap_of_natural? hn key origin

/-- The value that a source tells a setting, if it is of the setting's kind. -/
def told? (k : Setting) (told : Told) : Option k.Kind :=
  (told.lookup k).bind fun tell => k.typed? tell.2

/-- Settings put together from one value for each. -/
def collect (x : (k : Setting) → k.Kind) : Settings :=
  ⟨x listen, ⟨x rate, x burst, x expiresIn, x reclaimInterval, x maxVisitors⟩⟩

/-- Settings with the same values are the same. -/
theorem ext_of {s t : Settings} (h : ∀ k : Setting, k.of s = k.of t) : s = t := by
  calc s = collect fun k => k.of s := rfl
    _ = collect fun k => k.of t := congrArg collect (funext h)
    _ = t := rfl

theorem of_collect (x : (k : Setting) → k.Kind) (k : Setting) : k.of (collect x) = x k := by
  cases k <;> rfl

end Setting

/-- Whether every value that is told is of the kind of its setting. -/
def Told.WellTyped (told : Told) : Prop :=
  ∀ tell ∈ told, (tell.1.typed? tell.2.2).isSome

instance (told : Told) : Decidable told.WellTyped := by
  unfold Told.WellTyped
  infer_instance

/-- A setting that is told is told a value of its kind, and is told none if it is not. -/
theorem Told.WellTyped.value?_cases {told : Told} (h : told.WellTyped) (k : Setting) :
    (told.value? k = none ∧ k.told? told = none) ∨
      ∃ origin leaf x, told.value? k = some (.leaf origin leaf) ∧ k.told? told = some x ∧
        k.typed? leaf = some x := by
  cases hlookup : told.lookup k with
  | none => exact .inl ⟨by rw [value?, hlookup]; rfl, by rw [Setting.told?, hlookup]; rfl⟩
  | some tell =>
    obtain ⟨before, after, rfl, -⟩ := List.lookup_eq_some_iff.mp hlookup
    obtain ⟨x, hx⟩ := Option.isSome_iff_exists.mp (h (k, tell) (by simp))
    refine .inr ⟨tell.1, tell.2, x, ?_, ?_, hx⟩
    · rw [value?, hlookup]
      rfl
    · rw [Setting.told?, hlookup]
      exact hx

/-- What is read at a setting that two sources tell values of its kind. -/
theorem Setting.readStanding_of_wellTyped {first second : Told} (hfirst : first.WellTyped)
    (hsecond : second.WellTyped) (k : Setting) :
    k.readStanding ((first.value? k).or (second.value? k)) =
      .ok (((k.told? first).or (k.told? second)).getD (k.of .blank)) := by
  obtain ⟨hv, ht⟩ | ⟨origin, leaf, x, hv, ht, hx⟩ := hfirst.value?_cases k
  · obtain ⟨hv', ht'⟩ | ⟨origin, leaf, x, hv', ht', hx⟩ := hsecond.value?_cases k
    · rw [hv, hv', ht, ht']
      rfl
    · rw [hv, hv', ht, ht']
      exact read_of_typed? hx k.key origin
  · rw [hv, ht]
    exact read_of_typed? hx k.key origin

namespace Settings

/-- Each setting is what its option says, or else the environment, or else the file, or else it
is blank, whatever they say of the others.  The interval of the reclaimer and the cap have no
option. -/
theorem load_layered {s : Surroundings} {path : Option String} {fromFile fromEnvironment : Told}
    (hfile : Source.toldByFile? s path = some fromFile)
    (henvironment : Source.toldByEnvironment? s = some fromEnvironment)
    (hfileTyped : fromFile.WellTyped) (henvironmentTyped : fromEnvironment.WellTyped)
    (o : Options) :
    ∃ settings, load s path = .ok settings ∧
      (∀ k : Setting, k.of (o.apply settings) =
        ((k.flag? o).or ((k.told? fromEnvironment).or (k.told? fromFile))).getD (k.of .blank)) ∧
      (o.apply settings).limiter.reclaimIntervalSecs = settings.limiter.reclaimIntervalSecs ∧
      (o.apply settings).limiter.maxVisitors = settings.limiter.maxVisitors := by
  refine ⟨Setting.collect fun k =>
    ((k.told? fromEnvironment).or (k.told? fromFile)).getD (k.of .blank), ?_, ?_, rfl, rfl⟩
  · rw [load_eq_ok_iff hfile henvironment]
    intro k
    rw [Setting.of_collect]
    exact Setting.readStanding_of_wellTyped henvironmentTyped hfileTyped k
  · intro k
    rw [Setting.of_apply, Setting.of_collect]
    cases k.flag? o <;> rfl

/-- A file with the address after the limits, a variable over the burst and one for the cap, and
an option for the rate. -/
theorem load_layered_of_three_sources :
    let s : Surroundings := ⟨"/srv", [("/srv/c.yaml",
        "limiter:\n  burst: 4\n  rate: 2.5\nserver:\n  listen_addr: 0.0.0.0:9000\n")],
      [("PATH", "/bin"), ("TOLLGATE__LIMITER__BURST", "9"),
        ("tollgate__limiter__max_visitors", "7")]⟩
    let o : Options := { Options.blank with rate := some (.ofNat 5) }
    ∃ settings, load s (some "c.yaml") = .ok settings ∧
      o.apply settings = ⟨.v4 ⟨#v[0, 0, 0, 0]⟩ 9000, ⟨.ofNat 5, 9, 0, 0, some 7⟩⟩ := by
  intro s o
  have hfile : Source.toldByFile? s (some "c.yaml") = some
      [(.burst, some (.file "c.yaml"), .integer 4),
        (.rate, some (.file "c.yaml"), .real (.ofRat (5 / 2))),
        (.listen, some (.file "c.yaml"), .text "0.0.0.0:9000")] := by
    decide +kernel
  have henvironment : Source.toldByEnvironment? s = some
      [(.burst, some .environment, .integer 9), (.maxVisitors, some .environment, .integer 7)] := by
    decide +kernel
  obtain ⟨settings, hload, hall, -, -⟩ :=
    load_layered hfile henvironment (by decide +kernel) (by decide +kernel) o
  refine ⟨settings, hload, Setting.ext_of fun k => (hall k).trans ?_⟩
  cases k <;> decide +kernel

/-- A number that needs all of 64 bits is rounded to 53 of them, unless it stands in quotes or
comes by an option. -/
theorem unquoted_number_rounded :
    (load ⟨"/srv", [("/srv/c.yaml", "limiter:\n  max_visitors: 9223372036854775809\n")], []⟩
        (some "c.yaml")).map (Setting.maxVisitors.of ·) =
          .ok (some 9223372036854775808 : Option Nat) ∧
      (load ⟨"/srv", [("/srv/c.yaml", "limiter:\n  max_visitors: '9223372036854775809'\n")], []⟩
        (some "c.yaml")).map (Setting.maxVisitors.of ·) =
          .ok (some 9223372036854775809 : Option Nat) ∧
      (load ⟨"/srv", [], [("TOLLGATE__LIMITER__EXPIRES_IN_SECS", "9223372036854775809")]⟩
        none).map (Setting.expiresIn.of ·) = .ok (9223372036854775808 : Nat) ∧
      CommandLine.parse [] ["--expires-in-secs", "9223372036854775809"] =
        .ok { Options.blank with expiresInSecs := some 9223372036854775809 } := by
  decide +kernel

end Settings

end Admission
