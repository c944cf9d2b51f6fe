import Admission.Proofs.Settings.Layers
import Admission.Proofs.Yaml.Integers

/-!
# Integers as settings

An integer may be written for the burst without quotes, in quotes, or in a variable, and in any
number of digits.  What is loaded is that integer or nothing, with one exception: an integer that
64 bits do not hold is read as a real number, and a negative real number is made zero, so that an
integer below `-2 ^ 63` passes for the zero that leaves the burst to the store.

* `Leaf.ofInteger` — what a decimal without quotes is read as;
* `Located.burst_ofInteger_eq_ok_iff` — what is taken for the burst;
* `Leaf.Shows`, `Located.burst_of_shows` — the ways to write an integer, and what they come to;
* `Settings.burst_of_written` — what is loaded where an integer is written for the burst;
* `Settings.ofText_line_eq_ok_iff`, `load_variable_eq_ok_iff` — a text and a variable that write
  nothing else, for every decimal.
-/

namespace Admission

/-! ## What an integer is read as -/

/-- What a decimal without quotes is read as: an integer if it is held in 64 bits, and else the
nearest real number. -/
def Leaf.ofInteger (v : Int) : Leaf :=
  match Yaml.Scalar.held? v with
  | some z => .integer z
  | none => .real (Decimal.nearest (v < 0) v.natAbs 0)

open Yaml.Scalar in
/-- A decimal without quotes is read as an integer, or as the nearest real number. -/
theorem Value.ofScalar?_of_readInt? {number : String} {v : Int}
    (h : Decimal.readInt? number.toList = some v) :
    ofScalar? (.ofPlain number) = some (.ofInteger v) := by
  have hbegins := (Writes.decimal h).beginsNumber
  unfold Yaml.Scalar.ofPlain Leaf.ofInteger
  rw [integer?_of_readInt? h]
  cases hheld : held? v with
  | some z => rfl
  | none =>
    have hread := Decimal.readBinary64?_of_readInt? h hheld
    have hnull : ["~", "null"].contains number = false := by
      have h1 := ne_of_beginsNumber hbegins "~" (by decide)
      have h2 := ne_of_beginsNumber hbegins "null" (by decide)
      simp [h1, h2]
    simp only [hnull, Bool.false_eq_true, if_false,
      if_neg (ne_of_beginsNumber hbegins "true" (by decide)),
      if_neg (ne_of_beginsNumber hbegins "false" (by decide)), hread, Option.isSome_some,
      Bool.or_true, if_true, ofScalar?, Option.map_some]

open Yaml.Scalar in
/-- A decimal in a variable is read the same way. -/
theorem Source.variableValue_of_readInt? {number : String} {v : Int}
    (h : Decimal.readInt? number.toList = some v) : variableValue number = .ofInteger v := by
  have hlower := beginsNumber_lowerName (Writes.decimal h).beginsNumber
  unfold variableValue Leaf.ofInteger
  split
  · rename_i heq; exact absurd heq (ne_of_beginsNumber hlower _ (by decide))
  · rename_i heq; exact absurd heq (ne_of_beginsNumber hlower _ (by decide))
  · rw [h, Option.bind_some]
    cases hheld : held? v with
    | some z => rfl
    | none => simp only [Decimal.readBinary64?_of_readInt? h hheld]

/-! ## What is taken -/

namespace Located

variable {key : String} {origin : Option Origin} {v : Int}

/-- An integer below 64 bits becomes zero. -/
theorem natural_ofInteger_of_lt (h : v < -2 ^ 63) :
    natural ⟨key, .leaf origin (.ofInteger v)⟩ = .ok 0 := by
  have hnone : Yaml.Scalar.held? v = none := if_neg (by omega)
  have hneg : decide (v < 0) = true := decide_eq_true (by omega)
  have hleaf : Leaf.ofInteger v = .real (Decimal.nearest true v.natAbs 0) := by
    rw [Leaf.ofInteger, hnone, hneg]
  rw [hleaf, ← Decimal.toBounded_nearest_negative greatest64 v.natAbs 0]
  rfl

/-- An integer above 63 bits stays above them. -/
theorem natural_ofInteger_of_le (h : 2 ^ 63 ≤ v) :
    ∃ n, natural ⟨key, .leaf origin (.ofInteger v)⟩ = .ok n ∧ 2 ^ 63 ≤ n := by
  have hnone : Yaml.Scalar.held? v = none := if_neg (by omega)
  have hpos : decide (v < 0) = false := decide_eq_false (by omega)
  have hleaf : Leaf.ofInteger v = .real (Decimal.nearest false v.natAbs 0) := by
    rw [Leaf.ofInteger, hnone, hpos]
  rw [hleaf]
  exact ⟨_, rfl, Decimal.le_toBounded_nearest (by decide) (by omega)⟩

/-- Between them an integer without a sign is taken, and one with a sign is refused. -/
theorem natural_ofInteger_eq_ok_iff (hlow : -2 ^ 63 ≤ v) (hhigh : v < 2 ^ 63) (n : Nat) :
    natural ⟨key, .leaf origin (.ofInteger v)⟩ = .ok n ↔ (n : Int) = v := by
  have hheld : Yaml.Scalar.held? v = some v := if_pos (by omega)
  have hleaf : Leaf.ofInteger v = .integer v := by
    rw [Leaf.ofInteger, hheld]
  rw [hleaf, natural]
  dsimp only
  split
  case isTrue h =>
    rw [Except.ok.injEq]
    omega
  case isFalse h =>
    simp only [reduceCtorEq, false_iff]
    omega

/-- A burst is a natural number that fits in 32 bits. -/
theorem burst_eq_ok_iff (l : Located) (b : UInt32) : l.burst = .ok b ↔ l.natural = .ok b.toNat := by
  have hb : b.toNat < 4294967296 := b.toNat_lt
  unfold burst
  cases l.natural with
  | error e => simp
  | ok n =>
    dsimp only
    rw [Except.ok.injEq]
    split
    case isTrue h =>
      rw [Except.ok.injEq]
      constructor
      · rintro rfl
        exact (UInt32.toNat_ofNat_of_lt h).symm
      · rintro rfl
        exact UInt32.ofNat_toNat
    case isFalse h =>
      simp only [reduceCtorEq, false_iff]
      omega

/-- What is taken for the burst when an integer is written without quotes: the integer itself, or
zero for one below 64 bits. -/
theorem burst_ofInteger_eq_ok_iff (b : UInt32) :
    burst ⟨key, .leaf origin (.ofInteger v)⟩ = .ok b ↔
      (b.toNat : Int) = v ∨ v < -2 ^ 63 ∧ b = 0 := by
  have hb : b.toNat < 2 ^ 32 := b.toNat_lt
  have hzero : b.toNat = 0 ↔ b = 0 := by
    rw [← UInt32.toNat_inj]
    rfl
  rw [burst_eq_ok_iff]
  by_cases hlow : v < -2 ^ 63
  · rw [natural_ofInteger_of_lt hlow, Except.ok.injEq, eq_comm, hzero]
    constructor
    · intro h
      exact .inr ⟨hlow, h⟩
    · rintro (h | ⟨-, h⟩)
      · omega
      · exact h
  · by_cases hhigh : v < 2 ^ 63
    · rw [natural_ofInteger_eq_ok_iff (by omega) hhigh]
      omega
    · obtain ⟨n, hn, hle⟩ : ∃ n, natural ⟨key, .leaf origin (.ofInteger v)⟩ = .ok n ∧
          2 ^ 63 ≤ n := natural_ofInteger_of_le (not_lt.mp hhigh)
      rw [hn, Except.ok.injEq]
      omega

/-- What begins as a number does is no word for one or zero. -/
theorem switch?_of_beginsNumber {text : String}
    (h : Yaml.Scalar.beginsNumber text.toList = true) : switch? text = none := by
  have hlower := Yaml.Scalar.beginsNumber_lowerName h
  have hne : ∀ word ∈ ["true", "on", "yes", "false", "off", "no"],
      Header.lowerName text ≠ word := by
    intro word hword
    refine Yaml.Scalar.ne_of_beginsNumber hlower word ?_
    revert word
    decide
  simp only [List.forall_mem_cons, List.not_mem_nil, false_imp_iff, implies_true,
    and_true] at hne
  obtain ⟨h1, h2, h3, h4, h5, h6⟩ := hne
  simp [switch?, h1, h2, h3, h4, h5, h6]

/-- A text that begins as a number does is read as a decimal without a minus sign. -/
theorem natural_text_eq_ok {text : String} {n : Nat}
    (h : Yaml.Scalar.beginsNumber text.toList = true)
    (hn : natural ⟨key, .leaf origin (.text text)⟩ = .ok n) :
    Decimal.readInt? text.toList = some n := by
  unfold natural at hn
  dsimp only at hn
  rw [switch?_of_beginsNumber h] at hn
  dsimp only at hn
  split at hn
  case h_2 => cases hn
  case h_1 m hread =>
    cases hn
    unfold Decimal.readNat? at hread
    split at hread
    case h_1 => cases hread
    case h_2 hminus =>
      obtain ⟨z, hz, hm⟩ := Option.bind_eq_some_iff.mp hread
      rw [Option.ite_none_right_eq_some] at hm
      obtain ⟨negative, digits, hnumeral, rfl⟩ := Decimal.exists_numeral_of_readInt? hz
      obtain ⟨rfl, hspelled⟩ | ⟨rfl, -⟩ := hnumeral.spelled
      · exact absurd hspelled (hminus _)
      · rw [hz, ← Option.some.inj hm.2]
        rfl

end Located

/-! ## The ways to write an integer -/

/-- The values that a text makes: without quotes or in quotes in a file, and in a variable. -/
inductive Leaf.Shows (number : String) : Leaf → Prop where
  | plain {leaf : Leaf} (h : Value.ofScalar? (.ofPlain number) = some leaf) : Shows number leaf
  | quoted : Shows number (.text number)
  | exported : Shows number (Source.variableValue number)

namespace Yaml.Scalar

variable {mark : Char} {digits : List Char}

/-- A number that is marked as hexadecimal or octal stays text where it stands in a variable. -/
theorem variableValue_of_mark {number : String} (hmark : mark = 'x' ∨ mark = 'o')
    (hnumber : number.toList = '0' :: mark :: digits) :
    Source.variableValue number = .text number := by
  have hdigit : mark.isDigit = false := by
    rcases hmark with rfl | rfl <;> rfl
  have hbegins : beginsNumber number.toList = true := by
    rw [hnumber]
    rfl
  have hlower := beginsNumber_lowerName hbegins
  unfold Source.variableValue
  split
  · rename_i heq; exact absurd heq (ne_of_beginsNumber hlower _ (by decide))
  · rename_i heq; exact absurd heq (ne_of_beginsNumber hlower _ (by decide))
  · rw [hnumber, readInt?_of_mark hdigit, readBinary64?_of_mark hmark]
    rfl

/-- What is written for an integer is read as that integer, or else kept as a text. -/
theorem Writes.leaf_of_shows {number : String} {v : Int} {leaf : Leaf}
    (h : Writes number.toList v) (hshows : leaf.Shows number) :
    leaf = .ofInteger v ∨ leaf = .text number := by
  generalize hnumber : number.toList = text at h
  cases h with
  | decimal h =>
    rw [← hnumber] at h
    cases hshows with
    | plain hplain =>
      rw [Value.ofScalar?_of_readInt? h] at hplain
      exact .inl (Option.some.inj hplain).symm
    | quoted => exact .inr rfl
    | exported => exact .inl (Source.variableValue_of_readInt? h)
  | @based mark base digits values hmark hvalues hne =>
    have hletter : mark = 'x' ∨ mark = 'o' := hmark.imp And.left And.left
    have hinteger : integer? number.toList =
        held? (values.foldl (fun n d => n * base + d) 0 : Nat) := by
      rw [hnumber]
      exact (Writes.based hmark hvalues hne).integer?_eq
    cases hshows with
    | plain hplain =>
      cases hheld : held? (values.foldl (fun n d => n * base + d) 0 : Nat) with
      | some z =>
        have hscalar : ofPlain number = .integer z := by
          rw [ofPlain, hinteger, hheld]
        rw [hscalar] at hplain
        rw [Leaf.ofInteger, hheld]
        exact .inl (Option.some.inj hplain).symm
      | none =>
        rw [ofPlain_of_mark hletter hnumber (hinteger.trans hheld)] at hplain
        exact .inr (Option.some.inj hplain).symm
    | quoted => exact .inr rfl
    | exported => exact .inr (variableValue_of_mark hletter hnumber)

end Yaml.Scalar

/-- Whatever way an integer is written, it is taken for the burst as it is, or it is below 64 bits
and taken for zero. -/
theorem Located.burst_of_shows {number : String} {v : Int} {leaf : Leaf}
    (h : Yaml.Scalar.Writes number.toList v) (hshows : leaf.Shows number) {key : String}
    {origin : Option Origin} {b : UInt32} (hb : burst ⟨key, .leaf origin leaf⟩ = .ok b) :
    (b.toNat : Int) = v ∨ v < -2 ^ 63 ∧ b = 0 := by
  obtain rfl | rfl := h.leaf_of_shows hshows
  · exact (burst_ofInteger_eq_ok_iff b).mp hb
  · have hread := natural_text_eq_ok h.beginsNumber ((burst_eq_ok_iff _ b).mp hb)
    generalize hnumber : number.toList = text at h
    rw [hnumber] at hread
    cases h with
    | decimal h => exact .inl (Option.some.inj (hread.symm.trans h))
    | @based mark base digits values hmark hvalues hne =>
      have hdigit : mark.isDigit = false := by
        obtain ⟨rfl, -⟩ | ⟨rfl, -⟩ := hmark <;> rfl
      rw [Yaml.Scalar.readInt?_of_mark hdigit] at hread
      cases hread

/-! ## The option -/

namespace CommandLine

theorem argument_burst (number : String) :
    Parsing.argument ⟨.blank, none⟩ ("--burst=" ++ number) =
      (accept .blank .burst number).map fun o => ⟨o, none⟩ := by
  have htext : ("--burst=" ++ number).toList =
      '-' :: '-' :: ("burst".toList ++ '=' :: number.toList) := by
    rw [String.toList_append]
    rfl
  unfold Parsing.argument
  rw [htext]
  have hlong : Parsing.long ⟨.blank, none⟩ ("burst".toList ++ '=' :: number.toList) =
      Parsing.valued ⟨.blank, none⟩ .burst (some (String.ofList number.toList)) := by
    rfl
  change Parsing.long ⟨.blank, none⟩ ("burst".toList ++ '=' :: number.toList) = _
  rw [hlong, String.ofList_toList]
  cases h : accept .blank .burst number with
  | error stop => simp [Parsing.valued, Parsing.settled, h, bind, Except.bind, Except.map]
  | ok o =>
    simp [Parsing.valued, Parsing.settled, h, bind, Except.bind, Except.map, pure, Except.pure]

/-- The option for the burst takes the text after it. -/
theorem parse_burst {number : String} {b : UInt32} (h : readBurst? number.toList = some b) :
    parse [] ["--burst=" ++ number] = .ok { Options.blank with burst := some b } := by
  have hne : "--burst=" ++ number ≠ "--" := by
    intro heq
    have := congrArg (fun text => text.toList.length) heq
    simp at this
  have haccept : accept .blank .burst number = .ok { Options.blank with burst := some b } := by
    rw [accept, h]
    rfl
  have hread : readArguments ⟨.blank, none⟩ ["--burst=" ++ number] =
      .ok { Options.blank with burst := some b } := by
    rw [readArguments, if_neg hne, argument_burst, haccept]
    rfl
  rw [parse, hread]
  rfl

/-- An integer that is a burst is read as that burst. -/
theorem readBurst?_of_readInt? {number : String} {v : Int} {b : UInt32}
    (h : Decimal.readInt? number.toList = some v) (hb : (b.toNat : Int) = v) :
    readBurst? number.toList = some b := by
  have hlt : b.toNat < 2 ^ 32 := b.toNat_lt
  rw [readBurst?, h, Option.bind_some, if_pos (by omega), ← hb, Int.toNat_natCast,
    UInt32.ofNat_toNat]

end CommandLine

/-! ## What is loaded -/

namespace Settings

/-- What a text has set the burst to that writes an integer there: the integer, which the option
takes too where it is a decimal; or zero, for an integer below 64 bits. -/
def BurstWritten (number : String) (v : Int) (settings : Settings) : Prop :=
  ((settings.limiter.burst.toNat : Int) = v ∧
      (Decimal.readInt? number.toList = some v → CommandLine.parse [] ["--burst=" ++ number] =
        .ok { Options.blank with burst := some settings.limiter.burst })) ∨
    v < -2 ^ 63 ∧ settings.limiter.burst = 0

theorem burstWritten_of_read {number : String} {v : Int} {leaf : Leaf} {origin : Option Origin}
    {settings : Settings} (hwritten : Yaml.Scalar.Writes number.toList v)
    (hshows : leaf.Shows number) (hread : Setting.burst.readStanding (some (.leaf origin leaf)) =
      .ok settings.limiter.burst) : settings.BurstWritten number v := by
  obtain hv | hlow := Located.burst_of_shows hwritten hshows hread
  · exact .inl ⟨hv, fun hdecimal =>
      CommandLine.parse_burst (CommandLine.readBurst?_of_readInt? hdecimal hv)⟩
  · exact .inr hlow

/-- **A written burst is taken as it is, or nothing is loaded, or zero is.**  This holds whatever
way the integer is written, in a text on its own, or in a file or over it in the environment, and
whatever else stands there.  Only an integer below `-2 ^ 63` is loaded as zero. -/
theorem burst_of_written {number : String} {v : Int} {leaf : Leaf} (origin : Option Origin)
    (hwritten : Yaml.Scalar.Writes number.toList v) (hshows : leaf.Shows number) :
    (∀ text told, Source.toldByText? text = some told →
      told.lookup .burst = some (origin, leaf) →
      ∀ settings, ofText text = .ok settings → settings.BurstWritten number v) ∧
    (∀ s path fromFile fromEnvironment, Source.toldByFile? s path = some fromFile →
      Source.toldByEnvironment? s = some fromEnvironment →
      (fromEnvironment.lookup .burst).or (fromFile.lookup .burst) = some (origin, leaf) →
      ∀ settings, load s path = .ok settings → settings.BurstWritten number v) := by
  constructor
  · intro text told htext htold settings hload
    have hread := (ofText_eq_ok_iff htext settings).mp hload .burst
    have hvalue : told.value? .burst = some (.leaf origin leaf) := by
      rw [Told.value?, htold]
      rfl
    rw [hvalue] at hread
    exact burstWritten_of_read hwritten hshows hread
  · intro s path fromFile fromEnvironment hfile henvironment htold settings hload
    have hread := (load_eq_ok_iff hfile henvironment settings).mp hload .burst
    have hvalue : (fromEnvironment.value? .burst).or (fromFile.value? .burst) =
        some (.leaf origin leaf) := by
      rw [Told.value?, Told.value?, ← Option.map_or, htold]
      rfl
    rw [hvalue] at hread
    exact burstWritten_of_read hwritten hshows hread

/-- A burst in base 16 over one in the file. -/
theorem burst_of_written_in_base_16 :
    ∃ settings, load ⟨"/srv", [("/srv/c.yaml", "limiter:\n  burst: 0x10\n")],
        [("TOLLGATE__LIMITER__RATE", "2")]⟩ (some "c.yaml") = .ok settings ∧
      settings.BurstWritten "0x10" 16 := by
  have hwritten : Yaml.Scalar.Writes "0x10".toList 16 :=
    .based (.inl ⟨rfl, rfl⟩) (by decide : ['1', '0'].mapM (digitIn? 16) = some [1, 0]) (by decide)
  have hshows : Leaf.Shows "0x10" (.integer 16) := .plain (by decide +kernel)
  have hload : load ⟨"/srv", [("/srv/c.yaml", "limiter:\n  burst: 0x10\n")],
      [("TOLLGATE__LIMITER__RATE", "2")]⟩ (some "c.yaml") =
        .ok ⟨defaultListen, ⟨.ofNat 2, 16, 0, 0, none⟩⟩ := by
    decide +kernel
  exact ⟨_, hload, (burst_of_written (some (.file "c.yaml")) hwritten hshows).2 _ _
    [(.burst, some (.file "c.yaml"), .integer 16)] [(.rate, some .environment, .integer 2)]
    (by decide +kernel) (by decide +kernel) (by decide) _ hload⟩

/-- **Below 64 bits an integer passes for zero**, in a text as in a variable, where the one before
it is refused, and where the option refuses both. -/
theorem burst_below_range_loaded_as_zero :
    (ofText "limiter:\n  burst: -9223372036854775809\n").map (Setting.burst.of ·) =
        .ok (0 : UInt32) ∧
      (load ⟨"/srv", [], [("TOLLGATE__LIMITER__BURST", "-9223372036854775809")]⟩ none).map
        (Setting.burst.of ·) = .ok (0 : UInt32) ∧
      (ofText "limiter:\n  burst: -9223372036854775808\n").toOption = none ∧
      CommandLine.parse [] ["--burst=-9223372036854775809"] =
        .error (.refused .valueValidation) := by
  decide +kernel

end Settings

/-! ## The burst alone -/

namespace Settings

variable {number : String} {v : Int}

/-- A text that sets the burst to a decimal, and nothing else, tells that. -/
theorem toldByText?_line (h : Decimal.readInt? number.toList = some v) :
    Source.toldByText? ("limiter:\n  burst: " ++ number ++ "\n") =
      some [(.burst, none, .ofInteger v)] := by
  obtain ⟨negative, digits, hnumeral, -⟩ := Decimal.exists_numeral_of_readInt? h
  have hentries : Source.ofText none ("limiter:\n  burst: " ++ number ++ "\n") =
      .ok [("limiter", .table none [("burst", .leaf none (.ofInteger v))])] := by
    unfold Source.ofText
    rw [Yaml.read?_line hnumeral.isWord]
    simp only [Value.ofNode, Value.ofEntries, Value.keyText?, Value.ofScalar?_of_readInt? h]
    rfl
  rw [Source.toldByText?, hentries]
  rfl

/-- A variable that sets the burst to a decimal tells that. -/
theorem toldByEnvironment?_variable (h : Decimal.readInt? number.toList = some v) {name : String}
    (hname : Header.lowerName name = "tollgate__limiter__burst") (directory : String)
    (files : List (String × String)) :
    Source.toldByEnvironment? ⟨directory, files, [(name, number)]⟩ =
      some [(.burst, some .environment, .ofInteger v)] := by
  rw [Source.toldByEnvironment?, Source.told?, Source.toldBy?_of_variable .burst hname,
    Source.variableValue_of_readInt? h]
  rfl

/-- Told of the burst alone, the settings are blank but for it. -/
theorem readStanding_burst_alone_iff (origin : Option Origin) (settings : Settings) :
    (∀ k : Setting, k.readStanding (Told.value? [(.burst, origin, .ofInteger v)] k) =
        .ok (k.of settings)) ↔
      ∃ b : UInt32, settings = ⟨defaultListen, { LimiterSettings.blank with burst := b }⟩ ∧
        ((b.toNat : Int) = v ∨ v < -2 ^ 63 ∧ b = 0) := by
  constructor
  · intro h
    refine ⟨settings.limiter.burst, Setting.ext_of fun k => ?_,
      (Located.burst_ofInteger_eq_ok_iff _).mp (h .burst)⟩
    cases k with
    | burst => rfl
    | listen => exact (Except.ok.inj (h .listen)).symm
    | rate => exact (Except.ok.inj (h .rate)).symm
    | expiresIn => exact (Except.ok.inj (h .expiresIn)).symm
    | reclaimInterval => exact (Except.ok.inj (h .reclaimInterval)).symm
    | maxVisitors => exact (Except.ok.inj (h .maxVisitors)).symm
  · rintro ⟨b, rfl, hb⟩ k
    cases k with
    | burst => exact (Located.burst_ofInteger_eq_ok_iff b).mpr hb
    | _ => rfl

/-- What becomes of a text that sets the burst to a decimal of any size. -/
theorem ofText_line_eq_ok_iff (h : Decimal.readInt? number.toList = some v) (settings : Settings) :
    ofText ("limiter:\n  burst: " ++ number ++ "\n") = .ok settings ↔
      ∃ b : UInt32, settings = ⟨defaultListen, { LimiterSettings.blank with burst := b }⟩ ∧
        ((b.toNat : Int) = v ∨ v < -2 ^ 63 ∧ b = 0) := by
  rw [ofText_eq_ok_iff (toldByText?_line h)]
  exact readStanding_burst_alone_iff none settings

/-- What becomes of a variable that sets the burst to one. -/
theorem load_variable_eq_ok_iff (h : Decimal.readInt? number.toList = some v) {name : String}
    (hname : Header.lowerName name = "tollgate__limiter__burst") (directory : String)
    (files : List (String × String)) (settings : Settings) :
    load ⟨directory, files, [(name, number)]⟩ none = .ok settings ↔
      ∃ b : UInt32, settings = ⟨defaultListen, { LimiterSettings.blank with burst := b }⟩ ∧
        ((b.toNat : Int) = v ∨ v < -2 ^ 63 ∧ b = 0) := by
  have hfile : Source.toldByFile? ⟨directory, files, [(name, number)]⟩ none = some [] := rfl
  rw [load_eq_ok_iff hfile (toldByEnvironment?_variable h hname directory files),
    ← readStanding_burst_alone_iff (some .environment)]
  refine forall_congr' fun k => ?_
  have hnone : Told.value? [] k = none := rfl
  rw [hnone, Option.or_none]

end Settings

end Admission
