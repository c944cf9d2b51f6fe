import Admission.Yaml.Node
import Admission.Yaml.Layout

/-!
# Documents

The documents that tokens make up.  An anchor gives the node after it a name, and an alias
stands for the node that its name was given last; inside that node itself it is hollow.

* `node?` — one node, by what its first token is;
* `documents?` — all documents of a list of tokens.
-/

namespace Admission.Yaml

/-- The tokens that are left, the numbers that anchors were given, the latest first, the nodes
of those numbers, and the next number. -/
structure Reading where
  tokens : List Token
  names : List (String × Nat)
  nodes : List (Nat × Node)
  next : Nat

namespace Reading

/-- A reading with other tokens left. -/
def withTokens (r : Reading) (tokens : List Token) : Reading :=
  { r with tokens := tokens }

/-- Gives the node after an anchor a number. -/
def name (r : Reading) (name : String) (tokens : List Token) : Nat × Reading :=
  (r.next, ⟨tokens, (name, r.next) :: r.names, r.nodes, r.next + 1⟩)

/-- Keeps the node of a number. -/
def keep (r : Reading) (number : Option Nat) (n : Node) : Node × Reading :=
  (n, match number with
    | some k => { r with nodes := (k, n) :: r.nodes }
    | none => r)

/-- The node that an alias stands for. -/
def named? (r : Reading) (name : String) : Option Node :=
  (r.names.lookup name).map fun number => (r.nodes.lookup number).getD .hollow

end Reading

/-- A node that is left out. -/
def absent : Node :=
  .scalar .null

/-- A node that is left out after an anchor: a text without characters. -/
def blank : Node :=
  .scalar (.text "")

/-- A mapping of keys and values in turn. -/
def mapping? (parts : List Node) : Option Node :=
  (Node.entriesOf? none [] parts).map .mapping

/-- Whether a token begins no node where a block entry or value may be left out. -/
def endsValue : Token → Bool
  | .key | .value | .blockEnd => true
  | _ => false

/-- Nodes with others before them. -/
def before (nodes : List Node) (rest : Option (List Node × Reading)) :
    Option (List Node × Reading) :=
  rest.map fun (others, r) => (nodes ++ others, r)

mutual

/-- A node, as long as `fuel` lasts.  `block` allows block collections, `indentless` a block
sequence that is not indented. -/
def node? (fuel : Nat) (block indentless : Bool) (r : Reading) : Option (Node × Reading) :=
  match fuel with
  | 0 => none
  | fuel + 1 =>
    match r.tokens with
    | .alias name :: rest => (r.named? name).map fun n => (n, r.withTokens rest)
    | .anchor name _ :: rest =>
      let (number, r) := r.name name rest
      content? fuel block indentless (some number) r
    | _ => content? fuel block indentless none r

/-- What stands after an anchor or without one. -/
def content? (fuel : Nat) (block indentless : Bool) (number : Option Nat) (r : Reading) :
    Option (Node × Reading) :=
  let leftOut := if number.isSome then some (r.keep number blank) else none
  match fuel with
  | 0 => none
  | fuel + 1 =>
    match r.tokens with
    | .plain text :: rest => some ((r.withTokens rest).keep number (.scalar (.ofPlain text)))
    | .quoted text :: rest => some ((r.withTokens rest).keep number (.scalar (.text text)))
    | .flowSequence :: rest => do
      let (items, r) ← flowItems? fuel true (r.withTokens rest)
      some (r.keep number (.sequence items))
    | .flowMapping :: rest => do
      let (parts, r) ← flowEntries? fuel true (r.withTokens rest)
      some (r.keep number (← mapping? parts))
    | .blockEntry :: _ =>
      if indentless then do
        let (items, r) ← looseItems? fuel r
        some (r.keep number (.sequence items))
      else leftOut
    | .blockSequence :: rest =>
      if block then do
        let (items, r) ← blockItems? fuel (r.withTokens rest)
        some (r.keep number (.sequence items))
      else leftOut
    | .blockMapping :: rest =>
      if block then do
        let (parts, r) ← blockEntries? fuel (r.withTokens rest)
        some (r.keep number (← mapping? parts))
      else leftOut
    | _ => leftOut

/-- The items of a block sequence up to its end. -/
def blockItems? (fuel : Nat) (r : Reading) : Option (List Node × Reading) :=
  match fuel with
  | 0 => none
  | fuel + 1 =>
    match r.tokens with
    | .blockEnd :: rest => some ([], r.withTokens rest)
    | .blockEntry :: rest =>
      match rest with
      | .blockEntry :: _ | .blockEnd :: _ =>
        before [absent] (blockItems? fuel (r.withTokens rest))
      | _ => do
        let (n, r) ← node? fuel true false (r.withTokens rest)
        before [n] (blockItems? fuel r)
    | _ => none

/-- The items of a block sequence that is not indented; it ends where no hyphen follows. -/
def looseItems? (fuel : Nat) (r : Reading) : Option (List Node × Reading) :=
  match fuel with
  | 0 => none
  | fuel + 1 =>
    match r.tokens with
    | .blockEntry :: rest =>
      if rest.head?.any fun t => endsValue t || t == .blockEntry then
        before [absent] (looseItems? fuel (r.withTokens rest))
      else do
        let (n, r) ← node? fuel true false (r.withTokens rest)
        before [n] (looseItems? fuel r)
    | _ => some ([], r)

/-- The keys and values of a block mapping up to its end, in turn. -/
def blockEntries? (fuel : Nat) (r : Reading) : Option (List Node × Reading) :=
  match fuel with
  | 0 => none
  | fuel + 1 =>
    match r.tokens with
    | .blockEnd :: rest => some ([], r.withTokens rest)
    | .key :: rest =>
      if rest.head?.any endsValue then do
        let (v, r) ← blockValue? fuel (r.withTokens rest)
        before [absent, v] (blockEntries? fuel r)
      else do
        let (k, r) ← node? fuel true true (r.withTokens rest)
        let (v, r) ← blockValue? fuel r
        before [k, v] (blockEntries? fuel r)
    | .value :: _ => do
      let (v, r) ← blockValue? fuel r
      before [absent, v] (blockEntries? fuel r)
    | _ => none

/-- The value of an entry of a block mapping; it may be left out. -/
def blockValue? (fuel : Nat) (r : Reading) : Option (Node × Reading) :=
  match fuel with
  | 0 => none
  | fuel + 1 =>
    match r.tokens with
    | .value :: rest =>
      if rest.head?.any endsValue then some (absent, r.withTokens rest)
      else node? fuel true true (r.withTokens rest)
    | _ => some (absent, r)

/-- The items of a sequence in brackets up to its end; all but the first follow a comma.  An item
that begins with a key is a mapping of one entry. -/
def flowItems? (fuel : Nat) (first : Bool) (r : Reading) : Option (List Node × Reading) :=
  match fuel with
  | 0 => none
  | fuel + 1 =>
    match first, r.tokens with
    | _, .flowSequenceEnd :: rest => some ([], r.withTokens rest)
    | false, .flowEntry :: rest => flowItems? fuel true (r.withTokens rest)
    | false, _ => none
    | true, .key :: rest => do
      let (n, r) ← flowPair? fuel (r.withTokens rest)
      before [n] (flowItems? fuel false r)
    | true, _ => do
      let (n, r) ← node? fuel false false r
      before [n] (flowItems? fuel false r)

/-- A mapping of one entry, after the token for its key.  Where the key is left out, the token
that shows it is passed over: a colon there begins no value. -/
def flowPair? (fuel : Nat) (r : Reading) : Option (Node × Reading) :=
  match fuel with
  | 0 => none
  | fuel + 1 => do
    let (k, r) ← match r.tokens with
      | .value :: rest | .flowEntry :: rest | .flowSequenceEnd :: rest =>
        some (absent, r.withTokens rest)
      | _ => node? fuel false false r
    let (v, r) ← match r.tokens with
      | .value :: rest =>
        match rest with
        | .flowEntry :: _ | .flowSequenceEnd :: _ => some (absent, r.withTokens rest)
        | _ => node? fuel false false (r.withTokens rest)
      | _ => some (absent, r)
    some (← mapping? [k, v], r)

/-- The keys and values of a mapping in braces up to its end, in turn; all entries but the first
follow a comma. -/
def flowEntries? (fuel : Nat) (first : Bool) (r : Reading) : Option (List Node × Reading) :=
  match fuel with
  | 0 => none
  | fuel + 1 =>
    match first, r.tokens with
    | _, .flowMappingEnd :: rest => some ([], r.withTokens rest)
    | false, .flowEntry :: rest => flowEntries? fuel true (r.withTokens rest)
    | false, _ => none
    | true, .key :: rest => do
      let (k, r) ← match rest with
        | .value :: _ | .flowEntry :: _ | .flowMappingEnd :: _ =>
          some (absent, r.withTokens rest)
        | _ => node? fuel false false (r.withTokens rest)
      let (v, r) ← flowValue? fuel r
      before [k, v] (flowEntries? fuel false r)
    | true, .value :: _ => do
      let (v, r) ← flowValue? fuel r
      before [absent, v] (flowEntries? fuel false r)
    | true, _ => do
      let (k, r) ← node? fuel false false r
      before [k, absent] (flowEntries? fuel false r)

/-- The value of an entry of a mapping in braces; it may be left out. -/
def flowValue? (fuel : Nat) (r : Reading) : Option (Node × Reading) :=
  match fuel with
  | 0 => none
  | fuel + 1 =>
    match r.tokens with
    | .value :: rest =>
      match rest with
      | .flowEntry :: _ | .flowMappingEnd :: _ => some (absent, r.withTokens rest)
      | _ => node? fuel false false (r.withTokens rest)
    | _ => some (absent, r)

end

/-- The node of a document; one without any content is null. -/
def document? (r : Reading) : Option (Node × Reading) :=
  match r.tokens with
  | [] | .documentStart :: _ | .documentEnd :: _ => some (absent, r)
  | _ => node? (6 * r.tokens.length + 6) true false r

/-- The tokens from which the next document is read; `bare` says that it needs no marker. -/
def contentOf? (bare : Bool) : List Token → Option (List Token)
  | .documentStart :: rest => some rest
  | tokens => if bare then some tokens else none

/-- The documents, as long as `fuel` lasts.  The first needs no marker, nor does one that follows
the marker for an end. -/
def documents? (fuel : Nat) (bare : Bool) (tokens : List Token) : Option (List Node) :=
  match fuel with
  | 0 => none
  | fuel + 1 =>
    match tokens with
    | [] => some []
    | .documentEnd :: rest => documents? fuel bare rest
    | _ => do
      let (n, r) ← document? ⟨← contentOf? bare tokens, [], [], 0⟩
      let others ← match r.tokens with
        | .documentEnd :: rest => documents? fuel true rest
        | rest => documents? fuel false rest
      some (n :: others)

/-- The documents of a text, or none if it has no reading. -/
def read? (text : String) : Option (List Node) :=
  (tokens? text).bind fun tokens => documents? (2 * tokens.length + 2) true tokens

end Admission.Yaml
