/-
Reading YAML text.

Tokens are put together to nodes, and nodes to values. An alias stands for the
node its anchor marks, and an entry under `<<` lends its mapping's entries to the
mapping it stands in, in front of that one's own. A key has to be a scalar, and
of two entries for one key the later one counts.

A text is refused as a whole, without saying where. What is wrong with its form
comes first, from front to back; then come scalars and keys, the outer ones
first.
-/
import ApiCommands.Document.Yaml.PlainValue
import ApiCommands.Document.Yaml.Token

namespace ApiCommands.Yaml

/-- A node: scalars are not interpreted yet. -/
inductive Node where
  | scalar (plain : Bool) (text : List Char)
  | sequence (items : List Node)
  | mapping (entries : List (Node × Node))
  deriving Repr

/-- The node of nothing at all. -/
def Node.empty : Node := .scalar true []

/-- The tokens left, and the anchors so far. One whose node is not finished has none. -/
structure Rest where
  tokens : List Token
  anchors : List (List Char × Option Node)

namespace Rest

/-- The rest without its first token. -/
def drop (r : Rest) : Rest := { r with tokens := r.tokens.drop 1 }

/-- The next token is one of these. -/
def startsWithAny (r : Rest) (ts : List Token) : Bool := r.tokens.head?.any ts.contains

/-- The next token cannot stand here. -/
def refuse (r : Rest) : Except Refusal α :=
  match r.tokens with
  | .broken why :: _ => .error why
  | _ => .error .malformed

/-- The rest after this token, which has to come next. -/
def expect (r : Rest) (t : Token) : Except Refusal Rest :=
  if r.startsWithAny [t] then .ok r.drop else r.refuse

end Rest

mutual

/-- A node: an alias, or content with an anchor or without. Blocks may stand here if `block`, and
a sequence no deeper than its key if `level`. -/
def node (fuel : Nat) (block level : Bool) (r : Rest) : Except Refusal (Node × Rest) :=
  match fuel with
  | 0 => .error .malformed
  | fuel + 1 =>
    match r.tokens with
    | .alias name :: _ =>
      match r.anchors.lookup name with
      | some (some n) => .ok (n, r.drop)
      | _ => .error .malformed
    | .anchor name :: _ =>
      if (r.anchors.lookup name).isSome then .error .malformed
      else do
        let (n, r) ← content fuel block level true ⟨r.tokens.drop 1, (name, none) :: r.anchors⟩
        return (n, { r with anchors := (name, some n) :: r.anchors })
    | _ => content fuel block level false r

/-- The content of a node. Only an anchor may mark an empty one. -/
def content (fuel : Nat) (block level anchored : Bool) (r : Rest) : Except Refusal (Node × Rest) :=
  match fuel with
  | 0 => .error .malformed
  | fuel + 1 => do
    match r.tokens with
    | .scalar plain text :: _ => return (.scalar plain text, r.drop)
    | .flowSequenceStart :: _ =>
      let (items, r) ← flowItems fuel true r.drop
      return (.sequence items, r)
    | .flowMappingStart :: _ =>
      let (entries, r) ← flowEntries fuel true r.drop
      return (.mapping entries, r)
    | .blockEntry :: _ =>
      if level then
        let (items, r) ← levelItems fuel r
        return (.sequence items, r)
      else if anchored then return (.empty, r)
      else r.refuse
    | .blockSequenceStart :: _ =>
      if block then
        let (items, r) ← blockItems fuel r.drop
        return (.sequence items, r)
      else if anchored then return (.empty, r)
      else r.refuse
    | .blockMappingStart :: _ =>
      if block then
        let (entries, r) ← blockEntries fuel r.drop
        return (.mapping entries, r)
      else if anchored then return (.empty, r)
      else r.refuse
    | .broken why :: _ => .error why
    | _ => if anchored then return (.empty, r) else r.refuse

/-- A node of a block, unless one of these tokens says that there is none. -/
def blockPart (fuel : Nat) (level : Bool) (ends : List Token) (r : Rest) :
    Except Refusal (Node × Rest) :=
  match fuel with
  | 0 => .error .malformed
  | fuel + 1 => if r.startsWithAny ends then .ok (.empty, r) else node fuel true level r

/-- A node of a flow collection, unless one of these tokens says that there is none. -/
def flowPart (fuel : Nat) (ends : List Token) (r : Rest) : Except Refusal (Node × Rest) :=
  match fuel with
  | 0 => .error .malformed
  | fuel + 1 => if r.startsWithAny ends then .ok (.empty, r) else node fuel false false r

/-- The items of a block sequence up to its end. -/
def blockItems (fuel : Nat) (r : Rest) : Except Refusal (List Node × Rest) :=
  match fuel with
  | 0 => .error .malformed
  | fuel + 1 => do
    if r.startsWithAny [.blockEntry] then
      let (item, r) ← blockPart fuel false [.blockEntry, .blockEnd] r.drop
      let (items, r) ← blockItems fuel r
      return (item :: items, r)
    else return ([], ← r.expect .blockEnd)

/-- The items of a sequence that stands no deeper than its key. -/
def levelItems (fuel : Nat) (r : Rest) : Except Refusal (List Node × Rest) :=
  match fuel with
  | 0 => .error .malformed
  | fuel + 1 => do
    if r.startsWithAny [.blockEntry] then
      let (item, r) ← blockPart fuel false [.blockEntry, .key, .value, .blockEnd] r.drop
      let (items, r) ← levelItems fuel r
      return (item :: items, r)
    else return ([], r)

/-- The value behind a key in a block, if a colon stands there. -/
def blockValue (fuel : Nat) (r : Rest) : Except Refusal (Node × Rest) :=
  match fuel with
  | 0 => .error .malformed
  | fuel + 1 =>
    if r.startsWithAny [.value] then blockPart fuel true [.key, .value, .blockEnd] r.drop
    else .ok (.empty, r)

/-- The entries of a block mapping up to its end. -/
def blockEntries (fuel : Nat) (r : Rest) : Except Refusal (List (Node × Node) × Rest) :=
  match fuel with
  | 0 => .error .malformed
  | fuel + 1 => do
    if r.startsWithAny [.key] then
      let (key, r) ← blockPart fuel true [.key, .value, .blockEnd] r.drop
      let (value, r) ← blockValue fuel r
      let (entries, r) ← blockEntries fuel r
      return ((key, value) :: entries, r)
    else return ([], ← r.expect .blockEnd)

/-- The value behind a key in a flow collection, if a colon stands there. -/
def flowValue (fuel : Nat) (closing : Token) (r : Rest) : Except Refusal (Node × Rest) :=
  match fuel with
  | 0 => .error .malformed
  | fuel + 1 =>
    if r.startsWithAny [.value] then flowPart fuel [.flowEntry, closing] r.drop
    else .ok (.empty, r)

/-- A key with its value in a flow collection; the key's mark has been read. -/
def flowPair (fuel : Nat) (closing : Token) (r : Rest) : Except Refusal ((Node × Node) × Rest) :=
  match fuel with
  | 0 => .error .malformed
  | fuel + 1 => do
    let (key, r) ← flowPart fuel [.value, .flowEntry, closing] r
    let (value, r) ← flowValue fuel closing r
    return ((key, value), r)

/-- The items of a flow sequence up to its end. A key makes an item a mapping of one entry. -/
def flowItems (fuel : Nat) (first : Bool) (r : Rest) : Except Refusal (List Node × Rest) :=
  match fuel with
  | 0 => .error .malformed
  | fuel + 1 => do
    if r.startsWithAny [.flowSequenceEnd] then return ([], r.drop)
    else
      let r ← if first then pure r else r.expect .flowEntry
      if r.startsWithAny [.flowSequenceEnd] then return ([], r.drop)
      else if r.startsWithAny [.key] then
        let (pair, r) ← flowPair fuel .flowSequenceEnd r.drop
        let (items, r) ← flowItems fuel false r
        return (.mapping [pair] :: items, r)
      else
        let (item, r) ← node fuel false false r
        let (items, r) ← flowItems fuel false r
        return (item :: items, r)

/-- The entries of a flow mapping up to its end. A node without a key's mark is a key without a
value. -/
def flowEntries (fuel : Nat) (first : Bool) (r : Rest) :
    Except Refusal (List (Node × Node) × Rest) :=
  match fuel with
  | 0 => .error .malformed
  | fuel + 1 => do
    if r.startsWithAny [.flowMappingEnd] then return ([], r.drop)
    else
      let r ← if first then pure r else r.expect .flowEntry
      if r.startsWithAny [.flowMappingEnd] then return ([], r.drop)
      else if r.startsWithAny [.key] then
        let (entry, r) ← flowPair fuel .flowMappingEnd r.drop
        let (entries, r) ← flowEntries fuel false r
        return (entry :: entries, r)
      else
        let (key, r) ← node fuel false false r
        let (entries, r) ← flowEntries fuel false r
        return ((key, .empty) :: entries, r)

end

/-- The one document of a stream of tokens. A stream without tokens holds an empty one. No node
takes more than four steps per token. -/
def document (tokens : List Token) : Except Refusal Node := do
  let fuel := 8 * tokens.length + 8
  let (n, r) ← match tokens with
    | [] => pure (Node.empty, ⟨[], []⟩)
    | .documentStart :: rest =>
      let r : Rest := ⟨rest, []⟩
      if r.tokens.isEmpty || r.startsWithAny [.documentStart, .documentEnd] then pure (.empty, r)
      else node fuel true false r
    | _ => node fuel true false ⟨tokens, []⟩
  let r : Rest := { r with tokens := r.tokens.dropWhile (· == .documentEnd) }
  if r.tokens.isEmpty then return n else r.refuse

-- ====================================================== values

namespace Node

/-- The node that lends entries. -/
def isMerge : Node → Bool
  | scalar true ['<', '<'] => true
  | _ => false

/-- The value of a scalar. `=` is a text where it is a key, and stands for nothing elsewhere. -/
def scalarValue (isKey plain : Bool) (text : List Char) : Except Refusal Scalar :=
  if !plain || (isKey && text == ['=']) then .ok (.text (String.ofList text))
  else if text == ['<', '<'] || text == ['='] then .error .malformed
  else
    match plainValue text with
    | .ok (.scalar s) => .ok s
    | .ok _ => .error .malformed
    | .error _ => .error .badScalar

mutual

/-- The entries that are lent to a mapping, and its own. -/
def split : List (Node × Node) → Except Refusal (List (Node × Node) × List (Node × Node))
  | [] => .ok ([], [])
  | (key, n) :: rest => do
    if key.isMerge then
      let entries ← lends n
      let (lent, own) ← split rest
      return (entries ++ lent, own)
    else
      let (lent, own) ← split rest
      return (lent, (key, n) :: own)

/-- The entries that a node under `<<` lends: its own, or those of its items. -/
def lends : Node → Except Refusal (List (Node × Node))
  | mapping entries => do
    let (lent, own) ← split entries
    return lent ++ own
  | sequence items => itemsLend items
  | scalar _ _ => .error .malformed

/-- The entries that items lend, those of the first item last. -/
def itemsLend : List Node → Except Refusal (List (Node × Node))
  | [] => .ok []
  | mapping entries :: rest => do
    let (lent, own) ← split entries
    return (← itemsLend rest) ++ (lent ++ own)
  | _ :: _ => .error .malformed

end

/-- The entries of a mapping, behind those that are lent to it. -/
def allEntries (entries : List (Node × Node)) : Except Refusal (List (Node × Node)) := do
  let (lent, own) ← split entries
  return lent ++ own

-- ====================================================== what is refused first

/-- The collections a node gives to look into: itself, if it is one. A scalar has to have a
value. -/
def openItem : Node → Except Refusal (List Node)
  | scalar plain text => (scalarValue false plain text).map fun _ => []
  | n => .ok [n]

/-- The collections an entry gives to look into. Its key has to be a scalar. -/
def openEntry : Node × Node → Except Refusal (List Node)
  | (scalar plain text, n) => do
    let _ ← scalarValue true plain text
    openItem n
  | _ => .error .malformed

/-- The collections directly inside a node. -/
def inner : Node → Except Refusal (List Node)
  | scalar plain text => openItem (scalar plain text)
  | sequence items => return (← items.mapM openItem).flatten
  | mapping entries => return (← (← allEntries entries).mapM openEntry).flatten

/-- Nodes looked through from the outside in, `fuel` being at least their depth. -/
def check : (fuel : Nat) → List Node → Except Refusal Unit
  | 0, _ => .ok ()
  | _, [] => .ok ()
  | fuel + 1, nodes => do check fuel (← nodes.mapM inner).flatten

-- ====================================================== the value

/-- The value of a node, `fuel` being more than its depth. -/
def value : (fuel : Nat) → Node → Except Refusal Value
  | _, scalar plain text => return .scalar (← scalarValue false plain text)
  | 0, _ => .error .malformed
  | fuel + 1, sequence items => return .list (← items.mapM (value fuel))
  | fuel + 1, mapping entries => do
    let pairs ← (← allEntries entries).mapM fun
      | (scalar plain text, n) => return (← scalarValue true plain text, ← value fuel n)
      | _ => .error .malformed
    return .map (Entries.ofList pairs)

end Node

/-- A whole text as a value. Every collection takes a token at least, so no node is deeper than
there are tokens. -/
def parse (s : String) : Except Refusal Value := do
  let tokens := tokens s.toList
  let n ← document tokens
  Node.check (tokens.length + 1) [n]
  n.value (tokens.length + 1)

end ApiCommands.Yaml
