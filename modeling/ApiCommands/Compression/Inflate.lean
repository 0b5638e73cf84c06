/-
Deflated data.

Data is a row of blocks: bytes as they are, or literals and references to what
has been written before, each under a prefix code that is fixed or stands in front
of the block. Data that breaks off gives what could be read; data that cannot
be right gives a problem.

# Prefix codes

A code is given by the lengths of its words. Words of one length are given out in
the order of their symbols, and the words of each length follow those that are
shorter. So a code is known by its symbols of each length, and it is read level by
level: among the words still open at a level the lower ones are complete, the
others go on.
-/

namespace ApiCommands.Compression

/-- Why reading bits stops. -/
inductive Halt (ε : Type) where
  /-- There are no more bits. -/
  | truncated
  | broken (problem : ε)
  deriving DecidableEq, Repr

/-- A prefix code: the symbols of each length of words, from one bit on. -/
structure PrefixCode where
  levels : List (List Nat)

namespace PrefixCode

/-- The symbols whose words have a length. -/
def symbolsOf (lengths : List Nat) (length : Nat) : List Nat :=
  (lengths.zipIdx.filter fun (n, _) => n == length).map (·.2)

/-- The code of the lengths of its words, by symbol; a symbol without a word has length zero. -/
def ofLengths (lengths : List Nat) : PrefixCode :=
  let longest := lengths.foldl max 1
  ⟨(List.range longest).map fun n => symbolsOf lengths (n + 1)⟩

/-- How many words are left open below the words of the levels, which start with so many; none if
there are more words than that. -/
def openWords? : Nat → List (List Nat) → Option Nat
  | n, [] => some n
  | n, level :: more =>
    if 2 * n < level.length then none else openWords? (2 * n - level.length) more

/-- The code has no symbols. -/
def isEmpty (c : PrefixCode) : Bool := c.levels.all (·.isEmpty)

/-- Every row of bits that is long enough starts with a word. -/
def isComplete (c : PrefixCode) : Bool := openWords? 1 c.levels == some 0

/-- The code is complete, or it has a single word of one bit or none at all. -/
def isUsable (c : PrefixCode) : Bool :=
  c.isEmpty || c.isComplete || (c.levels.length == 1 && (openWords? 1 c.levels).isSome)

/-- The symbol of the word at the front of the bits: `place` counts the words still open at the
level before, and bits that start no word are a problem. -/
def readFrom (problem : ε) : (levels : List (List Nat)) → (place : Nat) → List Bool →
    Except (Halt ε) (Nat × List Bool)
  | [], _, _ => .error (.broken problem)
  | _ :: _, _, [] => .error .truncated
  | level :: more, place, b :: bits =>
    let place := 2 * place + b.toNat
    match level[place]? with
    | some symbol => .ok (symbol, bits)
    | none => readFrom problem more (place - level.length) bits

/-- The symbol of the word at the front of the bits. -/
def read (c : PrefixCode) (problem : ε) (bits : List Bool) :
    Except (Halt ε) (Nat × List Bool) :=
  readFrom problem c.levels 0 bits

end PrefixCode

/-- What is wrong with deflated data. -/
inductive DeflateProblem where
  | blockType
  | storedLengths
  | tooManySymbols
  | lengthsCode
  | lengthRepeat
  | noEndOfBlock
  | literalsCode
  | distancesCode
  | literal
  | distance
  | tooFarBack
  deriving DecidableEq, Repr

/-- The words for a problem. -/
def DeflateProblem.text : DeflateProblem → String
  | blockType => "invalid block type"
  | storedLengths => "invalid stored block lengths"
  | tooManySymbols => "too many length or distance symbols"
  | lengthsCode => "invalid code lengths set"
  | lengthRepeat => "invalid bit length repeat"
  | noEndOfBlock => "invalid code -- missing end-of-block"
  | literalsCode => "invalid literal/lengths set"
  | distancesCode => "invalid distances set"
  | literal => "invalid literal/length code"
  | distance => "invalid distance code"
  | tooFarBack => "invalid distance too far back"

namespace Inflate

/-- Reading from the front of bits. -/
abbrev Reading := StateT (List Bool) (Except (Halt DeflateProblem))

/-- Reading stops at a problem. -/
def fail (p : DeflateProblem) : Reading α := throw (.broken p)

/-- The bits of bytes, the lowest bit of each first. -/
def bitsOf (bytes : List Nat) : List Bool :=
  bytes.flatMap fun b => (List.range 8).map b.testBit

/-- The number of bits, the lowest first. -/
def valueOf (bits : List Bool) : Nat := bits.foldr (fun b value => 2 * value + b.toNat) 0

/-- A number of so many bits. -/
def number (n : Nat) : Reading Nat := do
  let bits ← get
  if bits.length < n then throw .truncated
  else
    set (bits.drop n)
    return valueOf (bits.take n)

/-- The symbol of the next word of a code. -/
def symbol (code : PrefixCode) (problem : DeflateProblem) : Reading Nat :=
  fun bits => code.read problem bits

-- ====================================================== compressed blocks

/-- The codes of a block. -/
structure Codes where
  literals : PrefixCode
  distances : PrefixCode

/-- The codes of blocks that bring none. -/
def fixedCodes : Codes :=
  { literals := .ofLengths (List.replicate 144 8 ++ List.replicate 112 9 ++ List.replicate 24 7
      ++ List.replicate 8 8)
    distances := .ofLengths (List.replicate 32 5) }

/-- For a row of symbols, in groups of so many: each group has one more bit than the one before. -/
def baseAndExtra (group start : Nat) (n : Nat) : Nat × Nat :=
  if n < 2 * group then (start + n, 0)
  else
    let extra := n / group - 1
    (start + (group + n % group) * Nat.pow 2 extra, extra)

/-- The length of a reference. -/
def matchLength (symbol : Nat) : Reading Nat := do
  if symbol = 285 then return 258
  else if 285 < symbol then fail .literal
  else
    let (base, extra) := baseAndExtra 4 3 (symbol - 257)
    return base + (← number extra)

/-- How far back a reference goes. -/
def matchDistance (code : PrefixCode) : Reading Nat := do
  let symbol ← symbol code .distance
  if 29 < symbol then fail .distance
  else
    let (base, extra) := baseAndExtra 2 1 symbol
    return base + (← number extra)

/-- What has been written with `length` more bytes, each the one `distance` before it. -/
def copyBack (written : Array Nat) (distance : Nat) : (length : Nat) → Array Nat
  | 0 => written
  | n + 1 => copyBack (written.push (written[written.size - distance]?.getD 0)) distance n

/-- One step of a compressed block: what is written after it, and whether the block has ended. -/
def step (codes : Codes) (written : Array Nat) : Reading (Array Nat × Bool) := do
  let symbol ← symbol codes.literals .literal
  if symbol < 256 then return (written.push symbol, false)
  else if symbol = 256 then return (written, true)
  else
    let length ← matchLength symbol
    let distance ← matchDistance codes.distances
    if written.size < distance then fail .tooFarBack
    else return (copyBack written distance length, false)

/-- What is written so far, and the bits behind it unless reading stops there. -/
abbrev Progress := Array Nat × Except (Halt DeflateProblem) (List Bool)

/-- A compressed block. Every step takes a bit at least, so `fuel` is their number. -/
def compressed (codes : Codes) : (fuel : Nat) → Array Nat → List Bool → Progress
  | 0, written, _ => (written, .error .truncated)
  | fuel + 1, written, bits =>
    match step codes written bits with
    | .error halt => (written, .error halt)
    | .ok ((written, true), bits) => (written, .ok bits)
    | .ok ((written, false), bits) => compressed codes fuel written bits

-- ====================================================== codes in front of a block

/-- The order in which the lengths of the code for lengths are given. -/
def lengthOrder : List Nat := [16, 17, 18, 0, 8, 7, 9, 6, 10, 5, 11, 4, 12, 3, 13, 2, 14, 1, 15]

/-- The next length or run of lengths. A code without words gives zeros, one for each bit. -/
def lengthRun (code : PrefixCode) (last? : Option Nat) : Reading (List Nat) := do
  let symbol ← if code.isEmpty then (fun _ => 0) <$> number 1 else symbol code .lengthsCode
  if symbol < 16 then return [symbol]
  else if symbol = 16 then
    let n ← number 2
    match last? with
    | some last => return List.replicate (3 + n) last
    | none => fail .lengthRepeat
  else if symbol = 17 then return List.replicate (3 + (← number 3)) 0
  else return List.replicate (11 + (← number 7)) 0

/-- Lengths up to a given number of them. -/
def lengthsUpTo (code : PrefixCode) (count : Nat) : (fuel : Nat) → List Nat → Reading (List Nat)
  | 0, _ => throw .truncated
  | fuel + 1, lengths => do
    if lengths.length = count then return lengths
    else
      let run ← lengthRun code lengths.getLast?
      if count < lengths.length + run.length then fail .lengthRepeat
      else lengthsUpTo code count fuel (lengths ++ run)

/-- The codes in front of a block. -/
def ownCodes : Reading Codes := do
  let literals := (← number 5) + 257
  let distances := (← number 5) + 1
  let given := (← number 4) + 4
  if 286 < literals || 30 < distances then fail .tooManySymbols
  else
    let lengths ← (List.range given).mapM fun _ => number 3
    let byOrder := lengthOrder.zip lengths
    let code := PrefixCode.ofLengths ((List.range 19).map fun n => (byOrder.lookup n).getD 0)
    if !(code.isEmpty || code.isComplete) then fail .lengthsCode
    else
      let count := literals + distances
      let lengths ← lengthsUpTo code count (count + 1) []
      let literalsCode := PrefixCode.ofLengths (lengths.take literals)
      let distancesCode := PrefixCode.ofLengths (lengths.drop literals)
      if lengths[256]? = some 0 then fail .noEndOfBlock
      else if !literalsCode.isUsable then fail .literalsCode
      else if !distancesCode.isUsable then fail .distancesCode
      else return ⟨literalsCode, distancesCode⟩

-- ====================================================== blocks

/-- The number of bytes that follow as they are. -/
def storedLength : Reading Nat := do
  let length ← number 16
  let complement ← number 16
  if length + complement ≠ 0xFFFF then fail .storedLengths else return length

/-- Bytes as they are; the first ones of them if there are not enough. -/
def stored (written : Array Nat) (bits : List Bool) : Progress :=
  match storedLength (bits.drop (bits.length % 8)) with
  | .error halt => (written, .error halt)
  | .ok (length, bits) =>
    let whole := min length (bits.length / 8)
    let bytes := (List.range whole).map fun n => valueOf ((bits.drop (8 * n)).take 8)
    (written ++ bytes.toArray,
      if whole < length then .error .truncated else .ok (bits.drop (8 * length)))

/-- One block. -/
def block (written : Array Nat) (kind : Nat) (bits : List Bool) : Progress :=
  if kind = 0 then stored written bits
  else if kind = 1 then compressed fixedCodes (bits.length + 1) written bits
  else if kind = 2 then
    match ownCodes bits with
    | .error halt => (written, .error halt)
    | .ok (codes, bits) => compressed codes (bits.length + 1) written bits
  else (written, .error (.broken .blockType))

/-- What stands in front of a block: whether it is the last one, and its kind. -/
def blockHeader : Reading (Nat × Nat) := do
  let last ← number 1
  return (last, ← number 2)

/-- All blocks up to the last one. -/
def blocks : (fuel : Nat) → Array Nat → List Bool → Progress
  | 0, written, _ => (written, .error .truncated)
  | fuel + 1, written, bits =>
    match blockHeader bits with
    | .error halt => (written, .error halt)
    | .ok ((last, kind), bits) =>
      match block written kind bits with
      | (written, .ok bits) =>
        if last = 1 then (written, .ok bits) else blocks fuel written bits
      | stopped => stopped

end Inflate

/-- What deflated data stands for, and the bits behind it if it is complete. -/
def inflate (bytes : List Nat) : Except DeflateProblem (List Nat × Option (List Bool)) :=
  let bits := Inflate.bitsOf bytes
  match Inflate.blocks (bits.length + 1) #[] bits with
  | (_, .error (.broken p)) => .error p
  | (written, .error .truncated) => .ok (written.toList, none)
  | (written, .ok bits) => .ok (written.toList, some bits)

end ApiCommands.Compression
