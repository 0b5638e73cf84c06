/-
Content codings: how a body is packed for its way.

The codings of a body are named in the order they were applied, and undone from
the last to the first; names nobody knows are passed over. What is not packed the
way it says is a problem. Deflated data may come in a wrapping with a checksum or
without one.
-/
import ApiCommands.Compression.Inflate
import ApiCommands.Text.Blank
import ApiCommands.Text.LetterCase
import ApiCommands.Text.Pieces

namespace ApiCommands.Compression

/-- The checksum of the wrapping. -/
def checksum (bytes : List Nat) : Nat :=
  let (a, b) := bytes.foldl (fun (a, b) byte =>
    let a := (a + byte) % 65521
    (a, (b + a) % 65521)) (1, 0)
  65536 * b + a

/-- The first two bytes of a wrapping. -/
def opensWrapping (first second : Nat) : Bool :=
  (256 * first + second) % 31 == 0 && first % 16 == 8 && decide (first / 16 ≤ 7)

/-- What wrapped data stands for; none if it is not what it says. A wrapping that asks for words
known beforehand gives nothing once these are named. -/
def unwrap? (bytes : List Nat) : Option (List Nat) :=
  match bytes with
  | first :: second :: rest =>
    if !opensWrapping first second then none
    else if second.testBit 5 then (if rest.length < 4 then some [] else none)
    else
      match inflate rest with
      | .error _ => none
      | .ok (data, none) => some data
      | .ok (data, some bits) =>
        let sum := (rest.drop (rest.length - bits.length / 8)).take 4
        if sum.length < 4 || sum.foldl (fun n b => 256 * n + b) 0 == checksum data then some data
        else none
  | _ => some []

/-- What deflated data stands for, with its wrapping or without. -/
def undeflate (bytes : List Nat) : Except DeflateProblem (List Nat) :=
  match unwrap? bytes with
  | some data => .ok data
  | none => (inflate bytes).map (·.1)

/-- The words for data that cannot be unpacked. -/
def complaint (problem : String) : String := "Error -3 while decompressing data: " ++ problem

/-- A known coding undone. The bytes of a text never start a file of gzip's, which holds a byte
there that no text has. -/
def undo (coding : String) (bytes : List Nat) : Except String (List Nat) :=
  if coding = "gzip" then
    if bytes.length < 2 then .ok [] else .error (complaint "incorrect header check")
  else if coding = "deflate" then
    match undeflate bytes with
    | .ok data => .ok data
    | .error p => .error (complaint p.text)
  else .ok bytes

/-- The codings that a header's value names. -/
def codings (header : String) : List String :=
  (Text.splitOn ',' header.toList).map fun s => String.ofList (Text.lower (Text.trim s))

/-- A body as it was before its codings were applied. -/
def unpack (header : String) (bytes : List Nat) : Except String (List Nat) :=
  (codings header).foldr (fun coding packed => packed.bind (undo coding)) (.ok bytes)

end ApiCommands.Compression
