import Extraction.Error

/-!
# Base64

Bytes written with 64 symbols, four for every three bytes, filled up with `=` at the end. Reading
is strict: it wants the filling, and it wants the unused bits of the last symbol to be zero.

## Main definitions

* `Base64.encode`: the symbols of bytes
* `Base64.decode`: the bytes that symbols write, or what is wrong with them
-/

namespace Extraction.Base64

/-- The byte of the symbol for a number below 64. -/
def symbol (n : Nat) : Nat :=
  if n < 26 then 65 + n
  else if n < 52 then 71 + n
  else if n < 62 then n - 4
  else if n = 62 then 43
  else 47

/-- The number that a symbol stands for. -/
def value? (b : Nat) : Option Nat :=
  if 65 ≤ b ∧ b ≤ 90 then some (b - 65)
  else if 97 ≤ b ∧ b ≤ 122 then some (b - 71)
  else if 48 ≤ b ∧ b ≤ 57 then some (b + 4)
  else if b = 43 then some 62
  else if b = 47 then some 63
  else none

/-- The byte of `=`, which fills up the last group of four. -/
def pad : Nat := 61

/-- The symbols of bytes. -/
def encode : List Nat → List Nat
  | [] => []
  | [a] => [symbol (a / 4), symbol (a % 4 * 16), pad, pad]
  | [a, b] => [symbol (a / 4), symbol (a % 4 * 16 + b / 16), symbol (b % 16 * 4), pad]
  | a :: b :: c :: rest =>
    symbol (a / 4) :: symbol (a % 4 * 16 + b / 16) :: symbol (b % 16 * 4 + c / 64) ::
      symbol (c % 64) :: encode rest

/-- The number that the symbol at `offset` stands for. -/
def valueAt (offset b : Nat) : Except Base64Fault Nat :=
  match value? b with
  | some v => .ok v
  | none => .error (.symbol b offset)

/-- The three bytes of a full group that starts at `offset`. -/
def group (offset a b c d : Nat) : Except Base64Fault (List Nat) := do
  let w ← valueAt offset a
  let x ← valueAt (offset + 1) b
  let y ← valueAt (offset + 2) c
  let z ← valueAt (offset + 3) d
  return [w * 4 + x / 16, x % 16 * 16 + y / 4, y % 4 * 64 + z]

/-- The numbers of the last group from the symbol at `offset` on, where `index` symbols of the
group have been read, and the length of the filling. The filling stands at the end, and after two
symbols at least. -/
def lastValues (offset index : Nat) : List Nat → Except Base64Fault (List Nat × Nat)
  | [] => .ok ([], 0)
  | b :: rest =>
    if b = pad then
      if index < 2 ∨ rest.any (· != pad) then .error (.symbol pad offset)
      else .ok ([], rest.length + 1)
    else do
      let v ← valueAt offset b
      let (vs, filling) ← lastValues (offset + 1) (index + 1) rest
      return (v :: vs, filling)

/-- The bytes of the last group, which starts at `offset` and holds at most four symbols. -/
def lastGroup (offset : Nat) (bs : List Nat) : Except Base64Fault (List Nat) := do
  let (vs, filling) ← lastValues offset 0 bs
  if bs.isEmpty then return []
  if vs.length < 2 then throw (.length (offset + vs.length))
  if (vs.length + filling) % 4 ≠ 0 then throw .padding
  match vs with
  | [w, x] =>
    if x % 16 ≠ 0 then throw (.lastSymbol (bs.getD 1 0) (offset + 1))
    return [w * 4 + x / 16]
  | [w, x, y] =>
    if y % 4 ≠ 0 then throw (.lastSymbol (bs.getD 2 0) (offset + 2))
    return [w * 4 + x / 16, x % 16 * 16 + y / 4]
  | [w, x, y, z] => return [w * 4 + x / 16, x % 16 * 16 + y / 4, y % 4 * 64 + z]
  | _ => return []

/-- The bytes of the groups from `offset` on. -/
def groups (offset : Nat) : List Nat → Except Base64Fault (List Nat)
  | a :: b :: c :: d :: e :: rest => do
    let bytes ← group offset a b c d
    return bytes ++ (← groups (offset + 4) (e :: rest))
  | bs => lastGroup offset bs

/-- The bytes that symbols write. A text with one symbol too many, which is no symbol at all, is
refused for that one first. -/
def decode (bs : List Nat) : Except Base64Fault (List Nat) :=
  match bs.getLast? with
  | some b =>
    if bs.length % 4 = 1 ∧ b ≠ pad ∧ value? b = none then .error (.symbol b (bs.length - 1))
    else groups 0 bs
  | none => .ok []

end Extraction.Base64
