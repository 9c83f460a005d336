import Extraction.Text.Basic

/-!
# Punycode

A label of any characters written with ASCII letters, digits and hyphens: the ASCII characters
first, then, as numbers of variable length, where the others go and which they are.

## Main definitions

* `Punycode.encode`: the ASCII form of a label
* `Punycode.decode?`: the label that an ASCII form stands for
-/

namespace Extraction.Url.Punycode

/-- The weight limit of a digit at position `k` under a bias. -/
def threshold (bias k : Nat) : Nat :=
  if k ≤ bias then 1 else if bias + 26 ≤ k then 26 else k - bias

/-- The character of a digit below 36. -/
def digit (n : Nat) : Char := Char.ofNat (if n < 26 then 97 + n else 22 + n)

/-- The digits of a number, from position `k` on. -/
def digits (bias k q : Nat) : Text :=
  let t := threshold bias k
  if h : q < t then [digit q]
  else digit (t + (q - t) % (36 - t)) :: digits bias (k + 36) ((q - t) / (36 - t))
termination_by q
decreasing_by
  have ht : 1 ≤ threshold bias k ∧ threshold bias k ≤ 26 := by
    unfold threshold
    split
    · omega
    · split <;> omega
  have := Nat.div_le_self (q - threshold bias k) (36 - threshold bias k)
  omega

/-- The part of the bias that is due to a number too large for a small one. -/
def scale (k delta : Nat) : Nat :=
  if 455 < delta then scale (k + 36) (delta / 35) else k + 36 * delta / (delta + 38)
termination_by delta
decreasing_by exact Nat.div_lt_self (by omega) (by omega)

/-- The bias after a number `delta` has been written, `count` characters being placed now. -/
def adapt (delta count : Nat) (isFirst : Bool) : Nat :=
  let delta := if isFirst then delta / 700 else delta / 2
  scale 0 (delta + delta / count)

/-- What writing has reached: the text so far, the bias, the distance covered since the last
number, and how many characters are placed. -/
structure Progress where
  output : Text
  bias : Nat
  delta : Nat
  placed : Nat

/-- Writes the places of the code point `n` in the label. -/
def writePoint (label : List Nat) (basic n : Nat) (p : Progress) : Progress :=
  label.foldl (fun p c =>
    if c < n then ⟨p.output, p.bias, p.delta + 1, p.placed⟩
    else if c = n then
      ⟨p.output ++ digits p.bias 36 p.delta,
        adapt p.delta (p.placed + 1) (p.placed == basic), 0, p.placed + 1⟩
    else p) p

/-- Writes the code points in the list, which increases, where `n` is the least that may come. -/
def writePoints (label : List Nat) (basic : Nat) : (n : Nat) → List Nat → Progress → Text
  | _, [], p => p.output
  | n, m :: rest, p =>
    let p := writePoint label basic m ⟨p.output, p.bias, p.delta + (m - n) * (p.placed + 1), p.placed⟩
    writePoints label basic (m + 1) rest ⟨p.output, p.bias, p.delta + 1, p.placed⟩

/-- The ASCII form of a label. -/
def encode (label : Text) : Text :=
  let points := label.map Char.toNat
  let basic := label.filter (·.toNat < 128)
  let others := ((points.filter (128 ≤ ·)).mergeSort (· ≤ ·)).eraseDups
  let start := if basic.isEmpty then [] else basic ++ ['-']
  writePoints points basic.length 128 others ⟨start, 72, 0, basic.length⟩

/-- The number at the start of a text, added to `i`, and the text after it. -/
def number? (bias : Nat) : (k weight i : Nat) → Text → Option (Nat × Text)
  | _, _, _, [] => none
  | k, weight, i, c :: rest =>
    match Text.digitValue? 36 c with
    | none => none
    | some v =>
      let d := if v < 10 then v + 26 else v - 10
      let t := threshold bias k
      let i := i + d * weight
      if i ≥ 0x80000000 then none
      else if d < t then some (i, rest)
      else number? bias (k + 36) (weight * (36 - t)) i rest

/-- Places the characters that the numbers in the text stand for. The fuel is the length of the
text: every number takes one character at least. -/
def place? : (fuel n i bias : Nat) → List Nat → Text → Option (List Nat)
  | _, _, _, _, label, [] => some label
  | 0, _, _, _, _, _ :: _ => none
  | fuel + 1, n, i, bias, label, s@(_ :: _) =>
    match number? bias 36 1 i s with
    | none => none
    | some (j, rest) =>
      let count := label.length + 1
      let n := n + j / count
      let place := j % count
      if n > 0x10FFFF then none
      else
        place? fuel n (place + 1) (adapt (j - i) count (i == 0)) (label.insertIdx place n) rest

/-- The ASCII characters of a label and the numbers after them: the last hyphen stands between. -/
def parts (s : Text) : Text × Text :=
  match Text.splitOnce? ['-'] s.reverse with
  | some (numbers, basic) => (basic.reverse, numbers.reverse)
  | none => ([], s)

/-- The label that an ASCII form stands for. -/
def decode? (s : Text) : Option Text :=
  let (basic, numbers) := parts s
  if basic.all (·.toNat < 128) then
    (place? numbers.length 128 0 72 (basic.map Char.toNat) numbers).bind fun points =>
      if points.all (fun n => (Char.ofNat n).toNat == n) then some (points.map Char.ofNat) else none
  else none

end Extraction.Url.Punycode
