/-!
# Text

Text is a list of Unicode characters, so that every scanner of this library is a recursion on the
text it reads. This module holds the operations that know nothing of any format: trimming, cutting
at a separator, splitting into words and lines, and comparison without regard to ASCII case.
-/

namespace Extraction

/-- Text is a list of Unicode characters. -/
abbrev Text := List Char

namespace Text

/-- The characters with the Unicode property `White_Space`. -/
def isBlank (c : Char) : Bool :=
  let n := c.toNat
  (9 ≤ n && n ≤ 13) || n == 0x20 || n == 0x85 || n == 0xA0 || n == 0x1680 ||
    (0x2000 ≤ n && n ≤ 0x200A) || n == 0x2028 || n == 0x2029 || n == 0x202F || n == 0x205F ||
    n == 0x3000

/-- The text without its leading blanks. -/
def trimStart (s : Text) : Text := s.dropWhile isBlank

/-- The text without its trailing blanks. -/
def trimEnd (s : Text) : Text := (s.reverse.dropWhile isBlank).reverse

/-- The text without blanks at either end. -/
def trim (s : Text) : Text := trimEnd (trimStart s)

/-- Whether the text holds nothing but blanks. -/
def isBlankText (s : Text) : Bool := s.all isBlank

/-- What follows the first occurrence of `sep`, together with what precedes it. -/
def splitOnce? (sep : Text) (s : Text) : Option (Text × Text) :=
  match sep.isPrefixOf? s with
  | some rest => some ([], rest)
  | none =>
    match s with
    | [] => none
    | c :: cs => (splitOnce? sep cs).map fun (before, after) => (c :: before, after)

/-- Whether one text comes before another: they are compared character by character. -/
def before : Text → Text → Bool
  | _, [] => false
  | [], _ :: _ => true
  | a :: s, b :: t => a < b || (a == b && before s t)

/-- Whether `needle` occurs in the text. -/
def includes (s needle : Text) : Bool := (splitOnce? needle s).isSome

theorem length_of_isPrefixOf? {p s rest : Text} (h : p.isPrefixOf? s = some rest) :
    s.length = p.length + rest.length := by
  induction p generalizing s with
  | nil =>
    cases h
    exact (Nat.zero_add _).symm
  | cons a p ih =>
    cases s with
    | nil => cases h
    | cons b s =>
      have hstep : (a :: p).isPrefixOf? (b :: s) =
          if a == b then p.isPrefixOf? s else none := rfl
      rw [hstep] at h
      split at h
      · rw [List.length_cons, List.length_cons, ih h, Nat.add_right_comm]
      · cases h

theorem length_of_splitOnce? {sep s before after : Text}
    (h : splitOnce? sep s = some (before, after)) :
    s.length = before.length + sep.length + after.length := by
  fun_induction splitOnce? sep s generalizing before after with
  | case1 s rest hp =>
    simp only [Option.some.injEq, Prod.mk.injEq] at h
    obtain ⟨rfl, rfl⟩ := h
    simp [length_of_isPrefixOf? hp]
  | case2 => cases h
  | case3 c cs hp ih =>
    rw [Option.map_eq_some_iff] at h
    obtain ⟨⟨u, v⟩, huv, he⟩ := h
    simp only [Prod.mk.injEq] at he
    obtain ⟨rfl, rfl⟩ := he
    have := ih huv
    simp only [List.length_cons]
    omega

/-- The pieces between the occurrences of a separator, taken from the left. A separator that is
empty leaves the text whole. -/
def splitOn (sep : Text) (s : Text) : List Text :=
  match _hcut : splitOnce? sep s with
  | none => [s]
  | some (before, after) =>
    if _hsep : sep = [] then [s] else before :: splitOn sep after
termination_by s.length
decreasing_by
  have := length_of_splitOnce? _hcut
  have : 0 < sep.length := List.length_pos_iff.2 _hsep
  omega

/-- The maximal runs of characters that are not blank. -/
def words (s : Text) : List Text := go [] s
where
  /-- `go run s` reads on with `run`, reversed, already read of the current word. -/
  go (run : Text) : Text → List Text
    | [] => if run.isEmpty then [] else [run.reverse]
    | c :: cs =>
      if isBlank c then
        if run.isEmpty then go [] cs else run.reverse :: go [] cs
      else go (c :: run) cs

/-- The words of the text with one space between neighbours. -/
def collapse (s : Text) : Text := [' '].intercalate (words s)

/-- The lines of the text: a line feed ends a line, a carriage return just before it belongs to the
line end, and nothing follows the last line feed. -/
def lines (s : Text) : List Text := go [] s
where
  /-- The line whose characters, reversed, are `run`. -/
  finish (run : Text) : Text :=
    match run with
    | '\r' :: run => run.reverse
    | run => run.reverse
  /-- `go run s` reads on with `run`, reversed, already read of the current line. -/
  go (run : Text) : Text → List Text
    | [] => if run.isEmpty then [] else [run.reverse]
    | '\n' :: cs => finish run :: go [] cs
    | c :: cs => go (c :: run) cs

/-- The text with its ASCII capitals made small. -/
def lowerAscii (s : Text) : Text := s.map Char.toLower

/-- Equality without regard to ASCII case. -/
def eqIgnoreCase (s t : Text) : Bool := lowerAscii s == lowerAscii t

/-- What follows `p` at the start of the text, ASCII case disregarded. -/
def dropPrefixIgnoreCase? (p s : Text) : Option Text :=
  match p, s with
  | [], s => some s
  | _ :: _, [] => none
  | a :: p, c :: s => if a.toLower == c.toLower then dropPrefixIgnoreCase? p s else none

/-- Whether `needle` occurs in the text, ASCII case disregarded. -/
def includesIgnoreCase (s needle : Text) : Bool :=
  (dropPrefixIgnoreCase? needle s).isSome ||
    match s with
    | [] => false
    | _ :: rest => includesIgnoreCase rest needle

/-- What precedes `t` at the end of the text. -/
def dropSuffix? (t s : Text) : Option Text :=
  (t.reverse.isPrefixOf? s.reverse).map List.reverse

/-- The decimal digits of a number. -/
def ofNat (n : Nat) : Text := Nat.toDigits 10 n

/-- The decimal digits of an integer, with a minus sign if it is negative. -/
def ofInt : Int → Text
  | .ofNat n => ofNat n
  | .negSucc n => '-' :: ofNat (n + 1)

/-- The value of a digit below `base`, letters of either case standing for ten and up. -/
def digitValue? (base : Nat) (c : Char) : Option Nat :=
  let n := c.toNat
  let v :=
    if '0' ≤ c ∧ c ≤ '9' then some (n - 48)
    else if 'a' ≤ c ∧ c ≤ 'z' then some (n - 87)
    else if 'A' ≤ c ∧ c ≤ 'Z' then some (n - 55)
    else none
  v.filter (· < base)

/-- The number that a text of digits below `base` writes; the empty text writes none. -/
def digits? (base : Nat) (s : Text) : Option Nat :=
  match s with
  | [] => none
  | s => s.foldlM (fun acc c => (digitValue? base c).map (acc * base + ·)) 0

/-- The number that a text writes in `base`, an optional plus sign in front, if it is at most
`max`. -/
def unsigned? (base max : Nat) (s : Text) : Option Nat :=
  let body := match s with
    | '+' :: rest => rest
    | s => s
  (digits? base body).filter (· ≤ max)

end Text

end Extraction
