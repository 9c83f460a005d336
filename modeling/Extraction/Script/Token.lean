import Extraction.Script.Syntax
import Extraction.Text.Letters

/-!
# Tokens of scripts

The words, marks and literals of a script, read one at a time. Whether a slash begins a regular
expression or divides, and whether a closing brace goes on with a text, the reader of programs
knows; so these are read by functions of their own from where the mark stands.

## Main definitions

* `Token`: the tokens
* `Token.next?`: the token at the start of a text
* `Token.regexp?`, `Token.templatePart?`: the tokens that depend on the context
-/

namespace Extraction.Script

/-- A token. -/
inductive Token where
  | word (s : String)
  | mark (s : String)
  | number (n : Number)
  | bigint (n : Int)
  | string (s : Utf16)
  | finish

/-- A stretch of a text with values in it. -/
structure TemplatePart where
  /-- The text with its escapes read, if all of them can be. -/
  cooked : Option Utf16
  raw : Utf16
  /-- Whether the text ends here, and no value follows. -/
  last : Bool

namespace Token

/-- Whether a character ends a line. -/
def isLineEnd (c : Char) : Bool :=
  c == '\n' || c == '\r' || c.toNat == 0x2028 || c.toNat == 0x2029

/-- Whether a character may begin a word. -/
def startsWord (c : Char) : Bool := c == '$' || c == '_' || c.isAlpha ||
  (0x7F < c.toNat && Text.isAlphabetic c)

/-- Whether a character may go on with a word. -/
def continuesWord (c : Char) : Bool :=
  startsWord c || c.isDigit || c.toNat == 0x200C || c.toNat == 0x200D ||
    (0x7F < c.toNat && Text.isAlphanumeric c)

/-- The text after a comment that ends with a star and a slash, and whether a line ends in it. -/
def skipComment (newline : Bool) : Text → Option (Bool × Text)
  | [] => none
  | '*' :: '/' :: rest => some (newline, rest)
  | c :: rest => skipComment (newline || isLineEnd c) rest

/-- The text after blanks and comments, and whether a line ends among them. -/
def skipSpace : (fuel : Nat) → (newline : Bool) → Text → Option (Bool × Text)
  | 0, newline, s => some (newline, s)
  | fuel + 1, newline, s =>
    match s with
    | '/' :: '/' :: rest => skipSpace fuel newline (rest.dropWhile fun c => !isLineEnd c)
    | '/' :: '*' :: rest =>
      match skipComment newline rest with
      | some (newline, rest) => skipSpace fuel newline rest
      | none => none
    | c :: rest =>
      if isLineEnd c then skipSpace fuel true rest
      else if Number.isSpace c then skipSpace fuel newline rest
      else some (newline, s)
    | [] => some (newline, [])

/-- The number of exactly `count` hexadecimal digits at the start of a text. -/
def hexDigits? (count : Nat) (s : Text) : Option (Nat × Text) :=
  let ds := s.take count
  if ds.length == count && ds.all (fun c => (Text.digitValue? 16 c).isSome) then
    some (Number.ofDigits 16 ds, s.drop count)
  else none

/-- The code point of an escape that began with a `u`. -/
def unicodeEscape? (s : Text) : Option (Nat × Text) :=
  match s with
  | '\x7b' :: rest =>
    let ds := rest.takeWhile (· != '\x7d')
    match rest.drop ds.length with
    | _ :: after =>
      let n := Number.ofDigits 16 ds
      if ds.isEmpty || ds.any (fun c => (Text.digitValue? 16 c).isNone) || 0x10FFFF < n then none
      else some (n, after)
    | [] => none
  | s => hexDigits? 4 s

/-- A digit below eight. -/
def isOctal (c : Char) : Bool := '0' ≤ c && c ≤ '7'

/-- The units of an escape, read after its backslash. Octal escapes are read if `octal`. -/
def escape? (octal : Bool) (s : Text) : Option (List UInt16 × Text) :=
  match s with
  | [] => none
  | c :: rest =>
    match c with
    | 'n' => some ([10], rest)
    | 't' => some ([9], rest)
    | 'b' => some ([8], rest)
    | 'v' => some ([11], rest)
    | 'f' => some ([12], rest)
    | 'r' => some ([13], rest)
    | 'x' => (hexDigits? 2 rest).map fun (n, after) => (Utf16.ofCodePoint n, after)
    | 'u' => (unicodeEscape? rest).map fun (n, after) => (Utf16.ofCodePoint n, after)
    | '\r' =>
      match rest with
      | '\n' :: after => some ([], after)
      | after => some ([], after)
    | c =>
      if isLineEnd c then some ([], rest)
      else if c == '0' && !((rest.head?.map Char.isDigit).getD false) then some ([0], rest)
      else if isOctal c then
        if octal then
          let most := if c ≤ '3' then 3 else 2
          let ds := (s.take most).takeWhile isOctal
          some (Utf16.ofCodePoint (Number.ofDigits 8 ds), s.drop ds.length)
        else none
      else if c.isDigit && !octal then none
      else some (Utf16.ofCodePoint c.toNat, rest)

/-- The string up to a quote, read after the quote that opens it. -/
def string? (quote : Char) : (fuel : Nat) → (acc : Utf16) → Text → Option (Utf16 × Text)
  | 0, _, _ => none
  | fuel + 1, acc, s =>
    match s with
    | [] => none
    | '\\' :: rest =>
      match escape? true rest with
      | some (us, after) => string? quote fuel (us.foldl Array.push acc) after
      | none => none
    | c :: rest =>
      if c == quote then some (acc, rest)
      else if c == '\n' || c == '\r' then none
      else string? quote fuel ((Utf16.ofCodePoint c.toNat).foldl Array.push acc) rest

/-- The stretch of a text with values, read after its opening mark or the closing brace of a
value. -/
def templatePart? : (fuel : Nat) → (cooked : Option Utf16) → (raw : Utf16) → Text →
    Option (TemplatePart × Text)
  | 0, _, _, _ => none
  | fuel + 1, cooked, raw, s =>
    let add (us : List UInt16) (acc : Utf16) : Utf16 := us.foldl Array.push acc
    match s with
    | [] => none
    | '\x60' :: rest => some (⟨cooked, raw, true⟩, rest)
    | '$' :: '\x7b' :: rest => some (⟨cooked, raw, false⟩, rest)
    | '\\' :: rest =>
      match escape? false rest with
      | some (us, after) =>
        let written := rest.take (rest.length - after.length)
        let written := if written.head? == some '\r' then ['\n'] else written
        templatePart? fuel (cooked.map (add us)) (add (Utf16.ofText ('\\' :: written)).toList raw) after
      | none =>
        match rest with
        | c :: after => templatePart? fuel none (add (Utf16.ofText ['\\', c]).toList raw) after
        | [] => none
    | '\r' :: rest =>
      let rest := match rest with
        | '\n' :: after => after
        | after => after
      templatePart? fuel (cooked.map (add [10])) (add [10] raw) rest
    | c :: rest =>
      let us := Utf16.ofCodePoint c.toNat
      templatePart? fuel (cooked.map (add us)) (add us raw) rest

/-- The body and the flags of a regular expression, read after its opening slash. -/
def regexp? : (inClass : Bool) → (acc : Text) → Text → Option (Utf16 × Utf16 × Text)
  | _, _, [] => none
  | inClass, acc, '\\' :: c :: rest =>
    if isLineEnd c then none else regexp? inClass (c :: '\\' :: acc) rest
  | inClass, acc, c :: rest =>
    if isLineEnd c then none
    else if c == '/' && !inClass then
      some (Utf16.ofText acc.reverse, Utf16.ofText (rest.takeWhile continuesWord),
        rest.dropWhile continuesWord)
    else regexp? (if c == '[' then true else if c == ']' then false else inClass) (c :: acc) rest

/-- Digits of a base with single underscores between them, and the text after them. -/
def digits? (base : Nat) (s : Text) : Option (Text × Text) :=
  let run := s.takeWhile fun c => c == '_' || (Text.digitValue? base c).isSome
  let bad := run.head? == some '_' || run.getLast? == some '_' ||
    Text.includes run "__".toList
  if bad then none else some (run.filter (· != '_'), s.drop run.length)

/-- The number of a base after its sign, a whole number beyond doubles if an `n` follows. -/
def basedNumber? (base : Nat) (s : Text) : Option (Token × Text) :=
  match digits? base s with
  | some (ds, rest) =>
    if ds.isEmpty then none
    else
      match rest with
      | 'n' :: after => some (.bigint (Number.ofDigits base ds), after)
      | rest =>
        some (.number (Number.ofLiteral (Float.ofScientific (Number.ofDigits base ds) false 0)), rest)
  | none => none

/-- The number whose decimal form a text begins with. -/
def decimalNumber? (s : Text) : Option (Token × Text) :=
  match digits? 10 s with
  | none => none
  | some (whole, rest) =>
    match rest with
    | 'n' :: after =>
      if whole.isEmpty || (whole.head? == some '0' && whole.length > 1) then none
      else some (.bigint (Number.ofDigits 10 whole), after)
    | rest =>
      let fraction : Option (Text × Text) := match rest with
        | '.' :: after => digits? 10 after
        | rest => some ([], rest)
      match fraction with
      | none => none
      | some (fraction, rest) =>
        let exponent : Option (Int × Text) := match rest with
          | e :: after =>
            if e == 'e' || e == 'E' then
              let (negative, after) := match after with
                | '-' :: after => (true, after)
                | '+' :: after => (false, after)
                | after => (false, after)
              match digits? 10 after with
              | some (ds, after) =>
                if ds.isEmpty then none
                else
                  let n : Nat :=
                    if (ds.dropWhile (· == '0')).length > 9 then 999999999
                    else Number.ofDigits 10 ds
                  some (if negative then -(n : Int) else n, after)
              | none => none
            else some (0, rest)
          | [] => some (0, rest)
        exponent.map fun (e, rest) =>
          (.number (Number.ofLiteral (Number.decimalFloat (whole ++ fraction) (e - fraction.length))),
            rest)

/-- The number at the start of a text. No word and no digit may follow it directly. -/
def number? (s : Text) : Option (Token × Text) :=
  let found := match s with
    | '0' :: 'x' :: rest | '0' :: 'X' :: rest => basedNumber? 16 rest
    | '0' :: 'o' :: rest | '0' :: 'O' :: rest => basedNumber? 8 rest
    | '0' :: 'b' :: rest | '0' :: 'B' :: rest => basedNumber? 2 rest
    | '0' :: c :: _ =>
      let ds := s.takeWhile Char.isDigit
      if c.isDigit && ds.all isOctal then
        some (.number (Number.ofLiteral (Float.ofScientific (Number.ofDigits 8 ds) false 0)),
          s.drop ds.length)
      else decimalNumber? s
    | s => decimalNumber? s
  found.filter fun (_, rest) =>
    !((rest.head?.map fun c => startsWord c || c.isDigit).getD false)

/-- The word at the start of a text, escapes in it read. -/
def word? : (fuel : Nat) → (first : Bool) → (acc : Text) → Text → Option (Text × Text)
  | 0, _, _, _ => none
  | fuel + 1, first, acc, s =>
    let ok (c : Char) : Bool := if first then startsWord c else continuesWord c
    match s with
    | '\\' :: 'u' :: rest =>
      match unicodeEscape? rest with
      | some (n, after) =>
        if ok (Char.ofNat n) then word? fuel false (Char.ofNat n :: acc) after else none
      | none => none
    | '\\' :: _ => none
    | c :: rest => if ok c then word? fuel false (c :: acc) rest else some (acc.reverse, s)
    | [] => some (acc.reverse, [])

/-- The marks, longer ones before those they begin with. -/
def marks : List Text :=
  Text.words "
>>>= ... === !== **= <<= >>= >>> &&= ||= ??= => == != <= >= && || ?? ?. ++ -- += -= *= /= %= &= |=
^= << >> ** \x7b \x7d ( ) [ ] . ; , < > + - * / % & | ^ ! ~ ? : = \x60
".toList

/-- The mark at the start of a text. A question mark and a point before a digit are two marks. -/
def mark? (s : Text) : Option (Token × Text) :=
  marks.findSome? fun m =>
    match m.isPrefixOf? s with
    | some rest =>
      if m == ['?', '.'] && (rest.head?.map Char.isDigit).getD false then none
      else some (.mark (String.ofList m), rest)
    | none => none

/-- The token at the start of a text that begins with no blank and no comment. -/
def next? (s : Text) : Option (Token × Text) :=
  match s with
  | [] => some (.finish, [])
  | c :: rest =>
    if c.isDigit then number? s
    else if c == '.' && (rest.head?.map Char.isDigit).getD false then number? s
    else if c == '"' || c == '\'' then
      (string? c (rest.length + 1) #[] rest).map fun (u, after) => (.string u, after)
    else if startsWord c || c == '\\' then
      match word? (s.length + 1) true [] s with
      | some (w, after) => if w.isEmpty then none else some (.word (String.ofList w), after)
      | none => none
    else mark? s

end Token

end Extraction.Script
