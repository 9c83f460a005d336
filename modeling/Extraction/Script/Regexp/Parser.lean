import Extraction.Script.Regexp.Basic

/-!
# Reading regular expressions of scripts

A pattern is read from its codes: units, or code points under the flag `u`. Without that flag the
reader is lenient: a brace that begins no repetition stands for itself, as does an escaped letter
without a meaning, and a reference to a group that does not exist is an octal escape.

## Main definitions

* `Regexp.parse?`: the expression of a pattern and its flags
-/

namespace Extraction.Script

namespace Regexp

namespace Parser

/-- What is known of the whole pattern. -/
structure Setting where
  flags : Flags
  groups : Nat
  names : List (Utf16 × Nat)

/-- Whether a code is an ASCII character. -/
def isChar (n : Nat) (c : Char) : Bool := n == c.toNat

/-- The character of an ASCII code. -/
def toChar (n : Nat) : Char := if n < 128 then Char.ofNat n else Char.ofNat 0xFFFD

/-- The rest after a word at the start. -/
def after? (w : String) (s : List Nat) : Option (List Nat) :=
  (w.toList.map Char.toNat).isPrefixOf? s

/-- The decimal number at the start, if there is one. -/
def decimal? (s : List Nat) : Option (Nat × List Nat) :=
  let ds := s.takeWhile isDigitCode
  if ds.isEmpty then none
  else some (ds.foldl (fun acc d => acc * 10 + (d - 48)) 0, s.drop ds.length)

/-- The number of `count` hexadecimal digits at the start. -/
def hex? (count : Nat) (s : List Nat) : Option (Nat × List Nat) :=
  let ds := s.take count
  if ds.length == count && ds.all (fun d => (Text.digitValue? 16 (toChar d)).isSome) then
    some (Number.ofDigits 16 (ds.map toChar), s.drop count)
  else none

/-- The name of a group up to the closing angle. -/
def groupName? (s : List Nat) : Option (Utf16 × List Nat) :=
  let name := s.takeWhile fun n => !isChar n '>'
  match s.drop name.length with
  | _ :: rest =>
    let fine := name.all fun n =>
      isWordCode n || isChar n '$' || (0x7F < n && !(0x2000 ≤ n && n ≤ 0x206F))
    if name.isEmpty || !fine || (name.head?.map isDigitCode).getD false then none
    else some (Utf16.ofCodePoints name, rest)
  | [] => none

/-- The groups of a pattern: how many there are, and the named ones. -/
def countGroups : (fuel : Nat) → (inClass : Bool) → (count : Nat) → (names : List (Utf16 × Nat)) →
    List Nat → Nat × List (Utf16 × Nat)
  | 0, _, count, names, _ => (count, names)
  | fuel + 1, inClass, count, names, s =>
    match s with
    | [] => (count, names)
    | n :: rest =>
      if isChar n '\\' then countGroups fuel inClass count names (rest.drop 1)
      else if inClass then countGroups fuel (!isChar n ']') count names rest
      else if isChar n '[' then countGroups fuel true count names rest
      else if isChar n '(' then
        match after? "?<" rest with
        | some more =>
          match more with
          | m :: _ =>
            if isChar m '=' || isChar m '!' then countGroups fuel false count names rest
            else
              match groupName? more with
              | some (name, _) => countGroups fuel false (count + 1) (names ++ [(name, count + 1)]) rest
              | none => countGroups fuel false (count + 1) names rest
          | [] => (count, names)
        | none =>
          match rest with
          | m :: _ =>
            if isChar m '?' then countGroups fuel false count names rest
            else countGroups fuel false (count + 1) names rest
          | [] => (count + 1, names)
      else countGroups fuel false count names rest

/-- The least and the greatest number of turns, written in braces. -/
def braces? (s : List Nat) : Option (Nat × Option Nat × List Nat) :=
  match decimal? s with
  | none => none
  | some (least, rest) =>
    match after? "\x7d" rest with
    | some rest => some (least, some least, rest)
    | none =>
      match after? "," rest with
      | none => none
      | some rest =>
        match after? "\x7d" rest with
        | some rest => some (least, none, rest)
        | none =>
          match decimal? rest with
          | none => none
          | some (most, rest) => (after? "\x7d" rest).map fun rest => (least, some most, rest)

/-- The repetition at the start: its bounds, and whether it is greedy. -/
inductive Repetition where
  | absent
  | malformed
  | found (least : Nat) (most : Option Nat) (greedy : Bool) (rest : List Nat)

/-- Reads a repetition. -/
def repetition (unicode : Bool) (s : List Nat) : Repetition :=
  let bounds : Option (Nat × Option Nat × List Nat) := match s with
    | n :: rest =>
      if isChar n '*' then some (0, none, rest)
      else if isChar n '+' then some (1, none, rest)
      else if isChar n '?' then some (0, some 1, rest)
      else if isChar n '\x7b' then braces? rest
      else none
    | [] => none
  match bounds with
  | some (least, most, rest) =>
    if most.any (fun m => m < least) then .malformed
    else
      match after? "?" rest with
      | some rest => .found least most false rest
      | none => .found least most true rest
  | none =>
    match s with
    | n :: _ => if isChar n '\x7b' && unicode then .malformed else .absent
    | [] => .absent

/-- The set of a letter that stands for one. -/
def classEscape? (c : Char) : Option ClassItem :=
  match c with
  | 'd' => some (.digit false)
  | 'D' => some (.digit true)
  | 'w' => some (.word false)
  | 'W' => some (.word true)
  | 's' => some (.space false)
  | 'S' => some (.space true)
  | _ => none

/-- The set of a property, read after the letter. -/
def property? (negated : Bool) (s : List Nat) : Option (ClassItem × List Nat) :=
  match after? "\x7b" s with
  | none => none
  | some body =>
    let inner := body.takeWhile fun n => !isChar n '\x7d'
    match body.drop inner.length with
    | [] => none
    | _ :: rest =>
      let text := inner.map toChar
      let chars := match Text.splitOnce? ['='] text with
        | some (name, value) => Text.propertyValue? name value
        | none => Text.property? text
      chars.map fun chars => (.property negated chars.holds, rest)

/-- The code of a unicode escape, read after the `u`. Under the flag `u` two escapes may make a
pair, and braces may hold the digits. -/
def unicode? (unicode : Bool) (s : List Nat) : Option (Nat × List Nat) :=
  match (if unicode then after? "\x7b" s else none) with
  | some body =>
    let ds := body.takeWhile fun n => !isChar n '\x7d'
    let v := Number.ofDigits 16 (ds.map toChar)
    match body.drop ds.length with
    | _ :: rest =>
      if ds.isEmpty || ds.any (fun d => (Text.digitValue? 16 (toChar d)).isNone) || 0x10FFFF < v then
        none
      else some (v, rest)
    | [] => none
  | none =>
    match hex? 4 s with
    | none => none
    | some (lead, rest) =>
      if unicode && Utf16.isLead lead then
        match (after? "\\u" rest).bind (hex? 4) with
        | some (trail, more) =>
          if Utf16.isTrail trail then some (Utf16.joinPair lead trail, more) else some (lead, rest)
        | none => some (lead, rest)
      else some (lead, rest)

/-- The code of an escape that stands for one character, read after the backslash. -/
def charEscape? (k : Setting) (inClass : Bool) (s : List Nat) : Option (Nat × List Nat) :=
  let unicode := k.flags.unicode
  match s with
  | [] => none
  | n :: rest =>
    match toChar n with
    | 'n' => some (10, rest)
    | 't' => some (9, rest)
    | 'r' => some (13, rest)
    | 'f' => some (12, rest)
    | 'v' => some (11, rest)
    | 'c' =>
      match rest with
      | m :: more =>
        let c := toChar m
        if c.isAlpha || (inClass && !unicode && (c.isDigit || c == '_')) then some (m % 32, more)
        else if unicode then none else some ('\\'.toNat, s)
      | [] => if unicode then none else some ('\\'.toNat, s)
    | 'x' =>
      match hex? 2 rest with
      | some r => some r
      | none => if unicode then none else some (n, rest)
    | 'u' =>
      match unicode? unicode rest with
      | some r => some r
      | none => if unicode then none else some (n, rest)
    | c =>
      if c == '0' && !((rest.head?.map isDigitCode).getD false) then some (0, rest)
      else if unicode then
        if "^$\\.*+?()[]\x7b\x7d|/".toList.contains c || (inClass && c == '-') then some (n, rest)
        else none
      else if '0' ≤ c && c ≤ '7' then
        let most := if c ≤ '3' then 3 else 2
        let ds := (s.take most).takeWhile fun d => 48 ≤ d && d ≤ 55
        some (ds.foldl (fun acc d => acc * 8 + (d - 48)) 0, s.drop ds.length)
      else if c == 'k' && !k.names.isEmpty then none
      else some (n, rest)

/-- One member of a set: a code, or a set by itself. -/
def classAtom? (k : Setting) (s : List Nat) : Option ((Nat ⊕ ClassItem) × List Nat) :=
  match s with
  | [] => none
  | n :: rest =>
    if isChar n '\\' then
      match rest with
      | [] => none
      | m :: more =>
        match classEscape? (toChar m) with
        | some i => some (.inr i, more)
        | none =>
          if isChar m 'b' then some (.inl 8, more)
          else if k.flags.unicode && (isChar m 'p' || isChar m 'P') then
            (property? (isChar m 'P') more).map fun (i, rest) => (.inr i, rest)
          else (charEscape? k true rest).map fun (c, rest) => (.inl c, rest)
    else some (.inl n, rest)

/-- The item of a member by itself. -/
def single : Nat ⊕ ClassItem → ClassItem
  | .inl n => .range n n
  | .inr i => i

/-- The members of a set up to the closing bracket. -/
def classItems? (k : Setting) : (fuel : Nat) → (acc : List ClassItem) → List Nat →
    Option (List ClassItem × List Nat)
  | 0, _, _ => none
  | fuel + 1, acc, s =>
    match after? "]" s with
    | some rest => some (acc.reverse, rest)
    | none =>
      match classAtom? k s with
      | none => none
      | some (low, rest) =>
        match after? "-" rest with
        | none => classItems? k fuel (single low :: acc) rest
        | some more =>
          match after? "]" more with
          | some rest => some ((.range 45 45 :: single low :: acc).reverse, rest)
          | none =>
            match classAtom? k more with
            | none => none
            | some (high, rest) =>
              match low, high with
              | .inl a, .inl b => if b < a then none else classItems? k fuel (.range a b :: acc) rest
              | low, high =>
                if k.flags.unicode then none
                else classItems? k fuel (single high :: .range 45 45 :: single low :: acc) rest

/-- What an escape outside of sets stands for, read after the backslash. -/
def atomEscape? (k : Setting) (s : List Nat) : Option (Node × List Nat) :=
  match s with
  | [] => none
  | n :: rest =>
    let c := toChar n
    match classEscape? c with
    | some i => some (.set ⟨false, [i]⟩, rest)
    | none =>
      if c == 'b' then some (.boundary false, rest)
      else if c == 'B' then some (.boundary true, rest)
      else if k.flags.unicode && (c == 'p' || c == 'P') then
        (property? (c == 'P') rest).map fun (i, rest) => (.set ⟨false, [i]⟩, rest)
      else if c == 'k' && (k.flags.unicode || !k.names.isEmpty) then
        match (after? "<" rest).bind groupName? with
        | some (name, rest) =>
          match (k.names.filter fun (m, _) => m == name).map Prod.snd with
          | [] => none
          | indices => some (.backReference indices, rest)
        | none => none
      else if '1' ≤ c && c ≤ '9' then
        match decimal? s with
        | some (index, more) =>
          if index ≤ k.groups then some (.backReference [index], more)
          else if k.flags.unicode then none
          else (charEscape? k false s).map fun (c, rest) => (.char c, rest)
        | none => none
      else (charEscape? k false s).map fun (c, rest) => (.char c, rest)

/-- Alternatives up to a closing parenthesis or the end, with `group` groups before them: the
pattern, what follows it, and how many groups there are then. -/
def alternatives? (k : Setting) : (fuel : Nat) → (group : Nat) → (branch : Node) → List Nat →
    Option (Node × List Nat × Nat)
  | 0, _, _, _ => none
  | fuel + 1, group, branch, s =>
    -- a parenthesis around alternatives: the pattern within is wrapped and may be repeated
    let inside (body : List Nat) (group : Nat) : Option (Node × List Nat × Nat) :=
      match alternatives? k fuel group .empty body with
      | some (node, rest, group) => (after? ")" rest).map fun rest => (node, rest, group)
      | none => none
    let atom : Option (Node × List Nat × Nat × Bool) := match s with
      | [] => none
      | n :: rest =>
        match toChar n with
        | '^' => some (.lineStart, rest, group, false)
        | '$' => some (.lineEnd, rest, group, false)
        | '.' => some (.any, rest, group, true)
        | '[' =>
          let (negated, body) := match after? "^" rest with
            | some body => (true, body)
            | none => (false, rest)
          (classItems? k (body.length + 1) [] body).map fun (items, rest) =>
            (.set ⟨negated, items⟩, rest, group, true)
        | '\\' => (atomEscape? k rest).map fun (node, rest) =>
            let repeatable := match node with
              | .boundary _ => false
              | _ => true
            (node, rest, group, repeatable)
        | '(' =>
          match after? "?:" rest, after? "?=" rest, after? "?!" rest, after? "?<=" rest,
              after? "?<!" rest with
          | some body, _, _, _, _ => (inside body group).map fun (node, rest, g) => (node, rest, g, true)
          | _, some body, _, _, _ => (inside body group).map fun (node, rest, g) =>
              (.look true false node, rest, g, !k.flags.unicode)
          | _, _, some body, _, _ => (inside body group).map fun (node, rest, g) =>
              (.look true true node, rest, g, !k.flags.unicode)
          | _, _, _, some body, _ => (inside body group).map fun (node, rest, g) =>
              (.look false false node, rest, g, false)
          | _, _, _, _, some body => (inside body group).map fun (node, rest, g) =>
              (.look false true node, rest, g, false)
          | _, _, _, _, _ =>
            let body? := match after? "?<" rest with
              | some more => (groupName? more).map Prod.snd
              | none => if (after? "?" rest).isSome then none else some rest
            match body? with
            | some body => (inside body (group + 1)).map fun (node, rest, g) =>
                (.group (group + 1) node, rest, g, true)
            | none => none
        | '*' | '+' | '?' => none
        | '\x7b' =>
          if k.flags.unicode || (braces? rest).isSome then none
          else some (.char n, rest, group, true)
        | '\x7d' | ']' => if k.flags.unicode then none else some (.char n, rest, group, true)
        | _ => some (.char n, rest, group, true)
    match s with
    | [] => some (branch, [], group)
    | n :: more =>
      if isChar n ')' then some (branch, s, group)
      else if isChar n '|' then
        match alternatives? k fuel group .empty more with
        | some (node, rest, group) => some (.alt branch node, rest, group)
        | none => none
      else
        match atom with
        | none => none
        | some (node, rest, after, repeatable) =>
          let extend (node : Node) : Node := match branch with
            | .empty => node
            | branch => .seq branch node
          match repetition k.flags.unicode rest with
          | .malformed => none
          | .absent => alternatives? k fuel after (extend node) rest
          | .found least most greedy rest =>
            if repeatable then
              alternatives? k fuel after
                (extend (.repeated least most greedy (group + 1) after node)) rest
            else none

end Parser

/-- The expression of a pattern and its flags. -/
def parse? (source flags : Utf16) : Option Regexp :=
  match Flags.ofLetters? flags with
  | none => none
  | some flags =>
    let codes := if flags.unicode then source.codePoints else source.toList.map UInt16.toNat
    let (groups, names) := Parser.countGroups (codes.length + 1) false 0 [] codes
    let distinct := (names.map Prod.fst).eraseDups.length == names.length
    match Parser.alternatives? ⟨flags, groups, names⟩ (2 * codes.length + 2) 0 .empty codes with
    | some (node, [], _) => if distinct then some ⟨flags, node, groups, names⟩ else none
    | _ => none

end Regexp

end Extraction.Script
