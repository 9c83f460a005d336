import Extraction.Regex.Basic

/-!
# Replacements

The regular expression of a step with the text that takes the place of its matches. In a rule a
replacement is spelled with `$1` for the text of a group, `\$` for a dollar sign and a backslash in
front of any character that stands for itself. It is kept as a template, in which `${name}` stands
for a group and `$$` for a dollar sign.
-/

namespace Extraction

/-- The regular expression of a step, what takes the place of a match, and the group that a single
value is cut to. -/
structure Replacement where
  regex : Regex
  template : Text
  group : Option Nat

namespace Replacement

/-- The template that a replacement in a rule spells. -/
def normalize : Text → Text
  | [] => []
  | '\\' :: '$' :: rest => '$' :: '$' :: normalize rest
  | '\\' :: c :: rest => c :: normalize rest
  | '$' :: '{' :: rest => '$' :: '{' :: normalize rest
  | '$' :: rest =>
    match rest.takeWhile Char.isDigit with
    | [] => '$' :: '$' :: normalize rest
    | digits => '$' :: '{' :: digits ++ '}' :: normalize (rest.dropWhile Char.isDigit)
  | c :: rest => c :: normalize rest
termination_by s => s.length
decreasing_by
  all_goals simp only [List.length_cons]
  all_goals try omega
  have := (List.dropWhile_sublist (l := rest) Char.isDigit).length_le
  omega

/-- Whether a character may stand in the name of a group after a dollar sign. -/
def isNameChar (c : Char) : Bool := c.isAlphanum || c == '_'

/-- The text of the group that a name or a number stands for. -/
def groupText (m : Match) (name : Text) : Text :=
  match Text.unsigned? 10 18446744073709551615 name with
  | some n => m.group n
  | none => m.namedGroup name

/-- A template with the groups of a match put in. -/
def expand (m : Match) (template : Text) : Text :=
  match template with
  | [] => []
  | '$' :: '$' :: rest => '$' :: expand m rest
  | '$' :: '{' :: rest =>
    match _hcut : Text.splitOnce? ['}'] rest with
    | some (name, after) => groupText m name ++ expand m after
    | none => '$' :: expand m ('{' :: rest)
  | '$' :: rest =>
    match rest.takeWhile isNameChar with
    | [] => '$' :: expand m rest
    | name => groupText m name ++ expand m (rest.dropWhile isNameChar)
  | c :: rest => c :: expand m rest
termination_by template.length
decreasing_by
  all_goals simp only [List.length_cons]
  all_goals try omega
  · have := Text.length_of_splitOnce? _hcut
    simp only [List.length_cons] at this
    omega
  · have := (List.dropWhile_sublist (l := rest) isNameChar).length_le
    omega

/-- The text with every match replaced. -/
def replaceAll (r : Replacement) (s : Text) : Text :=
  r.regex.replaceAll (expand · r.template) s

/-- The text with the first match replaced. -/
def replaceFirst (r : Replacement) (s : Text) : Text :=
  r.regex.replaceFirst (expand · r.template) s

/-- A single value: cut to the group, if the step names one, of the first match, with the first
match inside it replaced; and with every match replaced otherwise. -/
def apply (r : Replacement) (s : Text) : Text :=
  match r.group with
  | none => r.replaceAll s
  | some g =>
    match r.regex.find? s with
    | none => []
    | some m => r.replaceFirst (m.group g)

end Replacement

end Extraction
