import Extraction.Session.Variables

/-!
# Placeholders

A placeholder `{{name}}` in a rule stands for the text of a variable. Blanks around the name do not
count, and a name has neither blanks nor braces in it.

## Main definitions

* `Placeholder.at?`: the placeholder that a text begins with
* `Variables.fill`: a text with its placeholders filled
-/

namespace Extraction

namespace Placeholder

/-- Opens a placeholder. -/
def opening : Text := ['\x7b', '\x7b']

/-- Closes a placeholder. -/
def closing : Text := ['\x7d', '\x7d']

/-- Whether a character may stand in the name of a placeholder. -/
def isNameChar (c : Char) : Bool := c != '\x7b' && c != '\x7d' && !Text.isBlank c

/-- The name in the placeholder that a text begins with, and what follows the placeholder. -/
def at? (s : Text) : Option (Text × Text) :=
  match opening.isPrefixOf? s with
  | none => none
  | some body =>
    let body := Text.trimStart body
    match body.takeWhile isNameChar with
    | [] => none
    | name =>
      (closing.isPrefixOf? (Text.trimStart (body.dropWhile isNameChar))).map (name, ·)

theorem length_trimStart_le (s : Text) : (Text.trimStart s).length ≤ s.length :=
  (List.dropWhile_sublist _).length_le

/-- What follows a placeholder is shorter. -/
theorem length_of_at? {s name rest : Text} (h : at? s = some (name, rest)) :
    rest.length < s.length := by
  unfold at? at h
  split at h
  · simp at h
  rename_i body hbody
  dsimp only at h
  split at h
  · simp at h
  obtain ⟨rest', hrest, h⟩ := Option.map_eq_some_iff.1 h
  obtain ⟨-, rfl⟩ := Prod.mk.inj h
  have h1 := Text.length_of_isPrefixOf? hbody
  have h2 := Text.length_of_isPrefixOf? hrest
  have h3 := length_trimStart_le ((Text.trimStart body).dropWhile isNameChar)
  have h4 := (List.dropWhile_sublist (l := Text.trimStart body) isNameChar).length_le
  have h5 := length_trimStart_le body
  have h6 : opening.length = 2 := rfl
  omega

end Placeholder

/-- A text with its placeholders filled, from left to right: with the text of the variable, or with
nothing where there is no such variable. What has been filled in is not read again. -/
def Variables.fill (vs : Variables) (s : Text) : Text :=
  match s with
  | [] => []
  | c :: cs =>
    match _h : Placeholder.at? (c :: cs) with
    | some (name, rest) => vs.get name ++ vs.fill rest
    | none => c :: vs.fill cs
termination_by s.length
decreasing_by
  · exact Placeholder.length_of_at? _h
  · simp

end Extraction
