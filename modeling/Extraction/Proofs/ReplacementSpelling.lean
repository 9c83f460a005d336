import Extraction.Proofs.GroupNames
import Extraction.Proofs.TextFacts
import Extraction.Rule.Replacement
import Mathlib.Algebra.Group.Nat.Even

/-!
# What a replacement spells

A replacement in a rule spells characters and groups. It is turned into a template, and the template
is read once more for every match. The two readings together put in place of a match what the
spelling says: no character of the one that stands for itself is part of a group for the other.

## Main definitions

* `Replacement.Piece`: a character or a group
* `Replacement.Spells`: the pieces that a replacement spells
* `Replacement.NamesClosed`: the names in braces are closed

## Main results

* `Replacement.NamesClosed.exists_spells`: a replacement with closed names spells something
* `Replacement.Spells.expand_normalize`: its template expands to what it spells
-/

namespace Extraction

/-! ### Splicing -/

namespace Regex

variable {f g : Match → Text}

theorem splice_congr {origin : Nat} {found : List Match} {s : Text}
    (h : ∀ m ∈ found, f m = g m) : splice f origin found s = splice g origin found s := by
  induction found generalizing origin s with
  | nil => rfl
  | cons m found ih =>
    rw [splice, splice, h m List.mem_cons_self, ih fun n hn => h n (List.mem_cons_of_mem m hn)]

/-- Only what a replacement makes of the matches counts. -/
theorem replaceAll_congr {r : Regex} {s : Text} (h : ∀ m ∈ r.findAll s, f m = g m) :
    r.replaceAll f s = r.replaceAll g s :=
  splice_congr h

end Regex

namespace Replacement

/-! ### Spellings -/

/-- A piece of what is put in place of a match. -/
inductive Piece where
  /-- A character that stands for itself. -/
  | char (c : Char)
  /-- The group with a number. -/
  | number (n : Nat)
  /-- The group with a name. -/
  | named (name : Text)

/-- The text of a piece. A number with more than 64 bits is that of no group. -/
def Piece.text (m : Match) : Piece → Text
  | .char c => [c]
  | .number n => if n ≤ 18446744073709551615 then m.group n else []
  | .named name => groupText m name

/-- Whether a character can be part of a name in braces. -/
def isNamePart (c : Char) : Bool := c != '$' && c != '\\' && c != '{' && c != '}'

/-- The pieces that a replacement spells. -/
inductive Spells : Text → List Piece → Prop
  | nil : Spells [] []
  /-- Nothing follows the backslash. -/
  | backslash : Spells ['\\'] [.char '\\']
  | escape (c : Char) {t : Text} {pieces : List Piece} (rest : Spells t pieces) :
      Spells ('\\' :: c :: t) (.char c :: pieces)
  /-- All digits that follow the dollar sign are the number. -/
  | number {digits t : Text} {pieces : List Piece} (nonempty : digits ≠ [])
      (digit : ∀ c ∈ digits, c.isDigit = true) (stop : ∀ c ∈ t.head?, c.isDigit = false)
      (rest : Spells t pieces) :
      Spells ('$' :: (digits ++ t)) (.number (Nat.ofDigitChars 10 digits 0) :: pieces)
  | braces {name t : Text} {pieces : List Piece} (part : ∀ c ∈ name, isNamePart c = true)
      (rest : Spells t pieces) :
      Spells ('$' :: '{' :: (name ++ '}' :: t)) (.named name :: pieces)
  | dollar {t : Text} {pieces : List Piece} (other : ∀ c ∈ t.head?, c.isDigit = false ∧ c ≠ '{')
      (rest : Spells t pieces) : Spells ('$' :: t) (.char '$' :: pieces)
  | char {c : Char} {t : Text} {pieces : List Piece} (backslash : c ≠ '\\') (dollar : c ≠ '$')
      (rest : Spells t pieces) : Spells (c :: t) (.char c :: pieces)

/-- How many backslashes a text ends in. -/
def backslashes (s : Text) : Nat := (s.reverse.takeWhile (· == '\\')).length

/-- Where a dollar sign that is not escaped stands before an opening brace, a name follows and then
the closing brace. -/
def NamesClosed (s : Text) : Prop :=
  ∀ n < s.length, ['$', '{'] <+: s.drop n → Even (backslashes (s.take n)) →
    ((s.drop (n + 2)).dropWhile isNamePart).head? = some '}'

instance (s : Text) : Decidable (NamesClosed s) :=
  inferInstanceAs (Decidable (∀ n < s.length, _ → _ → _))

/-! ### Templates -/

variable {c : Char} {t : Text}

/-- The digits in front of a text end where the text goes on with none. -/
theorem takeWhile_isDigit {digits : Text} (hdigit : ∀ c ∈ digits, c.isDigit = true)
    (hstop : ∀ c ∈ t.head?, c.isDigit = false) :
    (digits ++ t).takeWhile Char.isDigit = digits ∧ (digits ++ t).dropWhile Char.isDigit = t := by
  rw [List.takeWhile_append_of_pos hdigit, List.dropWhile_append_of_pos hdigit]
  cases t with
  | nil => exact ⟨List.append_nil digits, rfl⟩
  | cons c t =>
    have hc : ¬ c.isDigit = true := Bool.eq_false_iff.1 (hstop c rfl)
    rw [List.takeWhile_cons_of_neg hc, List.dropWhile_cons_of_neg hc]
    exact ⟨List.append_nil digits, rfl⟩

theorem normalize_number {digits : Text} (hne : digits ≠ [])
    (hdigit : ∀ c ∈ digits, c.isDigit = true) (hstop : ∀ c ∈ t.head?, c.isDigit = false) :
    normalize ('$' :: (digits ++ t)) = '$' :: '{' :: (digits ++ '}' :: normalize t) := by
  obtain ⟨htake, hdrop⟩ := takeWhile_isDigit hdigit hstop
  obtain ⟨d, ds, rfl⟩ := List.exists_cons_of_ne_nil hne
  have hd : d ≠ '{' := by
    rintro rfl
    exact absurd (hdigit '{' List.mem_cons_self) (by decide)
  rw [normalize, htake, hdrop]
  · rfl
  · intro rest hrest
    exact hd (List.cons.inj hrest).1

example : normalize "$1a".toList = "$\x7b1\x7da".toList := by cbv

theorem normalize_nil : normalize [] = [] := by
  rw [normalize]

theorem normalize_backslash : normalize ['\\'] = ['\\'] := by
  rw [normalize, normalize_nil] <;> simp

/-- A character with a backslash before it is doubled if it is a dollar sign. -/
theorem normalize_escape (c : Char) (t : Text) :
    normalize ('\\' :: c :: t) = (if c = '$' then ['$', '$'] else [c]) ++ normalize t := by
  by_cases hc : c = '$'
  · subst hc
    rw [normalize]
    rfl
  · rw [normalize, if_neg hc]
    · rfl
    · exact hc

theorem normalize_brace (t : Text) : normalize ('$' :: '{' :: t) = '$' :: '{' :: normalize t := by
  rw [normalize]

theorem normalize_dollar (hother : ∀ c ∈ t.head?, c.isDigit = false ∧ c ≠ '{') :
    normalize ('$' :: t) = '$' :: '$' :: normalize t := by
  have htake : t.takeWhile Char.isDigit = [] :=
    (takeWhile_isDigit (List.forall_mem_nil _) fun c hc => (hother c hc).1).1
  rw [normalize, htake]
  rintro rest rfl
  exact (hother '{' rfl).2 rfl

theorem normalize_cons (hbackslash : c ≠ '\\') (hdollar : c ≠ '$') (t : Text) :
    normalize (c :: t) = c :: normalize t := by
  rw [normalize] <;> simp_all

theorem ne_of_isNamePart (hc : isNamePart c = true) :
    c ≠ '$' ∧ c ≠ '\\' ∧ c ≠ '{' ∧ c ≠ '}' := by
  simpa [isNamePart, and_assoc] using hc

/-- A name stays as it is. -/
theorem normalize_name {name : Text} (hname : ∀ c ∈ name, isNamePart c = true) (t : Text) :
    normalize (name ++ t) = name ++ normalize t := by
  induction name with
  | nil => rfl
  | cons c name ih =>
    obtain ⟨hdollar, hbackslash, _⟩ := ne_of_isNamePart (hname c List.mem_cons_self)
    rw [List.cons_append, normalize_cons hbackslash hdollar,
      ih fun d hd => hname d (List.mem_cons_of_mem c hd), List.cons_append]

/-! ### Expansions -/

variable (m : Match)

theorem expand_dollars (t : Text) : expand m ('$' :: '$' :: t) = '$' :: expand m t := by
  rw [expand]

example : expand m "$$5".toList = "$5".toList := by cbv

theorem expand_nil : expand m [] = [] := by
  rw [expand]

theorem expand_braces {name : Text} (hname : '}' ∉ name) (t : Text) :
    expand m ('$' :: '{' :: (name ++ '}' :: t)) = groupText m name ++ expand m t := by
  have hcut : Text.splitOnce? ['}'] (name ++ '}' :: t) = some (name, t) :=
    Text.splitOnce?_of_notMem hname [] t
  rw [expand]
  split
  · next hsome =>
    rw [hcut] at hsome
    cases hsome
    rfl
  · next hnone =>
    rw [hcut] at hnone
    cases hnone

theorem expand_cons (hdollar : c ≠ '$') (t : Text) : expand m (c :: t) = c :: expand m t := by
  rw [expand] <;> simp_all

/-- Digits name the group with the number that they write. -/
theorem groupText_of_isDigit (hnames : ∀ entry ∈ m.names, Regex.Parser.IsGroupName entry.1)
    {digits : Text} (hne : digits ≠ []) (hdigit : ∀ c ∈ digits, c.isDigit = true) :
    groupText m digits = (Piece.number (Nat.ofDigitChars 10 digits 0)).text m := by
  have hvalue : Text.digits? 10 digits = some (Nat.ofDigitChars 10 digits 0) := by
    obtain ⟨d, ds, rfl⟩ := List.exists_cons_of_ne_nil hne
    exact Text.foldlM_digitValue? hdigit 0
  have hread : Text.unsigned? 10 18446744073709551615 digits =
      (some (Nat.ofDigitChars 10 digits 0)).filter (· ≤ 18446744073709551615) := by
    rw [← hvalue]
    unfold Text.unsigned?
    split
    · exact absurd (hdigit '+' List.mem_cons_self) (by decide)
    · rfl
  rw [groupText, hread, Option.filter_some, Piece.text]
  by_cases hle : Nat.ofDigitChars 10 digits 0 ≤ 18446744073709551615
  · rw [if_pos (decide_eq_true hle), if_pos hle]
  · rw [if_neg (by simpa using hle), if_neg hle]
    exact Regex.namedGroup_of_isDigit hnames hdigit

/-- The template of a replacement expands to the pieces that the replacement spells. -/
theorem Spells.expand_normalize {s : Text} {pieces : List Piece} (h : Spells s pieces)
    (hnames : ∀ entry ∈ m.names, Regex.Parser.IsGroupName entry.1) :
    expand m (normalize s) = pieces.flatMap (Piece.text m) := by
  -- By induction on the spelling: each piece is written by one equation of `normalize` and read by
  -- one equation of `expand`.
  induction h with
  | nil => rw [normalize_nil, expand_nil, List.flatMap_nil]
  | backslash =>
    rw [normalize_backslash, expand_cons m (by decide), expand_nil]
    rfl
  | @escape c t pieces _ ih =>
    rw [normalize_escape, List.flatMap_cons, ← ih]
    by_cases hc : c = '$'
    · subst hc
      exact expand_dollars m _
    · rw [if_neg hc]
      exact expand_cons m hc _
  | number hne hdigit hstop _ ih =>
    rw [normalize_number hne hdigit hstop, List.flatMap_cons, ← ih,
      ← groupText_of_isDigit m hnames hne hdigit]
    exact expand_braces m (fun hmem => absurd (hdigit _ hmem) (by decide)) _
  | braces hpart _ ih =>
    rw [normalize_brace, normalize_name hpart, normalize_cons (by decide) (by decide),
      List.flatMap_cons, ← ih]
    exact expand_braces m (fun hmem => absurd (hpart _ hmem) (by decide)) _
  | dollar hother _ ih =>
    rw [normalize_dollar hother, expand_dollars, ih]
    rfl
  | char hbackslash hdollar _ ih =>
    rw [normalize_cons hbackslash hdollar, expand_cons m hdollar, ih]
    rfl

/-! ### Closed names -/

theorem backslashes_eq_zero {s : Text} (hs : '\\' ∉ s) : backslashes s = 0 := by
  have hnil : s.reverse.takeWhile (· == '\\') = [] := by
    rw [List.takeWhile_eq_nil_iff]
    intro hlength heq
    exact hs (List.mem_reverse.1 (eq_of_beq heq ▸ List.getElem_mem hlength))
  rw [backslashes, hnil, List.length_nil]

theorem even_backslashes_append {s t : Text} (hs : Even (backslashes s))
    (ht : Even (backslashes t)) : Even (backslashes (s ++ t)) := by
  rw [backslashes, List.reverse_append, List.takeWhile_append]
  -- The backslashes at the end go on into `s` only if `t` has nothing else.
  split
  · next hall =>
    rw [List.length_append, ← hall]
    exact ht.add hs
  · exact ht

/-- What follows an even number of backslashes has closed names. -/
theorem NamesClosed.of_append {s t : Text} (h : NamesClosed (s ++ t))
    (hs : Even (backslashes s)) : NamesClosed t := by
  intro n hn hopen heven
  have hclosed := h (s.length + n) (by rw [List.length_append]; omega)
  rw [Nat.add_assoc, List.drop_length_add_append, List.drop_length_add_append,
    List.take_length_add_append] at hclosed
  exact hclosed hopen (even_backslashes_append hs heven)

theorem NamesClosed.of_append_of_notMem {s t : Text} (h : NamesClosed (s ++ t)) (hs : '\\' ∉ s) :
    NamesClosed t := by
  refine h.of_append ?_
  rw [backslashes_eq_zero hs]
  exact Even.zero

theorem NamesClosed.of_escape {c : Char} {t : Text} (h : NamesClosed ('\\' :: c :: t)) :
    NamesClosed t := by
  refine NamesClosed.of_append (s := ['\\', c]) h ?_
  by_cases hc : c = '\\'
  · subst hc
    decide
  · have hzero : backslashes ['\\', c] = 0 := by simp [backslashes, hc]
    rw [hzero]
    exact Even.zero

/-- A brace after a dollar sign opens a name, and what follows the name has closed names. -/
theorem NamesClosed.exists_name {t : Text} (h : NamesClosed ('$' :: '{' :: t)) :
    ∃ name rest, t = name ++ '}' :: rest ∧ (∀ c ∈ name, isNamePart c = true) ∧
      NamesClosed rest := by
  have hclosed := h 0 (Nat.succ_pos _) (List.prefix_append ['$', '{'] t) Even.zero
  obtain ⟨rest, hrest⟩ := List.head?_eq_some_iff.1 hclosed
  have hname : ∀ c ∈ t.takeWhile isNamePart, isNamePart c = true := fun c hc =>
    List.mem_takeWhile_imp hc
  have ht : t = t.takeWhile isNamePart ++ '}' :: rest := by
    rw [← hrest]
    exact List.takeWhile_append_dropWhile.symm
  refine ⟨t.takeWhile isNamePart, rest, ht, hname, ?_⟩
  refine NamesClosed.of_append_of_notMem (s := '$' :: '{' :: (t.takeWhile isNamePart ++ ['}'])) ?_
    fun hmem => ?_
  · rw [List.cons_append, List.cons_append, List.append_assoc, List.singleton_append, ← ht]
    exact h
  · have hin : '\\' ∈ t.takeWhile isNamePart := by simpa using hmem
    exact absurd (hname _ hin) (by decide)

/-- The digits in front of a text. -/
theorem exists_digits (t : Text) : ∃ digits rest, t = digits ++ rest ∧
    (∀ c ∈ digits, c.isDigit = true) ∧ ∀ c ∈ rest.head?, c.isDigit = false := by
  refine ⟨t.takeWhile Char.isDigit, t.dropWhile Char.isDigit,
    List.takeWhile_append_dropWhile.symm, fun c hc => List.mem_takeWhile_imp hc, fun c hc => ?_⟩
  have hstop := List.head?_dropWhile_not Char.isDigit t
  rw [Option.mem_def.1 hc] at hstop
  exact hstop

/-- A replacement whose names in braces are closed spells something. -/
theorem NamesClosed.exists_spells (s : Text) (h : NamesClosed s) : ∃ pieces, Spells s pieces := by
  -- By recursion on the text: one piece is taken off, and what is left has closed names.
  cases s with
  | nil => exact ⟨[], .nil⟩
  | cons c t =>
    by_cases hbackslash : c = '\\'
    · subst hbackslash
      cases t with
      | nil => exact ⟨_, .backslash⟩
      | cons c t =>
        obtain ⟨pieces, hpieces⟩ := exists_spells t h.of_escape
        exact ⟨_, .escape c hpieces⟩
    · have hrest : NamesClosed t := by
        refine NamesClosed.of_append_of_notMem (s := [c]) h ?_
        rw [List.mem_singleton]
        exact Ne.symm hbackslash
      by_cases hdollar : c = '$'
      · subst hdollar
        by_cases hbrace : t.head? = some '{'
        · obtain ⟨u, rfl⟩ := List.head?_eq_some_iff.1 hbrace
          obtain ⟨name, rest, rfl, hname, hclosed⟩ := h.exists_name
          obtain ⟨pieces, hpieces⟩ := exists_spells rest hclosed
          exact ⟨_, .braces hname hpieces⟩
        · obtain ⟨digits, rest, rfl, hdigit, hstop⟩ := exists_digits t
          by_cases hne : digits = []
          · subst hne
            obtain ⟨pieces, hpieces⟩ := exists_spells rest hrest
            refine ⟨_, .dollar (fun d hd => ⟨hstop d hd, ?_⟩) hpieces⟩
            rintro rfl
            exact hbrace hd
          · have hclosed : NamesClosed rest := hrest.of_append_of_notMem fun hmem =>
              absurd (hdigit _ hmem) (by decide)
            obtain ⟨pieces, hpieces⟩ := exists_spells rest hclosed
            exact ⟨_, .number hne hdigit hstop hpieces⟩
      · obtain ⟨pieces, hpieces⟩ := exists_spells t hrest
        exact ⟨_, .char hbackslash hdollar hpieces⟩
termination_by s.length

/-! ### Replacing -/

/-- A replacement puts in place of every match what it spells. -/
theorem replaceAll_normalize {s : Text} (hs : NamesClosed s) :
    (∃ pieces, Spells s pieces) ∧
      ∀ pieces, Spells s pieces → ∀ source regex, Regex.compile? source = some regex →
        ∀ group input, replaceAll ⟨regex, normalize s, group⟩ input =
          regex.replaceAll (fun m => pieces.flatMap (Piece.text m)) input := by
  refine ⟨hs.exists_spells, ?_⟩
  intro pieces hpieces source regex hregex group input
  refine Regex.replaceAll_congr fun m hm => hpieces.expand_normalize m ?_
  rw [Regex.names_of_mem_findAll hm]
  exact Regex.isGroupName_of_compile? hregex

/-- A dollar sign and a backslash that are escaped, a group number before a letter, a group name
before an underscore, and a dollar sign at the end. -/
theorem replaceAll_normalize_mixed :
    ∃ s pieces, NamesClosed s ∧ Spells s pieces ∧
      s = "\\$$1a\\\\$\x7bx\x7d_$".toList ∧
      (Regex.compile? "(a)(?<x>b)".toList).map
        (fun regex => replaceAll ⟨regex, normalize s, none⟩ "ab-".toList) =
          some "$aa\\b_$-".toList := by
  let s : Text :=
    ['\\', '$', '$', '1', 'a', '\\', '\\', '$', '{', 'x', '}', '_', '$']
  let pieces : List Piece :=
    [.char '$', .number 1, .char 'a', .char '\\', .named ['x'], .char '_', .char '$']
  have hclosed : NamesClosed s := by decide
  have hend : Spells ['_', '$'] [.char '_', .char '$'] :=
    .char (by decide) (by decide) (.dollar (fun _ hc => by cases hc) .nil)
  have hname : ∀ c ∈ ['x'], isNamePart c = true := by decide
  have hdigit : ∀ c ∈ ['1'], c.isDigit = true := by decide
  have hspells : Spells s pieces := by
    refine .escape _ (.number (List.cons_ne_nil _ _) hdigit (fun _ hc => by cases hc; rfl) ?_)
    exact .char (by decide) (by decide) (.escape _ (.braces hname hend))
  refine ⟨s, pieces, hclosed, hspells, rfl, ?_⟩
  have hrun : (Regex.compile? "(a)(?<x>b)".toList).map
      (fun regex => regex.replaceAll (fun m => pieces.flatMap (Piece.text m)) "ab-".toList) =
        some "$aa\\b_$-".toList := by
    decide +kernel
  rw [← hrun]
  refine Option.map_congr fun regex hregex => ?_
  exact (replaceAll_normalize hclosed).2 pieces hspells _ regex hregex none _

end Replacement

end Extraction
