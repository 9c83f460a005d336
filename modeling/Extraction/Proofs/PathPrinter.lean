import Extraction.Proofs.PathPrint

/-!
# Printing location paths

A printer of unions of location paths. What it prints is one of the texts that write the union, so
reading undoes printing.

## Main definitions

* `XPath.print`: the text of a union of paths
* `XPath.IsPrintable`: the unions that can be printed
-/

namespace Extraction.XPath

open Text

/-! ### What can be printed -/

/-- One of the two quotes does not occur in the string. -/
def IsQuotable (v : Text) : Prop := '\'' ∉ v ∨ '"' ∉ v

instance (v : Text) : Decidable (IsQuotable v) := inferInstanceAs (Decidable (_ ∨ _))

/-- Positions are in range, attributes have names, and strings can be quoted. -/
def Predicate.IsPrintable : Predicate → Prop
  | .index n => 1 ≤ n ∧ n ≤ maxPosition
  | .last => True
  | .hasAttribute name => IsName name
  | .attributeIs name v => IsName name ∧ IsQuotable v
  | .attributeContains name v => IsName name ∧ IsQuotable v
  | .textIs v => IsQuotable v
  | .textContains v => IsQuotable v

instance : (p : Predicate) → Decidable p.IsPrintable
  | .index _ => inferInstanceAs (Decidable (_ ∧ _))
  | .last => inferInstanceAs (Decidable True)
  | .hasAttribute name => inferInstanceAs (Decidable (IsName name))
  | .attributeIs _ _ => inferInstanceAs (Decidable (_ ∧ _))
  | .attributeContains _ _ => inferInstanceAs (Decidable (_ ∧ _))
  | .textIs v => inferInstanceAs (Decidable (IsQuotable v))
  | .textContains v => inferInstanceAs (Decidable (IsQuotable v))

/-- The name of an element has no capitals of ASCII, and is none of the marks for a node itself and
for its parent. -/
def Test.IsPrintable : Test → Prop
  | .label name => IsName name ∧ (∀ c ∈ name, c.isUpper = false) ∧ name ≠ ['.'] ∧ name ≠ ['.', '.']
  | .attribute name => IsName name
  | _ => True

instance : (t : Test) → Decidable t.IsPrintable
  | .label _ => inferInstanceAs (Decidable (_ ∧ _ ∧ _ ∧ _))
  | .attribute name => inferInstanceAs (Decidable (IsName name))
  | .anyElement | .text | .anyAttribute | .self | .parent => inferInstanceAs (Decidable True)

/-- The test and all predicates can be printed. -/
structure Step.IsPrintable (s : Step) : Prop where
  test : s.test.IsPrintable
  predicates : ∀ p ∈ s.predicates, p.IsPrintable

instance (s : Step) : Decidable s.IsPrintable :=
  decidable_of_iff (s.test.IsPrintable ∧ ∀ p ∈ s.predicates, p.IsPrintable)
    ⟨fun h => ⟨h.1, h.2⟩, fun h => ⟨h.1, h.2⟩⟩

/-- There is a step, each can be printed, and a path that is not absolute begins on the axis of
children. -/
structure Path.IsPrintable (p : Path) : Prop where
  ne_nil : p.steps ≠ []
  steps : ∀ s ∈ p.steps, s.IsPrintable
  relative : p.absolute = false → ∀ s ∈ p.steps.head?, s.axis = .child

instance (p : Path) : Decidable p.IsPrintable :=
  decidable_of_iff (p.steps ≠ [] ∧ (∀ s ∈ p.steps, s.IsPrintable) ∧
      (p.absolute = false → ∀ s ∈ p.steps.head?, s.axis = .child))
    ⟨fun h => ⟨h.1, h.2.1, h.2.2⟩, fun h => ⟨h.1, h.2, h.3⟩⟩

/-- There is a path, and each can be printed. -/
structure IsPrintable (x : XPath) : Prop where
  ne_nil : x.paths ≠ []
  paths : ∀ p ∈ x.paths, p.IsPrintable

instance (x : XPath) : Decidable x.IsPrintable :=
  decidable_of_iff (x.paths ≠ [] ∧ ∀ p ∈ x.paths, p.IsPrintable)
    ⟨fun h => ⟨h.1, h.2⟩, fun h => ⟨h.1, h.2⟩⟩

/-! ### The printer -/

/-- A string in single quotes, or in double ones if there is a single one in it. -/
def quote (v : Text) : Text :=
  if '\'' ∈ v then '"' :: (v ++ ['"']) else '\'' :: (v ++ ['\''])

/-- What stands in the brackets of a predicate. -/
def Predicate.body : Predicate → Text
  | .index n => ofNat n
  | .last => "last()".toList
  | .hasAttribute name => '@' :: name
  | .attributeIs name v => '@' :: name ++ '=' :: quote v
  | .attributeContains name v => "contains(".toList ++ ('@' :: name ++ ',' :: quote v) ++ [')']
  | .textIs v => "text()".toList ++ '=' :: quote v
  | .textContains v => "contains(".toList ++ ("text()".toList ++ ',' :: quote v) ++ [')']

/-- Predicates in brackets, one after the other. -/
def printPredicates : List Predicate → Text
  | [] => []
  | p :: rest => '[' :: (p.body ++ ']' :: printPredicates rest)

def Test.print : Test → Text
  | .label name => name
  | .anyElement => ['*']
  | .text => "text()".toList
  | .attribute name => '@' :: name
  | .anyAttribute => ['@', '*']
  | .self => ['.']
  | .parent => ['.', '.']

/-- A step, without the slashes before it. -/
def Step.print (s : Step) : Text := s.test.print ++ printPredicates s.predicates

/-- Steps, each after the slashes of its axis. -/
def printSteps : List Step → Text
  | [] => []
  | s :: rest => s.axis.slashes ++ (s.print ++ printSteps rest)

/-- A path. One that is not absolute has no slashes before its first step. -/
def Path.print (p : Path) : Text :=
  if p.absolute then printSteps p.steps
  else
    match p.steps with
    | [] => []
    | first :: rest => first.print ++ printSteps rest

/-- Paths with bars between them. -/
def printPaths : List Path → Text
  | [] => []
  | [p] => p.print
  | p :: rest => p.print ++ '|' :: printPaths rest

/-- The text of a union of paths. -/
def print (x : XPath) : Text := printPaths x.paths

/-! ### What is printed is written -/

theorem quotedAs_quote {v : Text} (h : IsQuotable v) : QuotedAs v (quote v) := by
  unfold quote
  split
  · next hmem => exact .mk (.inr rfl) (h.resolve_left (not_not_intro hmem))
  · next hnot => exact .mk (.inl rfl) hnot

theorem Predicate.body_body {p : Predicate} (h : p.IsPrintable) : p.Body p.body := by
  cases p with
  | index n => exact .index h.1 h.2
  | last => exact .last
  | hasAttribute name => exact .hasAttribute h
  | attributeIs name v => exact .equals (.attr h.1) (quotedAs_quote h.2)
  | attributeContains name v => exact .contains (.attr h.1) (quotedAs_quote h.2)
  | textIs v => exact .equals .text (quotedAs_quote h)
  | textContains v => exact .contains .text (quotedAs_quote h)

theorem predicatesWritten_print {ps : List Predicate} (h : ∀ p ∈ ps, p.IsPrintable) :
    PredicatesWritten ps (printPredicates ps) := by
  induction ps with
  | nil => exact .nil
  | cons p rest ih =>
    obtain ⟨hp, hrest⟩ := List.forall_mem_cons.1 h
    exact .cons (Predicate.body_body hp) (ih hrest)

theorem Test.written_print {t : Test} (h : t.IsPrintable) : t.Written t.print := by
  cases t with
  | label name => exact .label h.1 h.2.1 h.2.2.1 h.2.2.2
  | anyElement => exact .anyElement
  | text => exact .text
  | «attribute» name => exact .attr h
  | anyAttribute => exact .anyAttribute
  | self => exact .self
  | parent => exact .parent

theorem Step.written_print {s : Step} (h : s.IsPrintable) : s.Written s.print :=
  .mk (Test.written_print h.test) (predicatesWritten_print h.predicates)

theorem stepsWritten_print {first : Step} {rest : List Step} (hfirst : first.IsPrintable)
    (hrest : ∀ s ∈ rest, s.IsPrintable) :
    StepsWritten first rest (first.print ++ printSteps rest) := by
  induction rest generalizing first with
  | nil =>
    rw [printSteps, List.append_nil]
    exact .single (Step.written_print hfirst)
  | cons next rest ih =>
    obtain ⟨hnext, hrest⟩ := List.forall_mem_cons.1 hrest
    exact .cons (Step.written_print hfirst) (ih hnext hrest)

theorem Path.written_print {p : Path} (h : p.IsPrintable) : p.Written p.print := by
  obtain ⟨absolute, steps⟩ := p
  obtain ⟨first, rest, rfl⟩ := List.exists_cons_of_ne_nil h.ne_nil
  obtain ⟨hfirst, hrest⟩ := List.forall_mem_cons.1 h.steps
  cases absolute with
  | true => exact .absolute (stepsWritten_print hfirst hrest)
  | false => exact .relative (h.relative rfl first rfl) (stepsWritten_print hfirst hrest)

theorem written_print {x : XPath} (h : x.IsPrintable) : Written x x.print := by
  obtain ⟨paths⟩ := x
  have hne := h.ne_nil
  have hpaths := h.paths
  unfold print
  dsimp only at hne hpaths ⊢
  clear h
  induction paths with
  | nil => exact (hne rfl).elim
  | cons p rest ih =>
    obtain ⟨hp, hrest⟩ := List.forall_mem_cons.1 hpaths
    cases rest with
    | nil => exact .single (Path.written_print hp)
    | cons next rest => exact .cons (Path.written_print hp) (ih (List.cons_ne_nil _ _) hrest)

/-- Reading undoes printing: a union of paths is read back from what the printer prints, and from
every other text that writes it. -/
theorem parse_print {x : XPath} (h : x.IsPrintable) :
    parse x.print = .ok x ∧ ∀ t, Written x t → parse t = .ok x :=
  ⟨parse_of_written (written_print h), fun _ => parse_of_written⟩

/-- The strings of this union hold brackets, a comma, an equals sign, a slash, a bar and quotes. -/
theorem parse_print_delimiters :
    let x : XPath := ⟨[
      ⟨true, [
        ⟨.descendant, .label "div".toList, [.attributeContains "class".toList "a,b]='".toList]⟩,
        ⟨.child, .parent, []⟩]⟩,
      ⟨false, [
        ⟨.child, .label ['a'], [.textIs "/|\"(".toList, .index 2]⟩,
        ⟨.descendant, .attribute "data-Src".toList, [.last]⟩]⟩]⟩
    x.IsPrintable ∧
      x.print =
        "//div[contains(@class,\"a,b]='\")]/..|a[text()='/|\"('][2]//@data-Src[last()]".toList ∧
      parse x.print = .ok x := by
  intro x
  have h : x.IsPrintable := by decide +kernel
  exact ⟨h, by decide +kernel, (parse_print h).1⟩

end Extraction.XPath
