import Extraction.Proofs.DirectRules
import Mathlib.Algebra.Order.BigOperators.Group.List
import Mathlib.Algebra.Order.Group.Nat

/-!
# When no placeholder is left

Placeholders are filled once, from left to right, and what has been filled in is not read again. So
a placeholder is left when the text of a variable holds one, or when braces and a name fall into
place around what has been filled in. None is left if one of the two braces can never stand twice in
a row: no text that is filled in holds it, and it does not do so when the placeholders are cut out.

## Main definitions

* `Placeholder.Free`: the texts in which no placeholder begins
* `Placeholder.pieces`: the characters and the placeholders of a text
* `Variables.KeepsApart`: the condition on a brace
-/

namespace Extraction

namespace Placeholder

/-- No placeholder begins anywhere in the text. -/
def Free (s : Text) : Prop := ∀ t, t <:+ s → at? t = none

/-- The placeholders of a text, by their names, and the characters around them. -/
def pieces (s : Text) : List (Char ⊕ Text) :=
  match s with
  | [] => []
  | c :: cs =>
    match _h : at? (c :: cs) with
    | some (name, rest) => .inr name :: pieces rest
    | none => .inl c :: pieces cs
termination_by s.length
decreasing_by
  · exact length_of_at? _h
  · simp

/-- The names in the placeholders of a text. -/
def names (s : Text) : List Text := (pieces s).filterMap Sum.getRight?

/-- A text with its placeholders cut out. -/
def cutOut (s : Text) : Text := (pieces s).filterMap Sum.getLeft?

theorem free_nil : Free [] := by
  intro t ht
  rw [List.suffix_nil.mp ht]
  rfl

theorem free_cons_iff {c : Char} {cs : Text} :
    Free (c :: cs) ↔ at? (c :: cs) = none ∧ Free cs := by
  simp [Free, List.suffix_cons_iff]

/-! ### One placeholder -/

theorem isBlank_of_isNameChar {c : Char} (h : isNameChar c = true) : Text.isBlank c = false := by
  simp only [isNameChar, Bool.and_eq_true, Bool.not_eq_true'] at h
  exact h.2

/-- A placeholder is a name between two pairs of braces, with blanks around it perhaps. -/
theorem exists_of_at? {s name rest : Text} (h : at? s = some (name, rest)) :
    name ≠ [] ∧ (∀ c ∈ name, isNameChar c = true) ∧
      ∃ before after, s = opening ++ (before ++ (name ++ (after ++ (closing ++ rest)))) := by
  unfold at? at h
  split at h
  · cases h
  · next body hbody =>
    dsimp only at h
    split at h
    · cases h
    · next hne =>
      obtain ⟨rest, hrest, h⟩ := Option.map_eq_some_iff.mp h
      obtain ⟨rfl, rfl⟩ := Prod.mk.inj h
      refine ⟨fun hnil => hne hnil, fun c hc => List.mem_takeWhile_imp hc,
        body.takeWhile Text.isBlank,
        ((Text.trimStart body).dropWhile isNameChar).takeWhile Text.isBlank, ?_⟩
      rw [← Text.isPrefixOf?_eq_some_iff.mp hrest, Text.isPrefixOf?_eq_some_iff.mp hbody]
      simp only [Text.trimStart, List.takeWhile_append_dropWhile]

/-- A name between its braces is a placeholder. -/
theorem at?_braced {name : Text} (hne : name ≠ []) (hname : ∀ c ∈ name, isNameChar c = true)
    (rest : Text) : at? (opening ++ (name ++ (closing ++ rest))) = some (name, rest) := by
  have hclosing : closing ++ rest = '\x7d' :: '\x7d' :: rest := rfl
  have hstart : Text.trimStart (name ++ (closing ++ rest)) = name ++ (closing ++ rest) := by
    cases name with
    | nil => exact absurd rfl hne
    | cons c name =>
      apply List.dropWhile_cons_of_neg
      simp [isBlank_of_isNameChar (hname c List.mem_cons_self)]
  have htake : (name ++ (closing ++ rest)).takeWhile isNameChar = name := by
    rw [List.takeWhile_append_of_pos hname, hclosing, List.takeWhile_cons_of_neg (by decide),
      List.append_nil]
  have hdrop : (name ++ (closing ++ rest)).dropWhile isNameChar = closing ++ rest := by
    rw [List.dropWhile_append_of_pos hname, hclosing, List.dropWhile_cons_of_neg (by decide)]
  have hend : Text.trimStart (closing ++ rest) = closing ++ rest :=
    List.dropWhile_cons_of_neg (by decide)
  rw [at?, Text.isPrefixOf?_append]
  simp only [hstart, htake, hdrop, hend, Text.isPrefixOf?_append]
  cases name with
  | nil => exact absurd rfl hne
  | cons c name => rfl

/-- A text in which one of the braces does not stand twice in a row has no placeholder. -/
theorem free_of_not_doubled {s : Text} {brace : Char} (hbrace : brace = '\x7b' ∨ brace = '\x7d')
    (h : ¬ [brace, brace] <:+: s) : Free s := by
  intro t ht
  cases hat : at? t with
  | none => rfl
  | some found =>
    obtain ⟨-, -, before, after, rfl⟩ := exists_of_at? hat
    refine (h (List.IsInfix.trans ?_ ht.isInfix)).elim
    rcases hbrace with rfl | rfl
    · exact (List.prefix_append opening _).isInfix
    · refine ⟨opening ++ (before ++ (found.1 ++ after)), found.2, ?_⟩
      simp only [closing, List.append_assoc]

/-! ### The pieces of a text -/

theorem free_iff_names {s : Text} : Free s ↔ names s = [] := by
  unfold names
  fun_induction pieces s with
  | case1 => simp [free_nil]
  | case2 c cs name rest hat ih => simp [free_cons_iff, hat]
  | case3 c cs hat ih => simp [free_cons_iff, hat, ih]

theorem name_of_mem_names {s name : Text} (h : name ∈ names s) :
    name ≠ [] ∧ ∀ c ∈ name, isNameChar c = true := by
  unfold names at h
  fun_induction pieces s with
  | case1 => simp at h
  | case2 c cs first rest hat ih =>
    rcases List.mem_cons.mp h with rfl | h
    · obtain ⟨hne, hname, -⟩ := exists_of_at? hat
      exact ⟨hne, hname⟩
    · exact ih h
  | case3 c cs hat ih => exact ih h

/-- A name stands among the pieces where its placeholder stands. -/
theorem exists_of_mem_names {s name : Text} (h : name ∈ names s) :
    ∃ before after, pieces s = before ++ .inr name :: after := by
  obtain ⟨piece, hmem, hpiece⟩ := List.mem_filterMap.mp h
  cases piece with
  | inl c => cases hpiece
  | inr other =>
    obtain rfl : other = name := Option.some.inj hpiece
    exact List.append_of_mem hmem

end Placeholder

namespace Variables

open Placeholder

variable (vs : Variables)

theorem fill_of_placeholder {s name rest : Text} (h : at? s = some (name, rest)) :
    vs.fill s = vs.get name ++ vs.fill rest := by
  cases s with
  | nil => cases h
  | cons c cs =>
    rw [fill]
    split
    · next hat =>
      obtain ⟨rfl, rfl⟩ := Prod.mk.inj (Option.some.inj (hat.symm.trans h))
      rfl
    · next hat => cases hat.symm.trans h

theorem fill_of_none {c : Char} {cs : Text} (h : at? (c :: cs) = none) :
    vs.fill (c :: cs) = c :: vs.fill cs := by
  rw [fill]
  split
  · next hat => cases hat.symm.trans h
  · rfl

/-- The text of a piece: a character itself, and the text of a variable for its placeholder. -/
def pieceText : Char ⊕ Text → Text := Sum.elim ([·]) vs.get

theorem fill_eq_flatMap (s : Text) : vs.fill s = (pieces s).flatMap vs.pieceText := by
  fun_induction pieces s with
  | case1 => rw [fill, List.flatMap_nil]
  | case2 c cs name rest hat ih => rw [fill_of_placeholder vs hat, List.flatMap_cons, ih]; rfl
  | case3 c cs hat ih => rw [fill_of_none vs hat, List.flatMap_cons, ih]; rfl

theorem fill_of_free {s : Text} (h : Free s) : vs.fill s = s := by
  induction s with
  | nil => rw [fill]
  | cons c cs ih =>
    obtain ⟨hat, hcs⟩ := free_cons_iff.mp h
    rw [fill_of_none vs hat, ih hcs]

/-- Without variables filling drops the placeholders, each of which has a length. -/
theorem length_fill_empty (s : Text) :
    (empty.fill s).length + (names s).length ≤ s.length := by
  unfold names
  fun_induction pieces s with
  | case1 => rw [fill]; simp
  | case2 c cs name rest hat ih =>
    have hrest := length_of_at? hat
    have hget : empty.get name = [] := rfl
    rw [fill_of_placeholder _ hat, hget, List.nil_append]
    simp only [List.filterMap_cons, Sum.getRight?_inr, List.length_cons] at hrest ⊢
    omega
  | case3 c cs hat ih =>
    rw [fill_of_none _ hat]
    simp only [List.filterMap_cons, Sum.getRight?_inl, List.length_cons]
    omega

/-- Of the names there are more than variables. -/
theorem exists_get_eq_nil :
    ∃ name, name ≠ [] ∧ (∀ c ∈ name, isNameChar c = true) ∧ vs.get name = [] := by
  let total := (vs.entries.map (·.1.length)).sum
  refine ⟨List.replicate (total + 1) 'a', by simp, ?_, ?_⟩
  · intro c hc
    rw [List.eq_of_mem_replicate hc]
    decide
  · have hnone : vs.get? (List.replicate (total + 1) 'a') = none := by
      apply List.lookup_eq_none_iff.mpr
      intro entry hentry
      -- the name is longer than that of any variable
      have hlength : entry.1.length ≤ total :=
        List.le_sum_of_mem (List.mem_map_of_mem hentry)
      simp only [bne_iff_ne, ne_eq]
      intro heq
      rw [← heq, List.length_replicate] at hlength
      omega
    rw [get, hnone, Option.getD_none]

/-! ### Braces that are kept apart -/

/-- A brace never stands twice in a row: no text that is filled in holds it, and without the
placeholders it does not do so. -/
structure KeepsApart (raw : Text) (brace : Char) : Prop where
  isBrace : brace = '\x7b' ∨ brace = '\x7d'
  values : ∀ name ∈ names raw, brace ∉ vs.get name
  rest : ¬ [brace, brace] <:+: cutOut raw

/-- What begins with a character that a text does not hold occurs behind that text only. -/
theorem infix_append_of_notMem {c : Char} {p s t : Text} (hs : c ∉ s) :
    c :: p <:+: s ++ t ↔ c :: p <:+: t := by
  induction s with
  | nil => rfl
  | cons d s ih =>
    obtain ⟨hd, hs⟩ := not_or.mp (List.mem_cons.not.mp hs)
    rw [List.cons_append, List.infix_cons_iff, ih hs]
    exact or_iff_right (Text.not_prefix_of_head_ne (Ne.symm hd))

section Pieces

variable {vs} {brace : Char} {ps : List (Char ⊕ Text)}

/-- A brace at the front of a filled text is its own if no text that is filled in holds it. -/
theorem prefix_of_prefix_flatMap (hvalues : ∀ name, .inr name ∈ ps → brace ∉ vs.get name)
    (h : [brace] <+: ps.flatMap vs.pieceText) : [brace] <+: ps.filterMap Sum.getLeft? := by
  induction ps with
  | nil => exact h
  | cons piece ps ih =>
    cases piece with
    | inl c =>
      obtain ⟨rfl, -⟩ := List.cons_prefix_cons.mp h
      exact List.cons_prefix_cons.mpr ⟨rfl, List.nil_prefix⟩
    | inr name =>
      have hname := hvalues name List.mem_cons_self
      change [brace] <+: vs.get name ++ ps.flatMap vs.pieceText at h
      cases hvalue : vs.get name with
      | nil =>
        rw [hvalue] at h
        exact ih (fun name hmem => hvalues name (List.mem_cons_of_mem _ hmem)) h
      | cons d value =>
        rw [hvalue] at h hname
        obtain ⟨rfl, -⟩ := List.cons_prefix_cons.mp h
        exact absurd List.mem_cons_self hname

theorem infix_of_infix_flatMap (hvalues : ∀ name, .inr name ∈ ps → brace ∉ vs.get name)
    (h : [brace, brace] <:+: ps.flatMap vs.pieceText) :
    [brace, brace] <:+: ps.filterMap Sum.getLeft? := by
  induction ps with
  | nil => exact h
  | cons piece ps ih =>
    have hrest (name : Text) (hmem : .inr name ∈ ps) : brace ∉ vs.get name :=
      hvalues name (List.mem_cons_of_mem _ hmem)
    cases piece with
    | inl c =>
      rcases List.infix_cons_iff.mp h with hfront | hin
      · obtain ⟨rfl, hnext⟩ := List.cons_prefix_cons.mp hfront
        have hnext := prefix_of_prefix_flatMap hrest hnext
        exact (List.cons_prefix_cons.mpr ⟨rfl, hnext⟩).isInfix
      · exact List.infix_cons (ih hrest hin)
    | inr name =>
      have hname := hvalues name List.mem_cons_self
      exact ih hrest ((infix_append_of_notMem hname).mp h)

end Pieces

/-- If a brace is kept apart, filling leaves no placeholder. -/
theorem KeepsApart.free_fill {vs : Variables} {raw : Text} {brace : Char}
    (h : vs.KeepsApart raw brace) : Free (vs.fill raw) := by
  apply free_of_not_doubled h.isBrace
  rw [fill_eq_flatMap]
  refine fun hin => h.rest (infix_of_infix_flatMap (fun name hmem => h.values name ?_) hin)
  exact List.mem_filterMap.mpr ⟨.inr name, hmem, rfl⟩

/-- Braces that are not kept apart fall into place around a name that has none itself. -/
example : (empty.put ['a'] ['b']).fill "\x7b\x7b\x7b\x7ba\x7d\x7d\x7d\x7d".toList =
    "\x7b\x7bb\x7d\x7d".toList := by
  decide +kernel

end Variables

namespace Placeholder

/-- A text has no placeholder exactly if filling it changes nothing, whatever the variables are. -/
theorem free_iff_forall_fill_eq {s : Text} : Free s ↔ ∀ vs : Variables, vs.fill s = s := by
  constructor
  · exact fun h vs => vs.fill_of_free h
  · intro h
    have hlength := Variables.length_fill_empty s
    rw [h .empty] at hlength
    exact free_iff_names.mpr (List.eq_nil_of_length_eq_zero (by omega))

/-- A text has no placeholder exactly if none is left in it, whatever the variables are: where there
is one, a variable may hold that very placeholder. -/
theorem free_iff_forall_free_fill {s : Text} :
    Free s ↔ ∀ vs : Variables, Free (vs.fill s) := by
  constructor
  · intro h vs
    rwa [vs.fill_of_free h]
  · intro h
    apply free_iff_names.mpr
    apply List.eq_nil_iff_forall_not_mem.mpr
    intro name hmem
    obtain ⟨hne, hname⟩ := name_of_mem_names hmem
    obtain ⟨before, after, hpieces⟩ := exists_of_mem_names hmem
    let vs := Variables.empty.put name (opening ++ (name ++ closing))
    have hget : vs.get name = opening ++ (name ++ closing) := by
      rw [Variables.get, Variables.get?_put, if_pos rfl, Option.getD_some]
    have hfill : vs.fill s = before.flatMap vs.pieceText ++
        (opening ++ (name ++ (closing ++ after.flatMap vs.pieceText))) := by
      rw [Variables.fill_eq_flatMap, hpieces, List.flatMap_append, List.flatMap_cons]
      show _ ++ (vs.get name ++ _) = _
      rw [hget]
      simp only [List.append_assoc]
    have hat := h vs _ ⟨before.flatMap vs.pieceText, hfill.symm⟩
    rw [at?_braced hne hname] at hat
    cases hat

/-- Whatever the variables are, in some text a placeholder is left: where a name has no text, its
placeholder vanishes from between two braces. -/
theorem exists_not_free_fill (vs : Variables) : ∃ s, ¬ Free (vs.fill s) := by
  obtain ⟨name, hne, hname, hget⟩ := vs.exists_get_eq_nil
  let tail : Text := "\x7ba\x7d\x7d".toList
  have htail : vs.fill tail = tail :=
    vs.fill_of_free (free_of_not_doubled (.inl rfl) (by decide))
  have hfirst : at? ('\x7b' :: (opening ++ (name ++ (closing ++ tail)))) = none := rfl
  refine ⟨'\x7b' :: (opening ++ (name ++ (closing ++ tail))), fun hfree => ?_⟩
  rw [vs.fill_of_none hfirst, vs.fill_of_placeholder (at?_braced hne hname tail), hget, htail]
    at hfree
  exact absurd (hfree _ List.suffix_rfl) (by decide)

end Placeholder

namespace Extractor

open Placeholder

/-- With the texts of its variables put in their places a rule has no placeholder any more, and is
compiled without one, if a brace is kept apart; then filling it again changes nothing. Neither the
rule nor the variables are safe by themselves: if the rule has a placeholder, some variables leave
one in it, and the variables leave one in some rule. -/
theorem compiles_without_placeholders (vs : Variables) (raw : Text) :
    (Free raw ↔ ∀ ws : Variables, Free (ws.fill raw)) ∧
      (∃ other, ¬ Free (vs.fill other)) ∧
      ∀ brace, vs.KeepsApart raw brace →
        Free (vs.fill raw) ∧ (∀ ws : Variables, ws.fill (vs.fill raw) = vs.fill raw) ∧
        ∀ (x : Extractor) (history : List Request) (mode : Mode), (x.after history).vars = vs →
          ((Session.rule raw mode true).run (x.after history)).1.map Shared.value =
              Rule.compile (vs.fill raw) mode ∧
            ((Session.step raw mode true).run (x.after history)).1.map Shared.value =
              Rule.compileSingle (vs.fill raw) mode := by
  refine ⟨free_iff_forall_free_fill, exists_not_free_fill vs, fun brace hbrace => ?_⟩
  have hfree := hbrace.free_fill
  refine ⟨hfree, free_iff_forall_fill_eq.mp hfree, ?_⟩
  rintro x history mode rfl
  have hsound := x.sound_after history
  exact ⟨Session.map_value_rule hsound raw mode true, Session.map_value_step hsound raw mode true⟩

/-- A chapter number is filled in, next to the braces of a repetition. -/
theorem compiles_without_placeholders_repetition :
    let raw := "p##第\x7b\x7bno\x7d\x7d章\\d\x7b1,2\x7d".toList
    let vs := Variables.empty.put ['n', 'o'] ['7']
    let x : Extractor := ⟨Config.usual, fun _ v => return v⟩
    let s := x.after [.put ['n', 'o'] ['7']]
    vs.KeepsApart raw '\x7b' ∧ s.vars = vs ∧ Free (vs.fill raw) ∧
      ((Session.rule raw .css true).run s).1.map Shared.value =
        Rule.compile "p##第7章\\d\x7b1,2\x7d".toList .css := by
  intro raw vs x s
  have hpieces : names raw = [['n', 'o']] ∧ cutOut raw = "p##第章\\d\x7b1,2\x7d".toList := by
    decide +kernel
  have hbrace : vs.KeepsApart raw '\x7b' := by
    refine ⟨.inl rfl, ?_, ?_⟩
    · rw [hpieces.1]
      decide
    · rw [hpieces.2]
      decide
  have hfill : vs.fill raw = "p##第7章\\d\x7b1,2\x7d".toList := by decide +kernel
  obtain ⟨hfree, -, hcompile⟩ := (compiles_without_placeholders vs raw).2.2 '\x7b' hbrace
  refine ⟨hbrace, rfl, hfree, ?_⟩
  rw [← hfill]
  exact (hcompile x [.put ['n', 'o'] ['7']] .css rfl).1

/-- The text of a variable holds the placeholder of another one, which is left: the rule is compiled
with it, and only filling once more would put a text in its place. -/
theorem compiles_placeholder :
    let x : Extractor := ⟨Config.usual, fun _ v => return v⟩
    let raw := "\x7b\x7ba\x7d\x7d".toList
    let left := "\x7b\x7bb\x7d\x7d".toList
    let s := x.after [.put ['a'] left, .put ['b'] ['x']]
    s.vars.fill raw = left ∧ ¬ Free left ∧ s.vars.fill left = ['x'] ∧
      ((Session.rule raw .css true).run s).1.map (·.value.steps.map Step.selector) = .ok [left] ∧
      ((Session.step raw .css true).run s).1.map (·.value.selector) = .ok left := by
  intro x raw left s
  have hfill : s.vars.fill raw = left ∧ s.vars.fill left = ['x'] := by decide +kernel
  have hat : at? left = some (['b'], []) := by decide +kernel
  refine ⟨hfill.1, ?_, hfill.2, by decide +kernel, by decide +kernel⟩
  intro hfree
  rw [hfree left List.suffix_rfl] at hat
  cases hat

end Extractor

end Extraction
