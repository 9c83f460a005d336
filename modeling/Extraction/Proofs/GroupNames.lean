import Extraction.Regex.Basic
import Extraction.Proofs.TextFacts

/-!
# The names of groups

A group of a regular expression has a name that begins with a letter or an underscore. No number is
taken for a name: what digits refer to is the group with that number, or none.

## Main definitions

* `Parser.IsGroupName`: what can be the name of a group
* `Parser.Keeps`: a reader that adds no other names to those that it finds

## Main results

* `isGroupName_of_compile?`: the groups of a regular expression have such names
* `namedGroup_of_isDigit`: digits are the name of no group
-/

namespace Extraction.Text

theorem isAlphabetic_of_isDigit {c : Char} (hc : c.isDigit = true) :
    isAlphabetic c = false := by
  rw [isDigit_iff] at hc
  have halpha : c.isAlpha = false := by
    rw [← Bool.not_eq_true, isAlpha_iff]
    omega
  rw [isAlphabetic, halpha, decide_eq_false (by omega)]
  rfl

end Extraction.Text

namespace Extraction.Regex

namespace Parser

/-- A text that can be the name of a group. -/
def IsGroupName (name : Text) : Prop :=
  ∃ c t, name = c :: t ∧ isNameChar true c = true ∧ t.all (isNameChar false) = true

/-- The groups that were read have the names of groups. -/
def Named (c : Cursor) : Prop := ∀ entry ∈ c.names, IsGroupName entry.1

/-- When the reader succeeds where all groups have proper names, they still do afterwards. -/
def Keeps {α : Type} (x : Reader α) : Prop :=
  ∀ c a c', Named c → x.run c = some (a, c') → Named c'

namespace Keeps

variable {α β : Type}

/-! ### Structural rules -/

protected theorem pure (a : α) : Keeps (pure a : Reader α) := by
  intro c b c' hc h
  cases h
  exact hc

protected theorem failure : Keeps (failure : Reader α) := by
  intro c a c' hc h
  cases h

protected theorem bind {x : Reader α} {f : α → Reader β} (hx : Keeps x)
    (hf : ∀ a, Keeps (f a)) : Keeps (x >>= f) := by
  intro c b c' hc h
  obtain ⟨⟨a, d⟩, hrun, hrest⟩ := Option.bind_eq_some_iff.1 h
  exact hf a d b c' (hx c a d hc hrun) hrest

/-- What was read before is at hand with its proper names. -/
theorem get_bind {f : Cursor → Reader β} (hf : ∀ c, Named c → Keeps (f c)) :
    Keeps (get >>= f) := by
  intro c b c' hc h
  exact hf c hc c b c' hc h

protected theorem set {c : Cursor} (hc : Named c) : Keeps (set c : Reader PUnit) := by
  intro d a c' hd h
  cases h
  exact hc

/-- What changes nothing about the names. -/
protected theorem modify {f : Cursor → Cursor} (hf : ∀ c, (f c).names = c.names) :
    Keeps (modify f : Reader PUnit) := by
  intro c a c' hc h
  cases h
  intro entry hentry
  rw [hf] at hentry
  exact hc entry hentry

protected theorem ite {p : Prop} [Decidable p] {x y : Reader α} (hx : Keeps x) (hy : Keeps y) :
    Keeps (if p then x else y) := by
  split
  · exact hx
  · exact hy

end Keeps

/-! ### Steps of the readers -/

theorem keeps_peek : Keeps peek := Keeps.get_bind fun _ _ => .pure _

theorem keeps_bump : Keeps bump := .modify fun _ => rfl

theorem keeps_space : Keeps space := by
  refine .modify fun c => ?_
  split <;> rfl

theorem keeps_bumpSpace : Keeps bumpSpace := keeps_bump.bind fun _ => keeps_space

/-- Goes on in one of two ways, one character further in the first. -/
theorem Keeps.skip_if {β : Type} {p : Prop} [Decidable p] {f : Bool → Reader β}
    (hf : ∀ b, Keeps (f b)) :
    Keeps (if p then do bumpSpace; f (← pure true) else do f (← pure false)) :=
  .ite (keeps_bumpSpace.bind fun _ => hf true) (hf false)

theorem keeps_require (b : Bool) : Keeps (require b) := .ite (.pure _) .failure

/-- What comes after a condition may rely on it. -/
theorem Keeps.require_bind {β : Type} {b : Bool} {x : Reader β} (hx : b = true → Keeps x) :
    Keeps (require b >>= fun _ => x) := by
  cases b with
  | true => exact hx rfl
  | false => exact fun c a c' hc h => by cases h

theorem keeps_accept (p : Text) : Keeps (accept p) := by
  refine .get_bind fun c hc => ?_
  split
  · refine Keeps.bind (.set ?_) fun _ => .pure _
    exact hc
  · exact .pure _

theorem keeps_deeper (n : Nat) : Keeps (deeper n) := (keeps_require _).bind fun _ => .pure _

/-! ### Escapes -/

theorem keeps_hexDigits (count value : Nat) : Keeps (hexDigits count value) := by
  induction count generalizing value with
  | zero => exact .pure _
  | succ count ih =>
    refine keeps_peek.bind fun c => ?_
    split
    · split
      · exact keeps_bumpSpace.bind fun _ => ih _
      · exact .failure
    · exact .failure

theorem keeps_bracedHex (fuel : Nat) (read : Text) : Keeps (bracedHex fuel read) := by
  induction fuel generalizing read with
  | zero => exact .failure
  | succ fuel ih =>
    refine keeps_peek.bind fun c => ?_
    split
    · refine keeps_bumpSpace.bind fun _ => .ite ?_ (ih _)
      split
      · exact .pure _
      · exact .failure
    · exact .failure

theorem keeps_hexEscape (kind : Char) : Keeps (hexEscape kind) := by
  have hend (n : Nat) : Keeps (do require (isCharCode n); return n) :=
    (keeps_require _).bind fun _ => .pure n
  refine keeps_peek.bind fun c => .ite ?_ ?_
  · exact keeps_bumpSpace.bind fun _ => .get_bind fun c _ => (keeps_bracedHex _ _).bind hend
  · exact (keeps_hexDigits _ _).bind fun n => .get_bind fun c _ => (keeps_require _).bind fun _ =>
      (Keeps.pure n).bind hend

theorem keeps_untilBrace (fuel : Nat) (read : Text) : Keeps (untilBrace fuel read) := by
  induction fuel generalizing read with
  | zero => exact .failure
  | succ fuel ih =>
    refine keeps_peek.bind fun c => ?_
    split
    · exact .ite (keeps_bump.bind fun _ => .pure _) (keeps_bumpSpace.bind fun _ => ih _)
    · exact .failure

theorem keeps_propertyClass : Keeps propertyClass := by
  refine keeps_peek.bind fun c => ?_
  split
  · refine .ite ?_ ?_
    · refine keeps_bumpSpace.bind fun _ => .get_bind fun c _ =>
        (keeps_untilBrace _ _).bind fun name => ?_
      dsimp only
      split
      · exact .pure _
      · exact .failure
    · refine (keeps_require _).bind fun _ => keeps_bumpSpace.bind fun _ => ?_
      split
      · exact .pure _
      · exact .failure
  · exact .failure

theorem keeps_specialBoundary (ascii : Bool) : Keeps (specialBoundary ascii) := by
  refine .get_bind fun start hstart => .ite (.pure _) ?_
  refine keeps_bumpSpace.bind fun _ => keeps_peek.bind fun c => ?_
  split
  · exact .failure
  · refine .ite ((Keeps.set hstart).bind fun _ => .pure _) ?_
    refine .get_bind fun c _ => Keeps.bind (.modify fun _ => rfl) fun _ => keeps_peek.bind fun _ =>
      (keeps_require _).bind fun _ => keeps_bump.bind fun _ => ?_
    exact .ite (.pure _) (.ite (.pure _) (.ite (.pure _) (.ite (.pure _) .failure)))

theorem keeps_escape : Keeps escape := by
  refine .get_bind fun f _ => keeps_peek.bind fun c => ?_
  split
  · refine .ite .failure (.ite ?_ (.ite ?_ (.ite ?_ (.ite ?_ ?_))))
    · exact keeps_bumpSpace.bind fun _ => (keeps_hexEscape _).bind fun _ => .pure _
    · exact keeps_bumpSpace.bind fun _ => (keeps_require _).bind fun _ =>
        keeps_propertyClass.bind fun _ => .pure _
    · exact keeps_bump.bind fun _ => .pure _
    · exact keeps_bump.bind fun _ => (keeps_require _).bind fun _ => .pure _
    · refine keeps_bump.bind fun _ => ?_
      repeat' apply Keeps.ite
      all_goals first
        | exact .pure _
        | exact (keeps_specialBoundary _).bind fun _ => .pure _
        | exact .failure
  · exact .failure

theorem keeps_classItem : Keeps classItem := by
  refine keeps_peek.bind fun c => ?_
  split
  · exact .ite (keeps_bump.bind fun _ => keeps_escape) (keeps_bump.bind fun _ => .pure _)
  · exact .failure

/-! ### Classes -/

theorem keeps_setOp : Keeps setOp := by
  refine (keeps_accept _).bind fun _ => .ite (.pure _) ?_
  refine (keeps_accept _).bind fun _ => .ite (.pure _) ?_
  exact (keeps_accept _).bind fun _ => .ite (.pure _) (.pure _)

theorem keeps_atomSet (f : Flags) (a : Atom) : Keeps (atomSet f a) := by
  cases a with
  | literal n => exact .pure _
  | cls holds => exact .pure _
  | condition l => exact .failure

theorem keeps_peekSecond : Keeps peekSecond := by
  refine .get_bind fun start hstart => keeps_bumpSpace.bind fun _ => keeps_peek.bind fun _ => ?_
  exact (Keeps.set hstart).bind fun _ => .pure _

theorem keeps_classRange : Keeps classRange := by
  refine .get_bind fun c _ => keeps_classItem.bind fun first => keeps_space.bind fun _ =>
    keeps_peek.bind fun next => ?_
  split
  · refine keeps_peekSecond.bind fun second => .ite (keeps_atomSet _ _) ?_
    refine keeps_bumpSpace.bind fun _ => keeps_peek.bind fun _ => (keeps_require _).bind fun _ =>
      keeps_classItem.bind fun last => ?_
    split
    · exact (keeps_require _).bind fun _ => .pure _
    · exact .failure
  · exact .failure

theorem keeps_namedClass : Keeps namedClass := by
  refine .get_bind fun c _ => .get_bind fun start hstart => (keeps_accept _).bind fun opened =>
    .ite ?_ (.pure _)
  have hback : Keeps (do set start; return (none : Option ClassPiece)) :=
    (Keeps.set hstart).bind fun _ => .pure _
  refine (keeps_accept _).bind fun negated => .get_bind fun c _ => ?_
  dsimp only
  split
  · split
    · refine Keeps.bind (.set ?_) fun _ => .pure _
      exact hstart
    · exact hback
  · exact hback

theorem keeps_leadingHyphens (fuel : Nat) : Keeps (leadingHyphens fuel) := by
  induction fuel with
  | zero => exact .pure _
  | succ fuel ih =>
    refine keeps_peek.bind fun c => .ite ?_ (.pure _)
    exact keeps_bumpSpace.bind fun _ => ih.bind fun _ => .pure _

theorem keeps_bracketed (fuel : Nat) : Keeps (bracketed fuel) ∧ ∀ f pending union,
    Keeps (bracketed.items f fuel pending union) := by
  -- A class is read by its items, and an item can be a class.
  induction fuel with
  | zero => exact ⟨.failure, fun _ _ _ => .failure⟩
  | succ fuel ih =>
    obtain ⟨hclass, hitems⟩ := ih
    constructor
    · refine .get_bind fun c _ => keeps_space.bind fun _ => keeps_peek.bind fun _ =>
        .skip_if fun negated => ?_
      refine (keeps_require _).bind fun _ => .get_bind fun c _ =>
        (keeps_leadingHyphens _).bind fun hyphens => keeps_peek.bind fun _ =>
        .skip_if fun bracket => ?_
      exact (hitems _ _ _).bind fun _ => (keeps_deeper _).bind fun _ => .pure _
    · intro f pending union
      refine keeps_space.bind fun _ => keeps_peek.bind fun next => ?_
      split
      · refine .ite ?_ (.ite (keeps_bump.bind fun _ => .pure _) ?_)
        · refine keeps_namedClass.bind fun named => ?_
          split
          · exact hitems _ _ _
          · exact keeps_bump.bind fun _ => hclass.bind fun _ => hitems _ _ _
        · refine keeps_setOp.bind fun op => ?_
          split
          · exact hitems _ _ _
          · exact keeps_classRange.bind fun _ => hitems _ _ _
      · exact .failure

/-! ### Loops, flags and names -/

theorem keeps_decimal : Keeps decimal := by
  refine Keeps.bind (.modify fun _ => rfl) fun _ => .get_bind fun c _ =>
    Keeps.bind (.modify fun _ => rfl) fun _ => ?_
  split
  · exact .pure _
  · exact (keeps_require _).bind fun _ => .pure _

theorem keeps_bounds : Keeps bounds := by
  refine keeps_space.bind fun _ => keeps_decimal.bind fun least => keeps_peek.bind fun c => ?_
  split
  · refine .ite ?_ ?_
    · refine keeps_bumpSpace.bind fun _ => keeps_peek.bind fun c => ?_
      split
      · refine .ite (keeps_bump.bind fun _ => ?_) ?_
        · split
          · exact .pure _
          · exact .failure
        · split
          · refine keeps_decimal.bind fun most => ?_
            split
            · exact keeps_peek.bind fun _ => (keeps_require _).bind fun _ =>
                keeps_bump.bind fun _ => .pure _
            · exact .failure
          · exact .failure
      · exact .failure
    · split
      · exact (keeps_require _).bind fun _ => keeps_bump.bind fun _ => .pure _
      · exact .failure
  · exact .failure

theorem keeps_greed : Keeps greed :=
  (keeps_accept _).bind fun _ => .get_bind fun _ _ => .pure _

theorem keeps_readFlags (fuel : Nat) (seen : Text) (on dangling : Bool) (f : Flags) :
    Keeps (readFlags fuel seen on dangling f) := by
  induction fuel generalizing seen on dangling f with
  | zero => exact .failure
  | succ fuel ih =>
    refine keeps_peek.bind fun c => ?_
    split
    · refine .ite ((keeps_require _).bind fun _ => .pure _) ?_
      refine (keeps_require _).bind fun _ => keeps_bump.bind fun _ => ?_
      refine .ite (ih _ _ _ _) ?_
      repeat' apply Keeps.ite
      all_goals first
        | exact ih _ _ _ _
        | exact .failure
    · exact .failure

/-- A new group adds its name, if it has one, to those that were read. -/
theorem keeps_newGroup {name : Option Text} (hname : ∀ n ∈ name, IsGroupName n) :
    Keeps (newGroup name) := by
  refine .get_bind fun c hc => ?_
  cases name with
  | none =>
    refine Keeps.bind (.set ?_) fun _ => .pure _
    exact hc
  | some name =>
    refine (keeps_require _).bind fun _ => Keeps.bind (.set ?_) fun _ => .pure _
    intro entry hentry
    rcases List.mem_cons.1 hentry with rfl | hentry
    · exact hname name rfl
    · exact hc entry hentry

/-- What is read as the name of a group is one. -/
theorem Keeps.groupName_bind {β : Type} {f : Text → Reader β}
    (hf : ∀ name, IsGroupName name → Keeps (f name)) : Keeps (groupName >>= f) := by
  rw [groupName, bind_assoc]
  refine .get_bind fun c _ => ?_
  dsimp only
  split
  · intro c b c' hc h
    cases h
  · next name after hcut =>
    simp only [bind_assoc, pure_bind]
    refine .require_bind fun hname => Keeps.bind (.modify fun _ => rfl) fun _ => hf name ?_
    simp only [Bool.and_eq_true, Bool.not_eq_true', List.isEmpty_eq_false_iff] at hname
    obtain ⟨⟨hne, hfirst⟩, hrest⟩ := hname
    obtain ⟨d, t, rfl⟩ := List.exists_cons_of_ne_nil hne
    exact ⟨d, t, rfl, by simpa using hfirst, hrest⟩

/-! ### Branches -/

theorem keeps_sequence (items : Items) : Keeps (sequence items) := by
  unfold sequence
  split
  · exact .pure _
  · exact .pure _
  · exact .pure _
  · exact (keeps_deeper _).bind fun _ => .pure _

theorem keeps_alternation (branches : List Piece) : Keeps (alternation branches) := by
  unfold alternation
  split
  · exact .pure _
  · exact .pure _
  · exact (keeps_deeper _).bind fun _ => .pure _

theorem keeps_loopLast (least : Nat) (most : Option Nat) (items : Items) :
    Keeps (loopLast least most items) := by
  unfold loopLast
  split
  · exact keeps_greed.bind fun _ => (keeps_deeper _).bind fun _ => .pure _
  · exact .failure

theorem keeps_grouped (n : Nat) (p : Piece) : Keeps (branches.grouped n p) :=
  (keeps_deeper _).bind fun _ => .pure _

theorem Keeps.inner {body : Reader Piece} (hbody : Keeps body) (f : Flags) :
    Keeps (branches.inner f body) := by
  refine hbody.bind fun p => keeps_peek.bind fun _ => (keeps_require _).bind fun _ =>
    keeps_bump.bind fun _ => Keeps.bind (.modify fun _ => rfl) fun _ => .pure _

theorem keeps_primitive (f : Flags) (c : Char) : Keeps (branches.primitive f c) := by
  refine .ite (keeps_escape.bind fun a => ?_) ?_
  · cases a <;> exact .pure _
  · exact .ite ((keeps_require _).bind fun _ => .pure _) (.ite (.pure _) (.ite (.pure _) (.pure _)))

theorem keeps_branches (fuel : Nat) (done : List Piece) (items : Items) :
    Keeps (branches fuel done items) := by
  -- The body of a group is read with less fuel, as is what follows an item.
  induction fuel generalizing done items with
  | zero => exact .failure
  | succ fuel ih =>
    have hend : Keeps (do alternation ((← sequence items) :: done)) :=
      (keeps_sequence _).bind fun _ => keeps_alternation _
    refine keeps_space.bind fun _ => .get_bind fun c _ => keeps_peek.bind fun next => ?_
    split
    · exact hend
    · refine .ite hend (.ite ?_ (.ite ?_ (.ite ?_ (.ite ?_ (.ite ?_ (.ite ?_ (.ite ?_ ?_)))))))
      · exact keeps_bump.bind fun _ => (keeps_sequence _).bind fun _ => ih _ _
      · -- What is in parentheses: a group with a name, flags, or a group with a number alone.
        refine keeps_bump.bind fun _ => keeps_space.bind fun _ => .get_bind fun c _ =>
          (Keeps.pure _).bind fun look => (keeps_require _).bind fun _ =>
          (keeps_accept _).bind fun _ => (keeps_accept _).bind fun _ => .ite ?_ ?_
        · exact .groupName_bind fun name hname =>
            (keeps_newGroup fun n hn => Option.some.inj hn ▸ hname).bind fun n =>
            (Keeps.inner (ih _ _) _).bind fun p => (keeps_grouped _ _).bind fun _ => ih _ _
        · refine (keeps_accept _).bind fun _ => .ite ?_ ?_
          · refine .get_bind fun c _ => (keeps_readFlags _ _ _ _ _).bind fun read =>
              keeps_peek.bind fun next => keeps_bump.bind fun _ => .ite ?_ ?_
            · exact (keeps_require _).bind fun _ =>
                Keeps.bind (.modify fun _ => rfl) fun _ => ih _ _
            · exact Keeps.bind (.modify fun _ => rfl) fun _ =>
                (Keeps.inner (ih _ _) _).bind fun p => (keeps_deeper _).bind fun _ => ih _ _
          · exact (keeps_newGroup fun n hn => by cases hn).bind fun n =>
              (Keeps.inner (ih _ _) _).bind fun p => (keeps_grouped _ _).bind fun _ => ih _ _
      · exact keeps_bump.bind fun _ => .get_bind fun c _ =>
          (keeps_bracketed _).1.bind fun _ => ih _ _
      · exact keeps_bump.bind fun _ => (keeps_loopLast _ _ _).bind fun _ => ih _ _
      · exact keeps_bump.bind fun _ => (keeps_loopLast _ _ _).bind fun _ => ih _ _
      · exact keeps_bump.bind fun _ => (keeps_loopLast _ _ _).bind fun _ => ih _ _
      · exact (keeps_require _).bind fun _ => keeps_bump.bind fun _ => keeps_bounds.bind fun b =>
          (keeps_loopLast _ _ _).bind fun _ => ih _ _
      · exact keeps_bump.bind fun _ => (keeps_primitive _ _).bind fun _ => ih _ _

end Parser

/-- The names of the groups of a regular expression are names. -/
theorem isGroupName_of_compile? {source : Text} {regex : Regex}
    (h : compile? source = some regex) : ∀ entry ∈ regex.names, Parser.IsGroupName entry.1 := by
  obtain ⟨⟨p, names⟩, hparse, rfl⟩ := Option.map_eq_some_iff.1 h
  unfold parse? at hparse
  split at hparse
  · next piece c hrun =>
    split at hparse
    · cases hparse
      exact Parser.keeps_branches _ _ _ _ piece c (fun entry hentry => by cases hentry) hrun
    · cases hparse
  · cases hparse

/-! ### Matches -/

theorem matchOf_names {r : Regex} {origin : Nat} {s : Text} {slots : Slots} {m : Match}
    (h : r.matchOf origin s slots = some m) : m.names = r.names := by
  obtain ⟨span, _, rfl⟩ := Option.map_eq_some_iff.1 h
  rfl

theorem findFrom?_names {r : Regex} {previous : Option Char} {origin : Nat} {s : Text} {m : Match}
    (h : r.findFrom? previous origin s = some m) : m.names = r.names := by
  obtain ⟨slots, _, hm⟩ := Option.bind_eq_some_iff.1 h
  exact matchOf_names hm

theorem names_of_mem_matchesFrom {r : Regex} {fuel : Nat} {previous : Option Char} {origin : Nat}
    {after : Bool} {s : Text} {m : Match} (hm : m ∈ r.matchesFrom fuel previous origin after s) :
    m.names = r.names := by
  fun_induction matchesFrom r fuel previous origin after s with
  | case1 => cases hm
  | case2 => cases hm
  | case3 => cases hm
  | case4 fuel previous origin after m' hfind hempty c cs ih => exact ih hm
  | case5 fuel previous origin after s m' hfind hempty read previous' ih =>
    rcases List.mem_cons.1 hm with rfl | hm
    · exact findFrom?_names hfind
    · exact ih hm

/-- The groups of a match have the names that the regular expression gives them. -/
theorem names_of_mem_findAll {r : Regex} {s : Text} {m : Match} (hm : m ∈ r.findAll s) :
    m.names = r.names := names_of_mem_matchesFrom hm

/-! ### Numbers -/

theorem Parser.IsGroupName.exists_not_isDigit {name : Text} (h : Parser.IsGroupName name) :
    ∃ c ∈ name, c.isDigit = false := by
  obtain ⟨c, t, rfl, hc, _⟩ := h
  refine ⟨c, List.mem_cons_self, Bool.eq_false_iff.2 fun hdigit => ?_⟩
  rw [Parser.isNameChar, if_pos rfl, Text.isAlphabetic_of_isDigit hdigit, Bool.or_false,
    beq_iff_eq] at hc
  subst hc
  exact absurd hdigit (by decide)

/-- No group is found under digits. -/
theorem namedGroup_of_isDigit {m : Match} (hnames : ∀ entry ∈ m.names, Parser.IsGroupName entry.1)
    {digits : Text} (hdigits : ∀ c ∈ digits, c.isDigit = true) : m.namedGroup digits = [] := by
  have hnone : m.names.lookup digits = none := by
    rw [List.lookup_eq_none_iff]
    intro entry hentry
    obtain ⟨c, hc, hdigit⟩ := (hnames entry hentry).exists_not_isDigit
    rw [bne_iff_ne]
    rintro rfl
    rw [hdigits c hc] at hdigit
    cases hdigit
  rw [Match.namedGroup, hnone]
  rfl

end Extraction.Regex
