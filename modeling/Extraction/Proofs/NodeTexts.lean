import Extraction.Markup.Content
import Extraction.Proofs.TextFacts
import Mathlib.Data.List.Chain

/-!
# The texts of a node

A node has its text as a whole and text node by text node. Collapsing blanks keeps every other
character where it is, so that both hold the same of them; and what is directly in a node reads the
same whether its text nodes are put together before their blanks are collapsed or after.

## Main definitions

* `Text.solid`: the characters of a text that are no blanks
* `Text.IsCollapsed`: texts with no blanks but single spaces between words
* `Place.texts`: the text nodes in a node, as they stand
-/

namespace Extraction

namespace Text

/-- The characters of the text that are no blanks. -/
def solid (s : Text) : Text := s.filter (!isBlank ·)

@[simp] theorem solid_nil : solid [] = [] := rfl

@[simp] theorem solid_append (s t : Text) : solid (s ++ t) = solid s ++ solid t :=
  List.filter_append s t

/-- The text neither begins nor ends with a blank, a space is the only blank in it, and of two
neighbours one is no blank. -/
structure IsCollapsed (s : Text) : Prop where
  head : ∀ c ∈ s.head?, isBlank c = false
  last : ∀ c ∈ s.getLast?, isBlank c = false
  space : ∀ c ∈ s, isBlank c = true → c = ' '
  single : s.IsChain fun c d => isBlank c = false ∨ isBlank d = false

/-! ### Words -/

/-- The text is a word: it is not empty and has no blanks in it. -/
def IsWord (w : Text) : Prop := w ≠ [] ∧ ∀ c ∈ w, isBlank c = false

theorem isWord_of_mem_go {run s : Text} (hrun : ∀ c ∈ run, isBlank c = false) :
    ∀ w ∈ words.go run s, IsWord w := by
  have hword {run : Text} (hrun : ∀ c ∈ run, isBlank c = false) (hne : ¬ run.isEmpty = true) :
      IsWord run.reverse :=
    ⟨by simpa using hne, fun c hc => hrun c (List.mem_reverse.1 hc)⟩
  fun_induction words.go run s with
  | case1 => exact List.forall_mem_nil _
  | case2 run hne => exact fun w hw => List.mem_singleton.1 hw ▸ hword hrun hne
  | case3 run c cs _ _ ih => exact ih (List.forall_mem_nil _)
  | case4 run c cs _ hne ih =>
    refine List.forall_mem_cons.2 ⟨hword hrun hne, ih (List.forall_mem_nil _)⟩
  | case5 run c cs hc ih => exact ih (List.forall_mem_cons.2 ⟨by simpa using hc, hrun⟩)

theorem isWord_of_mem_words {s w : Text} (h : w ∈ words s) : IsWord w :=
  isWord_of_mem_go (List.forall_mem_nil _) w h

/-- The words of a text are those before a blank and those after it. -/
theorem words_append_blank {b : Char} (hb : isBlank b = true) (s t : Text) :
    words (s ++ b :: t) = words s ++ words t := by
  suffices h : ∀ run, words.go run (s ++ b :: t) = words.go run s ++ words.go [] t from h []
  induction s with
  | nil =>
    intro run
    rw [List.nil_append, words.go, words.go, if_pos hb]
    split <;> rfl
  | cons c s ih =>
    intro run
    rw [List.cons_append, words.go, words.go]
    split
    · split
      · exact ih []
      · rw [ih [], List.cons_append]
    · exact ih (c :: run)

/-- The words of a text hold its characters that are no blanks, in their order. -/
theorem flatten_words (s : Text) : (words s).flatten = solid s := by
  suffices h : ∀ run, (∀ c ∈ run, isBlank c = false) →
      (words.go run s).flatten = run.reverse ++ solid s from
    h [] (List.forall_mem_nil _)
  intro run hrun
  fun_induction words.go run s with
  | case1 run hnil => simpa [solid] using hnil
  | case2 run hne => simp [solid]
  | case3 run c cs hc hnil ih =>
    have hrest := ih (List.forall_mem_nil _)
    simpa [solid, hc, List.isEmpty_iff.1 hnil] using hrest
  | case4 run c cs hc hne ih =>
    have hrest := ih (List.forall_mem_nil _)
    simpa [solid, hc] using hrest
  | case5 run c cs hc ih =>
    have hblank : isBlank c = false := by simpa using hc
    rw [ih (List.forall_mem_cons.2 ⟨hblank, hrun⟩)]
    simp [solid, hblank]

/-! ### Collapsed texts -/

theorem IsWord.isCollapsed {w : Text} (hw : IsWord w) : IsCollapsed w where
  head c hc := hw.2 c (List.mem_of_mem_head? hc)
  last c hc := hw.2 c (List.mem_of_getLast? hc)
  space c hc hblank := by
    rw [hw.2 c hc] at hblank
    cases hblank
  single := by
    refine List.Pairwise.isChain (List.pairwise_of_forall_mem_list fun c hc d _ => ?_)
    exact .inl (hw.2 c hc)

/-- A word, a space and a collapsed text after it are collapsed. -/
theorem IsCollapsed.append {w t : Text} (hw : IsWord w) (ht : IsCollapsed t) (hne : t ≠ []) :
    IsCollapsed (w ++ ' ' :: t) where
  head c hc := by
    rw [List.head?_append_of_ne_nil _ hw.1] at hc
    exact hw.isCollapsed.head c hc
  last c hc := by
    rw [List.getLast?_append_of_ne_nil _ (List.cons_ne_nil _ _),
      List.getLast?_cons_of_ne_nil hne] at hc
    exact ht.last c hc
  space c hc hblank := by
    rw [List.mem_append, List.mem_cons] at hc
    obtain hc | rfl | hc := hc
    · exact hw.isCollapsed.space c hc hblank
    · rfl
    · exact ht.space c hc hblank
  single := by
    refine List.isChain_append.2 ⟨hw.isCollapsed.single, ?_, fun c hc d _ => ?_⟩
    · exact List.isChain_cons.2 ⟨fun d hd => .inr (ht.head d hd), ht.single⟩
    · exact .inl (hw.isCollapsed.last c hc)

section Words

variable {ws : List Text} (hws : ∀ w ∈ ws, IsWord w)

include hws

theorem isCollapsed_intercalate : IsCollapsed ([' '].intercalate ws) := by
  induction ws with
  | nil => exact ⟨nofun, nofun, nofun, .nil⟩
  | cons w ws ih =>
    obtain ⟨hw, hrest⟩ := List.forall_mem_cons.1 hws
    obtain rfl | hne := eq_or_ne ws []
    · rw [List.intercalate_singleton]
      exact hw.isCollapsed
    · have hmore : [' '].intercalate ws ≠ [] :=
        intercalate_ne_nil (fun w hw => (hrest w hw).1) hne
      rw [List.intercalate_cons_of_ne_nil hne, List.append_assoc]
      exact (ih hrest).append hw hmore

theorem solid_intercalate : solid ([' '].intercalate ws) = ws.flatten := by
  induction ws with
  | nil => rfl
  | cons w ws ih =>
    obtain ⟨hw, hrest⟩ := List.forall_mem_cons.1 hws
    have hsolid : solid w = w := List.filter_eq_self.2 fun c hc => by simp [hw.2 c hc]
    obtain rfl | hne := eq_or_ne ws []
    · rw [List.intercalate_singleton, List.flatten_singleton, hsolid]
    · have hspace : solid [' '] = [] := rfl
      rw [List.intercalate_cons_of_ne_nil hne, solid_append, solid_append, hsolid, hspace,
        ih hrest, List.append_nil, List.flatten_cons]

end Words

theorem isCollapsed_collapse (s : Text) : IsCollapsed (collapse s) :=
  isCollapsed_intercalate fun _ => isWord_of_mem_words

/-- Collapsing keeps every character that is no blank. -/
theorem solid_collapse (s : Text) : solid (collapse s) = solid s := by
  rw [collapse, solid_intercalate fun _ => isWord_of_mem_words, flatten_words]

theorem collapse_eq_nil_iff {s : Text} : collapse s = [] ↔ words s = [] := by
  constructor
  · intro h
    by_contra hne
    exact intercalate_ne_nil (fun w hw => (isWord_of_mem_words hw).1) hne h
  · intro h
    rw [collapse, h]
    rfl

theorem intercalate_append {sep : Text} {vs ws : List Text} (hv : vs ≠ []) (hw : ws ≠ []) :
    sep.intercalate (vs ++ ws) = sep.intercalate vs ++ sep ++ sep.intercalate ws := by
  induction vs with
  | nil => exact (hv rfl).elim
  | cons v vs ih =>
    obtain rfl | hne := eq_or_ne vs []
    · rw [List.singleton_append, List.intercalate_cons_of_ne_nil hw, List.intercalate_singleton]
    · rw [List.cons_append, List.intercalate_cons_of_ne_nil (List.append_ne_nil_of_left_ne_nil hne _),
        ih hne, List.intercalate_cons_of_ne_nil hne]
      simp only [List.append_assoc]

theorem words_flatMap_space (ts : List Text) :
    words (ts.flatMap (· ++ [' '])) = ts.flatMap words := by
  induction ts with
  | nil => rfl
  | cons t ts ih =>
    have hassoc : (t :: ts).flatMap (· ++ [' ']) = t ++ ' ' :: ts.flatMap (· ++ [' ']) := by simp
    rw [hassoc, words_append_blank rfl, ih, List.flatMap_cons]

end Text

namespace Markup

open Text

@[simp] theorem collapsed_nil : collapsed [] = [] := rfl

theorem collapsed_cons (t : Text) (ts : List Text) :
    collapsed (t :: ts) = if words t = [] then collapsed ts else collapse t :: collapsed ts := by
  unfold collapsed
  rw [List.map_cons, List.filter_cons]
  by_cases h : words t = []
  · rw [if_pos h, if_neg (by simp [collapse_eq_nil_iff.2 h])]
  · have hne : collapse t ≠ [] := mt collapse_eq_nil_iff.1 h
    rw [if_neg h, if_pos (by simpa using hne)]

theorem collapsed_eq_nil_iff {ts : List Text} : collapsed ts = [] ↔ ts.flatMap words = [] := by
  induction ts with
  | nil => simp
  | cons t ts ih =>
    rw [collapsed_cons, List.flatMap_cons]
    split
    · next h => rw [h, List.nil_append, ih]
    · next h => simp [h]

/-- Texts collapsed one by one and then joined are the words of all of them, joined. -/
theorem intercalate_collapsed (ts : List Text) :
    [' '].intercalate (collapsed ts) = [' '].intercalate (ts.flatMap words) := by
  induction ts with
  | nil => rfl
  | cons t ts ih =>
    rw [collapsed_cons, List.flatMap_cons]
    by_cases ht : words t = []
    · rw [if_pos ht, ht, List.nil_append, ih]
    rw [if_neg ht]
    by_cases hrest : ts.flatMap words = []
    · rw [collapsed_eq_nil_iff.2 hrest, hrest, List.append_nil, List.intercalate_singleton, collapse]
    · have hne : collapsed ts ≠ [] := mt collapsed_eq_nil_iff.1 hrest
      rw [List.intercalate_cons_of_ne_nil hne, ih, intercalate_append ht hrest, collapse]

theorem solid_flatten_collapsed (ts : List Text) :
    solid (collapsed ts).flatten = solid ts.flatten := by
  induction ts with
  | nil => rfl
  | cons t ts ih =>
    rw [collapsed_cons, List.flatten_cons, solid_append]
    split
    · next h => rw [ih, ← solid_collapse t, collapse_eq_nil_iff.2 h, solid_nil, List.nil_append]
    · rw [List.flatten_cons, solid_append, ih, solid_collapse]

/-- What is collapsed and not empty then is not empty and has no blanks but single spaces. -/
theorem isCollapsed_of_mem_collapsed {ts : List Text} {s : Text} (h : s ∈ collapsed ts) :
    s ≠ [] ∧ IsCollapsed s := by
  obtain ⟨hmap, hne⟩ := List.mem_filter.1 h
  obtain ⟨t, -, rfl⟩ := List.mem_map.1 hmap
  exact ⟨by simpa using hne, isCollapsed_collapse t⟩

/-! ### Nodes -/

mutual

/-- The text of a node in one piece and node by node has the same characters that are no blanks. -/
theorem Node.solid_flatText : (n : Node) → solid n.flatText = solid n.texts.flatten
  | .document children => solid_flatTexts children
  | .element name _ children => by
    have hedge : solid (if blockLabels.elem name.label then [' '] else []) = [] := by
      split <;> rfl
    rw [Node.flatText, Node.texts, solid_append, solid_append, hedge, List.nil_append,
      List.append_nil]
    exact solid_flatTexts children
  | .text s => by rw [Node.flatText, Node.texts, List.flatten_singleton]
  | .comment _ => rfl
  | .doctype _ => rfl

theorem Node.solid_flatTexts : (ns : List Node) →
    solid (flatTexts ns) = solid (textsIn ns).flatten
  | [] => rfl
  | n :: rest => by
    rw [Node.flatTexts, Node.textsIn, List.flatten_append, solid_append, solid_append,
      Node.solid_flatText n, Node.solid_flatTexts rest]

end

namespace Place

/-- The text nodes in a node, as they stand. -/
def texts (p : Place) : List Text := (p.node?.map Node.texts).getD []

theorem textNodes_eq (p : Place) : p.textNodes = collapsed p.texts := by
  unfold textNodes texts
  cases p.node? <;> rfl

theorem solid_text (p : Place) : solid p.text = solid p.texts.flatten := by
  unfold text texts
  cases p.node? with
  | none => rfl
  | some n => exact (solid_collapse _).trans n.solid_flatText

theorem isCollapsed_text (p : Place) : IsCollapsed p.text := by
  unfold text
  cases p.node? with
  | none => exact isCollapsed_collapse []
  | some n => exact isCollapsed_collapse n.flatText

theorem ownText_eq (p : Place) : p.ownText = [' '].intercalate p.ownTextNodes := by
  rw [ownText, collapse, words_flatMap_space, ownTextNodes, intercalate_collapsed]

/-- The text directly in a node is its text nodes with single spaces between them. The text of a
node and its text nodes have the same characters that are no blanks, in the same order, and those
are the ones in its tree. None of the texts has a blank but single spaces between words, and no text
node counts that is empty then. -/
theorem texts_agree (p : Place) :
    p.ownText = [' '].intercalate p.ownTextNodes ∧
      (solid p.text = solid p.textNodes.flatten ∧ solid p.text = solid p.texts.flatten) ∧
      (IsCollapsed p.text ∧ IsCollapsed p.ownText) ∧
      ∀ s ∈ p.textNodes ++ p.ownTextNodes, s ≠ [] ∧ IsCollapsed s := by
  refine ⟨p.ownText_eq, ⟨?_, p.solid_text⟩, ⟨p.isCollapsed_text, isCollapsed_collapse _⟩, ?_⟩
  · rw [p.solid_text, p.textNodes_eq, solid_flatten_collapsed]
  · intro s hs
    obtain hs | hs := List.mem_append.1 hs
    · rw [p.textNodes_eq] at hs
      exact isCollapsed_of_mem_collapsed hs
    · exact isCollapsed_of_mem_collapsed hs

/-- The page `<div> a <p>b  c</p>d<b>e</b> </div>`, with two kinds of blanks in the paragraph. -/
def mixedTexts : Tree :=
  ⟨.document [.element ⟨.html, "div".toList⟩ []
    [.text " a ".toList, .element ⟨.html, "p".toList⟩ [] [.text "b\u00a0\tc".toList],
      .text "d".toList, .element ⟨.html, "b".toList⟩ [] [.text "e".toList], .text " ".toList]], false⟩

/-- The text node of the paragraph holds a no-break space and a tab, and one beside it is blank. -/
theorem texts_agree_mixedTexts :
    let p : Place := ⟨mixedTexts, [0]⟩
    p.textNodes = ["a", "b c", "d", "e"].map String.toList ∧ p.ownText = "a d".toList ∧
      solid p.text = "abcde".toList ∧ IsCollapsed "b c".toList := by
  intro p
  have hnodes : p.textNodes = ["a", "b c", "d", "e"].map String.toList := by decide +kernel
  have hown : p.ownTextNodes = ["a", "d"].map String.toList := by decide +kernel
  obtain ⟨hjoined, ⟨hsolid, -⟩, -, hcollapsed⟩ := texts_agree p
  have hmem : "b c".toList ∈ p.textNodes ++ p.ownTextNodes := by
    rw [hnodes]
    decide
  rw [hown] at hjoined
  rw [hnodes] at hsolid
  exact ⟨hnodes, hjoined, hsolid, (hcollapsed _ hmem).2⟩

end Place

end Markup

end Extraction
