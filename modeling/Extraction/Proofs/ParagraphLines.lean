import Extraction.Markup.PlainText
import Extraction.Proofs.TextFacts

/-!
# Lines of paragraphs

The text of markup is a list of lines, each an indent and a text that is not empty and has no blanks
at its ends. Such a text, if it holds nothing that markup gives a meaning to, is its own text: the
indent is a blank, so that it is taken away with the other blanks around a line and put back again.

## Main definitions

* `Markup.IsParagraphs`: lines with an indent
* `Markup.IsPlain`: texts without characters that markup gives a meaning to
-/

namespace Extraction

namespace Text

/-! ### Lines -/

section Lines

variable {run s : Text}

theorem notMem_finish {d : Char} (h : d ∉ run) : d ∉ lines.finish run := by
  unfold lines.finish
  split
  · exact fun hmem => h (List.mem_cons_of_mem _ (List.mem_reverse.1 hmem))
  · exact fun hmem => h (List.mem_reverse.1 hmem)

/-- No line holds a line feed. -/
theorem newline_notMem_go (hrun : '\n' ∉ run) : ∀ l ∈ lines.go run s, '\n' ∉ l := by
  fun_induction lines.go run s with
  | case1 => exact List.forall_mem_nil _
  | case2 run =>
    intro l hl
    rw [List.mem_singleton.1 hl]
    exact fun hmem => hrun (List.mem_reverse.1 hmem)
  | case3 run cs ih =>
    intro l hl
    obtain rfl | hl := List.mem_cons.1 hl
    · exact notMem_finish hrun
    · exact ih List.not_mem_nil l hl
  | case4 run c cs hc ih =>
    refine ih fun hmem => ?_
    obtain rfl | hmem := List.mem_cons.1 hmem
    · exact hc rfl
    · exact hrun hmem

theorem newline_notMem_lines (s : Text) : ∀ l ∈ lines s, '\n' ∉ l :=
  newline_notMem_go List.not_mem_nil

theorem finish_of_notMem (h : '\r' ∉ run) : lines.finish run = run.reverse := by
  unfold lines.finish
  split
  · exact (h List.mem_cons_self).elim
  · rfl

/-- The current line is read up to the line feed. -/
theorem go_append {l : Text} (hl : '\n' ∉ l) (run rest : Text) :
    lines.go run (l ++ rest) = lines.go (l.reverse ++ run) rest := by
  induction l generalizing run with
  | nil => rfl
  | cons c l ih =>
    have hc : c ≠ '\n' := fun h => hl (h ▸ List.mem_cons_self)
    rw [List.cons_append, lines.go, ih (fun hmem => hl (List.mem_cons_of_mem _ hmem)),
      List.reverse_cons, List.append_assoc]
    · rfl
    · exact hc

/-- Lines that are not empty and hold no line ends are the lines of the text that they make. -/
theorem lines_intercalate {ls : List Text}
    (h : ∀ l ∈ ls, l ≠ [] ∧ '\n' ∉ l ∧ '\r' ∉ l) : lines (['\n'].intercalate ls) = ls := by
  induction ls with
  | nil => rfl
  | cons l ls ih =>
    obtain ⟨⟨hne, hfeed, hreturn⟩, hrest⟩ := List.forall_mem_cons.1 h
    obtain rfl | hmore := eq_or_ne ls []
    · have hline := go_append hfeed [] []
      rw [List.append_nil, List.append_nil, lines.go, if_neg (by simpa using hne),
        List.reverse_reverse] at hline
      rwa [List.intercalate_singleton]
    · rw [List.intercalate_cons_of_ne_nil hmore, List.append_assoc, List.singleton_append, lines,
        go_append hfeed, List.append_nil, lines.go, finish_of_notMem (by simpa using hreturn),
        List.reverse_reverse]
      exact congrArg (l :: ·) (ih hrest)

end Lines

end Text

namespace Markup

open Text

/-! ### Plain text -/

/-- The text holds none of the characters that markup gives a meaning to: those that begin tags and
references, carriage returns and null characters. -/
def IsPlain (s : Text) : Prop := ∀ c ∈ s, c ≠ '<' ∧ c ≠ '&' ∧ c ≠ '\r' ∧ c ≠ '\x00'

instance (s : Text) : Decidable (IsPlain s) := inferInstanceAs (Decidable (∀ c ∈ s, _))

theorem unifyLines_of_notMem {s : Text} (h : '\r' ∉ s) : unifyLines s = s := by
  fun_induction unifyLines s with
  | case1 => exact (h List.mem_cons_self).elim
  | case2 => exact (h List.mem_cons_self).elim
  | case3 c rest _ _ ih => rw [ih fun hmem => h (List.mem_cons_of_mem c hmem)]
  | case4 => rfl

theorem cleaned_of_isPlain {s : Text} (h : IsPlain s) (hmark : s.head? ≠ some (Char.ofNat 0xFEFF)) :
    cleaned s = s := by
  have hreturn : '\r' ∉ s := fun hmem => (h _ hmem).2.2.1 rfl
  cases s with
  | nil => rfl
  | cons c rest =>
    have hc : c.toNat ≠ 0xFEFF := by
      rintro hc
      refine hmark ?_
      rw [← hc, Char.ofNat_toNat]
      rfl
    simp only [cleaned, if_neg hc]
    exact unifyLines_of_notMem hreturn

/-- Plain text is one token of text. -/
theorem visibleText_of_isPlain {s : Text} (h : IsPlain s) :
    visibleText s.length .ordinary false s = s := by
  cases s with
  | nil => rfl
  | cons c rest =>
    obtain ⟨⟨hbracket, hamp, -, hnull⟩, hrest⟩ := List.forall_mem_cons.1 h
    have hzero : c.toNat ≠ 0 := fun hc => hnull (Char.toNat_inj.1 hc)
    have hall : ∀ d ∈ rest, (!(d == '&' || d == '<' || d.toNat == 0)) = true := by
      intro d hd
      obtain ⟨hdbracket, hdamp, -, hdnull⟩ := hrest d hd
      have hdzero : d.toNat ≠ 0 := fun hd => hdnull (Char.toNat_inj.1 hd)
      simp [hdbracket, hdamp, hdzero]
    have htext : referencedText true (c :: rest) = (.text (c :: rest), []) := by
      unfold referencedText
      split
      · next hcons => exact (hamp (List.cons.inj hcons).1).elim
      · next hcons =>
        obtain ⟨rfl, rfl⟩ := List.cons.inj hcons
        rw [if_neg hzero]
        simp only [List.takeWhile_eq_self_iff.2 hall, List.dropWhile_eq_nil_iff.2 hall]
      · next hnil => cases hnil
    have htoken : next? .ordinary false (c :: rest) = some (.text (c :: rest), []) := by
      rw [← htext]
      unfold next?
      split <;> simp_all
    have hend (fuel : Nat) : visibleText fuel .ordinary false [] = [] := by
      cases fuel <;> rfl
    rw [List.length_cons, visibleText, htoken]
    simp [hend]

/-! ### Paragraphs -/

/-- The text is a list of lines, each the indent and a text that is not empty, has no blanks at its
ends and holds no line feed. -/
def IsParagraphs (s : Text) : Prop :=
  ∃ ls : List Text, (∀ l ∈ ls, Trimmed l ∧ '\n' ∉ l) ∧ s = ['\n'].intercalate (ls.map (indent ++ ·))

theorem isParagraphs_paragraphs (s : Text) : IsParagraphs (paragraphs s) := by
  refine ⟨_, fun l hl => ?_, rfl⟩
  obtain ⟨hl, hne⟩ := List.mem_filter.1 hl
  obtain ⟨line, hline, rfl⟩ := List.mem_map.1 hl
  have hfeed : '\n' ∉ trim line := fun hmem =>
    newline_notMem_lines _ line hline ((Text.trim_infix line).subset hmem)
  exact ⟨⟨by simpa using hne, trim_trim line⟩, hfeed⟩

theorem allBlank_indent : AllBlank indent := isBlankText_iff.1 rfl

theorem ne_nil_of_mem_map_indent {ls : List Text} {line : Text}
    (h : line ∈ ls.map (indent ++ ·)) : line ≠ [] := by
  obtain ⟨l, -, rfl⟩ := List.mem_map.1 h
  exact List.append_ne_nil_of_left_ne_nil (by decide) l

/-- Plain lines of paragraphs are their own text. -/
theorem paragraphs_of_isParagraphs {s : Text} (h : IsParagraphs s) (hplain : IsPlain s) :
    paragraphs s = s := by
  obtain ⟨ls, hls, hs⟩ := h
  have hlines : lines s = ls.map (indent ++ ·) := by
    rw [hs]
    refine lines_intercalate fun line hline => ?_
    have hsubset : line ⊆ s := hs ▸ subset_intercalate hline
    refine ⟨ne_nil_of_mem_map_indent hline, ?_⟩
    obtain ⟨l, hl, rfl⟩ := List.mem_map.1 hline
    have hindent : '\n' ∉ indent := by decide
    constructor
    · simpa [hindent] using (hls l hl).2
    · exact fun hmem => (hplain _ (hsubset hmem)).2.2.1 rfl
  -- The indent is taken away with the other blanks around a line.
  have htrim : (lines s).map trim = ls := by
    rw [hlines, List.map_map]
    refine (List.map_congr_left fun l hl => ?_).trans (List.map_id ls)
    exact (trim_allBlank_append allBlank_indent l).trans (hls l hl).1.2
  have hfilter : ls.filter (!·.isEmpty) = ls := by
    refine List.filter_eq_self.2 fun l hl => ?_
    simpa using (hls l hl).1.1
  have hmark : s.head? ≠ some (Char.ofNat 0xFEFF) := by
    rw [hs, head?_intercalate fun line hline => (ne_nil_of_mem_map_indent hline)]
    cases ls with
    | nil => simp
    | cons l ls =>
      change indent.head? ≠ _
      decide
  unfold paragraphs
  simp only [cleaned_of_isPlain hplain hmark, visibleText_of_isPlain hplain, htrim, hfilter]
  exact hs.symm

theorem IsParagraphs.getLast?_ne {s : Text} (h : IsParagraphs s) : s.getLast? ≠ some '\n' := by
  obtain ⟨ls, hls, rfl⟩ := h
  rw [getLast?_intercalate fun line hline => ne_nil_of_mem_map_indent hline]
  intro hlast
  obtain ⟨line, hline, hfeed⟩ := Option.bind_eq_some_iff.1 hlast
  obtain ⟨l, hl, rfl⟩ := List.mem_map.1 (List.mem_of_getLast? hline)
  rw [List.getLast?_append_of_ne_nil _ (hls l hl).1.1] at hfeed
  exact (hls l hl).2 (List.mem_of_getLast? hfeed)

/-- The text of markup is lines of paragraphs and has no line feed at its end; if it is plain, it is
its own text. The plain texts that are their own text are just the plain lines of paragraphs. -/
theorem paragraphs_paragraphs (s : Text) :
    (IsParagraphs (paragraphs s) ∧ (paragraphs s).getLast? ≠ some '\n') ∧
      (IsPlain (paragraphs s) → paragraphs (paragraphs s) = paragraphs s) ∧
      ∀ t, IsPlain t → (paragraphs t = t ↔ IsParagraphs t) := by
  have hlines := isParagraphs_paragraphs s
  refine ⟨⟨hlines, hlines.getLast?_ne⟩, paragraphs_of_isParagraphs hlines, fun t ht => ?_⟩
  refine ⟨fun heq => ?_, fun h => paragraphs_of_isParagraphs h ht⟩
  rw [← heq]
  exact isParagraphs_paragraphs t

/-- Two paragraphs with blanks of many kinds around and between them, a script, and an empty
paragraph. -/
theorem paragraphs_paragraphs_twoLines :
    let s := "<p>\u3000 one\u00a0 two </p><script>'<p>'</script>\n\t<br>three<p> </p>".toList
    let t := "\u3000\u3000one\u00a0 two\n\u3000\u3000three".toList
    paragraphs s = t ∧ IsPlain t ∧ paragraphs t = t := by
  intro s t
  have hs : paragraphs s = t := by decide +kernel
  have hplain : IsPlain (paragraphs s) := by
    rw [hs]
    decide +kernel
  have hstable := (paragraphs_paragraphs s).2.1 hplain
  rw [hs] at hplain hstable
  exact ⟨hs, hplain, hstable⟩

end Markup

end Extraction
