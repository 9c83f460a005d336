import Extraction.Proofs.SegmentScan
import Extraction.Proofs.VariablePairs

/-!
# How pairs are cut apart

A variable map that is written as the list of its pairs is read back exactly if the scanner of pairs
is, at the end of every rule, outside quotation marks and scripts.

## Main definitions

* `Scan.Does`: what a step of the scanner of pairs does, case by case
* `VariableMap.writePairs`: the text of a list of pairs
* `VariableMap.Apart`: rules that the scanner of pairs leaves apart
* `VariableMap.IsPlain`: rules on which the scanners of pairs and of segments agree
-/

namespace Extraction.VariableMap

open Text
open Rule (isQuote opensQuote scriptOpen scriptClose)

namespace Scan

/-! ### One step -/

/-- What a step does: go on in a quoted run, take a script, open a quoted run, end a pair, or take a
character. -/
inductive Does (s : Scan) : Char → Text → Scan → Nat → Prop
  | quoted {q c : Char} {cs : Text} : s.quote = some q →
      Does s c cs
        { s with current := s.current ++ [c], quote := if c = q then none else some q } 0
  | script {c : Char} {cs rest script after : Text} : s.quote = none →
      c :: cs = scriptOpen ++ rest → splitOnce? scriptClose rest = some (script, after) →
      Does s c cs { s with current := s.current ++ (scriptOpen ++ script ++ scriptClose) }
        ((scriptOpen ++ script ++ scriptClose).length - 1)
  | opens {c : Char} {cs : Text} : s.quote = none → ¬ scriptOpen <+: c :: cs →
      (isQuote c && opensQuote s.previous) = true →
      Does s c cs { s with current := s.current ++ [c], quote := some c } 0
  | separates {cs : Text} : s.quote = none →
      Does s '&' ('&' :: cs) { s with parts := s.parts ++ [s.current], current := [] } 1
  | takes {c : Char} {cs : Text} : s.quote = none → ¬ scriptOpen <+: c :: cs →
      (isQuote c && opensQuote s.previous) = false → ¬ pairSeparator <+: c :: cs →
      Does s c cs { s with current := s.current ++ [c] } 0

section Step

variable {s s' f : Scan} {c : Char} {cs t u : Text} {extra : Nat}

theorem does_of_step (h : s.step c cs = .ok (s', extra)) : Does s c cs s' extra := by
  unfold step at h
  split at h
  · next q hq =>
    cases h
    exact .quoted hq
  · next hq =>
    split at h
    · next rest hopen =>
      split at h
      · cases h
      · next script after hcut =>
        cases h
        exact .script hq (isPrefixOf?_eq_some_iff.1 hopen) hcut
    · next hopen =>
      rw [isPrefixOf?_eq_none_iff] at hopen
      split at h
      · next hquote =>
        cases h
        exact .opens hq hopen hquote
      · next hquote =>
        split at h
        · next hsep =>
          rw [List.isPrefixOf_iff_prefix] at hsep
          obtain ⟨rest, hrest⟩ := hsep
          cases hrest
          cases h
          exact .separates hq
        · next hsep =>
          rw [List.isPrefixOf_iff_prefix] at hsep
          cases h
          exact .takes hq hopen (Bool.not_eq_true _ ▸ hquote) hsep

theorem Does.step (h : Does s c cs s' extra) : s.step c cs = .ok (s', extra) := by
  unfold Scan.step
  cases h with
  | quoted hq => rw [hq]
  | script hq htext hcut =>
    rw [hq]
    simp only [isPrefixOf?_eq_some_iff.2 htext, hcut]
  | opens hq hopen hquote =>
    rw [hq]
    simp only [isPrefixOf?_eq_none_iff.2 hopen, hquote, if_true]
  | @separates cs hq =>
    have hopen : scriptOpen.isPrefixOf? ('&' :: '&' :: cs) = none := rfl
    have hsep : pairSeparator.isPrefixOf ('&' :: '&' :: cs) = true :=
      List.isPrefixOf_iff_prefix.2 (List.prefix_append pairSeparator cs)
    have hquote : isQuote '&' = false := by decide
    rw [hq]
    simp only [hopen, hsep, hquote, Bool.false_and, Bool.false_eq_true, if_false, if_true]
  | takes hq hopen hquote hsep =>
    rw [← List.isPrefixOf_iff_prefix, Bool.not_eq_true] at hsep
    rw [hq]
    simp only [isPrefixOf?_eq_none_iff.2 hopen, hquote, hsep, Bool.false_eq_true, if_false]

/-- What a step takes along is there. -/
theorem Does.extra_le (h : Does s c cs s' extra) : extra ≤ cs.length := by
  cases h with
  | script hq htext hcut =>
    have hlength := congrArg List.length htext
    rw [eq_of_splitOnce? hcut] at hlength
    simp only [List.length_cons, List.length_append] at hlength ⊢
    omega
  | separates => exact Nat.le_add_left 1 _
  | _ => exact Nat.zero_le _

theorem Does.previous_append (h : Does s c cs s' extra) (t : Text) :
    (c :: (cs ++ t))[extra]? = (c :: cs)[extra]? := by
  have hextra := h.extra_le
  rw [← List.cons_append, List.getElem?_append_left (by rw [List.length_cons]; omega)]

/-- All that was read, with the separators between the pairs. -/
def text (s : Scan) : Text := s.parts.flatMap (· ++ pairSeparator) ++ s.current

theorem Does.text (h : Does s c cs s' extra) : s'.text = s.text ++ c :: cs.take extra := by
  cases h with
  | @script c cs rest script after hq htext hcut =>
    have hread : c :: cs = scriptOpen ++ script ++ scriptClose ++ after := by
      rw [htext, eq_of_splitOnce? hcut]
      simp only [List.append_assoc]
    have htake : c :: cs.take ((scriptOpen ++ script ++ scriptClose).length - 1) =
        scriptOpen ++ script ++ scriptClose := by
      have hlength : (scriptOpen ++ script ++ scriptClose).length - 1 + 1 =
          (scriptOpen ++ script ++ scriptClose).length :=
        Nat.succ_pred_eq_of_pos (Nat.succ_pos _)
      rw [← List.take_succ_cons, hlength, hread, List.take_left]
    rw [htake]
    simp [Scan.text]
  | separates => simp [Scan.text, pairSeparator]
  | _ => simp [Scan.text]

/-- Outside the pairs' separators a step adds what it reads to the pair under way. -/
theorem Does.current (h : Does s c cs s' extra) (hc : c ≠ '&') :
    s'.parts = s.parts ∧ s'.current = s.current ++ c :: cs.take extra := by
  have htext := h.text
  have hparts : s'.parts = s.parts := by
    cases h with
    | separates => exact (hc rfl).elim
    | _ => rfl
  rw [Scan.text, Scan.text, hparts, List.append_assoc] at htext
  exact ⟨hparts, List.append_cancel_left htext⟩

/-- None of the pairs holds an ampersand. -/
def IsFree (s : Scan) : Prop := ∀ part ∈ s.parts ++ [s.current], '&' ∉ part

theorem Does.isFree (h : Does s c cs s' extra) (hfree : s'.IsFree) : s.IsFree := by
  intro part hpart hmem
  cases h with
  | separates => exact hfree part (List.mem_append_left _ hpart) hmem
  | _ =>
    rcases List.mem_append.1 hpart with hpart | hpart
    · exact hfree part (List.mem_append_left _ hpart) hmem
    · rw [List.mem_singleton.1 hpart] at hmem
      exact hfree _ List.mem_concat_self (List.mem_append_left _ hmem)

/-- Steps are taken alike in scans that differ in what they have read, not in where they are. -/
theorem Does.congr {r : Scan} (h : Does s c cs s' extra) (hquote : r.quote = s.quote)
    (hprevious : opensQuote r.previous = opensQuote s.previous) :
    ∃ r', Does r c cs r' extra ∧ r'.quote = s'.quote := by
  cases h with
  | quoted hq => exact ⟨_, .quoted (hquote.trans hq), rfl⟩
  | script hq htext hcut => exact ⟨_, .script (hquote.trans hq) htext hcut, hquote⟩
  | opens hq hopen hopens => exact ⟨_, .opens (hquote.trans hq) hopen (hprevious ▸ hopens), rfl⟩
  | separates hq => exact ⟨_, .separates (hquote.trans hq), hquote⟩
  | takes hq hopen hopens hsep =>
    exact ⟨_, .takes (hquote.trans hq) hopen (hprevious ▸ hopens) hsep, hquote⟩

end Step

/-! ### Runs -/

section Run

variable {s s' f : Scan} {c : Char} {cs t u : Text} {extra : Nat}

theorem run_of_does (h : Does s c cs s' extra) :
    run s (c :: cs) = run { s' with previous := (c :: cs)[extra]? } (cs.drop extra) := by
  rw [run, h.step]

theorem does_of_run (h : run s (c :: cs) = .ok f) : ∃ s' extra, Does s c cs s' extra ∧
    run { s' with previous := (c :: cs)[extra]? } (cs.drop extra) = .ok f := by
  cases hstep : s.step c cs with
  | error fault =>
    rw [run, hstep] at h
    cases h
  | ok r =>
    have hdoes := does_of_step hstep
    exact ⟨_, _, hdoes, run_of_does hdoes ▸ h⟩

/-- A run reads all of its text. -/
theorem text_of_run (h : run s t = .ok f) : f.text = s.text ++ t := by
  fun_induction run s t with
  | case1 s =>
    cases h
    exact (List.append_nil _).symm
  | case2 s c cs fault hstep => cases h
  | case3 s c cs s₁ extra hstep ih =>
    refine (ih h).trans ?_
    change s₁.text ++ _ = _
    rw [(does_of_step hstep).text, List.append_assoc, List.cons_append, List.take_append_drop]

theorem isFree_of_run (h : run s t = .ok f) (hfree : f.IsFree) : s.IsFree := by
  fun_induction run s t with
  | case1 s =>
    cases h
    exact hfree
  | case2 s c cs fault hstep => cases h
  | case3 s c cs s₁ extra hstep ih => exact (does_of_step hstep).isFree (ih h)

/-- A text without ampersands is read into the pair under way. -/
theorem current_of_run (hu : '&' ∉ u) (h : run s u = .ok f) :
    f.parts = s.parts ∧ f.current = s.current ++ u := by
  fun_induction run s u with
  | case1 s =>
    cases h
    exact ⟨rfl, (List.append_nil _).symm⟩
  | case2 s c cs fault hstep => cases h
  | case3 s c cs s₁ extra hstep ih =>
    rw [List.mem_cons, not_or] at hu
    obtain ⟨hparts, hcurrent⟩ := (does_of_step hstep).current (Ne.symm hu.1)
    obtain ⟨hparts', hcurrent'⟩ := ih (fun hmem => hu.2 (List.mem_of_mem_drop hmem)) h
    refine ⟨hparts'.trans hparts, hcurrent'.trans ?_⟩
    change s₁.current ++ _ = _
    rw [hcurrent, List.append_assoc, List.cons_append, List.take_append_drop]

/-- Runs go alike from scans that differ in what they have read, not in where they are. -/
theorem run_congr {r : Scan} (h : run s u = .ok f) (hquote : r.quote = s.quote)
    (hprevious : opensQuote r.previous = opensQuote s.previous) :
    ∃ g, run r u = .ok g ∧ g.quote = f.quote := by
  fun_induction run s u generalizing r with
  | case1 s =>
    cases h
    exact ⟨r, by rw [run], hquote⟩
  | case2 s c cs fault hstep => cases h
  | case3 s c cs s₁ extra hstep ih =>
    obtain ⟨r₁, hdoes, hquote₁⟩ := (does_of_step hstep).congr hquote hprevious
    rw [run_of_does hdoes]
    exact ih h hquote₁ rfl

/-- Characters that mean nothing to the scanner are read as they are. -/
theorem run_plain {w : Text} (hw : ∀ c ∈ w, isQuote c = false ∧ c ≠ '&' ∧ c ≠ '<')
    (hq : s.quote = none) (t : Text) :
    run s (w ++ t) =
      run { s with current := s.current ++ w, previous := w.getLast?.or s.previous } t := by
  induction w generalizing s with
  | nil => simp
  | cons c w ih =>
    obtain ⟨⟨hquote, hamp, hopen⟩, hw⟩ := List.forall_mem_cons.1 hw
    have hdoes : Does s c (w ++ t) { s with current := s.current ++ [c] } 0 :=
      .takes hq (not_prefix_of_head_ne hopen) (by rw [hquote, Bool.false_and])
        (not_prefix_of_head_ne hamp)
    have hprevious : (c :: w).getLast?.or s.previous = w.getLast?.or (some c) := by
      rw [List.getLast?_cons]
      cases w.getLast? <;> rfl
    rw [hprevious, ← List.singleton_append, ← List.append_assoc s.current]
    exact (run_of_does hdoes).trans (ih hw hq)

theorem run_separator (hq : s.quote = none) (t : Text) :
    run s ('&' :: '&' :: t) =
      run { s with parts := s.parts ++ [s.current], current := [], previous := some '&' } t :=
  run_of_does (.separates hq)

/-- In a quoted run an ampersand belongs to the pair. -/
theorem quote_of_run_ampersand (h : run s ('&' :: t) = .ok f) (hfree : f.IsFree) :
    s.quote = none := by
  obtain ⟨s', extra, hdoes, hrun⟩ := does_of_run h
  have hfree' := isFree_of_run hrun hfree
  cases hdoes with
  | quoted hq =>
    refine (hfree' _ List.mem_concat_self ?_).elim
    exact List.mem_append_right _ List.mem_cons_self
  | script hq => exact hq
  | opens hq => exact hq
  | separates hq => exact hq
  | takes hq => exact hq

/-! ### A text that an ampersand follows -/

theorem scriptOpen_prefix_append (c : Char) (cs t : Text) :
    scriptOpen <+: c :: (cs ++ '&' :: t) ↔ scriptOpen <+: c :: cs := by
  refine prefix_append_iff (List.cons_ne_nil c cs) fun d hd => ?_
  obtain rfl : '&' = d := Option.some.inj hd
  decide

/-- A step does not see that an ampersand follows the text. -/
theorem Does.append (h : Does s c cs s' extra) (hc : c ≠ '&') (t : Text) :
    Does s c (cs ++ '&' :: t) s' extra := by
  have hopen_iff := scriptOpen_prefix_append c cs t
  cases h with
  | quoted hq => exact .quoted hq
  | script hq htext hcut =>
    refine .script hq ?_ (splitOnce?_append ('&' :: t) hcut)
    rw [← List.cons_append, htext, List.append_assoc]
  | opens hq hopen hquote => exact .opens hq (mt hopen_iff.1 hopen) hquote
  | separates => exact (hc rfl).elim
  | takes hq hopen hquote _ =>
    exact .takes hq (mt hopen_iff.1 hopen) hquote fun hsep =>
      hc (List.cons_prefix_cons.1 hsep).1.symm

/-- A step before an ampersand is a step without it, unless it takes the ampersand along. -/
theorem Does.of_append (h : Does s c (cs ++ '&' :: t) s' extra) (hc : c ≠ '&')
    (hfree : s'.IsFree) : Does s c cs s' extra := by
  have hopen_iff := scriptOpen_prefix_append c cs t
  generalize hlater : cs ++ '&' :: t = later at h hopen_iff
  cases h with
  | quoted hq => exact .quoted hq
  | @script _ _ rest script after hq htext hcut =>
    obtain ⟨rest', hrest'⟩ := hopen_iff.1 ⟨rest, htext.symm⟩
    obtain rfl : rest' ++ '&' :: t = rest := by
      rw [← hlater, ← List.cons_append, ← hrest', List.append_assoc] at htext
      exact List.append_cancel_left htext
    have hscript : '&' ∉ script ++ scriptClose := fun hmem => by
      refine hfree _ List.mem_concat_self (List.mem_append_right _ ?_)
      rw [List.append_assoc]
      exact List.mem_append_right _ hmem
    have hlength : script.length + scriptClose.length ≤ rest'.length := by
      have hread := eq_of_splitOnce? hcut
      rw [← List.append_assoc] at hread
      by_contra hlt
      have hreach : rest' ++ ['&'] <+: script ++ scriptClose := by
        refine List.prefix_of_prefix_length_le ?_ ⟨after, hread.symm⟩ ?_
        · exact ⟨t, by rw [List.append_assoc, List.singleton_append]⟩
        · simp only [List.length_append, List.length_singleton]
          omega
      exact hscript (hreach.subset List.mem_concat_self)
    obtain ⟨after', hcut'⟩ := splitOnce?_of_append hcut hlength
    exact .script hq hrest'.symm hcut'
  | opens hq hopen hquote => exact .opens hq (mt hopen_iff.2 hopen) hquote
  | separates => exact (hc rfl).elim
  | takes hq hopen hquote _ =>
    exact .takes hq (mt hopen_iff.2 hopen) hquote fun hsep =>
      hc (List.cons_prefix_cons.1 hsep).1.symm

theorem run_append (hu : '&' ∉ u) (h : run s u = .ok s') (t : Text) :
    run s (u ++ '&' :: t) = run s' ('&' :: t) := by
  fun_induction run s u with
  | case1 s =>
    cases h
    rfl
  | case2 s c cs fault hstep => cases h
  | case3 s c cs s₁ extra hstep ih =>
    rw [List.mem_cons, not_or] at hu
    have hdoes := does_of_step hstep
    rw [List.cons_append, run_of_does (hdoes.append (Ne.symm hu.1) t), hdoes.previous_append,
      List.drop_append_of_le_length hdoes.extra_le]
    exact ih (fun hmem => hu.2 (List.mem_of_mem_drop hmem)) h

/-- Where no pair comes to hold an ampersand, what precedes one is read by itself. -/
theorem exists_run_of_append (hu : '&' ∉ u) (h : run s (u ++ '&' :: t) = .ok f)
    (hfree : f.IsFree) : ∃ s', run s u = .ok s' ∧ run s' ('&' :: t) = .ok f := by
  induction hn : u.length using Nat.strong_induction_on generalizing s u with
  | _ n ih =>
    cases u with
    | nil => exact ⟨s, by rw [run], h⟩
    | cons c cs =>
      rw [List.mem_cons, not_or] at hu
      obtain ⟨s₁, extra, hdoes, hrun⟩ := does_of_run h
      have hfree₁ := isFree_of_run hrun hfree
      have hdoes' := hdoes.of_append (Ne.symm hu.1) hfree₁
      rw [List.append_eq, hdoes'.previous_append,
        List.drop_append_of_le_length hdoes'.extra_le] at hrun
      rw [run_of_does hdoes']
      refine ih _ ?_ (fun hmem => hu.2 (List.mem_of_mem_drop hmem)) hrun rfl
      rw [← hn, List.length_drop, List.length_cons]
      omega

end Run

end Scan

/-! ### Written maps -/

/-- A pair as it is written. -/
def writePair (entry : Text × Text) : Text := entry.1 ++ (nameSeparator ++ entry.2)

/-- Pairs as they are written, one after the other. -/
def writePairs (entries : List (Text × Text)) : Text :=
  pairSeparator.intercalate (entries.map writePair)

/-- The name is made of characters that mean nothing to a scanner of pairs, and the rule is trimmed
and has no ampersands. -/
structure IsWritable (entry : Text × Text) : Prop where
  name_ne_nil : entry.1 ≠ []
  name : ∀ c ∈ entry.1, isBlank c = false ∧ isQuote c = false ∧ c ≠ '@' ∧ c ≠ '&' ∧ c ≠ '<'
  rule : Trimmed entry.2
  ampersand : '&' ∉ entry.2

instance (entry : Text × Text) : Decidable (IsWritable entry) :=
  decidable_of_iff (entry.1 ≠ [] ∧
      (∀ c ∈ entry.1, isBlank c = false ∧ isQuote c = false ∧ c ≠ '@' ∧ c ≠ '&' ∧ c ≠ '<') ∧
      Trimmed entry.2 ∧ '&' ∉ entry.2)
    ⟨fun ⟨hne, hname, hrule, hamp⟩ => ⟨hne, hname, hrule, hamp⟩,
      fun ⟨hne, hname, hrule, hamp⟩ => ⟨hne, hname, hrule, hamp⟩⟩

/-- After the separator in front of it, the scanner of pairs reads the rule to its end. -/
def Reads (rule : Text) : Prop := ∃ s, Scan.run { previous := some '@' } rule = .ok s

/-- The scanner of pairs reads the rule to its end, and there no quoted run is open. -/
def Closes (rule : Text) : Prop :=
  ∃ s, Scan.run { previous := some '@' } rule = .ok s ∧ s.quote = none

/-- The scanner of pairs closes every rule but the last one, and reads that. -/
def Apart : List Text → Prop
  | [] => True
  | [rule] => Reads rule
  | rule :: rules => Closes rule ∧ Apart rules

section Pair

variable {entry : Text × Text} (h : IsWritable entry)

include h

theorem IsWritable.trimmed_writePair : Trimmed (writePair entry) :=
  (Trimmed.of_forall h.name_ne_nil fun c hc => (h.name c hc).1).append nameSeparator h.rule

theorem IsWritable.not_mem_writePair : '&' ∉ writePair entry := by
  unfold writePair
  rw [List.mem_append, List.mem_append]
  rintro (hmem | hmem | hmem)
  · exact (h.name _ hmem).2.2.2.1 rfl
  · exact absurd hmem (by decide)
  · exact h.ampersand hmem

/-- A written pair is read back. -/
theorem IsWritable.readPair_writePair : readPair (writePair entry) = .ok entry := by
  have hat : '@' ∉ entry.1 := fun hmem => (h.name _ hmem).2.2.1 rfl
  have hcut : splitOnce? nameSeparator (writePair entry) = some (entry.1, entry.2) :=
    splitOnce?_of_notMem hat ['@'] entry.2
  have hname : trim entry.1 = entry.1 :=
    (Trimmed.of_forall h.name_ne_nil fun c hc => (h.name c hc).1).2
  have hblank : entry.1.any isBlank = false := by
    rw [List.any_eq_false]
    exact fun c hc => by simp [(h.name c hc).1]
  have hempty : entry.1.isEmpty = false := List.isEmpty_eq_false_iff.2 h.name_ne_nil
  unfold readPair
  rw [hcut]
  simp only [hname, hempty, hblank, h.rule.2]
  rfl

/-- The name of a pair and the separator after it are read as they are. -/
theorem IsWritable.run_name {s : Scan} (hq : s.quote = none) (t : Text) :
    Scan.run s (entry.1 ++ (nameSeparator ++ t)) =
      Scan.run { s with
        current := s.current ++ (entry.1 ++ nameSeparator), previous := some '@' } t := by
  have hplain : ∀ c ∈ entry.1 ++ nameSeparator, isQuote c = false ∧ c ≠ '&' ∧ c ≠ '<' := by
    intro c hc
    rcases List.mem_append.1 hc with hc | hc
    · exact ⟨(h.name c hc).2.1, (h.name c hc).2.2.2⟩
    · obtain rfl : c = '@' := by simpa [nameSeparator] using hc
      decide
  have hlast : (entry.1 ++ nameSeparator).getLast? = some '@' :=
    List.getLast?_append_of_ne_nil _ (List.cons_ne_nil _ _)
  rw [← List.append_assoc, Scan.run_plain hplain hq, hlast]
  rfl

end Pair

/-- Written pairs with distinct names are all read back. -/
theorem readPairs_writePair {entries : List (Text × Text)} {seen : List Text}
    (hentries : ∀ entry ∈ entries, IsWritable entry) (hnames : (entries.map Prod.fst).Nodup)
    (hseen : ∀ name ∈ entries.map Prod.fst, name ∉ seen) :
    readPairs seen (entries.map writePair) = .ok entries := by
  induction entries generalizing seen with
  | nil => rfl
  | cons entry entries ih =>
    obtain ⟨hentry, hentries⟩ := List.forall_mem_cons.1 hentries
    obtain ⟨hnew, hnames⟩ := List.nodup_cons.1 hnames
    obtain ⟨hentrySeen, hseen⟩ := List.forall_mem_cons.1 hseen
    have hpart := hentry.trimmed_writePair
    have hrule : entry.2.isEmpty = false := List.isEmpty_eq_false_iff.2 hentry.rule.1
    have hothers : readPairs (entry.1 :: seen) (entries.map writePair) = .ok entries := by
      refine ih hentries hnames fun name hname hmem => ?_
      rcases List.mem_cons.1 hmem with rfl | hmem
      · exact hnew hname
      · exact hseen name hname hmem
    rw [List.map_cons, readPairs_of_pair (by rw [hpart.2]; exact hpart.1), hpart.2,
      hentry.readPair_writePair]
    dsimp only
    rw [if_neg (by simpa using hentrySeen), hothers]
    simp only [Except.map, hrule]
    rfl

theorem writePairs_singleton (entry : Text × Text) :
    writePairs [entry] = entry.1 ++ (nameSeparator ++ entry.2) := by
  simp [writePairs, writePair, List.intercalate]

theorem writePairs_cons (entry : Text × Text) {entries : List (Text × Text)} (hne : entries ≠ []) :
    writePairs (entry :: entries) =
      entry.1 ++ (nameSeparator ++ (entry.2 ++ '&' :: '&' :: writePairs entries)) := by
  obtain ⟨next, rest, rfl⟩ := List.exists_cons_of_ne_nil hne
  simp [writePairs, writePair, pairSeparator, List.intercalate]

/-- If no pair comes to hold an ampersand, the rules are apart. -/
theorem apart_of_run {entries : List (Text × Text)} (hentries : ∀ entry ∈ entries, IsWritable entry)
    {s f : Scan} (hq : s.quote = none) (h : Scan.run s (writePairs entries) = .ok f)
    (hfree : f.IsFree) : Apart (entries.map Prod.snd) := by
  induction entries generalizing s with
  | nil => trivial
  | cons entry entries ih =>
    obtain ⟨hentry, hentries⟩ := List.forall_mem_cons.1 hentries
    cases entries with
    | nil =>
      rw [writePairs_singleton, hentry.run_name hq] at h
      obtain ⟨g, hg, -⟩ := Scan.run_congr (r := { previous := some '@' }) h hq.symm rfl
      exact ⟨g, hg⟩
    | cons next rest =>
      rw [writePairs_cons entry (List.cons_ne_nil next rest), hentry.run_name hq] at h
      obtain ⟨s', hrule, h'⟩ := Scan.exists_run_of_append hentry.ampersand h hfree
      have hq' := Scan.quote_of_run_ampersand h' hfree
      obtain ⟨g, hg, hgq⟩ := Scan.run_congr (r := { previous := some '@' }) hrule hq.symm rfl
      rw [Scan.run_separator hq'] at h'
      refine ⟨⟨g, hg, hgq.trans hq'⟩, ?_⟩
      exact ih hentries (s := { s' with
        parts := s'.parts ++ [s'.current], current := [], previous := some '&' }) hq' h'

/-- Rules that are apart are each read into the pair that they stand in. -/
theorem exists_run_of_apart {entries : List (Text × Text)} (hne : entries ≠ [])
    (hentries : ∀ entry ∈ entries, IsWritable entry) {s : Scan} (hq : s.quote = none)
    (hcurrent : s.current = []) (h : Apart (entries.map Prod.snd)) :
    ∃ f, Scan.run s (writePairs entries) = .ok f ∧
      f.parts ++ [f.current] = s.parts ++ entries.map writePair := by
  induction entries generalizing s with
  | nil => exact (hne rfl).elim
  | cons entry entries ih =>
    obtain ⟨hentry, hentries⟩ := List.forall_mem_cons.1 hentries
    cases entries with
    | nil =>
      obtain ⟨r, hr⟩ := h
      rw [writePairs_singleton, hentry.run_name hq]
      obtain ⟨f, hf, -⟩ := Scan.run_congr (r := { s with
        current := s.current ++ (entry.1 ++ nameSeparator), previous := some '@' }) hr hq rfl
      obtain ⟨hparts, hfcurrent⟩ := Scan.current_of_run hentry.ampersand hf
      refine ⟨f, hf, ?_⟩
      rw [hparts, hfcurrent, hcurrent]
      simp [writePair]
    | cons next rest =>
      obtain ⟨⟨r, hr, hrq⟩, h⟩ := h
      rw [writePairs_cons entry (List.cons_ne_nil next rest), hentry.run_name hq]
      obtain ⟨g, hg, hgq⟩ := Scan.run_congr (r := { s with
        current := s.current ++ (entry.1 ++ nameSeparator), previous := some '@' }) hr hq rfl
      obtain ⟨hparts, hgcurrent⟩ := Scan.current_of_run hentry.ampersand hg
      rw [Scan.run_append hentry.ampersand hg, Scan.run_separator (hgq.trans hrq)]
      obtain ⟨f, hf, hpairs⟩ := ih (List.cons_ne_nil next rest) hentries
        (s := { g with parts := g.parts ++ [g.current], current := [], previous := some '&' })
        (hgq.trans hrq) rfl h
      refine ⟨f, hf, hpairs.trans ?_⟩
      rw [hparts, hgcurrent, hcurrent]
      simp [writePair]

/-! ### Counting the separators -/

theorem count_flatMap_separator (parts : List Text) :
    (parts.flatMap (· ++ pairSeparator)).count '&' =
      parts.flatten.count '&' + 2 * parts.length := by
  induction parts with
  | nil => rfl
  | cons part parts ih =>
    have hsep : pairSeparator.count '&' = 2 := rfl
    rw [List.flatMap_cons, List.flatten_cons, List.count_append, List.count_append,
      List.count_append, hsep, ih, List.length_cons]
    omega

theorem count_writePairs {entries : List (Text × Text)} (hne : entries ≠ [])
    (hentries : ∀ entry ∈ entries, IsWritable entry) :
    (writePairs entries).count '&' + 2 = 2 * entries.length := by
  induction entries with
  | nil => exact (hne rfl).elim
  | cons entry entries ih =>
    obtain ⟨hentry, hentries⟩ := List.forall_mem_cons.1 hentries
    have hcount : (writePair entry).count '&' = 0 :=
      List.count_eq_zero.2 hentry.not_mem_writePair
    by_cases hrest : entries = []
    · rw [hrest, writePairs_singleton]
      exact congrArg (· + 2) hcount
    · have hread : writePairs (entry :: entries) =
          writePair entry ++ (pairSeparator ++ writePairs entries) := by
        rw [writePairs_cons entry hrest]
        simp [writePair, pairSeparator]
      have hsep : pairSeparator.count '&' = 2 := rfl
      rw [hread, List.count_append, List.count_append, hcount, hsep, List.length_cons]
      have := ih hrest hentries
      omega

/-- There are as many separators as the entries need, so where all entries are read back, none of
them has got into a pair. -/
theorem isFree_of_readPairs {entries : List (Text × Text)} (hne : entries ≠ [])
    (hentries : ∀ entry ∈ entries, IsWritable entry) {f : Scan}
    (hrun : Scan.run {} (writePairs entries) = .ok f)
    (hread : readPairs [] (f.parts ++ [f.current]) = .ok entries) : f.IsFree := by
  have htext : f.text = writePairs entries := Scan.text_of_run hrun
  have hlength := length_of_readPairs hread
  have hcount := count_writePairs hne hentries
  rw [← htext, Scan.text, List.count_append, count_flatMap_separator] at hcount
  rw [List.length_append, List.length_singleton] at hlength
  have hparts : f.parts.flatten.count '&' = 0 := by omega
  have hcurrent : f.current.count '&' = 0 := by omega
  intro part hpart
  rcases List.mem_append.1 hpart with hpart | hpart
  · exact fun hmem => List.count_eq_zero.1 hparts (List.mem_flatten.2 ⟨part, hpart, hmem⟩)
  · rw [List.mem_singleton.1 hpart]
    exact List.count_eq_zero.1 hcurrent

/-! ### Reading back -/

section ReadBack

variable {entries : List (Text × Text)} (hne : entries ≠ [])
  (hentries : ∀ entry ∈ entries, IsWritable entry)

include hne hentries

theorem isBlankText_writePairs : isBlankText (writePairs entries) = false := by
  obtain ⟨entry, rest, rfl⟩ := List.exists_cons_of_ne_nil hne
  have hentry := hentries entry List.mem_cons_self
  obtain ⟨c, hc⟩ := List.exists_mem_of_ne_nil _ hentry.name_ne_nil
  have hmem : c ∈ writePairs (entry :: rest) := by
    by_cases hrest : rest = []
    · rw [hrest, writePairs_singleton]
      exact List.mem_append_left _ hc
    · rw [writePairs_cons entry hrest]
      exact List.mem_append_left _ hc
  rw [← Bool.not_eq_true, isBlankText_iff]
  intro hall
  have hblank := hall c hmem
  rw [(hentry.name c hc).1] at hblank
  cases hblank

theorem apart_of_compile {flag : VariableFlag}
    (h : compile (writePairs entries) flag = .ok ⟨entries, flag⟩) :
    Apart (entries.map Prod.snd) := by
  obtain ⟨f, hrun, hread, -⟩ := (compile_eq_ok_iff (isBlankText_writePairs hne hentries)).1 h
  exact apart_of_run hentries rfl hrun (isFree_of_readPairs hne hentries hrun hread)

theorem compile_writePairs_of_apart (hnames : (entries.map Prod.fst).Nodup)
    (h : Apart (entries.map Prod.snd)) (flag : VariableFlag) :
    compile (writePairs entries) flag = .ok ⟨entries, flag⟩ := by
  obtain ⟨f, hrun, hparts⟩ := exists_run_of_apart hne hentries (s := {}) rfl rfl h
  refine (compile_eq_ok_iff (isBlankText_writePairs hne hentries)).2 ⟨f, hrun, ?_, rfl⟩
  rw [hparts]
  exact readPairs_writePair hentries hnames fun _ _ => List.not_mem_nil

end ReadBack

/-- A variable map that is written as the list of its pairs is read back exactly if the scanner of
pairs leaves the rules apart: at the end of every rule but the last one no quoted run is open, and
no script reaches over the end of a rule. -/
theorem compile_writePairs_iff {entries : List (Text × Text)} (hne : entries ≠ [])
    (hnames : (entries.map Prod.fst).Nodup) (hentries : ∀ entry ∈ entries, IsWritable entry)
    (flag : VariableFlag) :
    compile (writePairs entries) flag = .ok ⟨entries, flag⟩ ↔ Apart (entries.map Prod.snd) :=
  ⟨apart_of_compile hne hentries,
    fun h => compile_writePairs_of_apart hne hentries hnames h flag⟩

/-- The first rule has an apostrophe and a script with a quotation mark; in the last one, where
nothing follows, the quotation mark after the fence does not matter. -/
theorem compile_writePairs_iff_apostrophe :
    let entries := [(['a'], "p:contains(it's)<js>'</js>".toList), (['b'], "h1##\"".toList)]
    entries ≠ [] ∧ (entries.map Prod.fst).Nodup ∧ (∀ entry ∈ entries, IsWritable entry) ∧
      Apart (entries.map Prod.snd) ∧
      compile (writePairs entries) .content = .ok ⟨entries, .content⟩ := by
  intro entries
  have hne : entries ≠ [] := List.cons_ne_nil _ _
  have hnames : (entries.map Prod.fst).Nodup := by decide
  have hentries : ∀ entry ∈ entries, IsWritable entry := by decide +kernel
  have hfirst : Scan.run { previous := some '@' } "p:contains(it's)<js>'</js>".toList =
      .ok ⟨[], "p:contains(it's)<js>'</js>".toList, none, some '>'⟩ := by decide +kernel
  have hlast : Scan.run { previous := some '@' } "h1##\"".toList =
      .ok ⟨[], "h1##\"".toList, some '"', some '"'⟩ := by decide +kernel
  have hapart : Apart (entries.map Prod.snd) := ⟨⟨_, hfirst, rfl⟩, ⟨_, hlast⟩⟩
  exact ⟨hne, hnames, hentries, hapart,
    (compile_writePairs_iff hne hnames hentries .content).2 hapart⟩

/-- A quotation mark after a fence, which means nothing there to the rule, makes the scanner of
pairs take the next pair into the rule, though both rules compile. -/
theorem not_compile_writePairs :
    ¬ ∀ (entries : List (Text × Text)) (mode : Mode) (flag : VariableFlag), entries ≠ [] →
      (entries.map Prod.fst).Nodup → (∀ entry ∈ entries, IsWritable entry) →
      (∀ entry ∈ entries, ∃ r, Rule.compile entry.2 mode = .ok r) →
      compile (writePairs entries) flag = .ok ⟨entries, flag⟩ := by
  intro hall
  let entries := [(['a'], "h1##\"".toList), (['b'], "h2".toList)]
  have hcompiles : ∀ entry ∈ entries, (Rule.compile entry.2 .css).toOption.isSome = true := by
    decide +kernel
  have hcompile : ∀ entry ∈ entries, ∃ r, Rule.compile entry.2 .css = .ok r := by
    intro entry hentry
    have hsome := hcompiles entry hentry
    cases hr : Rule.compile entry.2 .css with
    | error e =>
      rw [hr] at hsome
      cases hsome
    | ok r => exact ⟨r, rfl⟩
  have hread := hall entries .css .content (List.cons_ne_nil _ _) (by decide) (by decide +kernel)
    hcompile
  have hone : compile (writePairs entries) .content =
      .ok ⟨[(['a'], "h1##\"&&b@@h2".toList)], .content⟩ := by decide +kernel
  rw [hone] at hread
  exact absurd (congrArg (·.entries.length) (Except.ok.inj hread)) (by decide)

/-! ### Rules that both scanners read alike -/

/-- The text has no backslash, no fence and no script that takes all that follows: the two scanners
differ on nothing else. -/
structure IsPlain (t : Text) : Prop where
  backslash : '\\' ∉ t
  fence : ¬ Rule.fence <:+: t
  scriptRest : ¬ Rule.scriptRest <:+: lowerAscii t

theorem IsPlain.of_suffix {t u : Text} (h : IsPlain t) (hu : u <:+ t) : IsPlain u where
  backslash := fun hmem => h.backslash (hu.subset hmem)
  fence := fun hin => h.fence (hin.trans hu.isInfix)
  scriptRest := fun hin => h.scriptRest (hin.trans (hu.isInfix.map _))

/-- On a plain text the scanner of pairs does what the scanner of segments does. -/
theorem exists_does_of_step {s s' : Rule.Scan} {c : Char} {cs : Text} {extra : Nat}
    (h : s.step c cs = .ok (s', extra)) (hregex : s.current.regex = none)
    (hplain : IsPlain (c :: cs)) (hamp : '&' ∉ c :: cs) {p : Scan} (hquote : p.quote = s.quote)
    (hprevious : opensQuote p.previous = opensQuote s.previous) :
    s'.current.regex = none ∧ ∃ p' : Scan, p'.quote = s'.quote ∧
      Scan.run p (c :: cs) =
        Scan.run { p' with previous := (c :: cs)[extra]? } (cs.drop extra) := by
  have hescape : c ≠ '\\' := fun hc => hplain.backslash (hc ▸ List.mem_cons_self)
  have hsep : ¬ pairSeparator <+: c :: cs := fun hp =>
    hamp ((List.cons_prefix_cons.1 hp).1 ▸ List.mem_cons_self)
  rcases Rule.Scan.step_cases h with ⟨q, hq, hr⟩ | ⟨hq, rest, script, after, htext, hcut, hr⟩ |
    ⟨-, -, -, script, hscript, -⟩ | ⟨hq, hunmarked, hzone⟩
  · rw [Rule.Scan.quotedStep, if_neg hescape] at hr
    cases hr
    exact ⟨hregex, _, rfl, Scan.run_of_does (.quoted (hquote.trans hq))⟩
  · cases hr
    have hlength : scriptOpen.length + script.length + scriptClose.length - 1 =
        (scriptOpen ++ script ++ scriptClose).length - 1 := by
      rw [List.length_append, List.length_append]
    rw [hlength]
    exact ⟨hregex, { p with current := p.current ++ (scriptOpen ++ script ++ scriptClose) }, hquote,
      Scan.run_of_does (.script (hquote.trans hq) htext hcut)⟩
  · refine (hplain.scriptRest (List.IsPrefix.isInfix ?_)).elim
    rw [← Rule.lowerAscii_scriptRest, ← dropPrefixIgnoreCase?_isSome_iff, hscript]
    rfl
  · unfold Rule.Scan.zoneStep at hzone
    rw [hregex] at hzone
    rcases Rule.Scan.bodyStep_cases hzone with ⟨hc, -⟩ | ⟨brackets, hr⟩ | ⟨harrow, s₁, hclose, hr⟩ |
      ⟨hfence, -⟩
    · exact (hescape hc).elim
    · cases hr
      refine ⟨hregex, ?_⟩
      by_cases hopens : (isQuote c && opensQuote s.previous) = true
      · refine ⟨_, ?_, Scan.run_of_does (.opens (hquote.trans hq) hunmarked.scriptOpen ?_)⟩
        · exact (if_pos hopens).symm
        · rwa [hprevious]
      · refine ⟨_, ?_, Scan.run_of_does (.takes (hquote.trans hq) hunmarked.scriptOpen ?_ hsep)⟩
        · exact hquote.trans (if_neg hopens).symm
        · rwa [hprevious, ← Bool.not_eq_true]
    · cases hr
      obtain ⟨-, rfl⟩ := Rule.Scan.close_eq_ok_iff.1 hclose
      obtain ⟨t, ht⟩ := harrow
      cases ht
      have hmarks : ∀ d ∈ Rule.arrow, isQuote d = false ∧ d ≠ '&' ∧ d ≠ '<' := by decide
      exact ⟨rfl, { p with current := p.current ++ Rule.arrow }, hquote,
        Scan.run_plain hmarks (hquote.trans hq) t⟩
    · exact (hplain.fence hfence.isInfix).elim

/-- The scanner of pairs ends a plain text as the scanner of segments does. -/
theorem exists_run_of_segments {s f : Rule.Scan} {t : Text} (h : Rule.Scan.run s t = .ok f)
    (hregex : s.current.regex = none) (hplain : IsPlain t) (hamp : '&' ∉ t) {p : Scan}
    (hquote : p.quote = s.quote) (hprevious : opensQuote p.previous = opensQuote s.previous) :
    ∃ g, Scan.run p t = .ok g ∧ g.quote = f.quote := by
  fun_induction Rule.Scan.run s t generalizing p with
  | case1 s =>
    cases h
    exact ⟨p, by rw [Scan.run], hquote⟩
  | case2 s c cs fault hstep => cases h
  | case3 s c cs s₁ extra hstep ih =>
    obtain ⟨hregex₁, p₁, hquote₁, hrun⟩ :=
      exists_does_of_step hstep hregex hplain hamp hquote hprevious
    have hsuffix : cs.drop extra <:+ c :: cs :=
      (List.drop_suffix extra cs).trans (List.suffix_cons c cs)
    rw [hrun]
    exact ih h hregex₁ (hplain.of_suffix hsuffix) (fun hmem => hamp (hsuffix.subset hmem))
      hquote₁ rfl

/-- A plain rule that compiles is left apart from what follows. -/
theorem closes_of_compile {rule : Text} (hrule : Trimmed rule) (hplain : IsPlain rule)
    (hamp : '&' ∉ rule) {mode : Mode} {r : Rule} (hr : Rule.compile rule mode = .ok r) :
    Closes rule := by
  obtain ⟨segments, hsegments, -⟩ := (Rule.compile_eq_ok_iff (hrule.2.symm ▸ hrule.1)).1 hr
  rw [hrule.2] at hsegments
  obtain ⟨s, hrun, hquote, -⟩ := Rule.splitSteps_eq_ok_iff.1 hsegments
  obtain ⟨g, hg, hgq⟩ := exists_run_of_segments (p := { previous := some '@' }) hrun rfl hplain hamp
    rfl rfl
  exact ⟨g, hg, hgq.trans hquote⟩

theorem apart_of_closes {rules : List Text} (h : ∀ rule ∈ rules, Closes rule) : Apart rules := by
  induction rules with
  | nil => trivial
  | cons rule rules ih =>
    obtain ⟨hrule, hrules⟩ := List.forall_mem_cons.1 h
    cases rules with
    | nil => exact hrule.imp fun _ => And.left
    | cons next rest => exact ⟨hrule, ih hrules⟩

/-- A variable map that is written as the list of its pairs is read back if every rule is plain and
compiles. -/
theorem compile_writePairs {entries : List (Text × Text)} (hne : entries ≠ [])
    (hnames : (entries.map Prod.fst).Nodup) (hentries : ∀ entry ∈ entries, IsWritable entry)
    (hplain : ∀ entry ∈ entries, IsPlain entry.2) {mode : Mode}
    (hcompile : ∀ entry ∈ entries, ∃ r, Rule.compile entry.2 mode = .ok r) (flag : VariableFlag) :
    compile (writePairs entries) flag = .ok ⟨entries, flag⟩ := by
  refine compile_writePairs_of_apart hne hentries hnames (apart_of_closes fun rule hrule => ?_) flag
  obtain ⟨entry, hentry, rfl⟩ := List.mem_map.1 hrule
  obtain ⟨r, hr⟩ := hcompile entry hentry
  exact closes_of_compile (hentries entry hentry).rule (hplain entry hentry)
    (hentries entry hentry).ampersand hr

end Extraction.VariableMap
