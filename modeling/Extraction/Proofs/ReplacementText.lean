import Extraction.Proofs.SegmentScan

/-!
# Texts after a fence

What a step can have after its fence: a pattern, a replacement and the number of a group, with
fences between them. Such a text is read as it is, up to a script or to an arrow after a blank, and
the replacement that it writes is the one it was written from.

## Main definitions

* `Fenced`: texts with no mark that would end the text after a fence
* `FencePart`: texts that can be one part of it
* `WrittenReplacement`: a replacement as it is written
-/

namespace Extraction.Rule

open Text

/-- No script begins in the text, and no arrow stands after a blank. -/
structure Fenced (t : Text) : Prop where
  scriptOpen : ¬ scriptOpen <:+: t
  scriptRest : ¬ scriptRest <:+: lowerAscii t
  arrow : ∀ d ∈ t, isBlank d = true → ¬ d :: arrow <:+: t

/-- A part of the text after a fence: the fences around it are the only ones. -/
structure FencePart (t : Text) : Prop extends Fenced t where
  fence : ¬ fence <:+: t
  last : t.getLast? ≠ some '#'

namespace Fenced

variable {t u : Text} {c : Char}

theorem not_arrow (h : Fenced t) {d : Char} (hd : isBlank d = true) : ¬ d :: Rule.arrow <:+: t :=
  fun hin => h.arrow d (hin.subset List.mem_cons_self) hd hin

/-- The blanks of a text can be looked at one after the other. -/
theorem arrow_of_all (h : t.all (fun d => !isBlank d || decide (¬ d :: Rule.arrow <:+: t)) = true) :
    ∀ d ∈ t, isBlank d = true → ¬ d :: Rule.arrow <:+: t := by
  intro d hd hblank
  have hcheck := List.all_eq_true.1 h d hd
  rw [hblank] at hcheck
  exact of_decide_eq_true hcheck

theorem of_cons (h : Fenced (c :: t)) : Fenced t where
  scriptOpen hin := h.scriptOpen (hin.trans (List.suffix_cons c t).isInfix)
  scriptRest hin := h.scriptRest (hin.trans (List.suffix_cons _ _).isInfix)
  arrow _ _ hd hin := h.not_arrow hd (hin.trans (List.suffix_cons c t).isInfix)

/-- Texts that are fenced stay so with a hash sign between them. -/
theorem append_hash (ht : Fenced t) (hu : Fenced u) : Fenced (t ++ '#' :: u) where
  scriptOpen hin := ((infix_append_cons_iff (by decide)).1 hin).elim ht.scriptOpen hu.scriptOpen
  scriptRest hin := by
    rw [lowerAscii, List.map_append, List.map_cons] at hin
    exact ((infix_append_cons_iff (by decide)).1 hin).elim ht.scriptRest hu.scriptRest
  arrow d _ hd hin := by
    have hne : '#' ∉ d :: Rule.arrow := fun hmem => by
      rcases List.mem_cons.1 hmem with rfl | hmem
      · cases hd
      · exact absurd hmem (by decide)
    exact ((infix_append_cons_iff hne).1 hin).elim (ht.not_arrow hd) (hu.not_arrow hd)

/-- Two fenced texts with a fence between them. -/
theorem append_fence (ht : Fenced t) (hu : Fenced u) : Fenced (t ++ (fence ++ u)) := by
  have hnil : Fenced [] := ⟨by decide, by decide, nofun⟩
  exact ht.append_hash (hnil.append_hash hu)

end Fenced

/-- A part of the text after a fence ends where the next fence begins. -/
theorem FencePart.not_fence {s t : Text} (h : FencePart s) (u v : Text) (huv : s = u ++ v)
    (hv : v ≠ []) : ¬ Rule.fence <+: v ++ (Rule.fence ++ t) := by
  obtain ⟨c, v, rfl⟩ := List.exists_cons_of_ne_nil hv
  have hlast : (c :: v).getLast? ≠ some '#' := fun hlast =>
    h.last (by rw [huv, List.getLast?_append, hlast]; rfl)
  rw [List.cons_append, fence_prefix_append fun _ => hlast]
  exact fun hp => h.fence (hp.isInfix.trans (huv ▸ (List.suffix_append u _).isInfix))

/-- The digits of a number are part of the text after a fence. -/
theorem fencePart_ofNat (n : Nat) : FencePart (ofNat n) := by
  have hmem {c : Char} (hc : c.isDigit = false) : c ∉ ofNat n := fun h => by
    rw [isDigit_of_mem_ofNat h] at hc
    cases hc
  have hlower : '@' ∉ lowerAscii (ofNat n) := fun h => by
    obtain ⟨c, hc, hat⟩ := List.mem_map.1 h
    rw [toLower_of_isDigit (isDigit_of_mem_ofNat hc)] at hat
    exact hmem rfl (hat ▸ hc)
  refine ⟨⟨fun h => hmem rfl (h.subset (List.mem_cons_self (a := '<'))), fun h =>
    hlower (h.subset List.mem_cons_self), fun d hd _ h => ?_⟩, fun h =>
    hmem rfl (h.subset (List.mem_cons_self (a := '#'))), fun h =>
    hmem rfl (List.mem_of_getLast? h)⟩
  exact hmem rfl (h.subset (List.mem_cons_of_mem d (List.mem_cons_self (a := '-'))))

/-- The text after the fence of a step that writes a pattern, a replacement and perhaps a group. -/
def fenceText (pattern replacement : Text) (group : Option Nat) : Text :=
  pattern ++ (fence ++ (replacement ++ group.elim [] fun g => fence ++ ofNat g))

/-- A replacement as it is written after the fence of a step. -/
structure WrittenReplacement where
  pattern : Text
  /-- The regular expression that the pattern writes. -/
  regex : Regex
  replacement : Text
  group : Option Nat
  pattern_ne_nil : pattern ≠ []
  compile?_pattern : Regex.compile? pattern = some regex
  fencePart_pattern : FencePart pattern
  fencePart_replacement : FencePart replacement
  group_lt : ∀ g ∈ group, g < regex.groupCount
  /-- The number of a group is one that can be written. -/
  group_le : ∀ g ∈ group, g ≤ maxGroup
  endsBlank_text : Scan.endsBlank (fenceText pattern replacement group) = false

namespace WrittenReplacement

/-- The text that is written after the fence. -/
def text (w : WrittenReplacement) : Text := fenceText w.pattern w.replacement w.group

/-- The replacement that is meant. -/
def meaning (w : WrittenReplacement) : Replacement where
  regex := w.regex
  template := Replacement.normalize w.replacement
  group := w.group

theorem isBlank_getLast_text (w : WrittenReplacement) :
    ∀ c ∈ w.text.getLast?, isBlank c = false := by
  intro c hc
  have hends := w.endsBlank_text
  rw [Scan.endsBlank, show (fenceText w.pattern w.replacement w.group).getLast? = some c from hc]
    at hends
  exact hends

theorem trimEnd_text (w : WrittenReplacement) : trimEnd w.text = w.text :=
  trimEnd_eq_self w.isBlank_getLast_text

theorem fenced_text (w : WrittenReplacement) : Fenced w.text := by
  refine w.fencePart_pattern.toFenced.append_fence ?_
  cases w.group with
  | none =>
    rw [Option.elim_none, List.append_nil]
    exact w.fencePart_replacement.toFenced
  | some g => exact w.fencePart_replacement.toFenced.append_fence (fencePart_ofNat g).toFenced

theorem splitOn_text (w : WrittenReplacement) :
    splitOn fence w.text = w.pattern :: w.replacement :: w.group.toList.map ofNat := by
  have hne : fence ≠ [] := List.cons_ne_nil _ _
  rw [text, fenceText, splitOn_of_first hne w.fencePart_pattern.not_fence]
  cases w.group with
  | none =>
    rw [Option.elim_none, List.append_nil, splitOn_of_not_infix w.fencePart_replacement.fence]
    rfl
  | some g =>
    rw [Option.elim_some, splitOn_of_first hne w.fencePart_replacement.not_fence,
      splitOn_of_not_infix (fencePart_ofNat g).fence]
    rfl

theorem readGroup_group (w : WrittenReplacement) :
    readGroup w.regex (w.group.map ofNat) = .ok w.group := by
  cases hgroup : w.group with
  | none => rfl
  | some g =>
    have hdigit (c : Char) (hc : c ∈ ofNat g) : isBlank c = false :=
      isBlank_of_isDigit (isDigit_of_mem_ofNat hc)
    have htrim : trim (ofNat g) = ofNat g :=
      trim_eq_self (fun c hc => hdigit c (List.mem_of_head? hc)) fun c hc =>
        hdigit c (List.mem_of_getLast? hc)
    unfold readGroup
    rw [Option.map_some, Option.getD_some, htrim]
    split
    · next hnil => exact (Nat.toDigits_ne_nil hnil).elim
    · rw [unsigned?_ofNat (w.group_le g hgroup)]
      exact if_pos (w.group_lt g hgroup)

/-- The replacement that is read is the one that was written. -/
theorem readReplacement_text (w : WrittenReplacement) :
    readReplacement w.text = .ok (some w.meaning) := by
  have hempty : w.pattern.isEmpty = false := by
    rw [← Bool.not_eq_true, List.isEmpty_iff]
    exact w.pattern_ne_nil
  have hlength : ¬ 2 < (w.replacement :: w.group.toList.map ofNat).length := by
    cases w.group <;> simp
  have hgroup : (w.replacement :: w.group.toList.map ofNat)[1]? = w.group.map ofNat := by
    cases w.group <;> rfl
  unfold readReplacement
  rw [splitOn_text]
  simp only [if_neg hlength, hempty, w.compile?_pattern, hgroup, readGroup_group]
  rfl

end WrittenReplacement

namespace Scan

/-- A fenced text is read after a fence as it is, up to what goes on with no mark. -/
theorem run_fenced {s : Scan} {regex x t : Text} (hq : s.quote = none)
    (hregex : s.current.regex = some regex) (hx : Fenced x)
    (hfirst : endsBlank regex = true → ¬ arrow <+: x) (ht : Parts t) :
    run s (x ++ t) = run (s.readRegex regex x) t := by
  induction x generalizing s regex with
  | nil => rw [← read_of_regex _ _ hregex, read_nil, List.nil_append]
  | cons c x ih =>
    have hunmarked : s.Unmarked (c :: x) :=
      ⟨fun h => hx.scriptOpen h.isInfix, fun _ h => hx.scriptRest h.isInfix⟩
    have hstep : s.step c (x ++ t) = .ok (s.setRegex (regex ++ [c]), 0) := by
      rw [step_of_unmarked hq (hunmarked.append ht), zoneStep, hregex]
      refine regexStep_plain fun hends => ?_
      rw [arrow_prefix_append ht]
      exact hfirst hends
    have hnext : endsBlank (regex ++ [c]) = true → ¬ arrow <+: x := fun hends harrow => by
      have hc : isBlank c = true := by simpa [endsBlank] using hends
      exact hx.not_arrow hc (List.cons_prefix_cons.2 ⟨rfl, harrow⟩).isInfix
    have hread := ih (s := s.readRegex regex [c]) hq rfl hx.of_cons hnext
    rw [List.cons_append, run_cons hstep]
    rw [readRegex_append] at hread
    exact hread

end Scan

end Extraction.Rule
