import Extraction.Proofs.Outcomes
import Extraction.Proofs.SegmentScan

/-!
# What compiled rules hold

A rule that compiles has a step. No selector and no script has blanks around it, and a replacement
asks only for groups that its regular expression has. A script is the text between two marks, in
which the closing mark does not occur; only the last script of the last step may instead be all that
follows the mark of such a script.

## Main definitions

* `Replacement.IsSound`, `Step.IsSound`: what is known of a compiled replacement, of a compiled step
* `Rule.IsEnclosed`, `Rule.TakesRest`: how a script may stand in a text
* `Rule.ScriptsOf`: the scripts of a text, step by step
-/

namespace Extraction

open Text

/-! ### Replacements -/

namespace Regex

variable {r : Regex} {s : Text} {m : Match}

theorem source_of_compile? (h : compile? s = some r) : r.source = s := by
  obtain ⟨p, -, rfl⟩ := Option.map_eq_some_iff.1 h
  rfl

/-- A match has all groups of its regular expression. -/
theorem length_groups_of_find? (h : r.find? s = some m) : m.groups.length = r.groupCount := by
  obtain ⟨slots, -, hm⟩ := Option.bind_eq_some_iff.1 h
  obtain ⟨span, -, rfl⟩ := Option.map_eq_some_iff.1 hm
  rw [List.length_map, List.length_range]

end Regex

/-- The regular expression is compiled from a text without fences. The group that is named is one of
its groups, so that every match has it. -/
structure Replacement.IsSound (r : Replacement) : Prop where
  source_ne_nil : r.regex.source ≠ []
  compile?_source : Regex.compile? r.regex.source = some r.regex
  fence : ¬ Rule.fence <:+: r.regex.source
  group_lt : ∀ g ∈ r.group, g < r.regex.groupCount
  group_found : ∀ g ∈ r.group, ∀ s, ∀ m ∈ r.regex.find? s, g < m.groups.length

namespace Rule

theorem group_lt_of_readGroup {regex : Regex} {text : Option Text} {group : Option Nat}
    (h : readGroup regex text = .ok group) : ∀ g ∈ group, g < regex.groupCount := by
  unfold readGroup at h
  split at h
  · cases h
    exact nofun
  · split at h
    · cases h
    · next n hn =>
      split at h
      · next hlt =>
        cases h
        intro g hg
        rwa [← Option.mem_some_iff.1 hg]
      · cases h

theorem isSound_of_readReplacement {text : Text} {r : Replacement}
    (h : readReplacement text = .ok (some r)) : r.IsSound := by
  unfold readReplacement at h
  split at h
  · cases h
  · next pattern parts hsplit =>
    split at h
    · cases h
    · split at h
      · split at h <;> cases h
      · next hempty =>
        split at h
        · cases h
        · next regex hregex =>
          cases hgroup : readGroup regex parts[1]? with
          | error fault =>
            rw [hgroup] at h
            cases h
          | ok group =>
            rw [hgroup] at h
            cases h
            have hlt := group_lt_of_readGroup hgroup
            have hsource := Regex.source_of_compile? hregex
            refine ⟨?_, by rw [hsource, hregex], ?_, hlt, fun g hg s m hm => ?_⟩
            · rw [hsource]
              exact fun hnil => hempty (List.isEmpty_iff.2 hnil)
            · rw [hsource]
              exact not_infix_of_mem_splitOn (List.cons_ne_nil _ _)
                (hsplit ▸ List.mem_cons_self)
            · rw [Regex.length_groups_of_find? hm]
              exact hlt g hg

/-! ### Scripts -/

/-- The script stands between its two marks, the closing one being the first that follows. -/
def IsEnclosed (text script : Text) : Prop :=
  ∃ source, scriptOpen ++ source ++ scriptClose <:+: text ∧ ¬ scriptClose <:+: source ∧
    script = trim source

/-- The script is all that follows its mark. -/
def TakesRest (text script : Text) : Prop :=
  ∃ before mark source, text = before ++ mark ++ source ∧ lowerAscii mark = scriptRest ∧
    script = trim source

/-- Scripts, step by step, as they can stand in a text: all of them are enclosed, but the last one
of the last step may take the rest. -/
def ScriptsOf (text : Text) (steps : List (List Text)) : Prop :=
  ∀ before scripts after, steps = before ++ scripts :: after →
    ∀ earlier script later, scripts = earlier ++ script :: later →
      IsEnclosed text script ∨ (after = [] ∧ later = [] ∧ TakesRest text script)

section Forms

variable {text script : Text}

theorem IsEnclosed.trim_eq (h : IsEnclosed text script) : trim script = script := by
  obtain ⟨source, -, -, rfl⟩ := h
  exact trim_trim source

theorem TakesRest.trim_eq (h : TakesRest text script) : trim script = script := by
  obtain ⟨before, mark, source, -, -, rfl⟩ := h
  exact trim_trim source

theorem IsEnclosed.not_scriptClose (h : IsEnclosed text script) : ¬ scriptClose <:+: script := by
  obtain ⟨source, -, hclose, rfl⟩ := h
  have htrim : trim source <:+: source := trim_infix source
  exact fun hin => hclose (hin.trans htrim)

theorem ScriptsOf.trim_eq {steps : List (List Text)} (h : ScriptsOf text steps) :
    ∀ scripts ∈ steps, ∀ script ∈ scripts, trim script = script := by
  intro scripts hscripts script hscript
  obtain ⟨before, after, hsteps⟩ := List.append_of_mem hscripts
  obtain ⟨earlier, later, hplace⟩ := List.append_of_mem hscript
  rcases h before scripts after hsteps earlier script later hplace with henclosed | ⟨-, -, hrest⟩
  · exact henclosed.trim_eq
  · exact hrest.trim_eq

/-- A place in a list that ends in `b` is that of `b` or one before it. -/
theorem eq_or_mem_of_append_cons {α : Type} {before after xs : List α} {a b : α}
    (h : xs ++ [b] = before ++ a :: after) : (after = [] ∧ a = b) ∨ a ∈ xs := by
  obtain rfl | ⟨after, c, rfl⟩ := List.eq_nil_or_concat' after
  · exact .inl ⟨rfl, (List.singleton_inj.1 (List.append_inj' h rfl).2).symm⟩
  · rw [← List.cons_append, ← List.append_assoc] at h
    refine .inr ?_
    rw [(List.append_inj' h rfl).1]
    exact List.mem_append_right before List.mem_cons_self

theorem scriptsOf_of_enclosed {steps : List (List Text)}
    (h : ∀ scripts ∈ steps, ∀ script ∈ scripts, IsEnclosed text script) : ScriptsOf text steps := by
  rintro before scripts after rfl earlier script later rfl
  exact .inl (h _ (List.mem_append_right before List.mem_cons_self) script
    (List.mem_append_right earlier List.mem_cons_self))

theorem scriptsOf_of_rest {steps : List (List Text)} {last : List Text}
    (hsteps : ∀ scripts ∈ steps, ∀ script ∈ scripts, IsEnclosed text script)
    (hlast : ∀ script ∈ last, IsEnclosed text script) (hrest : TakesRest text script) :
    ScriptsOf text (steps ++ [last ++ [script]]) := by
  intro before scripts after hplace earlier x later hx
  rcases eq_or_mem_of_append_cons hplace with ⟨hafter, rfl⟩ | hmem
  · rcases eq_or_mem_of_append_cons hx with ⟨hlater, rfl⟩ | hmem
    · exact .inr ⟨hafter, hlater, hrest⟩
    · exact .inl (hlast x hmem)
  · rw [hx] at hmem
    exact .inl (hsteps _ hmem x (List.mem_append_right earlier List.mem_cons_self))

end Forms

namespace Scan

/-- The scripts that were read, in their order. -/
def scripts (s : Scan) : List Text := (s.segments ++ [s.current]).flatMap Segment.scripts

section Step

variable {s s' : Scan} {c : Char} {cs : Text} {extra : Nat}

@[simp] theorem scripts_addBody (s : Scan) (t : Text) : (s.addBody t).scripts = s.scripts := by
  simp [scripts, addBody]

@[simp] theorem scripts_setRegex (s : Scan) (t : Text) : (s.setRegex t).scripts = s.scripts := by
  simp [scripts, setRegex]

@[simp] theorem scripts_addScript (s : Scan) (t : Text) :
    (s.addScript t).scripts = s.scripts ++ [trim t] := by
  simp [scripts, addScript]

theorem scripts_of_close (h : s.close = .ok s') : s'.scripts = s.scripts := by
  obtain ⟨-, rfl⟩ := close_eq_ok_iff.1 h
  simp [scripts]

theorem scripts_escapeStep (s : Scan) (cs : Text) : (s.escapeStep cs).1.scripts = s.scripts := by
  cases cs <;> exact scripts_addBody s _

theorem scripts_quotedStep (s : Scan) (q c : Char) (cs : Text) :
    (s.quotedStep q c cs).1.scripts = s.scripts := by
  unfold quotedStep
  split
  · exact scripts_escapeStep s cs
  · exact scripts_addBody s [c]

theorem scripts_of_zoneStep (h : s.zoneStep c cs = .ok (s', extra)) : s'.scripts = s.scripts := by
  unfold zoneStep at h
  split at h
  · next regex _ =>
    rcases regexStep_cases h with ⟨-, -, s₁, hclose, hr⟩ | ⟨-, hr⟩
    · cases hr
      rw [scripts_of_close hclose, scripts_setRegex]
    · cases hr
      exact scripts_setRegex s _
  · rcases bodyStep_cases h with ⟨-, hr⟩ | ⟨brackets, hr⟩ | ⟨-, s₁, hclose, hr⟩ | ⟨-, hr⟩
    · have hscripts := scripts_escapeStep s cs
      rwa [hr] at hscripts
    · cases hr
      exact scripts_addBody s [c]
    · cases hr
      exact scripts_of_close hclose
    · cases hr
      exact scripts_setRegex s []

/-- A step leaves the scripts, or it reads one more: up to the closing mark, or to the end of the
text. -/
theorem scripts_of_step (h : s.step c cs = .ok (s', extra)) :
    s'.scripts = s.scripts ∨ ∃ source, s' = s.addScript source ∧
      ((scriptOpen ++ source ++ scriptClose <+: c :: cs ∧ ¬ scriptClose <:+: source) ∨
        (extra = cs.length ∧ ∃ mark, c :: cs = mark ++ source ∧ lowerAscii mark = scriptRest)) := by
  rcases step_cases h with ⟨q, -, hr⟩ | ⟨-, rest, source, after, htext, hcut, hr⟩ |
    ⟨-, -, -, source, hsource, hr⟩ | ⟨-, -, hzone⟩
  · have hscripts := scripts_quotedStep s q c cs
    rw [hr] at hscripts
    exact .inl hscripts
  · cases hr
    refine .inr ⟨source, rfl, .inl ⟨⟨after, ?_⟩, ?_⟩⟩
    · rw [htext, eq_of_splitOnce? hcut]
      simp only [List.append_assoc]
    · exact not_infix_of_splitOnce? (List.cons_ne_nil _ _) hcut
  · cases hr
    obtain ⟨mark, htext, hmark⟩ := exists_of_dropPrefixIgnoreCase? hsource
    exact .inr ⟨source, rfl, .inr ⟨rfl, mark, htext, hmark.trans lowerAscii_scriptRest⟩⟩
  · exact .inl (scripts_of_zoneStep hzone)

end Step

/-- The scripts that a run reads are enclosed, but the last one of the segment that it ends in may
take the rest: nothing is read after it. -/
theorem scripts_of_run {s s' : Scan} {text rest : Text} (hrest : rest <:+ text)
    (hs : ∀ script ∈ s.scripts, IsEnclosed text script) (hrun : run s rest = .ok s') :
    (∀ script ∈ s'.scripts, IsEnclosed text script) ∨
      ∃ s₁ : Scan, (∀ script ∈ s₁.scripts, IsEnclosed text script) ∧
        ∃ source, TakesRest text (trim source) ∧ s'.segments = s₁.segments ∧
          s'.current.scripts = s₁.current.scripts ++ [trim source] := by
  fun_induction run s rest with
  | case1 s =>
    cases hrun
    exact .inl hs
  | case2 s c cs fault hstep => cases hrun
  | case3 s c cs s₁ extra hstep ih =>
    have hlater : cs.drop extra <:+ text :=
      (List.drop_suffix extra cs).trans ((List.suffix_cons c cs).trans hrest)
    rcases scripts_of_step hstep with
      hscripts | ⟨source, rfl, ⟨hopen, hclose⟩ | ⟨rfl, mark, htext, hmark⟩⟩
    · refine ih hlater ?_ hrun
      change ∀ script ∈ s₁.scripts, _
      rwa [hscripts]
    · refine ih hlater ?_ hrun
      change ∀ script ∈ (s.addScript source).scripts, _
      rw [scripts_addScript, List.forall_mem_append, List.forall_mem_singleton]
      exact ⟨hs, source, hopen.isInfix.trans hrest.isInfix, hclose, rfl⟩
    · -- Nothing is left to read, so no script can come after this one.
      rw [List.drop_length, run] at hrun
      cases hrun
      obtain ⟨before, rfl⟩ := hrest
      refine .inr ⟨s, hs, source, ⟨before, mark, source, ?_, hmark, rfl⟩, rfl, rfl⟩
      rw [htext, List.append_assoc]

end Scan

theorem scriptsOf_splitSteps {text : Text} {segments : List Segment}
    (h : splitSteps text = .ok segments) : ScriptsOf text (segments.map Segment.scripts) := by
  obtain ⟨s, hrun, -, -, -, rfl⟩ := splitSteps_eq_ok_iff.1 h
  have hscripts {s : Scan} (hs : ∀ script ∈ s.scripts, IsEnclosed text script) :
      ∀ scripts ∈ (s.segments ++ [s.current]).map Segment.scripts, ∀ script ∈ scripts,
        IsEnclosed text script := by
    intro scripts hmem script hscript
    obtain ⟨x, hx, rfl⟩ := List.mem_map.1 hmem
    exact hs script (List.mem_flatMap.2 ⟨x, hx, hscript⟩)
  have hstart : ∀ script ∈ ({} : Scan).scripts, IsEnclosed text script := nofun
  rcases Scan.scripts_of_run List.suffix_rfl hstart hrun with
    hs | ⟨s₁, hs₁, source, hrest, hsegments, hcurrent⟩
  · exact scriptsOf_of_enclosed (hscripts hs)
  · have hearlier := hscripts hs₁
    rw [List.map_append, List.map_singleton, List.forall_mem_append,
      List.forall_mem_singleton] at hearlier
    rw [List.map_append, List.map_singleton, hsegments, hcurrent]
    exact scriptsOf_of_rest hearlier.1 hearlier.2 hrest

end Rule

/-! ### Steps -/

/-- No blanks stand around the selector and the scripts, and a replacement is sound. -/
structure Step.IsSound (s : Step) : Prop where
  selector : trim s.selector = s.selector
  scripts : ∀ x ∈ s.scripts, trim x = x
  replace : ∀ r ∈ s.replace, r.IsSound

namespace Rule

/-- The steps that segments compile to have the scripts of the segments. -/
theorem scripts_of_compileSegments {segments : List Segment} {mode : Mode} {steps : List Step}
    (h : List.Forall₂ (fun x step => compileSegment mode x = .ok step) segments steps) :
    steps.map Step.scripts = segments.map Segment.scripts := by
  induction h with
  | nil => rfl
  | cons hstep _ ih =>
    obtain ⟨replace, rfl, -⟩ := exists_of_compileSegment hstep
    exact congrArg (_ :: ·) ih

/-- A rule compiles to steps of segments, with the scripts of its text. -/
theorem scriptsOf_compile {raw : Text} {mode : Mode} {r : Rule} (h : compile raw mode = .ok r) :
    r.steps ≠ [] ∧ (∀ step ∈ r.steps, ∃ x, compileSegment mode x = .ok step) ∧
      ScriptsOf (trim raw) (r.steps.map Step.scripts) := by
  by_cases hraw : trim raw = []
  · -- A blank rule stands for the whole value, as a segment that writes nothing would.
    rw [compile, hraw] at h
    cases h
    exact ⟨List.cons_ne_nil _ _, List.forall_mem_singleton.2 ⟨{}, rfl⟩,
      scriptsOf_of_enclosed (by simp [wholeValue])⟩
  · obtain ⟨segments, hsegments, hsteps⟩ := (compile_eq_ok_iff hraw).1 h
    have hforms := mapM_eq_ok_iff.1 hsteps
    refine ⟨?_, fun step hstep => ?_, ?_⟩
    · rintro hnil
      rw [hnil, List.forall₂_nil_right_iff] at hforms
      obtain ⟨s, -, -, -, -, hs⟩ := splitSteps_eq_ok_iff.1 hsegments
      simp [hforms] at hs
    · obtain ⟨x, -, hx⟩ := exists_of_mem_forall₂ hforms step hstep
      exact ⟨x, hx⟩
    · rw [scripts_of_compileSegments hforms]
      exact scriptsOf_splitSteps hsegments

theorem isSound_of_compileSegment {x : Segment} {mode : Mode} {step : Step}
    (h : compileSegment mode x = .ok step) (hscripts : ∀ t ∈ step.scripts, trim t = t) :
    step.IsSound := by
  obtain ⟨replace, rfl, hreplace⟩ := exists_of_compileSegment h
  refine ⟨trim_trim _, hscripts, fun r hr => ?_⟩
  obtain ⟨text, -, hread⟩ := hreplace r hr
  exact isSound_of_readReplacement hread

/-- A rule that compiles has a step. Its steps are sound, and its scripts stand in its text: none of
them holds the closing mark, unless it takes the rest and is the last one of the last step. -/
theorem compile_sound {raw : Text} {mode : Mode} {r : Rule} (h : compile raw mode = .ok r) :
    r.steps ≠ [] ∧ (∀ step ∈ r.steps, step.IsSound) ∧
      ∀ before step after, r.steps = before ++ step :: after →
        ∀ earlier script later, step.scripts = earlier ++ script :: later →
          (IsEnclosed (trim raw) script ∧ ¬ scriptClose <:+: script) ∨
            (after = [] ∧ later = [] ∧ TakesRest (trim raw) script) := by
  obtain ⟨hne, hsteps, hscripts⟩ := scriptsOf_compile h
  refine ⟨hne, fun step hstep => ?_, fun before step after hplace earlier script later hx => ?_⟩
  · obtain ⟨x, hx⟩ := hsteps step hstep
    exact isSound_of_compileSegment hx (hscripts.trim_eq _ (List.mem_map_of_mem hstep))
  · rw [hplace, List.map_append, List.map_cons] at hscripts
    rcases hscripts _ _ _ rfl _ _ _ hx with henclosed | ⟨hafter, hlater, hrest⟩
    · exact .inl ⟨henclosed, henclosed.not_scriptClose⟩
    · exact .inr ⟨List.map_eq_nil_iff.1 hafter, hlater, hrest⟩

/-- A script in the text after a fence, with a replacement that names a group, and a script that
takes the rest and holds a closing mark. -/
theorem compile_sound_rest :
    let raw := " p ## (b) <js> x </js>## $1 ##1 -> a@JS: y</js> ".toList
    ∃ r, compile raw .css = .ok r ∧
      r.steps.map Step.scripts = [[['x']], ["y</js>".toList]] ∧
      r.steps.map (fun step => step.replace.bind (·.group)) = [some 1, none] ∧
      (∀ step ∈ r.steps, step.IsSound) ∧ TakesRest (trim raw) "y</js>".toList := by
  intro raw
  have hvalue : (compile raw .css).toOption.map (fun r => (r.steps.map Step.scripts,
      r.steps.map fun step => step.replace.bind (·.group))) =
        some ([[['x']], ["y</js>".toList]], [some 1, none]) := by decide +kernel
  obtain ⟨r, hr, hvalue⟩ := exists_of_map_toOption hvalue
  obtain ⟨hscripts, hgroups⟩ := Prod.mk.inj hvalue
  obtain ⟨-, hsound, hplaces⟩ := compile_sound hr
  refine ⟨r, hr, hscripts, hgroups, hsound, ?_⟩
  obtain ⟨first, later, hsteps, -, hlater⟩ := List.map_eq_cons_iff.1 hscripts
  obtain ⟨last, rfl, hlast⟩ := List.map_eq_singleton_iff.1 hlater
  rcases hplaces [first] last [] hsteps [] _ [] hlast with ⟨-, hclose⟩ | ⟨-, -, hrest⟩
  · exact (hclose (by decide)).elim
  · exact hrest

end Rule

end Extraction
