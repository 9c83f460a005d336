import Extraction.Proofs.Outcomes
import Extraction.Proofs.PairScan

/-!
# What variable maps hold

The entries of a variable map have distinct names, and each of them is found by its name. They stand
in the text of the map one after the other, in their order, each with its separator between its name
and its rule, whatever is passed over between them.

## Main definitions

* `VariableMap.IsEntry`: what is known of a name and its rule
* `VariableMap.Writes`: the stretch of a text that writes an entry
* `VariableMap.Holds`: entries that stretches of a text write, one after the other
-/

namespace Extraction.VariableMap

open Text

/-- A name without blanks and separators, with a rule that has no blanks around it. -/
structure IsEntry (entry : Text × Text) : Prop where
  name_ne_nil : entry.1 ≠ []
  name_blank : ∀ c ∈ entry.1, isBlank c = false
  name_separator : ¬ nameSeparator <:+: entry.1
  rule : Trimmed entry.2

/-- The text is the name, the separator and the rule of an entry; blanks may stand around the
separator. -/
def Writes (stretch : Text) (entry : Text × Text) : Prop :=
  ∃ before after, AllBlank before ∧ AllBlank after ∧
    stretch = entry.1 ++ before ++ nameSeparator ++ after ++ entry.2

/-- Stretches of the text, each after the one before it, write the entries. -/
inductive Holds : Text → List (Text × Text) → Prop
  | nil (t : Text) : Holds t []
  | cons (skipped : Text) {stretch t : Text} {entry : Text × Text} {entries : List (Text × Text)} :
      Writes stretch entry → Holds t entries → Holds (skipped ++ stretch ++ t) (entry :: entries)

theorem Holds.of_append {t : Text} {entries : List (Text × Text)} (h : Holds t entries)
    (u : Text) : Holds (u ++ t) entries := by
  cases h with
  | nil t => exact .nil _
  | cons skipped hstretch h =>
    rw [← List.append_assoc, ← List.append_assoc]
    exact .cons (u ++ skipped) hstretch h

/-! ### Pairs -/

section Pair

variable {part : Text} {entry : Text × Text}

/-- A pair is cut at its first separator, and blanks are cut off on both sides of it. -/
theorem exists_of_readPair (h : readPair part = .ok entry) :
    ∃ before after, splitOnce? nameSeparator part = some (before, after) ∧
      entry = (trim before, trim after) ∧ trim before ≠ [] ∧
      ∀ c ∈ trim before, isBlank c = false := by
  unfold readPair at h
  split at h
  · cases h
  · next before after hcut =>
    dsimp only at h
    split at h
    · cases h
    · next hname =>
      rw [Bool.or_eq_true, not_or, List.isEmpty_iff, List.any_eq_true] at hname
      refine ⟨before, after, hcut, (Except.ok.inj h).symm, hname.1, fun c hc => ?_⟩
      rw [← Bool.not_eq_true]
      exact fun hblank => hname.2 ⟨c, hc, hblank⟩

theorem isEntry_of_readPair (h : readPair part = .ok entry) (hrule : entry.2 ≠ []) :
    IsEntry entry := by
  obtain ⟨before, after, hcut, rfl, hne, hblank⟩ := exists_of_readPair h
  have hseparator : ¬ nameSeparator <:+: before :=
    not_infix_of_splitOnce? (List.cons_ne_nil _ _) hcut
  have htrim : trim before <:+: before := trim_infix before
  exact ⟨hne, hblank, fun hin => hseparator (hin.trans htrim), hrule, trim_trim after⟩

/-- A stretch of the pair writes what is read from it. -/
theorem exists_writes_of_readPair (h : readPair (trim part) = .ok entry) :
    ∃ front stretch back, part = front ++ stretch ++ back ∧ Writes stretch entry := by
  obtain ⟨before, after, hcut, rfl, -, -⟩ := exists_of_readPair h
  -- Blanks are cut off around the pair, and then on both sides of its separator.
  obtain ⟨p₁, p₂, -, -, hpart⟩ := exists_blanks_around part
  obtain ⟨b₁, b₂, -, hb₂, hbefore⟩ := exists_blanks_around before
  obtain ⟨a₁, a₂, ha₁, -, hafter⟩ := exists_blanks_around after
  refine ⟨p₁ ++ b₁, trim before ++ b₂ ++ nameSeparator ++ a₁ ++ trim after, a₂ ++ p₂, ?_,
    b₂, a₁, hb₂, ha₁, rfl⟩
  calc part = p₁ ++ (before ++ (nameSeparator ++ after) ++ p₂) := by
        rw [← eq_of_splitOnce? hcut, ← hpart]
    _ = p₁ ++ ((b₁ ++ (trim before ++ b₂)) ++ (nameSeparator ++ (a₁ ++ (trim after ++ a₂))) ++
          p₂) := by rw [← hbefore, ← hafter]
    _ = _ := by simp only [List.append_assoc]

end Pair

/-! ### Lists of pairs -/

theorem isEntry_of_readPairs {seen parts : List Text} {entries : List (Text × Text)}
    (h : readPairs seen parts = .ok entries) : ∀ entry ∈ entries, IsEntry entry := by
  induction parts generalizing seen entries with
  | nil =>
    cases h
    exact nofun
  | cons part rest ih =>
    rcases readPairs_cons_cases h with
      h | ⟨entry, others, hentry, -, hothers, ⟨-, rfl⟩ | ⟨hrule, rfl⟩⟩
    · exact ih h
    · exact ih hothers
    · exact List.forall_mem_cons.2 ⟨isEntry_of_readPair hentry hrule, ih hothers⟩

/-- A pair comes before what the pairs after it are read from. -/
theorem holds_of_readPairs_cons {seen rest : List Text} {part t : Text}
    {entries : List (Text × Text)} (h : readPairs seen (part :: rest) = .ok entries)
    (hrest : ∀ seen others, readPairs seen rest = .ok others → Holds t others) :
    Holds (part ++ t) entries := by
  rcases readPairs_cons_cases h with
    h | ⟨entry, others, hentry, -, hothers, ⟨-, rfl⟩ | ⟨-, rfl⟩⟩
  · exact (hrest _ _ h).of_append part
  · exact (hrest _ _ hothers).of_append part
  · obtain ⟨front, stretch, back, rfl, hwrites⟩ := exists_writes_of_readPair hentry
    rw [List.append_assoc]
    exact .cons front hwrites ((hrest _ _ hothers).of_append back)

/-- The entries stand in the text whose pairs are read. -/
theorem holds_of_readPairs {seen parts : List Text} {last : Text} {entries : List (Text × Text)}
    (h : readPairs seen (parts ++ [last]) = .ok entries) :
    Holds (parts.flatMap (· ++ pairSeparator) ++ last) entries := by
  induction parts generalizing seen entries with
  | nil =>
    -- No separator stands after the last pair.
    rw [List.flatMap_nil, List.nil_append, ← List.append_nil last]
    refine holds_of_readPairs_cons h fun seen others hothers => ?_
    cases hothers
    exact .nil []
  | cons part parts ih =>
    rw [List.flatMap_cons, List.append_assoc, List.append_assoc]
    exact holds_of_readPairs_cons h fun seen others hothers => (ih hothers).of_append pairSeparator

/-! ### Looking up -/

theorem lookup_eq_some_iff {entries : List (Text × Text)} (hnames : (entries.map Prod.fst).Nodup)
    {name rule : Text} : entries.lookup name = some rule ↔ (name, rule) ∈ entries := by
  induction entries with
  | nil => simp
  | cons entry entries ih =>
    obtain ⟨key, value⟩ := entry
    obtain ⟨hnew, hnames⟩ := List.nodup_cons.1 hnames
    rw [List.lookup_cons, List.mem_cons]
    by_cases hname : name = key
    · subst hname
      have hnot : (name, rule) ∉ entries := fun hmem => hnew (List.mem_map.2 ⟨_, hmem, rfl⟩)
      simp [hnot, eq_comm]
    · simp [beq_eq_false_iff_ne.2 hname, hname, ih hnames]

theorem get?_eq_none {map : VariableMap} {name : Text} (h : name ∉ map.entries.map Prod.fst) :
    map.get? name = none := by
  rw [get?, List.lookup_eq_none_iff]
  intro entry hentry
  rw [bne_iff_ne]
  rintro rfl
  exact h (List.mem_map_of_mem hentry)

/-! ### Whole maps -/

/-- The entries of a compiled variable map are read from pairs that its text is cut into. -/
theorem exists_pairs_of_compile {raw : Text} {flag : VariableFlag} {map : VariableMap}
    (h : compile raw flag = .ok map) : ∃ parts last,
      readPairs [] (parts ++ [last]) = .ok map.entries ∧
      parts.flatMap (· ++ pairSeparator) ++ last = raw := by
  cases hraw : isBlankText raw with
  | true =>
    cases (compile_of_blank hraw flag).symm.trans h
    exact ⟨[], raw, readPairs_of_blank (trim_eq_nil_iff.2 (isBlankText_iff.1 hraw)) [] [], rfl⟩
  | false =>
    obtain ⟨f, hrun, hentries, -⟩ := (compile_eq_ok_iff hraw).1 h
    exact ⟨f.parts, f.current, hentries, Scan.text_of_run hrun⟩

/-- The entries of a compiled variable map have names of their own, by which they are found, and
stand in its text in their order. -/
theorem entries_of_compile {raw : Text} {flag : VariableFlag} {map : VariableMap}
    (h : compile raw flag = .ok map) :
    (map.entries.map Prod.fst).Nodup ∧ (∀ entry ∈ map.entries, IsEntry entry) ∧
      (∀ name rule, map.get? name = some rule ↔ (name, rule) ∈ map.entries) ∧
      (∀ name, name ∉ map.entries.map Prod.fst → map.get? name = none) ∧
      Holds raw map.entries := by
  have hnames := names_nodup_of_compile h
  obtain ⟨parts, last, hentries, hraw⟩ := exists_pairs_of_compile h
  refine ⟨hnames, isEntry_of_readPairs hentries, fun name rule => lookup_eq_some_iff hnames,
    fun name => get?_eq_none, ?_⟩
  rw [← hraw]
  exact holds_of_readPairs hentries

/-- Of three names, one is dropped with its empty rule; separators stand in a quotation and in a
script. -/
theorem entries_of_compile_dropped :
    let raw := " a @@ p[t=\"&&\"] && &&b@@ && c@@<js>1&&2</js>@@".toList
    ∃ map, compile raw .content = .ok map ∧
      map.entries = [(['a'], "p[t=\"&&\"]".toList), (['c'], "<js>1&&2</js>@@".toList)] ∧
      map.get? ['b'] = none ∧ Holds raw map.entries := by
  intro raw
  have hvalue : (compile raw .content).toOption.map (·.entries) =
      some [(['a'], "p[t=\"&&\"]".toList), (['c'], "<js>1&&2</js>@@".toList)] := by decide +kernel
  obtain ⟨map, hmap, hentries⟩ := exists_of_map_toOption hvalue
  obtain ⟨-, -, -, hnone, hholds⟩ := entries_of_compile hmap
  refine ⟨map, hmap, hentries, hnone ['b'] ?_, hholds⟩
  rw [hentries]
  decide

end Extraction.VariableMap
