import Extraction.Rule.VariableMap
import Mathlib.Data.List.Basic

/-!
# The entries of a variable map

Pairs are read one by one, each with the names that were seen before it, so a variable map lists
every name once.
-/

namespace Extraction

namespace VariableMap

/-! ### Pairs that are read -/

theorem readPairs_of_blank {part : Text} (h : Text.trim part = []) (seen rest : List Text) :
    readPairs seen (part :: rest) = readPairs seen rest := by
  rw [readPairs, h]

theorem readPairs_of_pair {part : Text} (h : Text.trim part ≠ []) (seen rest : List Text) :
    readPairs seen (part :: rest) =
      match readPair (Text.trim part) with
      | .error fault => .error fault
      | .ok entry =>
        if seen.contains entry.1 then .error (.variableRepeated entry.1)
        else (readPairs (entry.1 :: seen) rest).map fun others =>
          if entry.2.isEmpty then others else entry :: others := by
  obtain ⟨c, cs, hpair⟩ := List.exists_cons_of_ne_nil h
  rw [readPairs, hpair]
  dsimp only
  cases readPair (c :: cs) with
  | error fault => rfl
  | ok entry =>
    change (if seen.contains entry.1 = true then Except.error (Fault.variableRepeated entry.1)
      else readPairs (entry.1 :: seen) rest >>= fun others =>
        pure (if entry.2.isEmpty = true then others else entry :: others)) = _
    dsimp only
    cases readPairs (entry.1 :: seen) rest <;> rfl

/-- Reading pairs one by one: a blank one is passed over, any other has a new name and gives an
entry, unless its rule is empty. -/
theorem readPairs_cons_cases {seen rest : List Text} {part : Text} {entries : List (Text × Text)}
    (h : readPairs seen (part :: rest) = .ok entries) :
    readPairs seen rest = .ok entries ∨
    ∃ entry others, readPair (Text.trim part) = .ok entry ∧ entry.1 ∉ seen ∧
      readPairs (entry.1 :: seen) rest = .ok others ∧
      (entry.2 = [] ∧ entries = others ∨ entry.2 ≠ [] ∧ entries = entry :: others) := by
  by_cases hpart : Text.trim part = []
  · rw [readPairs_of_blank hpart] at h
    exact .inl h
  · rw [readPairs_of_pair hpart] at h
    split at h
    · cases h
    · next entry hentry =>
      split at h
      · cases h
      · next hseen =>
        cases hothers : readPairs (entry.1 :: seen) rest with
        | error fault => rw [hothers] at h; cases h
        | ok others =>
          rw [hothers] at h
          cases h
          refine .inr ⟨entry, others, hentry, by simpa using hseen, hothers, ?_⟩
          by_cases hrule : entry.2 = []
          · exact .inl ⟨hrule, if_pos (List.isEmpty_iff.2 hrule)⟩
          · exact .inr ⟨hrule, if_neg fun hempty => hrule (List.isEmpty_iff.1 hempty)⟩

/-- The names that are listed are distinct, and none of them was seen before. -/
theorem names_of_readPairs {seen parts : List Text} {entries : List (Text × Text)}
    (h : readPairs seen parts = .ok entries) :
    (entries.map Prod.fst).Nodup ∧ ∀ name ∈ entries.map Prod.fst, name ∉ seen := by
  induction parts generalizing seen entries with
  | nil =>
    cases h
    exact ⟨.nil, fun _ hname => (List.not_mem_nil hname).elim⟩
  | cons part rest ih =>
    rcases readPairs_cons_cases h with h | ⟨entry, others, -, hnew, hothers, hentries⟩
    · exact ih h
    · obtain ⟨hnodup, hnames⟩ := ih hothers
      have hseen : ∀ name ∈ others.map Prod.fst, name ∉ seen := fun name hname hmem =>
        hnames name hname (List.mem_cons_of_mem _ hmem)
      rcases hentries with ⟨-, rfl⟩ | ⟨-, rfl⟩
      · exact ⟨hnodup, hseen⟩
      · exact ⟨List.nodup_cons.2 ⟨fun hmem => hnames _ hmem List.mem_cons_self, hnodup⟩,
          List.forall_mem_cons.2 ⟨hnew, hseen⟩⟩

/-- There are no more entries than pairs. -/
theorem length_of_readPairs {seen parts : List Text} {entries : List (Text × Text)}
    (h : readPairs seen parts = .ok entries) : entries.length ≤ parts.length := by
  induction parts generalizing seen entries with
  | nil =>
    cases h
    exact Nat.le_refl 0
  | cons part rest ih =>
    rcases readPairs_cons_cases h with h | ⟨entry, others, -, -, hothers, ⟨-, rfl⟩ | ⟨-, rfl⟩⟩
    · exact Nat.le_succ_of_le (ih h)
    · exact Nat.le_succ_of_le (ih hothers)
    · exact Nat.succ_le_succ (ih hothers)

/-! ### Whole maps -/

/-- A text that is not blank is scanned, and its pairs are read. -/
theorem compile_eq_ok_iff {raw : Text} (hraw : Text.isBlankText raw = false) {flag : VariableFlag}
    {map : VariableMap} : compile raw flag = .ok map ↔ ∃ f, Scan.run {} raw = .ok f ∧
      readPairs [] (f.parts ++ [f.current]) = .ok map.entries ∧ map.flag = flag := by
  obtain ⟨entries, flag'⟩ := map
  rw [compile, hraw, splitPairs]
  cases hrun : Scan.run {} raw with
  | error fault => simp [bind, Except.bind]
  | ok f =>
    cases hentries : readPairs [] (f.parts ++ [f.current]) with
    | error fault => simp [bind, Except.bind, pure, Except.pure, hentries]
    | ok entries' =>
      simp [bind, Except.bind, pure, Except.pure, hentries, eq_comm]

theorem compile_of_blank {raw : Text} (hraw : Text.isBlankText raw = true) (flag : VariableFlag) :
    compile raw flag = .ok ⟨[], flag⟩ := by
  rw [compile, if_pos hraw]

/-- A compiled variable map lists every name once. -/
theorem names_nodup_of_compile {raw : Text} {flag : VariableFlag} {map : VariableMap}
    (h : compile raw flag = .ok map) : (map.entries.map Prod.fst).Nodup := by
  cases hraw : Text.isBlankText raw with
  | true =>
    cases (compile_of_blank hraw flag).symm.trans h
    exact .nil
  | false =>
    obtain ⟨f, -, hentries, -⟩ := (compile_eq_ok_iff hraw).1 h
    exact (names_of_readPairs hentries).1

theorem flag_of_compile {raw : Text} {flag : VariableFlag} {map : VariableMap}
    (h : compile raw flag = .ok map) : map.flag = flag := by
  cases hraw : Text.isBlankText raw with
  | true =>
    cases (compile_of_blank hraw flag).symm.trans h
    rfl
  | false =>
    obtain ⟨f, -, -, hflag⟩ := (compile_eq_ok_iff hraw).1 h
    exact hflag

end VariableMap

end Extraction
