import Extraction.Rule.Cache
import Mathlib.Data.Finset.Card
import Mathlib.Data.Finset.Dedup

/-!
# What a cache keeps is told by its history

A cache is asked for rules of three kinds and cleared now and then. What it keeps is what it has
answered since it was cleared last: such a rule is answered again as it was, mark and all, and
nothing is compiled for it; everything else is compiled once, and kept if compiling succeeds. A
cache that is not enabled compiles always and keeps nothing.

## Main definitions

* `RuleCache.Key`: a kind, and a text with a dialect or a flag
* `RuleCache.ask`, `RuleCache.kept?`: the three kinds at once
* `RuleCache.Course`: a cache together with what has happened to it
* `RuleCache.Course.Compiles`: how a call is answered for which nothing is kept
-/

namespace Extraction.RuleCache

/-! ### The three kinds at once -/

/-- What a rule is kept under: its kind, and its text with the dialect or the flag. -/
inductive Key where
  | rule (text : Text) (mode : Mode)
  | step (text : Text) (mode : Mode)
  | variableMap (text : Text) (flag : VariableFlag)
  deriving DecidableEq

/-- What is compiled for a key. -/
abbrev Key.Compiled : Key → Type
  | rule _ _ => Rule
  | step _ _ => Step
  | variableMap _ _ => VariableMap

/-- What is kept under a key. -/
def kept? (c : RuleCache) : (k : Key) → Option (Shared k.Compiled)
  | .rule text mode => c.rules.lookup (text, mode)
  | .step text mode => c.steps.lookup (text, mode)
  | .variableMap text flag => c.maps.lookup (text, flag)

/-- The keys under which something is kept. -/
def keys (c : RuleCache) : List Key :=
  c.rules.map (fun entry => .rule entry.1.1 entry.1.2) ++
    (c.steps.map (fun entry => .step entry.1.1 entry.1.2) ++
      c.maps.map fun entry => .variableMap entry.1.1 entry.1.2)

section Ask

variable {σ : Type}

/-- What is kept under a key, or else what is compiled for it now. -/
def ask (c : RuleCache) (k : Key) (compile : σ → Except RuleError k.Compiled × σ) (state : σ) :
    Except RuleError (Shared k.Compiled) × σ × RuleCache :=
  match k, compile with
  | .rule text mode, compile => c.rule text mode compile state
  | .step text mode, compile => c.step text mode compile state
  | .variableMap text flag, compile => c.variableMap text flag compile state

/-- The cache with a rule kept under a key, if it is enabled. The mark of the rule is taken. -/
def keep (c : RuleCache) (k : Key) (shared : Shared k.Compiled) : RuleCache :=
  match k, shared with
  | .rule text mode, shared =>
    let rules := if c.isEnabled then ((text, mode), shared) :: c.rules else c.rules
    { c with next := c.next + 1, rules }
  | .step text mode, shared =>
    let steps := if c.isEnabled then ((text, mode), shared) :: c.steps else c.steps
    { c with next := c.next + 1, steps }
  | .variableMap text flag, shared =>
    let maps := if c.isEnabled then ((text, flag), shared) :: c.maps else c.maps
    { c with next := c.next + 1, maps }

variable {c : RuleCache} {k : Key} {compile : σ → Except RuleError k.Compiled × σ}
  {state after : σ}

/-- The three kinds are asked in one way, each in its own slot. -/
theorem ask_eq : c.ask k compile state =
    match if c.isEnabled then c.kept? k else none with
    | some shared => (.ok shared, state, c)
    | none =>
      match compile state with
      | (.error e, after) => (.error e, after, c)
      | (.ok value, after) => (.ok ⟨c.next, value⟩, after, c.keep k ⟨c.next, value⟩) := by
  cases k with
  | rule text mode =>
    simp only [ask, rule, fetch, kept?]
    cases if c.isEnabled then c.rules.lookup (text, mode) else none with
    | some shared => rfl
    | none => rcases compile state with ⟨_ | value, after⟩ <;> rfl
  | step text mode =>
    simp only [ask, step, fetch, kept?]
    cases if c.isEnabled then c.steps.lookup (text, mode) else none with
    | some shared => rfl
    | none => rcases compile state with ⟨_ | value, after⟩ <;> rfl
  | variableMap text flag =>
    simp only [ask, variableMap, fetch, kept?]
    cases if c.isEnabled then c.maps.lookup (text, flag) else none with
    | some shared => rfl
    | none => rcases compile state with ⟨_ | value, after⟩ <;> rfl

/-- What is kept is answered, and nothing is compiled. -/
theorem ask_of_kept {shared : Shared k.Compiled} (henabled : c.isEnabled = true)
    (hkept : c.kept? k = some shared) : c.ask k compile state = (.ok shared, state, c) := by
  rw [ask_eq, if_pos henabled, hkept]

/-- If nothing is kept, the answer is what is compiled now. -/
theorem ask_of_not_kept (hkept : c.isEnabled = true → c.kept? k = none) :
    c.ask k compile state =
      match compile state with
      | (.error e, after) => (.error e, after, c)
      | (.ok value, after) => (.ok ⟨c.next, value⟩, after, c.keep k ⟨c.next, value⟩) := by
  have hnone : (if c.isEnabled then c.kept? k else none) = none := by
    by_cases henabled : c.isEnabled = true
    · rw [if_pos henabled, hkept henabled]
    · exact if_neg henabled
  rw [ask_eq, hnone]

end Ask

section Keep

variable {c : RuleCache} {k : Key} {shared : Shared k.Compiled}

@[simp] theorem isEnabled_keep : (c.keep k shared).isEnabled = c.isEnabled := by
  cases k <;> rfl

@[simp] theorem next_keep : (c.keep k shared).next = c.next + 1 := by
  cases k <;> rfl

theorem kept?_keep_of_disabled (h : c.isEnabled = false) (k' : Key) :
    (c.keep k shared).kept? k' = c.kept? k' := by
  cases k <;> cases k' <;> simp [keep, kept?, h]

theorem kept?_keep (h : c.isEnabled = true) : (c.keep k shared).kept? k = some shared := by
  cases k <;> simp [keep, kept?, h]

/-- What is kept under one key is not found under another, be it of another kind or not. -/
theorem kept?_keep_of_ne {k' : Key} (hne : k' ≠ k) :
    (c.keep k shared).kept? k' = c.kept? k' := by
  by_cases h : c.isEnabled = true
  · cases k <;> cases k'
    -- two keys of one kind are looked up in one slot, where they have to be told apart
    case rule.rule | step.step | variableMap.variableMap =>
      simp only [keep, kept?, h, if_true]
      rw [List.lookup_cons, beq_eq_false_iff_ne.mpr (by simpa using hne)]
    all_goals rfl
  · exact kept?_keep_of_disabled (by simpa using h) k'

theorem keys_keep_of_disabled (h : c.isEnabled = false) : (c.keep k shared).keys = c.keys := by
  cases k <;> simp [keep, keys, h]

theorem keys_keep_perm (h : c.isEnabled = true) :
    (c.keep k shared).keys.Perm (k :: c.keys) := by
  cases k with
  | rule text mode => simp [keep, keys, h]
  | step text mode => simp [keep, keys, h]
  | variableMap text flag =>
    simp only [keep, keys, h, if_true, List.map_cons, ← List.append_assoc]
    exact List.perm_middle

/-- Under just these keys something is kept. -/
theorem mem_keys_iff : k ∈ c.keys ↔ (c.kept? k).isSome := by
  cases k <;> simp [keys, kept?, List.lookup_isSome_iff]

theorem size_eq_length_keys (c : RuleCache) : c.size = c.keys.length := by
  simp [size, keys, Nat.add_assoc]

@[simp] theorem isEnabled_ask {σ : Type} {compile : σ → Except RuleError k.Compiled × σ}
    {state : σ} : (c.ask k compile state).2.2.isEnabled = c.isEnabled := by
  rw [ask_eq]
  cases if c.isEnabled then c.kept? k else none with
  | some shared => rfl
  | none =>
    rcases compile state with ⟨_ | value, after⟩
    · rfl
    · exact isEnabled_keep

end Keep

/-! ### A cache and what has happened to it -/

/-- What can happen to a cache. -/
inductive Event where
  | answered (k : Key) (shared : Shared k.Compiled)
  | failed (k : Key) (e : RuleError)
  | cleared

namespace Event

def isCleared : Event → Bool
  | cleared => true
  | _ => false

/-- What a call for `k` comes to. -/
def ofOutcome (k : Key) : Except RuleError (Shared k.Compiled) → Event
  | .ok shared => answered k shared
  | .error e => failed k e

/-- The key of a call that has succeeded. -/
def answeredKey? : Event → Option Key
  | answered k _ => some k
  | _ => none

end Event

/-- What can be done with a cache. -/
inductive Call (σ : Type) where
  | ask (k : Key) (compile : σ → Except RuleError k.Compiled × σ)
  | clear

/-- A cache, the state its compilers act on, and what has happened so far, the latest first. -/
structure Course (σ : Type) where
  cache : RuleCache
  state : σ
  events : List Event

namespace Course

variable {σ : Type} {t : Course σ} {k : Key}

def start (isEnabled : Bool) (state : σ) : Course σ := ⟨empty isEnabled, state, []⟩

def call (t : Course σ) : Call σ → Course σ
  | .ask k compile =>
    let (found, state, cache) := t.cache.ask k compile t.state
    ⟨cache, state, .ofOutcome k found :: t.events⟩
  | .clear => ⟨t.cache.clear, t.state, .cleared :: t.events⟩

def run (t : Course σ) (calls : List (Call σ)) : Course σ := calls.foldl call t

/-- What has happened since the cache was cleared last. -/
def sinceClear (t : Course σ) : List Event := t.events.takeWhile (!·.isCleared)

/-- A call for `k` has been answered by `shared` since the cache was cleared last. -/
def HasAnswered (t : Course σ) (k : Key) (shared : Shared k.Compiled) : Prop :=
  .answered k shared ∈ t.sinceClear

/-- The keys of the calls that have succeeded since the cache was cleared last. -/
def succeeded (t : Course σ) : List Key := t.sinceClear.filterMap Event.answeredKey?

/-- A call for `k` runs `compile` once and answers what that gives. If it fails, the cache stays as
it is. If it succeeds, the answer has a mark that no answer had before, and it is kept under `k` if
the cache is enabled; what is kept under other keys stays as it is. -/
def Compiles (t : Course σ) (k : Key) (compile : σ → Except RuleError k.Compiled × σ) : Prop :=
  match compile t.state with
  | (.error e, after) => t.cache.ask k compile t.state = (.error e, after, t.cache)
  | (.ok value, after) =>
    ∃ shared cache, t.cache.ask k compile t.state = (.ok shared, after, cache) ∧
      shared.value = value ∧
      (∀ k' shared', .answered k' shared' ∈ t.events → shared'.mark ≠ shared.mark) ∧
      (t.cache.isEnabled = true → cache.kept? k = some shared) ∧
      ∀ k', (t.cache.isEnabled = true → k' ≠ k) → cache.kept? k' = t.cache.kept? k'

theorem mem_succeeded : k ∈ t.succeeded ↔ ∃ shared, t.HasAnswered k shared := by
  simp only [succeeded, HasAnswered, List.mem_filterMap]
  constructor
  · rintro ⟨event, hmem, hkey⟩
    cases event with
    | answered k' shared =>
      obtain rfl : k' = k := by simpa [Event.answeredKey?] using hkey
      exact ⟨shared, hmem⟩
    | failed _ _ | cleared => simp [Event.answeredKey?] at hkey
  · rintro ⟨shared, hmem⟩
    exact ⟨_, hmem, rfl⟩

/-- The cache keeps just what has been answered since it was cleared last, and no mark that has been
given out is given out again. -/
structure Told (t : Course σ) : Prop where
  kept?_iff : ∀ k shared, t.cache.kept? k = some shared ↔
    t.cache.isEnabled = true ∧ t.HasAnswered k shared
  nodup_keys : t.cache.keys.Nodup
  mark_lt : ∀ k shared, .answered k shared ∈ t.events → shared.mark < t.cache.next

theorem told_start (isEnabled : Bool) (state : σ) : (start isEnabled state).Told where
  kept?_iff k shared := by cases k <;> simp [start, empty, kept?, HasAnswered, sinceClear]
  nodup_keys := by simp [start, empty, keys]
  mark_lt := by simp [start]

namespace Told

variable (ht : t.Told)
include ht

theorem clear : (t.call .clear).Told where
  kept?_iff k shared := by
    cases k <;> simp [call, RuleCache.clear, kept?, HasAnswered, sinceClear, Event.isCleared]
  nodup_keys := by simp [call, RuleCache.clear, keys]
  mark_lt k shared hmem := ht.mark_lt k shared (by simpa [call] using hmem)

/-- Nothing is kept under a key for which no call has succeeded. -/
theorem kept?_eq_none (hk : t.cache.isEnabled = true → k ∉ t.succeeded)
    (henabled : t.cache.isEnabled = true) : t.cache.kept? k = none := by
  apply Option.eq_none_iff_forall_ne_some.mpr
  intro shared hkept
  exact hk henabled (mem_succeeded.mpr ⟨shared, ((ht.kept?_iff k shared).mp hkept).2⟩)

/-- What is kept is answered again: the cache stays as it is. -/
theorem answered_again {shared : Shared k.Compiled} (hkept : t.cache.kept? k = some shared) :
    Told ⟨t.cache, t.state, .answered k shared :: t.events⟩ where
  kept?_iff k' shared' := by
    have hanswered := ((ht.kept?_iff k shared).mp hkept).2
    rw [ht.kept?_iff k' shared']
    simp only [HasAnswered, sinceClear, Event.isCleared, List.takeWhile_cons, Bool.not_false,
      if_true, List.mem_cons] at hanswered ⊢
    constructor
    · exact fun ⟨henabled, hmem⟩ => ⟨henabled, .inr hmem⟩
    · rintro ⟨henabled, hevent | hmem⟩
      · cases hevent
        exact ⟨henabled, hanswered⟩
      · exact ⟨henabled, hmem⟩
  nodup_keys := ht.nodup_keys
  mark_lt k' shared' hmem := by
    rcases List.mem_cons.mp hmem with hevent | hmem
    · cases hevent
      apply ht.mark_lt k shared
      exact (List.takeWhile_sublist _).mem ((ht.kept?_iff k shared).mp hkept).2
    · exact ht.mark_lt k' shared' hmem

theorem failed (state : σ) (e : RuleError) :
    Told ⟨t.cache, state, .failed k e :: t.events⟩ where
  kept?_iff k' shared' := by
    rw [ht.kept?_iff k' shared']
    simp [HasAnswered, sinceClear, Event.isCleared]
  nodup_keys := ht.nodup_keys
  mark_lt k' shared' hmem := ht.mark_lt k' shared' (by simpa using hmem)

/-- What has been compiled now is kept, under a key that was free. -/
theorem compiled (hk : t.cache.isEnabled = true → t.cache.kept? k = none) (state : σ)
    (value : k.Compiled) :
    Told ⟨t.cache.keep k ⟨t.cache.next, value⟩, state,
      .answered k ⟨t.cache.next, value⟩ :: t.events⟩ where
  kept?_iff k' shared' := by
    have hbefore := ht.kept?_iff k' shared'
    simp only [HasAnswered, sinceClear, Event.isCleared, List.takeWhile_cons, Bool.not_false,
      if_true, List.mem_cons, isEnabled_keep] at hbefore ⊢
    by_cases henabled : t.cache.isEnabled = true
    · by_cases hkey : k' = k
      · subst hkey
        rw [kept?_keep henabled]
        rw [hk henabled] at hbefore
        constructor
        · intro h
          cases h
          exact ⟨henabled, .inl rfl⟩
        · rintro ⟨-, hevent | hmem⟩
          · cases hevent
            rfl
          · exact absurd (hbefore.mpr ⟨henabled, hmem⟩) (by simp)
      · rw [kept?_keep_of_ne hkey, hbefore]
        have hevent : Event.answered k' shared' ≠ .answered k ⟨t.cache.next, value⟩ :=
          fun h => hkey (Event.answered.inj h).1
        simp [hevent]
    · rw [kept?_keep_of_disabled (by simpa using henabled), hbefore]
      simp [henabled]
  nodup_keys := by
    by_cases henabled : t.cache.isEnabled = true
    · rw [(keys_keep_perm henabled).nodup_iff, List.nodup_cons, mem_keys_iff, hk henabled]
      exact ⟨by simp, ht.nodup_keys⟩
    · rw [keys_keep_of_disabled (by simpa using henabled)]
      exact ht.nodup_keys
  mark_lt k' shared' hmem := by
    rw [next_keep]
    rcases List.mem_cons.mp hmem with hevent | hmem
    · cases hevent
      exact Nat.lt_succ_self _
    · exact Nat.lt_succ_of_lt (ht.mark_lt k' shared' hmem)

theorem call (c : Call σ) : (t.call c).Told := by
  cases c with
  | clear => exact ht.clear
  | ask k compile =>
    simp only [Course.call]
    by_cases hk : t.cache.isEnabled = true ∧ ∃ shared, t.cache.kept? k = some shared
    · obtain ⟨henabled, shared, hkept⟩ := hk
      rw [ask_of_kept henabled hkept]
      exact ht.answered_again hkept
    · have hnone (henabled : t.cache.isEnabled = true) : t.cache.kept? k = none := by
        apply Option.eq_none_iff_forall_ne_some.mpr
        intro shared hkept
        exact hk ⟨henabled, shared, hkept⟩
      rw [ask_of_not_kept hnone]
      rcases compile t.state with ⟨e | value, after⟩
      · exact ht.failed after e
      · exact ht.compiled hnone after value

theorem run (calls : List (Call σ)) : (t.run calls).Told := by
  induction calls generalizing t with
  | nil => exact ht
  | cons c calls ih => exact ih (ht.call c)

/-- As many rules are kept as keys have been answered since the cache was cleared last. -/
theorem size_eq :
    t.cache.size = if t.cache.isEnabled then t.succeeded.toFinset.card else 0 := by
  have hmem (k : Key) : k ∈ t.cache.keys ↔ t.cache.isEnabled = true ∧ k ∈ t.succeeded := by
    simp only [mem_keys_iff, mem_succeeded, Option.isSome_iff_exists, ht.kept?_iff k,
      exists_and_left]
  rw [size_eq_length_keys, ← List.toFinset_card_of_nodup ht.nodup_keys]
  by_cases henabled : t.cache.isEnabled = true
  · rw [if_pos henabled]
    congr 1
    ext k
    simp [hmem k, henabled]
  · rw [if_neg henabled, Finset.card_eq_zero, List.toFinset_eq_empty_iff]
    apply List.eq_nil_iff_forall_not_mem.mpr
    intro k hkey
    exact henabled ((hmem k).mp hkey).1

theorem compiles (hk : t.cache.isEnabled = true → k ∉ t.succeeded)
    (compile : σ → Except RuleError k.Compiled × σ) : t.Compiles k compile := by
  have hask : t.cache.ask k compile t.state = _ := ask_of_not_kept (ht.kept?_eq_none hk)
  simp only [Compiles]
  rcases hcompile : compile t.state with ⟨e | value, after⟩
  · rw [hask, hcompile]
  · refine ⟨⟨t.cache.next, value⟩, _, by rw [hask, hcompile], rfl, ?_, kept?_keep, ?_⟩
    · intro k' shared' hmem
      exact Nat.ne_of_lt (ht.mark_lt k' shared' hmem)
    · intro k' hne
      by_cases henabled : t.cache.isEnabled = true
      · exact kept?_keep_of_ne (hne henabled)
      · exact kept?_keep_of_disabled (by simpa using henabled) k'

end Told

@[simp] theorem isEnabled_call (t : Course σ) (c : Call σ) :
    (t.call c).cache.isEnabled = t.cache.isEnabled := by
  cases c with
  | clear => rfl
  | ask k compile => exact isEnabled_ask

@[simp] theorem isEnabled_run (t : Course σ) (calls : List (Call σ)) :
    (t.run calls).cache.isEnabled = t.cache.isEnabled := by
  induction calls generalizing t with
  | nil => rfl
  | cons c calls ih => exact (ih _).trans (isEnabled_call t c)

/-- Whatever has been asked for and however often the cache has been cleared: an enabled cache keeps
just the answers given since then, one for each key. A call for a key that has been answered since
then gets that answer, mark and all, and compiles nothing; every other call compiles once. A cache
that is not enabled compiles at every call and keeps nothing. -/
theorem run_keeps_answers (isEnabled : Bool) (state : σ) (calls : List (Call σ)) :
    let t := (start isEnabled state).run calls
    (∀ k shared, t.cache.kept? k = some shared ↔ isEnabled = true ∧ t.HasAnswered k shared) ∧
      t.cache.size = (if isEnabled then t.succeeded.toFinset.card else 0) ∧
      ∀ k compile,
        (isEnabled = true → ∀ shared, t.HasAnswered k shared →
          t.cache.ask k compile t.state = (.ok shared, t.state, t.cache)) ∧
        ((isEnabled = true → k ∉ t.succeeded) → t.Compiles k compile) := by
  intro t
  have ht : t.Told := (told_start isEnabled state).run calls
  have henabled : t.cache.isEnabled = isEnabled := isEnabled_run _ calls
  rw [← henabled]
  refine ⟨ht.kept?_iff, ht.size_eq, fun k compile => ⟨?_, fun hk => ht.compiles hk compile⟩⟩
  intro henabled shared hanswered
  exact ask_of_kept henabled ((ht.kept?_iff k shared).mpr ⟨henabled, hanswered⟩)

/-- A rule and a step with one text are kept apart; a variable map that cannot be compiled is not
kept, and the mark from before the cache was cleared is not given out again. -/
theorem run_keeps_answers_oneText :
    let compileRule (n : Nat) : Except RuleError Rule × Nat := (.ok ⟨[]⟩, n + 1)
    let compileStep (n : Nat) : Except RuleError Step × Nat := (.ok ⟨['a'], .css, [], none⟩, n + 1)
    let compileMap (n : Nat) : Except RuleError VariableMap × Nat := (.error .missingBaseUrl, n + 1)
    let t := (start true 0).run [.ask (.rule ['a'] .css) compileRule, .clear,
      .ask (.rule ['a'] .css) compileRule, .ask (.step ['a'] .css) compileStep,
      .ask (.variableMap ['a'] .url) compileMap]
    (t.HasAnswered (.rule ['a'] .css) ⟨1, ⟨[]⟩⟩ ∧
        t.cache.ask (.rule ['a'] .css) compileRule t.state = (.ok ⟨1, ⟨[]⟩⟩, t.state, t.cache)) ∧
      (.variableMap ['a'] .url ∉ t.succeeded ∧ t.Compiles (.variableMap ['a'] .url) compileMap) ∧
      t.state = 4 ∧ t.cache.size = 2 := by
  intro compileRule compileStep compileMap t
  obtain ⟨-, hsize, hask⟩ := run_keeps_answers true 0 [.ask (.rule ['a'] .css) compileRule, .clear,
    .ask (.rule ['a'] .css) compileRule, .ask (.step ['a'] .css) compileStep,
    .ask (.variableMap ['a'] .url) compileMap]
  have hanswered : t.HasAnswered (.rule ['a'] .css) ⟨1, ⟨[]⟩⟩ :=
    .tail _ (.tail _ (.head _))
  have hfree : .variableMap ['a'] .url ∉ t.succeeded := by
    show _ ∉ [Key.step ['a'] .css, Key.rule ['a'] .css]
    decide
  exact ⟨⟨hanswered, (hask (.rule ['a'] .css) compileRule).1 rfl _ hanswered⟩,
    ⟨hfree, (hask (.variableMap ['a'] .url) compileMap).2 fun _ => hfree⟩, rfl,
    hsize.trans (by decide)⟩

end Course

end Extraction.RuleCache
