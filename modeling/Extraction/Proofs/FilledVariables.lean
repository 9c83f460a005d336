import Extraction.Proofs.ScriptWrites
import Extraction.Proofs.VariablePairs
import Mathlib.Data.List.Nodup

/-!
# Variables are filled all or not at all

The rules of a variable map are read one after the other, and what they find is written after the
last of them. Without scripts the variables stand still meanwhile, so that every rule is read
against the variables as they were; with scripts, reading leaves what the scripts have written and
nothing of what was found.

## Main definitions

* `Extractor.finds`: what a rule finds in a session
* `Extractor.afterReading`: the session after rules have been read
* `Extractor.Filled`: the variables that the entries of a map fill
* `Extractor.ListsNoScript`: the maps without scripts
* `Extractor.StopsWith`: the error that filling variables ends with, and the variables it leaves
* `Extractor.AllOrNothing`: the variables are filled, or all of them stay as they were
-/

namespace Extraction

open Relation (ReflTransGen)

namespace Extractor

variable (x : Extractor) (doc : Document) (flag : VariableFlag)

/-- What the rule of a variable finds in a session. -/
def finds (s : Session) (rule : Text) : Except RuleError Text :=
  ((x.value doc flag rule).run s).1

/-- The text that a rule finds in a session; empty if reading it fails. -/
def textFound (s : Session) (rule : Text) : Text := (x.finds doc flag s rule).toOption.getD []

/-- The session after rules have been read, one after the other. -/
def afterReading (s : Session) (rules : List Text) : Session :=
  rules.foldl (fun s rule => ((x.value doc flag rule).run s).2) s

/-- Each listed name has what its rule finds in the session, or its old text where that is nothing;
every other name has its old text. -/
structure Filled (map : VariableMap) (s : Session) (vars : Variables) : Prop where
  listed : ∀ entry ∈ map.entries, ∃ value, x.finds doc flag s entry.2 = .ok value ∧
    vars.get? entry.1 = if value.isEmpty then s.vars.get? entry.1 else some value
  others : ∀ name, name ∉ map.entries.map Prod.fst → vars.get? name = s.vars.get? name

/-- None of the rules that a variable map lists runs a script. -/
def ListsNoScript (rule : Text) (s : Session) : Prop :=
  ∀ map, VariableMap.compile rule flag = .ok map →
    ∀ entry ∈ map.entries, x.RunsNoScript doc flag entry.2 s

/-- Filling variables fails since the map is malformed, or since one of its rules fails in the
session that reading the ones before it has left; the variables are those that reading has left. -/
def StopsWith (rule : Text) (s : Session) (e : RuleError) (vars : Variables) : Prop :=
  (VariableMap.compile rule flag = .error e ∧ vars = s.vars) ∨
    ∃ map before entry rest, VariableMap.compile rule flag = .ok map ∧
      map.entries = before ++ entry :: rest ∧
      x.finds doc flag (x.afterReading doc flag s (before.map Prod.snd)) entry.2 = .error e ∧
      vars = (x.afterReading doc flag s ((before ++ [entry]).map Prod.snd)).vars

/-- Either the variables of a map are filled, or no variable changes, since the map is malformed or
a rule fails in the session as it was. -/
def AllOrNothing (rule : Text) (s : Session) : Except RuleError Variables × Session → Prop
  | (.ok vars, t) => t.vars = vars ∧
      ∃ map, VariableMap.compile rule flag = .ok map ∧ x.Filled doc flag map s vars
  | (.error e, t) => t.vars = s.vars ∧
      (VariableMap.compile rule flag = .error e ∨
        ∃ map, VariableMap.compile rule flag = .ok map ∧
          ∃ entry ∈ map.entries, x.finds doc flag s entry.2 = .error e)

/-- The names of entries with what their rules find. -/
def namedValues (entries : List (Text × Text)) : Session.Action (List (Text × Text)) :=
  entries.mapM fun (name, rule) => do return (name, ← x.value doc flag rule)

variable {s t : Session} {entries : List (Text × Text)}

/-! ### Sessions that agree -/

/-- Reading goes the same way in sessions that agree, and leaves them agreeing. -/
theorem alike_value (hst : s.Agree t) (rule : Text) :
    Session.Alike Eq ((x.value doc flag rule).run s) ((x.value doc flag rule).run t) :=
  x.corresponds_value x.config.keepsRules doc flag rule s t hst

theorem finds_of_agree (hst : s.Agree t) (rule : Text) :
    x.finds doc flag t rule = x.finds doc flag s rule := by
  have halike := x.alike_value doc flag hst rule
  unfold finds
  generalize (x.value doc flag rule).run s = outcome at halike ⊢
  generalize (x.value doc flag rule).run t = outcome' at halike ⊢
  cases halike with
  | ok h _ => exact congrArg Except.ok h.symm
  | error _ => rfl

theorem agree_value (hst : s.Agree t) (rule : Text) :
    ((x.value doc flag rule).run s).2.Agree ((x.value doc flag rule).run t).2 := by
  have halike := x.alike_value doc flag hst rule
  generalize (x.value doc flag rule).run s = outcome at halike ⊢
  generalize (x.value doc flag rule).run t = outcome' at halike ⊢
  cases halike with
  | ok _ h => exact h
  | error h => exact h

theorem agree_afterReading (hst : s.Agree t) (rules : List Text) :
    (x.afterReading doc flag s rules).Agree (x.afterReading doc flag t rules) := by
  induction rules generalizing s t with
  | nil => exact hst
  | cons rule rules ih => exact ih (x.agree_value doc flag hst rule)

/-- Reading a rule that runs no script leaves a session that agrees with the one before. -/
theorem agree_of_runsNoScript {rule : Text} (h : x.RunsNoScript doc flag rule s)
    (hst : s.Agree t) : s.Agree ((x.value doc flag rule).run t).2 := by
  have hvalue := x.agree_value doc flag hst rule
  exact ⟨hst.left, hvalue.right, (vars_of_runsNoScript h).symm.trans hvalue.vars⟩

/-- Reading rules writes by scripts only. -/
theorem reaches_afterReading (s : Session) (rules : List Text) :
    ReflTransGen x.engine.Writes s.vars (x.afterReading doc flag s rules).vars := by
  induction rules generalizing s with
  | nil => exact .refl
  | cons rule rules ih => exact (x.reaches_value doc flag rule s).trans (ih _)

/-! ### Reading all rules -/

theorem run_namedValues_cons (entry : Text × Text) (entries : List (Text × Text)) (s : Session) :
    (x.namedValues doc flag (entry :: entries)).run s =
      match (x.value doc flag entry.2).run s with
      | (.ok value, t) =>
        (((x.namedValues doc flag entries).run t).1.map ((entry.1, value) :: ·),
          ((x.namedValues doc flag entries).run t).2)
      | (.error e, t) => (.error e, t) := by
  have hcons : x.namedValues doc flag (entry :: entries) = do
      let value ← x.value doc flag entry.2
      let found ← x.namedValues doc flag entries
      return (entry.1, value) :: found := by
    unfold namedValues
    simp only [List.mapM_cons, bind_assoc, pure_bind]
  rw [hcons, run_bind]
  rcases (x.value doc flag entry.2).run s with ⟨e | value, t⟩
  · rfl
  · dsimp only
    rw [run_bind]
    rcases (x.namedValues doc flag entries).run t with ⟨e | found, u⟩ <;> rfl

/-- Reading the entries ends with the first rule that fails, having read it and those before it. -/
theorem run_namedValues_error {e : RuleError}
    (h : ((x.namedValues doc flag entries).run s).1 = .error e) :
    ∃ before entry rest, entries = before ++ entry :: rest ∧
      x.finds doc flag (x.afterReading doc flag s (before.map Prod.snd)) entry.2 = .error e ∧
      ((x.namedValues doc flag entries).run s).2 =
        x.afterReading doc flag s ((before ++ [entry]).map Prod.snd) := by
  induction entries generalizing s with
  | nil => cases h
  | cons entry entries ih =>
    rw [run_namedValues_cons] at h ⊢
    generalize hvalue : (x.value doc flag entry.2).run s = outcome at h ⊢
    obtain ⟨e' | value, t⟩ := outcome
    · cases h
      exact ⟨[], entry, entries, rfl, congrArg Prod.fst hvalue, (congrArg Prod.snd hvalue).symm⟩
    · have hrest : ((x.namedValues doc flag entries).run t).1 = .error e := by
        dsimp only at h
        generalize ((x.namedValues doc flag entries).run t).1 = answer at h ⊢
        cases answer with
        | error _ => exact h
        | ok _ => cases h
      obtain ⟨before, failing, rest, rfl, hfinds, hsession⟩ := ih hrest
      obtain rfl : ((x.value doc flag entry.2).run s).2 = t := congrArg Prod.snd hvalue
      exact ⟨entry :: before, failing, rest, rfl, hfinds, hsession⟩

/-- Where no script is run, reading the entries gives what each rule finds in the session at the
start, and leaves a session that agrees with it. -/
theorem run_namedValues_of_runsNoScript
    (hentries : ∀ entry ∈ entries, x.RunsNoScript doc flag entry.2 s) (hst : s.Agree t) :
    s.Agree ((x.namedValues doc flag entries).run t).2 ∧
    match ((x.namedValues doc flag entries).run t).1 with
    | .ok found => found = entries.map (fun entry => (entry.1, x.textFound doc flag s entry.2)) ∧
        ∀ entry ∈ entries, x.finds doc flag s entry.2 = .ok (x.textFound doc flag s entry.2)
    | .error e => ∃ entry ∈ entries, x.finds doc flag s entry.2 = .error e := by
  induction entries generalizing t with
  | nil => exact ⟨hst, rfl, fun _ h => (List.not_mem_nil h).elim⟩
  | cons entry entries ih =>
    obtain ⟨hentry, hrest⟩ := List.forall_mem_cons.1 hentries
    have hfinds := x.finds_of_agree doc flag hst entry.2
    have hleft := agree_of_runsNoScript x doc flag hentry hst
    rw [run_namedValues_cons]
    unfold finds at hfinds
    generalize (x.value doc flag entry.2).run t = outcome at hfinds hleft ⊢
    obtain ⟨e | value, u⟩ := outcome
    · exact ⟨hleft, entry, List.mem_cons_self, hfinds.symm⟩
    · obtain ⟨hagree, hfound⟩ := ih hrest hleft
      refine ⟨hagree, ?_⟩
      dsimp only
      generalize ((x.namedValues doc flag entries).run u).1 = answer at hfound ⊢
      cases answer with
      | error e =>
        obtain ⟨failing, hmem, hfails⟩ := hfound
        exact ⟨failing, List.mem_cons_of_mem _ hmem, hfails⟩
      | ok found =>
        obtain ⟨rfl, hall⟩ := hfound
        have htext : x.textFound doc flag s entry.2 = value := by
          rw [textFound, finds, ← hfinds]
          rfl
        refine ⟨by rw [List.map_cons, htext], List.forall_mem_cons.2 ⟨?_, hall⟩⟩
        rw [htext]
        exact hfinds.symm

/-! ### Filling variables -/

/-- Writing what the rules find, where that is something, fills the variables of a map. -/
theorem filled_putAll {map : VariableMap} (hnames : (map.entries.map Prod.fst).Nodup)
    (hall : ∀ entry ∈ map.entries,
      x.finds doc flag s entry.2 = .ok (x.textFound doc flag s entry.2)) :
    x.Filled doc flag map s (s.vars.putAll ((map.entries.map fun entry =>
      (entry.1, x.textFound doc flag s entry.2)).filter (!·.2.isEmpty))) := by
  generalize hfound : (map.entries.map fun entry =>
    (entry.1, x.textFound doc flag s entry.2)) = found
  have hfirst : found.map Prod.fst = map.entries.map Prod.fst := by
    rw [← hfound, List.map_map]
    rfl
  have hsub : ((found.filter (!·.2.isEmpty)).map Prod.fst).Sublist (map.entries.map Prod.fst) :=
    hfirst ▸ List.filter_sublist.map Prod.fst
  constructor
  · intro entry hentry
    have hmem : (entry.1, x.textFound doc flag s entry.2) ∈ found :=
      hfound ▸ List.mem_map_of_mem hentry
    refine ⟨_, hall entry hentry, ?_⟩
    split
    · next hempty =>
      refine Variables.get?_putAll_of_notMem (fun hname => ?_) s.vars
      -- A pair of this name that is written would be this one, which is not.
      obtain ⟨pair, hpair, hsame⟩ := List.mem_map.1 hname
      obtain ⟨hpair, hwritten⟩ := List.mem_filter.1 hpair
      have : pair = _ := List.inj_on_of_nodup_map (hfirst ▸ hnames) hpair hmem hsame
      rw [this] at hwritten
      simp [hempty] at hwritten
    · next hempty =>
      exact Variables.get?_putAll_of_mem (hnames.sublist hsub)
        (List.mem_filter.2 ⟨hmem, by simpa using hempty⟩) s.vars
  · intro name hname
    exact Variables.get?_putAll_of_notMem (fun hmem => hname (hsub.subset hmem)) s.vars

/-- A variable map is compiled, its entries are read, and then what was found is written. -/
theorem run_collect (hdoc : doc.isSourceEmpty = false) {rule : Text}
    (hrule : Text.isBlankText rule = false) (hs : s.cache.Sound) :
    ∃ t, s.Agree t ∧ (x.collect doc rule flag).run s =
      match VariableMap.compile rule flag with
      | .error e => (.error e, t)
      | .ok map =>
        match (x.namedValues doc flag map.entries).run t with
        | (.error e, u) => (.error e, u)
        | (.ok found, u) =>
          let vars := u.vars.putAll (found.filter (!·.2.isEmpty))
          (.ok vars, { u with vars }) := by
  have hvalue := Session.map_value_variableMap hs rule flag
  have hagree : s.Agree ((Session.variableMap rule flag).run s).2 := by
    have halike := Session.corresponds_variableMap rule flag s s ⟨hs, hs, rfl⟩
    have hvars : s.vars = ((Session.variableMap rule flag).run s).2.vars := rfl
    generalize (Session.variableMap rule flag).run s = outcome at halike hvars ⊢
    cases halike with
    | ok _ h => exact ⟨hs, h.left, hvars⟩
    | error h => exact ⟨hs, h.left, hvars⟩
  refine ⟨_, hagree, ?_⟩
  unfold collect
  rw [if_neg (by simp [hdoc, hrule]), run_bind]
  generalize (Session.variableMap rule flag).run s = outcome at hvalue hagree ⊢
  obtain ⟨e | compiled, t⟩ := outcome
  · rw [← hvalue]
    rfl
  · have hflag : compiled.value.flag = flag := VariableMap.flag_of_compile hvalue.symm
    rw [← hvalue]
    unfold namedValues
    dsimp only [Except.map]
    rw [hflag, run_bind]
    generalize ExceptT.run (List.mapM _ compiled.value.entries : Session.Action _) t = outcome
    rcases outcome with ⟨e | found, u⟩ <;> rfl

/-- A failure leaves what reading the rules up to the one that fails leaves. -/
theorem stopsWith_of_collect (hdoc : doc.isSourceEmpty = false) {rule : Text}
    (hrule : Text.isBlankText rule = false) (hs : s.cache.Sound) {e : RuleError}
    (h : ((x.collect doc rule flag).run s).1 = .error e) :
    x.StopsWith doc flag rule s e ((x.collect doc rule flag).run s).2.vars := by
  obtain ⟨t, hagree, hrun⟩ := run_collect x doc flag hdoc hrule hs
  rw [hrun] at h ⊢
  cases hmap : VariableMap.compile rule flag with
  | error e' =>
    rw [hmap] at h
    cases h
    exact .inl ⟨hmap, hagree.vars.symm⟩
  | ok map =>
    rw [hmap] at h
    dsimp only at h ⊢
    have hstops := @run_namedValues_error x doc flag t map.entries e
    generalize (x.namedValues doc flag map.entries).run t = outcome at h hstops ⊢
    obtain ⟨e' | found, u⟩ := outcome
    · cases h
      obtain ⟨before, entry, rest, hentries, hfinds, hleft⟩ := hstops rfl
      refine .inr ⟨map, before, entry, rest, hmap, hentries, ?_, ?_⟩
      · rw [← hfinds]
        exact (x.finds_of_agree doc flag (x.agree_afterReading doc flag hagree _) _).symm
      · dsimp only at hleft ⊢
        rw [hleft]
        exact (x.agree_afterReading doc flag hagree _).vars.symm
    · cases h

/-- Where no script is run, the rules are all read in the session as it was: then either all is
written or nothing. -/
theorem collect_of_listsNoScript (hdoc : doc.isSourceEmpty = false) {rule : Text}
    (hrule : Text.isBlankText rule = false) (hs : s.cache.Sound)
    (hscripts : x.ListsNoScript doc flag rule s) :
    x.AllOrNothing doc flag rule s ((x.collect doc rule flag).run s) := by
  obtain ⟨t, hagree, hrun⟩ := run_collect x doc flag hdoc hrule hs
  rw [hrun]
  cases hmap : VariableMap.compile rule flag with
  | error e => exact ⟨hagree.vars.symm, .inl hmap⟩
  | ok map =>
    obtain ⟨hleft, hfound⟩ :=
      run_namedValues_of_runsNoScript x doc flag (hscripts map hmap) hagree
    dsimp only
    generalize (x.namedValues doc flag map.entries).run t = outcome at hleft hfound ⊢
    obtain ⟨e | found, u⟩ := outcome
    · exact ⟨hleft.vars.symm, .inr ⟨map, hmap, hfound⟩⟩
    · obtain ⟨rfl, hall⟩ := hfound
      refine ⟨rfl, map, hmap, ?_⟩
      rw [← hleft.vars]
      exact filled_putAll x doc flag (VariableMap.names_nodup_of_compile hmap) hall

/-- Filling variables from a document does all or nothing, and blanks none. Where no script is run,
a failure leaves the variables as they were; a success answers the variables, in which every listed
name has what its rule finds against the variables as they were, unless that is nothing, and all
else is as it was. Scripts or not, a failure leaves what reading the rules up to the one that fails
leaves, which scripts alone have written. -/
theorem collect_all_or_nothing (history : List Request) (hdoc : doc.isSourceEmpty = false)
    {rule : Text} (hrule : Text.isBlankText rule = false) :
    let s := x.after history
    let outcome := (x.collect doc rule flag).run s
    (x.ListsNoScript doc flag rule s → x.AllOrNothing doc flag rule s outcome) ∧
    ∀ e, outcome.1 = .error e → x.StopsWith doc flag rule s e outcome.2.vars ∧
      ReflTransGen x.engine.Writes s.vars outcome.2.vars := by
  intro s outcome
  have hs : s.cache.Sound := x.sound_after history
  refine ⟨collect_of_listsNoScript x doc flag hdoc hrule hs, fun e he => ?_⟩
  have hstops := stopsWith_of_collect x doc flag hdoc hrule hs he
  refine ⟨hstops, ?_⟩
  obtain ⟨-, hvars⟩ | ⟨_, before, entry, _, _, _, _, hvars⟩ := hstops
  · rw [hvars]
  · rw [hvars]
    exact x.reaches_afterReading doc flag s _

/-- The rule of the first variable is filled with the second one as it was before, though that is
written too. -/
theorem collect_all_or_nothing_placeholder :
    let x : Extractor := ⟨Config.usual, fun _ v => return v⟩
    let doc := Document.ofPrimitive (.object (.obj [(['x'], .str ['1']), (['y'], .str ['2'])]))
    let rule := "a@@\x7b\x7bb\x7d\x7d&&b@@y".toList
    let s := x.after [.put ['b'] ['x']]
    let outcome := (x.collect doc rule .content).run s
    doc.isSourceEmpty = false ∧ Text.isBlankText rule = false ∧
      x.ListsNoScript doc .content rule s ∧ x.AllOrNothing doc .content rule s outcome ∧
      outcome.2.vars.entries = [(['b'], ['2']), (['a'], ['1'])] := by
  intro x doc rule s outcome
  have hscripts : x.ListsNoScript doc .content rule s := by
    intro map hmap entry hentry
    have hcompiled : VariableMap.compile rule .content =
        .ok ⟨[(['a'], "\x7b\x7bb\x7d\x7d".toList), (['b'], ['y'])], .content⟩ := by
      decide +kernel
    have hplain : ∀ entry ∈ [(['a'], "\x7b\x7bb\x7d\x7d".toList), (['b'], ['y'])],
        (Rule.compile (s.vars.fill entry.2) .json).toOption.all
          (fun r => r.steps.all (·.scripts.isEmpty)) = true := by
      decide +kernel
    cases hcompiled.symm.trans hmap
    refine runsNoScript_of_compile (x.sound_after _) fun r hr step hstep => ?_
    have hsteps := hplain entry hentry
    change Rule.compile _ .json = _ at hr
    rw [hr] at hsteps
    exact List.isEmpty_iff.1 (List.all_eq_true.1 hsteps step hstep)
  have hdoc : doc.isSourceEmpty = false := rfl
  have hrule : Text.isBlankText rule = false := by decide
  exact ⟨hdoc, hrule, hscripts,
    (collect_all_or_nothing x doc .content [.put ['b'] ['x']] hdoc hrule).1 hscripts,
    by decide +kernel⟩

end Extractor

end Extraction
