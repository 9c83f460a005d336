import Extraction.Proofs.KeptRules
import Extraction.Proofs.Outcomes
import Mathlib.Logic.Relation

/-!
# Reading writes by scripts only

Reading a text or an address from a document changes the variables by the scripts that it runs and
by nothing else: what it leaves is reached by runs of scripts, one after the other.

## Main definitions

* `Reaches`: an action that moves what is seen of the state along a relation
* `Engine.Writes`: what one run of a script makes of the variables
* `Extractor.RunsNoScript`: reading a rule does not depend on how scripts are run
-/

namespace Extraction

open Relation (ReflTransGen)

/-! ### Actions that move along a relation -/

section Reaches

variable {ε σ τ α β γ : Type}

/-- A sequence of actions ends where the first one fails. -/
theorem run_bind (p : ExceptT ε (StateM σ) α) (f : α → ExceptT ε (StateM σ) β) (s : σ) :
    (p >>= f).run s = match p.run s with
      | (.ok a, s) => (f a).run s
      | (.error e, s) => (.error e, s) := by
  change (match p.run s with
    | (x, s) => ExceptT.bindCont f x s) = _
  rcases p.run s with ⟨_ | _, _⟩ <;> rfl

/-- Whatever the action answers, what is seen of the state after it is reached by steps of the
relation. -/
def Reaches (view : σ → τ) (R : τ → τ → Prop) (p : ExceptT ε (StateM σ) α) : Prop :=
  ∀ s, ReflTransGen R (view s) (view (p.run s).2)

variable {view : σ → τ} {R : τ → τ → Prop}

theorem reaches_pure (a : α) : Reaches view R (pure a : ExceptT ε (StateM σ) α) :=
  fun _ => .refl

theorem reaches_liftM (e : Except ε α) : Reaches view R (liftM e : ExceptT ε (StateM σ) α) := by
  intro s
  cases e <;> exact .refl

theorem reaches_bind {p : ExceptT ε (StateM σ) α} {f : α → ExceptT ε (StateM σ) β}
    (hp : Reaches view R p) (hf : ∀ a, Reaches view R (f a)) : Reaches view R (p >>= f) := by
  intro s
  have hstep := hp s
  rw [run_bind]
  generalize p.run s = outcome at hstep ⊢
  obtain ⟨e | a, t⟩ := outcome
  · exact hstep
  · exact hstep.trans (hf a t)

theorem reaches_map {p : ExceptT ε (StateM σ) α} (hp : Reaches view R p) (f : α → β) :
    Reaches view R (f <$> p) := by
  rw [map_eq_pure_bind]
  exact reaches_bind hp fun a => reaches_pure (f a)

theorem reaches_mapM {f : γ → ExceptT ε (StateM σ) α} (hf : ∀ c, Reaches view R (f c))
    (cs : List γ) : Reaches view R (cs.mapM f) := by
  induction cs with
  | nil =>
    rw [List.mapM_nil]
    exact reaches_pure []
  | cons c cs ih =>
    rw [List.mapM_cons]
    exact reaches_bind (hf c) fun a => reaches_bind ih fun as => reaches_pure (a :: as)

theorem reaches_foldlM {f : α → γ → ExceptT ε (StateM σ) α} (hf : ∀ a c, Reaches view R (f a c))
    (cs : List γ) (a : α) : Reaches view R (cs.foldlM f a) := by
  induction cs generalizing a with
  | nil => exact reaches_pure a
  | cons c cs ih =>
    rw [List.foldlM_cons]
    exact reaches_bind (hf a c) ih

end Reaches

/-! ### Rules -/

/-- The second variables are what one run of a script makes of the first ones. -/
def Engine.Writes (engine : Engine) (before after : Variables) : Prop :=
  ∃ script v, ((engine script v).run before).2 = after

section Effect

variable (engine : Engine)

theorem Engine.reaches_runAll (scripts : List Text) (v : Json) :
    Reaches id engine.Writes (engine.runAll scripts v) :=
  reaches_foldlM (fun v script _ => .single ⟨script, v, rfl⟩) scripts v

theorem Step.reaches_script? (s : Step) (p : Primitive) :
    Reaches id engine.Writes (s.script? engine p) := by
  unfold Step.script?
  split
  · refine reaches_bind (engine.reaches_runAll _ _) fun v => ?_
    split <;> exact reaches_pure _
  · exact reaches_pure _

theorem Step.reaches_handOn (s : Step) (ps : List Primitive) :
    Reaches id engine.Writes (s.handOn engine ps) := by
  unfold Step.handOn
  split
  · refine reaches_bind (reaches_mapM (fun p => ?_) ps) fun _ => reaches_pure _
    exact reaches_bind (s.reaches_script? engine p) fun _ => reaches_pure _
  · exact reaches_pure _

theorem Rule.reaches_selectThrough (steps : List Step) (ps : List Primitive) :
    Reaches id engine.Writes (Rule.selectThrough engine steps ps) := by
  fun_induction Rule.selectThrough engine steps ps with
  | case1 ps => exact reaches_pure ps
  | case2 ps last => exact reaches_liftM _
  | case3 s rest ps _ ih =>
    exact reaches_bind (reaches_liftM _) fun found =>
      reaches_bind (s.reaches_handOn engine found) ih

theorem Rule.reaches_applySingle (r : Rule) (p : Primitive) :
    Reaches id engine.Writes (r.applySingle engine p) := by
  unfold Rule.applySingle
  split
  · exact reaches_pure _
  · next last _ =>
    refine reaches_bind (Rule.reaches_selectThrough engine _ _) fun ps => ?_
    by_cases hscripts : last.hasScripts = true
    · rw [if_pos hscripts]
      exact reaches_bind (reaches_map (engine.reaches_runAll _ _) _) fun _ => reaches_pure _
    · rw [if_neg hscripts]
      exact reaches_bind (reaches_pure _) fun _ => reaches_pure _

theorem Rule.reaches_scriptTexts (last : Step) (ps : List Primitive) :
    Reaches id engine.Writes (Rule.scriptTexts engine last ps) := by
  unfold Rule.scriptTexts
  split
  · exact reaches_pure _
  · split
    · exact reaches_map (engine.reaches_runAll _ _) _
    · exact reaches_mapM (fun p => reaches_map (engine.reaches_runAll _ _) _) ps

theorem Rule.reaches_applyList (r : Rule) (p : Primitive) :
    Reaches id engine.Writes (r.applyList engine p) := by
  unfold Rule.applyList
  split
  · exact reaches_pure _
  · next last _ =>
    refine reaches_bind (Rule.reaches_selectThrough engine _ _) fun ps => ?_
    exact reaches_bind (Rule.reaches_scriptTexts engine last ps) fun _ => reaches_pure _

end Effect

/-- Hands every value on and writes nothing. -/
def Engine.silent : Engine := fun _ v => pure v

theorem Engine.eq_of_reaches_silent {before after : Variables}
    (h : ReflTransGen silent.Writes before after) : after = before := by
  induction h with
  | refl => rfl
  | tail _ hstep ih =>
    obtain ⟨script, v, hwrite⟩ := hstep
    exact hwrite.symm.trans ih

section Scriptless

variable (engine engine' : Engine)

theorem Step.hasScripts_of_nil {s : Step} (hs : s.scripts = []) : s.hasScripts = false := by
  rw [hasScripts, hs]
  rfl

theorem Step.handOn_congr {s : Step} (hs : s.scripts = []) (ps : List Primitive) :
    s.handOn engine ps = s.handOn engine' ps := by
  have hitem : s.handOnItem? engine = s.handOnItem? engine' := by
    funext p
    unfold Step.handOnItem? Step.script? Step.hasScripts
    rw [hs]
    rfl
  unfold Step.handOn
  rw [hitem]

theorem Rule.selectThrough_congr {steps : List Step} (hsteps : ∀ s ∈ steps, s.scripts = [])
    (ps : List Primitive) :
    Rule.selectThrough engine steps ps = Rule.selectThrough engine' steps ps := by
  fun_induction Rule.selectThrough engine steps ps with
  | case1 ps => rfl
  | case2 ps last => rfl
  | case3 s rest ps hrest ih =>
    rw [List.forall_mem_cons] at hsteps
    rw [Rule.selectThrough]
    · have hrestAll : Rule.selectThrough engine rest = Rule.selectThrough engine' rest :=
        funext fun ps => ih ps hsteps.2
      simp only [Step.handOn_congr engine engine' hsteps.1, hrestAll]
    · exact hrest

/-- How scripts are run is of no matter to a rule without scripts. -/
theorem Rule.applySingle_congr {r : Rule} (hr : ∀ s ∈ r.steps, s.scripts = []) (p : Primitive) :
    r.applySingle engine p = r.applySingle engine' p := by
  unfold Rule.applySingle
  split
  · rfl
  · next last hlast =>
    have hscripts := Step.hasScripts_of_nil (hr last (List.mem_of_getLast? hlast))
    rw [Rule.selectThrough_congr engine engine' hr, hscripts]
    rfl

theorem Rule.applyList_congr {r : Rule} (hr : ∀ s ∈ r.steps, s.scripts = []) (p : Primitive) :
    r.applyList engine p = r.applyList engine' p := by
  unfold Rule.applyList
  split
  · rfl
  · next last hlast =>
    have hscripts := Step.hasScripts_of_nil (hr last (List.mem_of_getLast? hlast))
    have htexts : Rule.scriptTexts engine last = Rule.scriptTexts engine' last := by
      funext ps
      simp only [Rule.scriptTexts, hscripts, Bool.not_false, if_true]
    rw [Rule.selectThrough_congr engine engine' hr, htexts]

/-- A rule without scripts leaves the variables alone. -/
theorem Rule.vars_applySingle {r : Rule} (hr : ∀ s ∈ r.steps, s.scripts = []) (p : Primitive)
    (vs : Variables) : ((r.applySingle engine p).run vs).2 = vs := by
  rw [Rule.applySingle_congr engine .silent hr]
  exact Engine.eq_of_reaches_silent (r.reaches_applySingle .silent p vs)

theorem Rule.vars_applyList {r : Rule} (hr : ∀ s ∈ r.steps, s.scripts = []) (p : Primitive)
    (vs : Variables) : ((r.applyList engine p).run vs).2 = vs := by
  rw [Rule.applyList_congr engine .silent hr]
  exact Engine.eq_of_reaches_silent (r.reaches_applyList .silent p vs)

end Scriptless

/-! ### Sessions -/

namespace Session

/-- Compiling a rule leaves the variables alone. -/
theorem vars_rule (raw : Text) (mode : Mode) (fills : Bool) (s : Session) :
    ((rule raw mode fills).run s).2.vars = s.vars := rfl

theorem reaches_onVariables {α : Type} {R : Variables → Variables → Prop}
    {effect : ExceptT RuleError (StateM Variables) α} (h : Reaches id R effect) :
    Reaches Session.vars R (onVariables effect) :=
  fun s => h s.vars

end Session

namespace Extractor

section Reads

variable (x : Extractor)

theorem reaches_single (p : Primitive) (rule : Text) :
    Reaches Session.vars x.engine.Writes (x.single p rule) :=
  reaches_bind (fun _ => .refl) fun compiled =>
    Session.reaches_onVariables (compiled.value.reaches_applySingle x.engine p)

theorem reaches_read (doc : Document) (rule : Text) (target : Target) :
    Reaches Session.vars x.engine.Writes (x.read doc rule target) := by
  refine reaches_bind (reaches_liftM _) fun direct => ?_
  cases direct with
  | some s => exact reaches_pure s
  | none => exact x.reaches_single doc.primitive rule

/-- Reading what the rule of a variable finds writes by scripts only. -/
theorem reaches_value (doc : Document) (flag : VariableFlag) (rule : Text) :
    Reaches Session.vars x.engine.Writes (x.value doc flag rule) := by
  cases flag with
  | content => exact x.reaches_read doc rule .text
  | url => exact reaches_bind (x.reaches_read doc rule .address) fun _ => reaches_liftM _

/-- What a rule reads directly is read without the session. -/
theorem run_read (doc : Document) (rule : Text) (target : Target) (s : Session) :
    (x.read doc rule target).run s = match doc.primitive.readDirect? rule target with
      | .ok none => (x.single doc.primitive rule).run s
      | .ok (some found) => (.ok found, s)
      | .error e => (.error e, s) := by
  unfold read
  rw [run_bind]
  generalize doc.primitive.readDirect? rule target = direct
  obtain e | _ | found := direct <;> rfl

/-! ### Rules without scripts -/

/-- Reading the rule of a variable goes the same way however scripts are run. -/
def RunsNoScript (doc : Document) (flag : VariableFlag) (rule : Text) (s : Session) : Prop :=
  ∀ engine : Engine, (({ x with engine } : Extractor).value doc flag rule).run s =
    (x.value doc flag rule).run s

variable {x} {doc : Document} {flag : VariableFlag} {rule : Text} {s : Session}

/-- No script is run for a rule that compiles to steps without scripts, or does not compile. -/
theorem runsNoScript_of_compile (hs : s.cache.Sound)
    (h : ∀ r, Rule.compile (s.vars.fill rule) doc.primitive.mode = .ok r →
      ∀ step ∈ r.steps, step.scripts = []) :
    x.RunsNoScript doc flag rule s := by
  intro engine
  have hsingle : (({ x with engine } : Extractor).single doc.primitive rule).run s =
      (x.single doc.primitive rule).run s := by
    have hvalue := Session.map_value_rule hs rule doc.primitive.mode true
    rw [Session.source, if_pos rfl] at hvalue
    unfold single
    rw [run_bind, run_bind]
    generalize (Session.rule rule doc.primitive.mode true).run s = outcome at hvalue ⊢
    obtain ⟨e | compiled, t⟩ := outcome
    · rfl
    · have hscripts := h compiled.value hvalue.symm
      simp only [Rule.applySingle_congr engine x.engine hscripts]
  have hread (target : Target) : (({ x with engine } : Extractor).read doc rule target).run s =
      (x.read doc rule target).run s := by
    rw [run_read, run_read, hsingle]
  cases flag with
  | content => exact hread .text
  | url =>
    unfold value address rawAddress
    dsimp only
    rw [run_bind, run_bind, hread]

/-- Where no script is run, the variables stay as they are. -/
theorem vars_of_runsNoScript (h : x.RunsNoScript doc flag rule s) :
    ((x.value doc flag rule).run s).2.vars = s.vars := by
  -- Scripts might as well be run by an engine that writes nothing.
  rw [← h .silent]
  exact Engine.eq_of_reaches_silent
    (({ x with engine := .silent } : Extractor).reaches_value doc flag rule s)

end Reads

end Extractor

end Extraction
