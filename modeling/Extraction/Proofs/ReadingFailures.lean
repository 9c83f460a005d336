import Extraction.Extractor.Scripted
import Extraction.Proofs.ScriptWrites

/-!
# What reading can fail with

A failure of reading has one of few causes: the text of a rule or of a selector that cannot be read, a
script, and an address that cannot be completed. That a dialect does not apply to a value is never
among them: a step passes such values over, and what it selects from the others is what it selects
from them alone.

## Main definitions

* `FailsOnly`: an action that fails with errors of a kind only
* `Request.MayFail`: the errors that a request may end with
* `Primitive.fits`: the values that a dialect applies to
-/

namespace Extraction

/-! ### Failing with errors of a kind -/

section Kinds

variable {ε σ α β γ : Type}

/-- If the computation fails, then with an error of a kind. -/
def ErrorsIn (P : ε → Prop) (x : Except ε α) : Prop := ∀ e, x = .error e → P e

/-- In whatever state the action begins, if it fails, then with an error of a kind. -/
def FailsOnly (P : ε → Prop) (p : ExceptT ε (StateM σ) α) : Prop := ∀ s, ErrorsIn P (p.run s).1

variable {P Q : ε → Prop}

/-- The error of a failure. -/
def failure? : Except ε α → Option ε
  | .error e => some e
  | .ok _ => none

theorem failure?_eq_some_iff {x : Except ε α} {e : ε} : failure? x = some e ↔ x = .error e := by
  cases x <;> simp [failure?]

theorem errorsIn_ok (a : α) : ErrorsIn P (.ok a : Except ε α) := nofun

theorem errorsIn_error {e : ε} (h : P e) : ErrorsIn P (.error e : Except ε α) := by
  intro _ he
  cases he
  exact h

theorem ErrorsIn.mono {x : Except ε α} (hx : ErrorsIn P x) (h : ∀ e, P e → Q e) : ErrorsIn Q x :=
  fun e he => h e (hx e he)

theorem errorsIn_bind {x : Except ε α} {f : α → Except ε β} (hx : ErrorsIn P x)
    (hf : ∀ a, ErrorsIn P (f a)) : ErrorsIn P (x >>= f) := by
  cases x with
  | error e => exact errorsIn_error (hx e rfl)
  | ok a => exact hf a

theorem errorsIn_map {x : Except ε α} (hx : ErrorsIn P x) (f : α → β) :
    ErrorsIn P (x.map f) := by
  cases x with
  | error e => exact errorsIn_error (hx e rfl)
  | ok a => exact errorsIn_ok (f a)

theorem errorsIn_mapM {f : γ → Except ε α} (hf : ∀ c, ErrorsIn P (f c)) (cs : List γ) :
    ErrorsIn P (cs.mapM f) := by
  induction cs with
  | nil => exact errorsIn_ok []
  | cons c cs ih =>
    rw [List.mapM_cons]
    exact errorsIn_bind (hf c) fun a => errorsIn_bind ih fun as => errorsIn_ok (a :: as)

theorem failsOnly_pure (a : α) : FailsOnly P (pure a : ExceptT ε (StateM σ) α) :=
  fun _ => errorsIn_ok a

theorem failsOnly_liftM {x : Except ε α} (hx : ErrorsIn P x) :
    FailsOnly P (liftM x : ExceptT ε (StateM σ) α) := by
  intro s
  cases x with
  | error e => exact errorsIn_error (hx e rfl)
  | ok a => exact errorsIn_ok a

theorem failsOnly_bind {p : ExceptT ε (StateM σ) α} {f : α → ExceptT ε (StateM σ) β}
    (hp : FailsOnly P p) (hf : ∀ a, FailsOnly P (f a)) : FailsOnly P (p >>= f) := by
  intro s
  have herrors := hp s
  rw [run_bind]
  generalize p.run s = outcome at herrors ⊢
  obtain ⟨e | a, t⟩ := outcome
  · exact errorsIn_error (herrors e rfl)
  · exact hf a t

theorem failsOnly_map {p : ExceptT ε (StateM σ) α} (hp : FailsOnly P p) (f : α → β) :
    FailsOnly P (f <$> p) := by
  rw [map_eq_pure_bind]
  exact failsOnly_bind hp fun a => failsOnly_pure (f a)

theorem failsOnly_mapM {f : γ → ExceptT ε (StateM σ) α} (hf : ∀ c, FailsOnly P (f c))
    (cs : List γ) : FailsOnly P (cs.mapM f) := by
  induction cs with
  | nil =>
    rw [List.mapM_nil]
    exact failsOnly_pure []
  | cons c cs ih =>
    rw [List.mapM_cons]
    exact failsOnly_bind (hf c) fun a => failsOnly_bind ih fun as => failsOnly_pure (a :: as)

theorem failsOnly_foldlM {f : α → γ → ExceptT ε (StateM σ) α} (hf : ∀ a c, FailsOnly P (f a c))
    (cs : List γ) (a : α) : FailsOnly P (cs.foldlM f a) := by
  induction cs generalizing a with
  | nil => exact failsOnly_pure a
  | cons c cs ih =>
    rw [List.foldlM_cons]
    exact failsOnly_bind (hf a c) ih

end Kinds

namespace RuleError

/-- The text of a rule or of a selector cannot be read. -/
def IsMalformed : RuleError → Prop
  | malformed _ _ => True
  | _ => False

/-- A script has failed. -/
def IsOfScript : RuleError → Prop
  | script _ => True
  | _ => False

/-- An address cannot be completed. -/
def IsOfAddress : RuleError → Prop
  | missingBaseUrl => True
  | url _ => True
  | _ => False

end RuleError

open RuleError (IsMalformed IsOfScript IsOfAddress)

/-- Scripts fail with failures of scripts only. -/
def Engine.FailsByScript (engine : Engine) : Prop :=
  ∀ script v, FailsOnly IsOfScript (engine script v)

/-- The errors that a request may end with. -/
def Request.MayFail : Request → RuleError → Prop
  | .text _ _, e | .rawAddress _ _, e | .texts _ _, e => e.IsMalformed ∨ e.IsOfScript
  | .address _ _, e | .addresses _ _, e | .collect _ _ _, e =>
    e.IsMalformed ∨ e.IsOfScript ∨ e.IsOfAddress
  | .rule _ _ _, e | .step _ _ _, e | .variableMap _ _, e => e.IsMalformed
  | .put _ _, _ | .get _, _ | .config, _ => False

/-- No request ends with the failure of a dialect on a value that it does not apply to. -/
theorem Request.not_mayFail_backendMismatch (r : Request) (mode : Mode) (backend : Backend) :
    ¬ r.MayFail (.backendMismatch mode backend) := by
  cases r <;> simp [MayFail, IsMalformed, IsOfScript, IsOfAddress]

/-! ### Reading rules, selectors and addresses -/

theorem Rule.errorsIn_compile (raw : Text) (mode : Mode) :
    ErrorsIn IsMalformed (Rule.compile raw mode) := by
  unfold Rule.compile
  split
  · exact errorsIn_ok _
  · split
    · exact errorsIn_ok _
    · exact errorsIn_error trivial

theorem Rule.errorsIn_compileSingle (raw : Text) (mode : Mode) :
    ErrorsIn IsMalformed (Rule.compileSingle raw mode) := by
  refine errorsIn_bind (errorsIn_compile raw mode) fun rule => ?_
  split
  · exact errorsIn_ok _
  · exact errorsIn_error trivial

theorem VariableMap.errorsIn_compile (raw : Text) (flag : VariableFlag) :
    ErrorsIn IsMalformed (VariableMap.compile raw flag) := by
  unfold VariableMap.compile
  split
  · exact errorsIn_ok _
  · split
    · exact errorsIn_ok _
    · exact errorsIn_error trivial

theorem Css.errorsIn_select (p : Markup.Place) (css : Text) :
    ErrorsIn IsMalformed (Css.select p css) := by
  unfold Css.select
  split
  · exact errorsIn_error trivial
  · exact errorsIn_ok _

theorem XPath.errorsIn_select (context : Markup.Place) (s : Text) :
    ErrorsIn IsMalformed (XPath.select context s) := by
  refine errorsIn_map ?_ _
  unfold XPath.parse
  dsimp only
  split
  · exact errorsIn_ok _
  · exact errorsIn_error trivial

theorem JsonPath.errorsIn_select (v : Json) (text : Text) :
    ErrorsIn IsMalformed (JsonPath.select v text) := by
  refine errorsIn_map ?_ _
  unfold JsonPath.parse
  split
  · exact errorsIn_ok _
  · exact errorsIn_error trivial

theorem Url.errorsIn_resolve (base : Option Text) (value : Text) :
    ErrorsIn IsOfAddress (Url.resolve base value) := by
  unfold Url.resolve
  dsimp only
  split
  · exact errorsIn_ok []
  · split
    · exact errorsIn_ok _
    -- What is no complete address is completed, if there is a base for it.
    · split
      · exact errorsIn_error trivial
      · split
        · exact errorsIn_error trivial
        · split
          · exact errorsIn_error trivial
          · exact errorsIn_ok _

namespace Primitive

/-- What is read directly is read by a selector, if it is not at hand. -/
theorem errorsIn_readDirect? (p : Primitive) (rule : Text) (target : Target) :
    ErrorsIn IsMalformed (p.readDirect? rule target) := by
  unfold readDirect?
  dsimp only
  split
  · exact errorsIn_ok none
  · cases p with
    | object v => exact errorsIn_ok _
    | element place =>
      cases target with
      | text =>
        dsimp only
        split
        · exact errorsIn_ok none
        · split
          · exact errorsIn_ok _
          · exact errorsIn_map (Css.errorsIn_select _ _) _
      | address => exact errorsIn_ok _
    | node place =>
      dsimp only
      split
      · exact errorsIn_ok _
      · exact errorsIn_map (XPath.errorsIn_select _ _) _
    | text s => exact errorsIn_ok none

/-- Whether a dialect applies to a value: selectors of elements and location paths to all but JSON
values, paths into JSON values to these and to plain text that writes one, regular expressions to
everything. -/
def fits : Mode → Primitive → Bool
  | .css, object _ | .xpath, object _ => false
  | .json, element _ | .json, node _ => false
  | .json, text s => (Json.parse? s).isSome
  | _, _ => true

/-- Where the dialect does not apply, selecting fails with that. -/
theorem select_of_not_fits {mode : Mode} {p : Primitive} (h : p.fits mode = false)
    (selector : Text) : p.select mode selector = .error (.backendMismatch mode p.backend) := by
  cases mode with
  | css =>
    cases p with
    | object v => rfl
    | _ => cases h
  | xpath =>
    cases p with
    | object v => rfl
    | _ => cases h
  | json =>
    cases p with
    | element place => rfl
    | node place => rfl
    | object v => cases h
    | text s =>
      have hs : Json.parse? s = none := by simpa [fits] using h
      simp [select, selectJson, value?, hs, mismatch]
  | text => cases p <;> cases h

theorem fits_css (p : Primitive) : p.fits .css = p.place?.isSome := by cases p <;> rfl

theorem fits_xpath (p : Primitive) : p.fits .xpath = p.place?.isSome := by cases p <;> rfl

theorem fits_json (p : Primitive) : p.fits .json = p.value?.isSome := by cases p <;> rfl

/-- Where the dialect applies, selecting fails only if the selector cannot be read. -/
theorem errorsIn_select {mode : Mode} {p : Primitive} (h : p.fits mode = true) (selector : Text) :
    ErrorsIn IsMalformed (p.select mode selector) := by
  cases mode with
  | css =>
    rw [fits_css] at h
    obtain ⟨context, hcontext⟩ := Option.isSome_iff_exists.1 h
    simp only [select, selectCss, hcontext]
    split
    · split <;> exact errorsIn_ok _
    · refine errorsIn_bind (Css.errorsIn_select _ _) fun places => ?_
      split <;> exact errorsIn_ok _
  | xpath =>
    rw [fits_xpath] at h
    obtain ⟨context, hcontext⟩ := Option.isSome_iff_exists.1 h
    simp only [select, selectXPath, hcontext]
    split
    · exact errorsIn_ok _
    · exact errorsIn_map (XPath.errorsIn_select _ _) _
  | json =>
    rw [fits_json] at h
    obtain ⟨v, hv⟩ := Option.isSome_iff_exists.1 h
    simp only [select, selectJson, hv]
    split
    · exact errorsIn_ok _
    · exact errorsIn_map (JsonPath.errorsIn_select _ _) _
  | text =>
    simp only [select, selectText]
    split
    · exact errorsIn_ok _
    · split
      · exact errorsIn_error trivial
      · exact errorsIn_ok _

end Primitive

/-! ### Steps -/

namespace Step

/-- A step selects from a value what its dialect selects, its failures included, and nothing where
the dialect does not apply. -/
theorem select_eq (s : Step) (p : Primitive) :
    s.select p = if p.fits s.mode then p.select s.mode s.selector else .ok [] := by
  by_cases h : p.fits s.mode = true
  · rw [if_pos h, select]
    -- Only the failure that does not occur here is caught.
    have herrors := Primitive.errorsIn_select h s.selector
    generalize p.select s.mode s.selector = found at herrors ⊢
    split
    · exact (herrors _ rfl).elim
    · rfl
  · rw [if_neg h, select, Primitive.select_of_not_fits (by simpa using h)]

theorem errorsIn_select (s : Step) (p : Primitive) : ErrorsIn IsMalformed (s.select p) := by
  rw [select_eq]
  split
  · next h => exact Primitive.errorsIn_select h s.selector
  · exact errorsIn_ok []

theorem errorsIn_selectAll (s : Step) (ps : List Primitive) :
    ErrorsIn IsMalformed (s.selectAll ps) :=
  errorsIn_map (errorsIn_mapM s.errorsIn_select ps) List.flatten

theorem selectAll_cons (s : Step) (p : Primitive) (ps : List Primitive) :
    s.selectAll (p :: ps) = do
      let found ← s.select p
      let more ← s.selectAll ps
      return found ++ more := by
  simp only [selectAll, List.mapM_cons]
  rcases s.select p with e | found
  · rfl
  · rcases ps.mapM s.select with e | more <;> rfl

/-- What a step selects from values is what it selects from those alone that its dialect applies
to. -/
theorem selectAll_filter (s : Step) (ps : List Primitive) :
    s.selectAll (ps.filter (·.fits s.mode)) = s.selectAll ps := by
  induction ps with
  | nil => rfl
  | cons p ps ih =>
    by_cases h : p.fits s.mode = true
    · rw [List.filter_cons_of_pos h, selectAll_cons, selectAll_cons, ih]
    · rw [List.filter_cons_of_neg h, selectAll_cons, ih, select_eq, if_neg h]
      rcases s.selectAll ps with e | more <;> rfl

end Step

namespace Rule

variable (engine : Engine)

/-- The items that steps hand on, each to the step after it. -/
def handThrough : List Step → List Primitive → Effect (List Primitive)
  | [], ps => return ps
  | s :: rest, ps => do
    let found ← s.selectAll ps
    handThrough rest (← s.handOn engine found)

/-- A rule is run up to any of its steps, and from there on what the steps before have handed on. -/
theorem selectThrough_append (before : List Step) (s : Step) (rest : List Step)
    (ps : List Primitive) :
    selectThrough engine (before ++ s :: rest) ps =
      handThrough engine before ps >>= selectThrough engine (s :: rest) := by
  induction before generalizing ps with
  | nil => simp [handThrough]
  | cons first before ih =>
    rw [List.cons_append, selectThrough, handThrough]
    · simp only [ih, bind_assoc]
    · simp

/-- At every step of a rule, the items that the dialect of the step does not apply to make no
difference: neither to what comes out at the end nor to the failures on the way. -/
theorem selectThrough_filter (before : List Step) (s : Step) (rest : List Step)
    (ps : List Primitive) :
    selectThrough engine (before ++ s :: rest) ps =
      handThrough engine before ps >>= fun items =>
        selectThrough engine (s :: rest) (items.filter (·.fits s.mode)) := by
  have hstep (items : List Primitive) :
      selectThrough engine (s :: rest) (items.filter (·.fits s.mode)) =
        selectThrough engine (s :: rest) items := by
    cases rest with
    | nil => simp only [selectThrough, s.selectAll_filter items]
    | cons next rest => simp only [selectThrough, s.selectAll_filter items]
  rw [selectThrough_append]
  simp only [hstep]

end Rule

/-! ### Rules -/

section Effects

variable {P : RuleError → Prop} {engine : Engine}

theorem Engine.failsOnly_runAll (hengine : ∀ script v, FailsOnly P (engine script v))
    (scripts : List Text) (v : Json) : FailsOnly P (engine.runAll scripts v) :=
  failsOnly_foldlM (fun v script => hengine script v) scripts v

variable (hengine : ∀ script v, FailsOnly P (engine script v))
include hengine

theorem Step.failsOnly_script? (s : Step) (p : Primitive) : FailsOnly P (s.script? engine p) := by
  unfold Step.script?
  split
  · refine failsOnly_bind (engine.failsOnly_runAll hengine _ _) fun v => ?_
    split <;> exact failsOnly_pure _
  · exact failsOnly_pure _

theorem Step.failsOnly_handOn (s : Step) (ps : List Primitive) :
    FailsOnly P (s.handOn engine ps) := by
  unfold Step.handOn
  split
  · refine failsOnly_bind (failsOnly_mapM (fun p => ?_) ps) fun _ => failsOnly_pure _
    exact failsOnly_bind (s.failsOnly_script? hengine p) fun _ => failsOnly_pure _
  · exact failsOnly_pure _

theorem Rule.failsOnly_scriptTexts (last : Step) (ps : List Primitive) :
    FailsOnly P (Rule.scriptTexts engine last ps) := by
  have hrun (v : Json) := engine.failsOnly_runAll hengine last.scripts v
  unfold Rule.scriptTexts
  split
  · exact failsOnly_pure _
  · split
    · exact failsOnly_map (hrun _) _
    · exact failsOnly_mapM (fun p => failsOnly_map (hrun _) _) _

variable (hmalformed : ∀ e, IsMalformed e → P e)
include hmalformed

theorem Rule.failsOnly_selectThrough (steps : List Step) (ps : List Primitive) :
    FailsOnly P (Rule.selectThrough engine steps ps) := by
  have hselect (s : Step) (ps : List Primitive) : ErrorsIn P (s.selectAll ps) :=
    (s.errorsIn_selectAll ps).mono hmalformed
  fun_induction Rule.selectThrough engine steps ps with
  | case1 ps => exact failsOnly_pure ps
  | case2 last ps => exact failsOnly_liftM (hselect _ _)
  | case3 s rest ps _ ih =>
    exact failsOnly_bind (failsOnly_liftM (hselect s ps)) fun found =>
      failsOnly_bind (s.failsOnly_handOn hengine found) ih

theorem Rule.failsOnly_applySingle (r : Rule) (p : Primitive) :
    FailsOnly P (r.applySingle engine p) := by
  unfold Rule.applySingle
  split
  · exact failsOnly_pure _
  · next last _ =>
    refine failsOnly_bind (Rule.failsOnly_selectThrough hengine hmalformed _ _) fun ps => ?_
    by_cases hscripts : last.hasScripts = true
    · rw [if_pos hscripts]
      exact failsOnly_bind (failsOnly_map (engine.failsOnly_runAll hengine _ _) _) fun _ =>
        failsOnly_pure _
    · rw [if_neg hscripts]
      exact failsOnly_bind (failsOnly_pure _) fun _ => failsOnly_pure _

theorem Rule.failsOnly_applyList (r : Rule) (p : Primitive) :
    FailsOnly P (r.applyList engine p) := by
  unfold Rule.applyList
  split
  · exact failsOnly_pure _
  · next last _ =>
    refine failsOnly_bind (Rule.failsOnly_selectThrough hengine hmalformed _ _) fun ps => ?_
    exact failsOnly_bind (Rule.failsOnly_scriptTexts hengine last ps) fun _ => failsOnly_pure _

end Effects

/-! ### Sessions -/

namespace Session

/-- A rule that is kept is answered; else a failure is one of compiling. -/
theorem errorsIn_fetch {κ α : Type} [BEq κ] {compiled : Except RuleError α}
    (hcompiled : ErrorsIn IsMalformed compiled) (isEnabled : Bool) (next : Nat)
    (slot : Slot κ α) (key : κ) :
    ErrorsIn IsMalformed
      (RuleCache.fetch isEnabled next slot key (fun () => (compiled, ())) ()).1 := by
  unfold RuleCache.fetch
  split
  · exact errorsIn_ok _
  · split
    · next e _ hc => exact errorsIn_error (hcompiled e (congrArg Prod.fst hc))
    · exact errorsIn_ok _

theorem failsOnly_rule (raw : Text) (mode : Mode) (fills : Bool) :
    FailsOnly IsMalformed (rule raw mode fills) :=
  fun s => errorsIn_fetch (Rule.errorsIn_compile (s.source raw fills) mode) _ _ _ _

theorem failsOnly_step (raw : Text) (mode : Mode) (fills : Bool) :
    FailsOnly IsMalformed (step raw mode fills) :=
  fun s => errorsIn_fetch (Rule.errorsIn_compileSingle (s.source raw fills) mode) _ _ _ _

theorem failsOnly_variableMap (raw : Text) (flag : VariableFlag) :
    FailsOnly IsMalformed (variableMap raw flag) :=
  fun _ => errorsIn_fetch (VariableMap.errorsIn_compile raw flag) _ _ _ _

theorem failsOnly_onVariables {α : Type} {P : RuleError → Prop}
    {effect : ExceptT RuleError (StateM Variables) α} (h : FailsOnly P effect) :
    FailsOnly P (onVariables effect) :=
  fun s => h s.vars

end Session

namespace Extractor

section Reads

variable {x : Extractor} {P : RuleError → Prop}
  (hengine : ∀ script v, FailsOnly P (x.engine script v)) (hmalformed : ∀ e, IsMalformed e → P e)
include hengine hmalformed

theorem failsOnly_read (doc : Document) (rule : Text) (target : Target) :
    FailsOnly P (x.read doc rule target) := by
  refine failsOnly_bind (failsOnly_liftM ?_) fun direct => ?_
  · exact (doc.primitive.errorsIn_readDirect? rule target).mono hmalformed
  · cases direct with
    | some s => exact failsOnly_pure s
    | none =>
      refine failsOnly_bind ?_ fun compiled => Session.failsOnly_onVariables ?_
      · exact fun s => (Session.failsOnly_rule rule _ true s).mono hmalformed
      · exact Rule.failsOnly_applySingle hengine hmalformed compiled.value _

theorem failsOnly_texts (doc : Document) (rule : Text) : FailsOnly P (x.texts doc rule) := by
  refine failsOnly_bind ?_ fun compiled => Session.failsOnly_onVariables ?_
  · exact fun s => (Session.failsOnly_rule rule _ true s).mono hmalformed
  · exact Rule.failsOnly_applyList hengine hmalformed compiled.value _

variable (haddress : ∀ e, IsOfAddress e → P e)
include haddress

theorem failsOnly_address (doc : Document) (rule : Text) : FailsOnly P (x.address doc rule) :=
  failsOnly_bind (failsOnly_read hengine hmalformed doc rule .address) fun raw =>
    failsOnly_liftM ((Url.errorsIn_resolve x.config.baseUrl raw).mono haddress)

theorem failsOnly_addresses (doc : Document) (rule : Text) :
    FailsOnly P (x.addresses doc rule) := by
  refine failsOnly_bind (failsOnly_texts hengine hmalformed doc rule) fun raws => ?_
  refine failsOnly_liftM (errorsIn_mapM (fun raw => ?_) raws)
  exact (Url.errorsIn_resolve x.config.baseUrl raw).mono haddress

theorem failsOnly_collect (doc : Document) (rule : Text) (flag : VariableFlag) :
    FailsOnly P (x.collect doc rule flag) := by
  have hvalue (flag : VariableFlag) (rule : Text) : FailsOnly P (x.value doc flag rule) := by
    cases flag with
    | content => exact failsOnly_read hengine hmalformed doc rule .text
    | url => exact failsOnly_address hengine hmalformed haddress doc rule
  have hget : FailsOnly P (get : Session.Action Session) := fun s => errorsIn_ok s
  unfold collect
  split
  · exact failsOnly_bind hget fun _ => failsOnly_pure _
  · refine failsOnly_bind (fun s => (Session.failsOnly_variableMap rule flag s).mono hmalformed)
      fun compiled => ?_
    refine failsOnly_bind (failsOnly_mapM (fun entry => ?_) _) fun found => ?_
    · exact failsOnly_bind (hvalue _ entry.2) fun _ => failsOnly_pure _
    · refine failsOnly_bind (fun _ => errorsIn_ok _) fun _ => ?_
      exact failsOnly_bind hget fun _ => failsOnly_pure _

end Reads

end Extractor

/-! ### Requests -/

/-- The scripts of this library fail with failures of scripts only, however addresses are
fetched. -/
theorem Engine.failsByScript_ofFetcher (config : Config) (fetch : Fetcher) :
    (Engine.ofFetcher config fetch).FailsByScript := by
  intro script v vars
  show ErrorsIn IsOfScript (Script.eval _ script v vars).1
  unfold Script.eval
  dsimp only
  split
  · exact errorsIn_error trivial
  · exact errorsIn_error trivial
  · exact errorsIn_error trivial
  · exact errorsIn_ok _
  -- The script has left a value, which may have no form outside of it.
  · split
    · exact errorsIn_ok _
    · exact errorsIn_error trivial
    · exact errorsIn_error trivial

namespace Extractor

variable {x : Extractor}

theorem failsOnly_answer (hengine : x.engine.FailsByScript) (r : Request) :
    FailsOnly r.MayFail (x.answer r) := by
  have htext (script : Text) (v : Json) :
      FailsOnly (fun e => IsMalformed e ∨ IsOfScript e) (x.engine script v) :=
    fun s => (hengine script v s).mono fun e => .inr
  have haddress (script : Text) (v : Json) :
      FailsOnly (fun e => IsMalformed e ∨ IsOfScript e ∨ IsOfAddress e) (x.engine script v) :=
    fun s => (hengine script v s).mono fun e he => .inr (.inl he)
  cases r with
  | text doc rule => exact failsOnly_map (failsOnly_read htext (fun e => .inl) doc rule .text) _
  | rawAddress doc rule =>
    exact failsOnly_map (failsOnly_read htext (fun e => .inl) doc rule .address) _
  | texts doc rule => exact failsOnly_map (failsOnly_texts htext (fun e => .inl) doc rule) _
  | address doc rule =>
    exact failsOnly_map
      (failsOnly_address haddress (fun e => .inl) (fun e he => .inr (.inr he)) doc rule) _
  | addresses doc rule =>
    exact failsOnly_map
      (failsOnly_addresses haddress (fun e => .inl) (fun e he => .inr (.inr he)) doc rule) _
  | collect doc rule flag =>
    exact failsOnly_map
      (failsOnly_collect haddress (fun e => .inl) (fun e he => .inr (.inr he)) doc rule flag) _
  | put name value => exact fun s => errorsIn_ok _
  | get name => exact fun s => errorsIn_ok _
  | rule raw mode fills => exact failsOnly_map (Session.failsOnly_rule raw mode fills) _
  | step raw mode fills => exact failsOnly_map (Session.failsOnly_step raw mode fills) _
  | variableMap raw flag => exact failsOnly_map (Session.failsOnly_variableMap raw flag) _
  | config => exact failsOnly_pure _

/-- Where scripts fail with failures of scripts only, every request fails, in whatever session, with
the errors of its kind only, and none with the failure of a dialect on a value that it does not apply
to. That failure is passed over where it arises and nowhere else: from a value that its dialect
applies to, a step selects what the dialect selects, and fails where this fails; at every step of a
rule the values that the dialect does not apply to might as well be absent. -/
theorem answer_failsOnly (hengine : x.engine.FailsByScript) :
    (∀ r, FailsOnly r.MayFail (x.answer r)) ∧
    (∀ r s mode backend, ((x.answer r).run s).1 ≠ .error (.backendMismatch mode backend)) ∧
    (∀ (s : Step) (p : Primitive),
      s.select p = if p.fits s.mode then p.select s.mode s.selector else .ok []) ∧
    ∀ (before : List Step) (s : Step) (rest : List Step) (ps : List Primitive),
      Rule.selectThrough x.engine (before ++ s :: rest) ps =
        Rule.handThrough x.engine before ps >>= fun items =>
          Rule.selectThrough x.engine (s :: rest) (items.filter (·.fits s.mode)) := by
  refine ⟨failsOnly_answer hengine, ?_, Step.select_eq, Rule.selectThrough_filter x.engine⟩
  intro r s mode backend h
  exact r.not_mayFail_backendMismatch mode backend (failsOnly_answer hengine r s _ h)

/-- A relative address cannot be completed without a base; and of a text that is no JSON value and a
JSON value, a path into JSON values reads the second as if the first were not there. -/
theorem answer_failsOnly_mixed :
    let x := Extractor.ofFetcher Config.usual fun _ => .error .request
    let v := Primitive.object (.obj [(['a'], .str "/b".toList)])
    let r := Request.address (Document.ofPrimitive v) ['a']
    let s : Step := ⟨"$.a".toList, .json, [], none⟩
    x.engine.FailsByScript ∧
      ((x.answer r).run x.start).1 = .error .missingBaseUrl ∧ r.MayFail .missingBaseUrl ∧
      Rule.selectThrough x.engine [s] [.text "<p>".toList, v] =
        Rule.selectThrough x.engine [s] [v] := by
  intro x v r s
  have hengine : x.engine.FailsByScript := Engine.failsByScript_ofFetcher _ _
  obtain ⟨hfails, -, -, hfilter⟩ := answer_failsOnly hengine
  have hrun : ((x.answer r).run x.start).1 = .error .missingBaseUrl :=
    failure?_eq_some_iff.1 (by decide +kernel)
  have htext : Primitive.fits s.mode (.text "<p>".toList) = false := by decide +kernel
  have hfits : [.text "<p>".toList, v].filter (·.fits s.mode) = [v] := by
    rw [List.filter_cons_of_neg (ne_true_of_eq_false htext)]
    rfl
  refine ⟨hengine, hrun, hfails r x.start _ hrun, ?_⟩
  have hstep := hfilter [] s [] [.text "<p>".toList, v]
  rw [List.nil_append, Rule.handThrough, pure_bind, hfits] at hstep
  exact hstep

end Extractor

end Extraction
