import Extraction.Extractor.Request

/-!
# Kept rules change no answer

A session that keeps compiled rules answers every request as one that has just begun with the same
variables. The invariant is that what is kept under a key is what compiling that key now gives; two
sessions that meet it and have the same variables go through every request side by side.

## Main definitions

* `RuleCache.Sound`: every kept rule is what compiling its key gives
* `Session.Corresponds`: two actions that lead from such sessions to such sessions, with related
  answers
* `Extractor.after`: the session after a list of requests
-/

namespace Extraction

/-! ### What is kept -/

/-- Everything in the slot is what `compile` makes of its key. -/
def Slot.Sound {κ α : Type} (compile : κ → Except RuleError α) (slot : Slot κ α) : Prop :=
  ∀ entry ∈ slot, compile entry.1 = .ok entry.2.value

/-- Every kept rule is what compiling its key gives. -/
structure RuleCache.Sound (c : RuleCache) : Prop where
  rules : Slot.Sound (fun key => Rule.compile key.1 key.2) c.rules
  steps : Slot.Sound (fun key => Rule.compileSingle key.1 key.2) c.steps
  maps : Slot.Sound (fun key => VariableMap.compile key.1 key.2) c.maps

namespace RuleCache

theorem sound_empty (isEnabled : Bool) : (empty isEnabled).Sound :=
  ⟨fun _ h => (List.not_mem_nil h).elim, fun _ h => (List.not_mem_nil h).elim,
    fun _ h => (List.not_mem_nil h).elim⟩

section Fetch

variable {κ α : Type} [BEq κ] {compile : κ → Except RuleError α} {slot : Slot κ α}

/-- What a sound slot keeps under a key is what compiling the key gives. -/
theorem compile_of_lookup [LawfulBEq κ] (hs : Slot.Sound compile slot) {key : κ} {shared : Shared α}
    (h : slot.lookup key = some shared) : compile key = .ok shared.value := by
  obtain ⟨before, after, rfl, -⟩ := List.lookup_eq_some_iff.1 h
  exact hs (key, shared) (by simp)

variable (isEnabled : Bool) (next : Nat) (key : κ)

/-- What a sound slot answers is what compiling the key now gives, be it a value or an error. -/
theorem fetch_value [LawfulBEq κ] (hs : Slot.Sound compile slot) :
    (fetch isEnabled next slot key (fun () => (compile key, ())) ()).1.map Shared.value =
      compile key := by
  unfold fetch
  split
  · next shared hkept =>
    cases isEnabled with
    | false => cases hkept
    | true => exact (compile_of_lookup hs hkept).symm
  · split
    · next e _ hc => exact (congrArg Prod.fst hc).symm
    · next value _ hc => exact (congrArg Prod.fst hc).symm

/-- A sound slot stays sound. -/
theorem fetch_sound (hs : Slot.Sound compile slot) :
    Slot.Sound compile (fetch isEnabled next slot key (fun () => (compile key, ())) ()).2.2.1 := by
  unfold fetch
  split
  · exact hs
  · split
    · exact hs
    · next value _ hc =>
      cases isEnabled with
      | false => exact hs
      | true =>
        intro entry hentry
        rcases List.mem_cons.1 hentry with rfl | hentry
        · exact congrArg Prod.fst hc
        · exact hs entry hentry

end Fetch

end RuleCache

namespace Session

/-! ### Sessions side by side -/

/-- Both sessions keep only what compiling gives, and they have the same variables. -/
structure Agree (s t : Session) : Prop where
  left : s.cache.Sound
  right : t.cache.Sound
  vars : s.vars = t.vars

/-- The two outcomes are related answers or the same error, in sessions that agree. -/
inductive Alike {α β : Type} (R : α → β → Prop) :
    Except RuleError α × Session → Except RuleError β × Session → Prop where
  | ok {a : α} {b : β} {s t : Session} : R a b → s.Agree t → Alike R (.ok a, s) (.ok b, t)
  | error {e : RuleError} {s t : Session} : s.Agree t → Alike R (.error e, s) (.error e, t)

/-- From sessions that agree, the two actions have outcomes that are alike. -/
def Corresponds {α β : Type} (R : α → β → Prop) (p : Action α) (q : Action β) : Prop :=
  ∀ s t : Session, s.Agree t → Alike R (p.run s) (q.run t)

section Corresponds

variable {α β γ δ : Type} {R : α → β → Prop} {S : γ → δ → Prop}

theorem corresponds_pure {a : α} {b : β} (h : R a b) : Corresponds R (pure a) (pure b) :=
  fun _ _ hst => .ok h hst

theorem corresponds_bind {p : Action α} {q : Action β} {f : α → Action γ} {g : β → Action δ}
    (hpq : Corresponds R p q) (hfg : ∀ a b, R a b → Corresponds S (f a) (g b)) :
    Corresponds S (p >>= f) (q >>= g) := by
  intro s t hst
  have hrun := hpq s t hst
  have hp : (p >>= f).run s = match p.run s with
      | (.ok a, s) => (f a).run s
      | (.error e, s) => (.error e, s) := by
    change (match p.run s with
      | (x, s) => ExceptT.bindCont f x s) = _
    rcases p.run s with ⟨_ | _, _⟩ <;> rfl
  have hq : (q >>= g).run t = match q.run t with
      | (.ok b, t) => (g b).run t
      | (.error e, t) => (.error e, t) := by
    change (match q.run t with
      | (x, t) => ExceptT.bindCont g x t) = _
    rcases q.run t with ⟨_ | _, _⟩ <;> rfl
  rw [hp, hq]
  generalize p.run s = x at hrun ⊢
  generalize q.run t = y at hrun ⊢
  cases hrun with
  | ok hab hst => exact hfg _ _ hab _ _ hst
  | error hst => exact .error hst

theorem corresponds_map {p : Action α} {q : Action β} {f : α → γ} {g : β → δ}
    (hpq : Corresponds R p q) (hfg : ∀ a b, R a b → S (f a) (g b)) :
    Corresponds S (f <$> p) (g <$> q) := by
  rw [map_eq_pure_bind, map_eq_pure_bind]
  exact corresponds_bind hpq fun a b hab => corresponds_pure (hfg a b hab)

/-- What needs no session goes the same way in both. -/
theorem corresponds_lift (e : Except RuleError α) :
    Corresponds Eq (liftM e : Action α) (liftM e) := by
  intro s t hst
  cases e with
  | ok a => exact .ok rfl hst
  | error e => exact .error hst

/-- What needs the variables only goes the same way in both. -/
theorem corresponds_onVariables (effect : ExceptT RuleError (StateM Variables) α) :
    Corresponds Eq (onVariables effect) (onVariables effect) := by
  intro s t hst
  change Alike Eq ((effect.run s.vars).1, { s with vars := (effect.run s.vars).2 })
    ((effect.run t.vars).1, { t with vars := (effect.run t.vars).2 })
  rw [← hst.vars]
  rcases effect.run s.vars with ⟨e | a, vars⟩
  · exact .error ⟨hst.left, hst.right, rfl⟩
  · exact .ok rfl ⟨hst.left, hst.right, rfl⟩

theorem corresponds_get : Corresponds Agree (get : Action Session) get :=
  fun _ _ hst => .ok hst hst

/-- The variables are written the same way in both. -/
theorem corresponds_modifyVars (f : Variables → Variables) :
    Corresponds Eq (modify (fun s => { s with vars := f s.vars }) : Action Unit)
      (modify fun s => { s with vars := f s.vars }) :=
  fun _ _ hst => .ok rfl ⟨hst.left, hst.right, congrArg f hst.vars⟩

theorem corresponds_mapM {f : γ → Action α} {g : γ → Action α}
    (h : ∀ c, Corresponds Eq (f c) (g c)) (cs : List γ) :
    Corresponds Eq (cs.mapM f) (cs.mapM g) := by
  induction cs with
  | nil =>
    rw [List.mapM_nil, List.mapM_nil]
    exact corresponds_pure rfl
  | cons c cs ih =>
    rw [List.mapM_cons, List.mapM_cons]
    refine corresponds_bind (h c) ?_
    rintro a _ rfl
    refine corresponds_bind ih ?_
    rintro as _ rfl
    exact corresponds_pure rfl

end Corresponds

/-! ### Compiled rules -/

/-- The two are the same but for their marks. -/
def SameValue {α : Type} (a b : Shared α) : Prop := a.value = b.value

theorem alike_of_map_eq {α : Type} {x y : Except RuleError (Shared α)} {s t : Session}
    (hxy : x.map Shared.value = y.map Shared.value) (hst : s.Agree t) :
    Alike SameValue (x, s) (y, t) := by
  cases x with
  | ok a =>
    cases y with
    | ok b => exact .ok (Except.ok.inj hxy) hst
    | error _ => cases hxy
  | error e =>
    cases y with
    | ok _ => cases hxy
    | error _ => cases hxy; exact .error hst

theorem source_eq_of_agree {s t : Session} (hst : s.Agree t) (raw : Text) (fills : Bool) :
    s.source raw fills = t.source raw fills := by
  rw [source, source, hst.vars]

/-- A session that keeps only what compiling gives answers what compiling the rule now gives. -/
theorem map_value_rule {s : Session} (hs : s.cache.Sound) (raw : Text) (mode : Mode)
    (fills : Bool) : ((rule raw mode fills).run s).1.map Shared.value =
      Rule.compile (s.source raw fills) mode :=
  RuleCache.fetch_value _ _ (_, mode) hs.rules

theorem map_value_step {s : Session} (hs : s.cache.Sound) (raw : Text) (mode : Mode)
    (fills : Bool) : ((step raw mode fills).run s).1.map Shared.value =
      Rule.compileSingle (s.source raw fills) mode :=
  RuleCache.fetch_value _ _ (_, mode) hs.steps

theorem map_value_variableMap {s : Session} (hs : s.cache.Sound) (raw : Text)
    (flag : VariableFlag) : ((variableMap raw flag).run s).1.map Shared.value =
      VariableMap.compile raw flag :=
  RuleCache.fetch_value _ _ (raw, flag) hs.maps

theorem corresponds_rule (raw : Text) (mode : Mode) (fills : Bool) :
    Corresponds SameValue (rule raw mode fills) (rule raw mode fills) := by
  intro s t hst
  refine alike_of_map_eq ?_ ⟨⟨?_, hst.left.steps, hst.left.maps⟩,
    ⟨?_, hst.right.steps, hst.right.maps⟩, hst.vars⟩
  · rw [← source_eq_of_agree hst]
    exact (RuleCache.fetch_value _ _ (_, mode) hst.left.rules).trans
      (RuleCache.fetch_value _ _ (_, mode) hst.right.rules).symm
  · exact RuleCache.fetch_sound _ _ (_, mode) hst.left.rules
  · exact RuleCache.fetch_sound _ _ (_, mode) hst.right.rules

theorem corresponds_step (raw : Text) (mode : Mode) (fills : Bool) :
    Corresponds SameValue (step raw mode fills) (step raw mode fills) := by
  intro s t hst
  refine alike_of_map_eq ?_ ⟨⟨hst.left.rules, ?_, hst.left.maps⟩,
    ⟨hst.right.rules, ?_, hst.right.maps⟩, hst.vars⟩
  · rw [← source_eq_of_agree hst]
    exact (RuleCache.fetch_value _ _ (_, mode) hst.left.steps).trans
      (RuleCache.fetch_value _ _ (_, mode) hst.right.steps).symm
  · exact RuleCache.fetch_sound _ _ (_, mode) hst.left.steps
  · exact RuleCache.fetch_sound _ _ (_, mode) hst.right.steps

theorem corresponds_variableMap (raw : Text) (flag : VariableFlag) :
    Corresponds SameValue (variableMap raw flag) (variableMap raw flag) := by
  intro s t hst
  refine alike_of_map_eq ?_ ⟨⟨hst.left.rules, hst.left.steps, ?_⟩,
    ⟨hst.right.rules, hst.right.steps, ?_⟩, hst.vars⟩
  · exact (RuleCache.fetch_value _ _ (raw, flag) hst.left.maps).trans
      (RuleCache.fetch_value _ _ (raw, flag) hst.right.maps).symm
  · exact RuleCache.fetch_sound _ _ (raw, flag) hst.left.maps
  · exact RuleCache.fetch_sound _ _ (raw, flag) hst.right.maps

end Session

namespace Extractor

open Session (Corresponds corresponds_bind corresponds_get corresponds_lift corresponds_map
  corresponds_mapM corresponds_modifyVars corresponds_onVariables corresponds_pure
  corresponds_rule corresponds_step corresponds_variableMap)

/-- The extractor with the setting whether compiled rules are kept. -/
def keeping (x : Extractor) (keeps : Bool) : Extractor :=
  { x with config := { x.config with keepsRules := keeps } }

/-! ### What an extractor does -/

section Correspondence

variable (x : Extractor) (keeps : Bool)

theorem corresponds_single (p : Primitive) (rule : Text) :
    Corresponds Eq (x.single p rule) ((x.keeping keeps).single p rule) := by
  refine corresponds_bind (corresponds_rule rule p.mode true) fun a b hab => ?_
  rw [hab]
  exact corresponds_onVariables _

theorem corresponds_read (doc : Document) (rule : Text) (target : Target) :
    Corresponds Eq (x.read doc rule target) ((x.keeping keeps).read doc rule target) := by
  refine corresponds_bind (corresponds_lift (doc.primitive.readDirect? rule target)) ?_
  rintro direct _ rfl
  cases direct with
  | some s => exact corresponds_pure rfl
  | none => exact x.corresponds_single keeps doc.primitive rule

theorem corresponds_address (doc : Document) (rule : Text) :
    Corresponds Eq (x.address doc rule) ((x.keeping keeps).address doc rule) := by
  refine corresponds_bind (x.corresponds_read keeps doc rule .address) ?_
  rintro raw _ rfl
  exact corresponds_lift (Url.resolve x.config.baseUrl raw)

theorem corresponds_texts (doc : Document) (rule : Text) :
    Corresponds Eq (x.texts doc rule) ((x.keeping keeps).texts doc rule) := by
  refine corresponds_bind (corresponds_rule rule doc.primitive.mode true) fun a b hab => ?_
  rw [hab]
  exact corresponds_onVariables _

theorem corresponds_addresses (doc : Document) (rule : Text) :
    Corresponds Eq (x.addresses doc rule) ((x.keeping keeps).addresses doc rule) := by
  refine corresponds_bind (x.corresponds_texts keeps doc rule) ?_
  rintro raws _ rfl
  exact corresponds_lift (raws.mapM (Url.resolve x.config.baseUrl))

theorem corresponds_value (doc : Document) (flag : VariableFlag) (rule : Text) :
    Corresponds Eq (x.value doc flag rule) ((x.keeping keeps).value doc flag rule) := by
  cases flag with
  | content => exact x.corresponds_read keeps doc rule .text
  | url => exact x.corresponds_address keeps doc rule

theorem corresponds_collect (doc : Document) (rule : Text) (flag : VariableFlag) :
    Corresponds Eq (x.collect doc rule flag) ((x.keeping keeps).collect doc rule flag) := by
  unfold collect
  split
  · exact corresponds_bind corresponds_get fun s t hst => corresponds_pure hst.vars
  · refine corresponds_bind (corresponds_variableMap rule flag) fun a b hab => ?_
    rw [hab]
    refine corresponds_bind (R := Eq) (corresponds_mapM (fun entry => ?_) _) ?_
    · refine corresponds_bind (x.corresponds_value keeps doc _ entry.2) ?_
      rintro found _ rfl
      exact corresponds_pure rfl
    · rintro found _ rfl
      refine corresponds_bind (corresponds_modifyVars fun vars =>
        vars.putAll (found.filter (!·.2.isEmpty))) fun _ _ _ => ?_
      exact corresponds_bind corresponds_get fun s t hst => corresponds_pure hst.vars

end Correspondence

end Extractor

/-! ### Requests -/

/-- The answer with the mark of a compiled rule taken off: a mark tells a kept rule from one that
was compiled anew, and is no part of its value. -/
def Answer.unmarked : Answer → Answer
  | .rule compiled => .rule ⟨0, compiled.value⟩
  | .step compiled => .step ⟨0, compiled.value⟩
  | .variableMap compiled => .variableMap ⟨0, compiled.value⟩
  | answer => answer

namespace Extractor

open Session (Corresponds corresponds_bind corresponds_get corresponds_map corresponds_modifyVars
  corresponds_pure corresponds_rule corresponds_step corresponds_variableMap)

/-- The two answers are the same but for the marks of compiled rules. -/
def SameAnswer (a b : Answer) : Prop := a.unmarked = b.unmarked

/-- Every request but that for the settings is answered alike, whether compiled rules are kept. -/
theorem corresponds_answer (x : Extractor) (keeps : Bool) {r : Request} (hr : r ≠ .config) :
    Corresponds SameAnswer (x.answer r) ((x.keeping keeps).answer r) := by
  have hsame {α : Type} (f : α → Answer) (a b : α) (hab : a = b) : SameAnswer (f a) (f b) := by
    rw [SameAnswer, hab]
  cases r with
  | text doc rule => exact corresponds_map (x.corresponds_read keeps doc rule .text) (hsame _)
  | rawAddress doc rule =>
    exact corresponds_map (x.corresponds_read keeps doc rule .address) (hsame _)
  | address doc rule => exact corresponds_map (x.corresponds_address keeps doc rule) (hsame _)
  | texts doc rule => exact corresponds_map (x.corresponds_texts keeps doc rule) (hsame _)
  | addresses doc rule => exact corresponds_map (x.corresponds_addresses keeps doc rule) (hsame _)
  | collect doc rule flag =>
    exact corresponds_map (x.corresponds_collect keeps doc rule flag) (hsame _)
  | put name value =>
    exact corresponds_bind (corresponds_modifyVars (·.put name value)) fun _ _ _ =>
      corresponds_pure rfl
  | get name =>
    refine corresponds_bind corresponds_get fun s t hst => corresponds_pure ?_
    rw [SameAnswer, hst.vars]
  | rule raw mode fills =>
    exact corresponds_map (corresponds_rule raw mode fills) fun a b hab =>
      congrArg (fun value => Answer.rule ⟨0, value⟩) hab
  | step raw mode fills =>
    exact corresponds_map (corresponds_step raw mode fills) fun a b hab =>
      congrArg (fun value => Answer.step ⟨0, value⟩) hab
  | variableMap raw flag =>
    exact corresponds_map (corresponds_variableMap raw flag) fun a b hab =>
      congrArg (fun value => Answer.variableMap ⟨0, value⟩) hab
  | config => exact (hr rfl).elim

/-- The session after a list of requests, from the first on. -/
def after (x : Extractor) (history : List Request) : Session :=
  history.foldl (fun s r => ((x.answer r).run s).2) x.start

/-- A request leaves everything kept as compiling gives it. -/
theorem sound_answer (x : Extractor) (r : Request) {s : Session} (hs : s.cache.Sound) :
    (((x.answer r).run s).2).cache.Sound := by
  by_cases hr : r = .config
  · rw [hr]
    exact hs
  · have hrun := x.corresponds_answer x.config.keepsRules hr s s ⟨hs, hs, rfl⟩
    change Session.Alike SameAnswer ((x.answer r).run s) ((x.answer r).run s) at hrun
    generalize (x.answer r).run s = outcome at hrun ⊢
    cases hrun with
    | ok _ hst => exact hst.left
    | error hst => exact hst.left

/-- After any requests everything kept is as compiling gives it. -/
theorem sound_after (x : Extractor) (history : List Request) :
    (x.after history).cache.Sound := by
  unfold after
  have hstart : x.start.cache.Sound := RuleCache.sound_empty x.config.keepsRules
  generalize x.start = s at hstart
  induction history generalizing s with
  | nil => exact hstart
  | cons r history ih => exact ih _ (x.sound_answer r hstart)

/-- What is seen of an outcome: the answer without marks or the error, and the variables. -/
def observed (outcome : Except RuleError Answer × Session) : Except RuleError Answer × Variables :=
  (outcome.1.map Answer.unmarked, outcome.2.vars)

/-- A session that has just begun, with variables. -/
def startWith (x : Extractor) (vars : Variables) : Session := { x.start with vars }

/-- Whatever was asked before, failed requests included, a request is answered and leaves the
variables as in a session that has just begun with the same variables, whether that one keeps
compiled rules or not. -/
theorem answer_eq_of_fresh (x : Extractor) (history : List Request) {r : Request}
    (hr : r ≠ .config) (keeps : Bool) :
    observed ((x.answer r).run (x.after history)) =
      observed (((x.keeping keeps).answer r).run
        ((x.keeping keeps).startWith (x.after history).vars)) := by
  have hagree : Session.Agree (x.after history)
      ((x.keeping keeps).startWith (x.after history).vars) :=
    ⟨x.sound_after history, RuleCache.sound_empty keeps, rfl⟩
  have hrun := x.corresponds_answer keeps hr _ _ hagree
  generalize (x.answer r).run (x.after history) = outcome at hrun ⊢
  generalize ((x.keeping keeps).answer r).run _ = outcome' at hrun ⊢
  cases hrun with
  | ok hab hst => exact Prod.ext (congrArg Except.ok hab) hst.vars
  | error hst => exact Prod.ext rfl hst.vars

/-- Here a rule was compiled with its placeholder filled, another one failed to compile, and the
variable was written anew before the first rule is asked for again. -/
theorem answer_eq_of_fresh_rewritten :
    let x : Extractor := ⟨Config.usual, fun _ v => return v⟩
    let r := Request.rule "\x7b\x7ba\x7d\x7d -> b".toList .css true
    let history := [.put ['a'] ['p'], r, .rule ['('] .css false, .put ['a'] ['q']]
    r ≠ .config ∧
      observed ((x.answer r).run (x.after history)) =
        observed (((x.keeping false).answer r).run
          ((x.keeping false).startWith (x.after history).vars)) := by
  intro x r history
  have hr : r ≠ .config := nofun
  exact ⟨hr, x.answer_eq_of_fresh history hr false⟩

end Extractor

end Extraction
