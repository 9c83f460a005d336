import Extraction.Proofs.ScriptWrites
import Mathlib.Data.List.Perm.Basic

/-!
# Reading without scripts is independent of the order

Requests that read texts and addresses by rules without scripts may be made in any order. What a
session keeps of them tells no later one anything that compiling its rule does not tell, and no
variable changes, so that each is answered as if it were made alone, whether others fail or not.

## Main definitions

* `Request.ReadsWithoutScript`: the requests that read by a rule without scripts
* `Extractor.answerAll`: answers requests one after the other
-/

namespace Extraction

/-- The document and the rule of a request that reads texts or addresses. -/
def Request.reads? : Request → Option (Document × Text)
  | .text doc raw | .rawAddress doc raw | .address doc raw | .texts doc raw
  | .addresses doc raw => some (doc, raw)
  | _ => none

/-- A request that reads by a rule that, its placeholders filled, compiles to steps without scripts
or does not compile. -/
def Request.ReadsWithoutScript (vs : Variables) (r : Request) : Prop :=
  ∃ doc raw, r.reads? = some (doc, raw) ∧
    ∀ compiled, Rule.compile (vs.fill raw) doc.primitive.mode = .ok compiled →
      ∀ step ∈ compiled.steps, step.scripts = []

namespace Extractor

/-- Answers requests, from the first on: all the answers, and the session after the last of them. -/
def answerAll (x : Extractor) : List Request → Session → List (Except RuleError Answer) × Session
  | [], s => ([], s)
  | r :: rs, s =>
    let (answer, s) := (x.answer r).run s
    let (answers, s) := x.answerAll rs s
    (answer :: answers, s)

variable {x : Extractor} {doc : Document} {rule : Text} {s t : Session}

/-! ### Reading writes nothing -/

section Vars

/-- What a compiled rule is used for changes no variable if it does not for the rule that the text
compiles to. -/
theorem vars_of_compiled {α : Type} {f : Rule → Effect α} (hs : s.cache.Sound) {mode : Mode}
    (hf : ∀ compiled, Rule.compile (s.vars.fill rule) mode = .ok compiled →
      ∀ vs, ((f compiled).run vs).2 = vs) :
    ((Session.rule rule mode true >>= fun compiled =>
      Session.onVariables (f compiled.value)).run s).2.vars = s.vars := by
  have hvalue := Session.map_value_rule hs rule mode true
  have hvars := Session.vars_rule rule mode true s
  rw [Session.source, if_pos rfl] at hvalue
  rw [run_bind]
  generalize (Session.rule rule mode true).run s = outcome at hvalue hvars ⊢
  obtain ⟨e | compiled, t⟩ := outcome
  · exact hvars
  · exact (hf compiled.value hvalue.symm t.vars).trans hvars

variable (hs : s.cache.Sound)
  (hrule : ∀ compiled, Rule.compile (s.vars.fill rule) doc.primitive.mode = .ok compiled →
    ∀ step ∈ compiled.steps, step.scripts = [])

include hs hrule

theorem vars_read (target : Target) : ((x.read doc rule target).run s).2.vars = s.vars := by
  rw [run_read]
  obtain e | _ | found := doc.primitive.readDirect? rule target
  · rfl
  · exact vars_of_compiled hs fun compiled h =>
      Rule.vars_applySingle x.engine (hrule compiled h) doc.primitive
  · rfl

theorem vars_texts : ((x.texts doc rule).run s).2.vars = s.vars :=
  vars_of_compiled hs fun compiled h =>
    Rule.vars_applyList x.engine (hrule compiled h) doc.primitive

end Vars

/-! ### One request -/

/-- What comes after an action leaves the state to it if it changes none. -/
theorem state_of_bind {α β : Type} {p : Session.Action α} {f : α → Session.Action β}
    (hf : ∀ a t, ((f a).run t).2 = t) (s : Session) : ((p >>= f).run s).2 = (p.run s).2 := by
  rw [run_bind]
  rcases p.run s with ⟨e | a, t⟩
  · rfl
  · exact hf a t

theorem state_of_map {α β : Type} (f : α → β) (p : Session.Action α) (s : Session) :
    ((f <$> p).run s).2 = (p.run s).2 := by
  rw [map_eq_pure_bind]
  exact state_of_bind (fun _ _ => rfl) s

theorem state_liftM {α : Type} (e : Except RuleError α) (s : Session) :
    ((liftM e : Session.Action α).run s).2 = s := by
  cases e <;> rfl

theorem vars_answer {r : Request} (hs : s.cache.Sound) (hr : r.ReadsWithoutScript s.vars) :
    ((x.answer r).run s).2.vars = s.vars := by
  obtain ⟨doc, rule, hreads, hrule⟩ := hr
  cases r with
  | text | rawAddress =>
    cases hreads
    rw [answer, state_of_map]
    exact vars_read hs hrule _
  | address =>
    cases hreads
    rw [answer, state_of_map, address, state_of_bind fun _ => state_liftM _]
    exact vars_read hs hrule .address
  | texts =>
    cases hreads
    rw [answer, state_of_map]
    exact vars_texts hs hrule
  | addresses =>
    cases hreads
    rw [answer, state_of_map, addresses, state_of_bind fun _ => state_liftM _]
    exact vars_texts hs hrule
  | _ => cases hreads

/-- Reading is answered alike in sessions that agree. -/
theorem corresponds_of_reads {r : Request} {found : Document × Text} (hr : r.reads? = some found) :
    Session.Corresponds Eq (x.answer r) (x.answer r) := by
  let keeps := x.config.keepsRules
  cases r with
  | text doc rule =>
    exact Session.corresponds_map (x.corresponds_read keeps doc rule .text) fun _ _ =>
      congrArg Answer.text
  | rawAddress doc rule =>
    exact Session.corresponds_map (x.corresponds_read keeps doc rule .address) fun _ _ =>
      congrArg Answer.text
  | address doc rule =>
    exact Session.corresponds_map (x.corresponds_address keeps doc rule) fun _ _ =>
      congrArg Answer.text
  | texts doc rule =>
    exact Session.corresponds_map (x.corresponds_texts keeps doc rule) fun _ _ =>
      congrArg Answer.texts
  | addresses doc rule =>
    exact Session.corresponds_map (x.corresponds_addresses keeps doc rule) fun _ _ =>
      congrArg Answer.texts
  | _ => cases hr

/-- In a session that agrees with another one a request that reads without scripts is answered as
there, and leaves a session that still agrees. -/
theorem answer_of_agree {r : Request} (hr : r.ReadsWithoutScript s.vars) (hst : s.Agree t) :
    ((x.answer r).run t).1 = ((x.answer r).run s).1 ∧ s.Agree ((x.answer r).run t).2 := by
  obtain ⟨doc, rule, hreads, -⟩ := id hr
  have halike := corresponds_of_reads (x := x) hreads s t hst
  have hvars := vars_answer (x := x) hst.left hr
  generalize (x.answer r).run s = outcome at halike hvars ⊢
  generalize (x.answer r).run t = outcome' at halike ⊢
  cases halike with
  | ok hanswer hagree =>
    exact ⟨congrArg Except.ok hanswer.symm, hst.left, hagree.right, hvars.symm.trans hagree.vars⟩
  | error hagree => exact ⟨rfl, hst.left, hagree.right, hvars.symm.trans hagree.vars⟩

/-! ### All requests -/

theorem answerAll_of_agree {rs : List Request} (hrs : ∀ r ∈ rs, r.ReadsWithoutScript s.vars)
    (hst : s.Agree t) :
    (x.answerAll rs t).1 = rs.map (fun r => ((x.answer r).run s).1) ∧
      s.Agree (x.answerAll rs t).2 := by
  induction rs generalizing t with
  | nil => exact ⟨rfl, hst⟩
  | cons r rs ih =>
    obtain ⟨hr, hrs⟩ := List.forall_mem_cons.mp hrs
    obtain ⟨hanswer, hafter⟩ := answer_of_agree (x := x) hr hst
    obtain ⟨hanswers, hleft⟩ := ih hrs hafter
    refine ⟨?_, hleft⟩
    rw [List.map_cons, ← hanswer, ← hanswers]
    rfl

/-- Answering requests goes on with a session as its history does. -/
theorem session_answerAll (history rs : List Request) :
    (x.answerAll rs (x.after history)).2 = x.after (history ++ rs) := by
  induction rs generalizing history with
  | nil => rw [List.append_nil]; rfl
  | cons r rs ih =>
    have hnext : ((x.answer r).run (x.after history)).2 = x.after (history ++ [r]) := by
      simp only [after, List.foldl_append, List.foldl_cons, List.foldl_nil]
    rw [List.append_cons, ← ih, ← hnext]
    rfl

/-- Requests that read without scripts are independent: made in any order, each of them is answered
as if it were made alone, with a value or with an error, and after each of them all variables are as
they were at the start. -/
theorem answerAll_of_readsWithoutScript (x : Extractor) (history : List Request)
    {calls order : List Request}
    (hcalls : ∀ r ∈ calls, r.ReadsWithoutScript (x.after history).vars)
    (horder : order.Perm calls) :
    let s := x.after history
    (x.answerAll order s).1 = order.map (fun r => ((x.answer r).run s).1) ∧
      (order.zip (x.answerAll order s).1).Perm (calls.zip (x.answerAll calls s).1) ∧
      ∀ n, (x.after (history ++ order.take n)).vars = s.vars := by
  intro s
  have hagree : s.Agree s := ⟨x.sound_after history, x.sound_after history, rfl⟩
  have hreads : ∀ r ∈ order, r.ReadsWithoutScript s.vars := fun r hr =>
    hcalls r (horder.mem_iff.mp hr)
  have hanswers := (answerAll_of_agree (x := x) hreads hagree).1
  refine ⟨hanswers, ?_, fun n => ?_⟩
  · rw [hanswers, (answerAll_of_agree (x := x) hcalls hagree).1, ← List.map_prod_left_eq_zip,
      ← List.map_prod_left_eq_zip]
    exact horder.map _
  · rw [← session_answerAll]
    have htake : ∀ r ∈ order.take n, r.ReadsWithoutScript s.vars := fun r hr =>
      hreads r (List.mem_of_mem_take hr)
    exact (answerAll_of_agree htake hagree).2.vars.symm

/-- Of three requests one is malformed, and one finds an address that cannot be completed; a script
would have written the variable. -/
theorem answerAll_of_readsWithoutScript_failing :
    let writing : Engine := fun _ v => do
      modify (·.put ['a'] ['y'])
      return v
    let x : Extractor := ⟨Config.usual, writing⟩
    let doc := Document.ofPrimitive (.object (.obj [(['x'], .str "/b".toList)]))
    let text := Request.text doc "\x7b\x7ba\x7d\x7d".toList
    let texts := Request.texts doc ['(']
    let address := Request.address doc ['x']
    let history := [Request.put ['a'] ['x']]
    let s := x.after history
    (∀ r ∈ [text, texts, address], r.ReadsWithoutScript s.vars) ∧
      [address, texts, text].Perm [text, texts, address] ∧
      (x.answerAll [address, texts, text] s).1 =
        [address, texts, text].map (fun r => ((x.answer r).run s).1) ∧
      [address, texts, text].map (fun r => ((x.answer r).run s).1.toOption.isSome) =
        [false, false, true] ∧
      (x.after (history ++ [address, texts, text])).vars = s.vars := by
  intro writing x doc text texts address history s
  have hreads {r : Request} {raw : Text} (hr : r.reads? = some (doc, raw))
      (hraw : (Rule.compile (s.vars.fill raw) .json).toOption.all
        (fun compiled => compiled.steps.all (·.scripts.isEmpty)) = true) :
      r.ReadsWithoutScript s.vars := by
    refine ⟨doc, raw, hr, fun compiled hcompile step hstep => ?_⟩
    change Rule.compile _ .json = _ at hcompile
    rw [hcompile] at hraw
    exact List.isEmpty_iff.mp (List.all_eq_true.mp hraw step hstep)
  have hcalls : ∀ r ∈ [text, texts, address], r.ReadsWithoutScript s.vars := by
    simp only [List.forall_mem_cons]
    exact ⟨hreads rfl (by decide +kernel), hreads rfl (by decide +kernel),
      hreads rfl (by decide +kernel), fun _ h => absurd h List.not_mem_nil⟩
  have horder : [address, texts, text].Perm [text, texts, address] :=
    (List.reverse_perm [text, texts, address])
  obtain ⟨hanswers, -, hvars⟩ := answerAll_of_readsWithoutScript x history hcalls horder
  exact ⟨hcalls, horder, hanswers, by decide +kernel, hvars 3⟩

end Extractor

end Extraction
