import Extraction.Session.Variables
import Mathlib.Data.List.Basic
import Mathlib.Data.List.Induction

/-!
# Variables that handles share

A handle that is cloned gives another one to the same variables, so the handles fall into families:
two handles are akin if they come, by clones of clones, from one handle that was created. What is
seen through a handle is told by the history alone. It is what the handles akin to it have written,
one text after the other; what others write never shows.

## Main definitions

* `VariableStores.Operation`: what can be done with handles
* `VariableStores.Course`: stores together with what has been read from them
* `VariableStores.ComesFrom`, `VariableStores.Akin`: how handles are related, by a history
* `VariableStores.written`: what the family of a handle has written in a history
-/

namespace Extraction

/-- Of the texts that are written under a name the last one counts. -/
theorem Variables.get?_putAll (vs : Variables) (entries : List (Text × Text)) (name : Text) :
    (vs.putAll entries).get? name = (entries.reverse.lookup name).or (vs.get? name) := by
  induction entries generalizing vs with
  | nil => rfl
  | cons entry rest ih =>
    obtain ⟨key, value⟩ := entry
    change ((vs.put key value).putAll rest).get? name = _
    have hone : [(key, value)].lookup name = if name = key then some value else none := by
      rw [List.lookup_cons]
      by_cases hname : name = key
      · simp [hname]
      · simp [beq_eq_false_iff_ne.2 hname, hname]
    rw [ih, get?_put, List.reverse_cons, List.lookup_append, hone, Option.or_assoc]
    by_cases hname : name = key <;> simp [hname]

theorem Variables.putAll_append (vs : Variables) (first second : List (Text × Text)) :
    vs.putAll (first ++ second) = (vs.putAll first).putAll second := List.foldl_append

namespace VariableStores

/-! ### Histories -/

/-- What can be done with handles. They are numbered in the order in which they are made. -/
inductive Operation where
  | create
  | clone (handle : Nat)
  | put (handle : Nat) (name value : Text)
  | putAll (handle : Nat) (entries : List (Text × Text))
  | get (handle : Nat) (name : Text)
  | snapshot (handle : Nat)

namespace Operation

/-- The handle that is used. -/
def handle? : Operation → Option Nat
  | create => none
  | clone h | put h _ _ | putAll h _ | get h _ | snapshot h => some h

/-- Whether a handle is made. -/
def makesHandle : Operation → Bool
  | create | clone _ => true
  | _ => false

/-- What is written, in the order of writing. -/
def entries : Operation → List (Text × Text)
  | put _ name value => [(name, value)]
  | putAll _ entries => entries
  | _ => []

end Operation

/-- What is read: the text of a name, or all variables at once. -/
inductive Reading where
  | text (found : Option Text)
  | all (vars : Variables)

/-- Stores, and what has been read from them so far, the earliest first. -/
structure Course where
  stores : VariableStores
  readings : List Reading

namespace Course

/-- There is no handle yet. -/
def start : Course := ⟨⟨[], []⟩, []⟩

def perform (t : Course) : Operation → Course
  | .create => { t with stores := t.stores.create }
  | .clone h => { t with stores := t.stores.clone h }
  | .put h name value => { t with stores := t.stores.put h name value }
  | .putAll h entries => { t with stores := t.stores.putAll h entries }
  | .get h name => { t with readings := t.readings ++ [.text (t.stores.get? h name)] }
  | .snapshot h => { t with readings := t.readings ++ [.all (t.stores.view h)] }

def run (ops : List Operation) : Course := ops.foldl perform start

theorem run_concat (ops : List Operation) (op : Operation) :
    run (ops ++ [op]) = (run ops).perform op := by
  simp [run]

end Course

/-- The operations that make handles, each at the number of its handle. -/
def makers (ops : List Operation) : List Operation := ops.filter Operation.makesHandle

/-- Every operation uses a handle that was made before it. -/
def IsProper (ops : List Operation) : Prop :=
  ∀ i, ∀ hi : i < ops.length, ∀ h ∈ ops[i].handle?, h < (makers (ops.take i)).length

instance (ops : List Operation) : Decidable (IsProper ops) :=
  inferInstanceAs (Decidable (∀ i, ∀ hi : i < ops.length, ∀ h ∈ ops[i].handle?, _ < _))

/-- The handle `root` was created, and the handle comes from it by clones of clones. -/
inductive ComesFrom (ops : List Operation) (root : Nat) : (handle : Nat) → Prop
  | created : (makers ops)[root]? = some .create → ComesFrom ops root root
  | cloned {source handle : Nat} : (makers ops)[handle]? = some (.clone source) →
      source < handle → ComesFrom ops root source → ComesFrom ops root handle

/-- The two handles come from the same one. -/
def Akin (ops : List Operation) (g h : Nat) : Prop :=
  ∃ root, ComesFrom ops root g ∧ ComesFrom ops root h

/-- The handle that a handle comes from. -/
def origin? (ops : List Operation) (handle : Nat) : Option Nat :=
  match (makers ops)[handle]? with
  | some .create => some handle
  | some (.clone source) => if source < handle then origin? ops source else none
  | _ => none
termination_by handle

theorem comesFrom_iff {ops : List Operation} {root handle : Nat} :
    ComesFrom ops root handle ↔ origin? ops handle = some root := by
  constructor
  · intro h
    induction h with
    | created hmaker => rw [origin?, hmaker]
    | cloned hmaker hlt _ ih => rw [origin?, hmaker]; simp [hlt, ih]
  · fun_induction origin? ops handle with
    | case1 handle hmaker =>
      intro h
      cases h
      exact .created hmaker
    | case2 handle source hmaker hlt ih => exact fun h => .cloned hmaker hlt (ih h)
    | case3 handle source hmaker hlt => exact nofun
    | case4 handle hcreate hclone => exact nofun

instance (ops : List Operation) (g h : Nat) : Decidable (Akin ops g h) :=
  decidable_of_iff (∃ root ∈ origin? ops g, origin? ops h = some root)
    (by simp [Akin, comesFrom_iff])

/-- What has been written through the handles akin to a handle, in the order of writing. -/
def written (ops : List Operation) (handle : Nat) : List (Text × Text) :=
  ops.flatMap fun op => if ∃ g ∈ op.handle?, Akin ops g handle then op.entries else []

/-! ### Families -/

section Families

variable {ops later : List Operation} {op : Operation} {root g h : Nat}

theorem makers_append : makers (ops ++ later) = makers ops ++ makers later :=
  List.filter_append ops later

theorem IsProper.of_append (hops : IsProper (ops ++ later)) : IsProper ops := by
  intro i hi h hh
  have := hops i (by simp; omega) h (by rwa [List.getElem_append_left hi])
  rwa [List.take_append_of_le_length (Nat.le_of_lt hi)] at this

theorem isProper_concat : IsProper (ops ++ [op]) ↔
    IsProper ops ∧ ∀ h ∈ op.handle?, h < (makers ops).length := by
  have hlast (hi : ops.length < (ops ++ [op]).length) : (ops ++ [op])[ops.length] = op :=
    List.getElem_concat_length rfl hi
  constructor
  · intro hops
    have hop := hops ops.length (by simp)
    rw [hlast, List.take_left] at hop
    exact ⟨hops.of_append, hop⟩
  · rintro ⟨hops, hop⟩ i hi
    by_cases hlt : i < ops.length
    · rw [List.getElem_append_left hlt, List.take_append_of_le_length (Nat.le_of_lt hlt)]
      exact hops i hlt
    · obtain rfl : i = ops.length := by simp at hi; omega
      rwa [hlast, List.take_left]

/-- What is used in a history is one of the handles that it has made. -/
theorem IsProper.lt (hops : IsProper ops) (hop : op ∈ ops) (hh : h ∈ op.handle?) :
    h < (makers ops).length := by
  obtain ⟨i, hi, rfl⟩ := List.getElem_of_mem hop
  have hsub : (makers (ops.take i)).Sublist (makers ops) := (List.take_sublist i ops).filter _
  exact Nat.lt_of_lt_of_le (hops i hi h hh) hsub.length_le

theorem ComesFrom.lt (hroot : ComesFrom ops root h) : h < (makers ops).length := by
  cases hroot with
  | created hmaker => exact (List.getElem?_eq_some_iff.1 hmaker).1
  | cloned hmaker => exact (List.getElem?_eq_some_iff.1 hmaker).1

theorem ComesFrom.root_le (hroot : ComesFrom ops root h) : root ≤ h := by
  induction hroot with
  | created => exact Nat.le_refl _
  | cloned _ hlt _ ih => omega

theorem ComesFrom.unique {root' : Nat} (hroot : ComesFrom ops root h)
    (hroot' : ComesFrom ops root' h) : root = root' := by
  rw [comesFrom_iff] at hroot hroot'
  exact Option.some.inj (hroot.symm.trans hroot')

/-- What has been made is not changed by what is made later. -/
theorem comesFrom_append (hh : h < (makers ops).length) :
    ComesFrom (ops ++ later) root h ↔ ComesFrom ops root h := by
  have hmaker {i : Nat} (hi : i < (makers ops).length) :
      (makers (ops ++ later))[i]? = (makers ops)[i]? := by
    rw [makers_append, List.getElem?_append_left hi]
  constructor
  · intro hroot
    induction hroot with
    | created hcreate => exact .created ((hmaker hh).symm.trans hcreate)
    | cloned hclone hlt _ ih =>
      exact .cloned ((hmaker hh).symm.trans hclone) hlt (ih (by omega))
  · intro hroot
    induction hroot with
    | created hcreate => exact .created ((hmaker hh).trans hcreate)
    | cloned hclone hlt _ ih => exact .cloned ((hmaker hh).trans hclone) hlt (ih (by omega))

theorem comesFrom_create :
    ComesFrom (ops ++ [.create]) root (makers ops).length ↔ root = (makers ops).length := by
  have hmaker : (makers (ops ++ [.create]))[(makers ops).length]? = some .create := by
    rw [makers_append]
    exact List.getElem?_concat_length
  constructor
  · intro hroot
    exact hroot.unique (.created hmaker)
  · rintro rfl
    exact .created hmaker

theorem comesFrom_clone (hg : g < (makers ops).length) :
    ComesFrom (ops ++ [.clone g]) root (makers ops).length ↔ ComesFrom ops root g := by
  have hmaker : (makers (ops ++ [.clone g]))[(makers ops).length]? = some (.clone g) := by
    rw [makers_append]
    exact List.getElem?_concat_length
  have hearlier : ComesFrom (ops ++ [.clone g]) root g ↔ ComesFrom ops root g :=
    comesFrom_append hg
  rw [← hearlier]
  constructor
  · intro hroot
    cases hroot with
    | created hcreate => cases hmaker.symm.trans hcreate
    | cloned hclone _ hsource =>
      cases hmaker.symm.trans hclone
      exact hsource
  · exact fun hroot => .cloned hmaker hg hroot

theorem Akin.symm (hgh : Akin ops g h) : Akin ops h g := by
  obtain ⟨root, hg, hh⟩ := hgh
  exact ⟨root, hh, hg⟩

theorem akin_append (hg : g < (makers ops).length) (hh : h < (makers ops).length) :
    Akin (ops ++ later) g h ↔ Akin ops g h := by
  simp only [Akin, comesFrom_append hg, comesFrom_append hh]

theorem akin_clone {source : Nat} (hsource : source < (makers ops).length)
    (hg : g < (makers ops).length) :
    Akin (ops ++ [.clone source]) g (makers ops).length ↔ Akin ops g source := by
  simp only [Akin, comesFrom_append hg, comesFrom_clone hsource]

/-- A handle that is created is akin to none that there was. -/
theorem not_akin_create (hg : g < (makers ops).length) :
    ¬ Akin (ops ++ [.create]) g (makers ops).length := by
  rintro ⟨root, hroot, hnew⟩
  rw [comesFrom_create] at hnew
  have := hroot.root_le
  omega

end Families

/-! ### What families have written -/

section Written

variable {ops : List Operation} {op : Operation} {g h : Nat}

/-- A longer history tells the same of what was written in a shorter one, for handles that are akin
to the same of its handles. -/
theorem written_append {later : List Operation} {handle : Nat} (hops : IsProper ops)
    (hakin : ∀ g < (makers ops).length, Akin (ops ++ later) g handle ↔ Akin ops g h) :
    written (ops ++ later) handle = written ops h ++
      later.flatMap fun op =>
        if ∃ g ∈ op.handle?, Akin (ops ++ later) g handle then op.entries else [] := by
  rw [written, List.flatMap_append, written]
  congr 1
  refine List.flatMap_congr fun op hop => if_congr ?_ rfl rfl
  refine exists_congr fun g => and_congr_right fun hg => hakin g (hops.lt hop hg)

theorem written_concat (hops : IsProper ops) (hop : ∀ g ∈ op.handle?, g < (makers ops).length)
    (hh : h < (makers ops).length) :
    written (ops ++ [op]) h =
      written ops h ++ if ∃ g ∈ op.handle?, Akin ops g h then op.entries else [] := by
  rw [written_append hops fun g hg => akin_append hg hh, List.flatMap_singleton]
  congr 1
  refine if_congr (exists_congr fun g => and_congr_right fun hg => ?_) rfl rfl
  exact akin_append (hop g hg) hh

theorem written_clone (hops : IsProper ops) (hg : g < (makers ops).length) :
    written (ops ++ [.clone g]) (makers ops).length = written ops g := by
  rw [written_append hops fun g' hg' => akin_clone hg hg', List.flatMap_singleton]
  simp [Operation.entries]

/-- Nothing has been written through a handle that is created just now. -/
theorem written_create (hops : IsProper ops) :
    written (ops ++ [.create]) (makers ops).length = [] := by
  rw [written, List.flatMap_eq_nil_iff]
  intro op hop
  rcases List.mem_append.1 hop with hop | hop
  · refine if_neg ?_
    rintro ⟨g, hg, hakin⟩
    exact not_akin_create (hops.lt hop hg) hakin
  · rw [List.mem_singleton.1 hop]
    simp [Operation.entries]

end Written

/-! ### What the stores are like after a history -/

section Stores

variable {s : VariableStores} {g h : Nat} {entries : List (Text × Text)}

theorem storeOf_create_of_lt (hh : h < s.handles.length) : s.create.storeOf h = s.storeOf h := by
  simp [storeOf, create, List.getElem?_append_left hh]

theorem storeOf_create_new : s.create.storeOf s.handles.length = s.stores.length := by
  simp [storeOf, create]

theorem storeOf_clone_of_lt (hh : h < s.handles.length) :
    (s.clone g).storeOf h = s.storeOf h := by
  simp [storeOf, clone, List.getElem?_append_left hh]

theorem storeOf_clone_new : (s.clone g).storeOf s.handles.length = s.storeOf g := by
  simp [storeOf, clone]

theorem view_create_of_lt (hh : h < s.handles.length) (hstore : s.storeOf h < s.stores.length) :
    s.create.view h = s.view h := by
  rw [view, storeOf_create_of_lt hh]
  simp [view, create, List.getElem?_append_left hstore]

theorem view_create_new : s.create.view s.handles.length = .empty := by
  rw [view, storeOf_create_new]
  simp [create]

theorem view_clone_of_lt (hh : h < s.handles.length) : (s.clone g).view h = s.view h := by
  rw [view, storeOf_clone_of_lt hh]
  rfl

theorem view_clone_new : (s.clone g).view s.handles.length = s.view g := by
  rw [view, storeOf_clone_new]
  rfl

/-- What is written shows through the handles that reach the same store, and only there. -/
theorem view_putAll (hstore : s.storeOf h < s.stores.length) : (s.putAll g entries).view h =
    if s.storeOf g = s.storeOf h then (s.view h).putAll entries else s.view h := by
  change (s.stores.modify (s.storeOf g) (·.putAll entries)).getD (s.storeOf h) .empty = _
  simp only [view, List.getD_eq_getElem?_getD, List.getElem?_modify,
    List.getElem?_eq_getElem hstore]
  split <;> rfl

end Stores

/-- Two handles reach the same store exactly if they are akin, and what is seen there is what their
family has written. -/
structure Tracks (ops : List Operation) (s : VariableStores) : Prop where
  length_handles : s.handles.length = (makers ops).length
  exists_root : ∀ h < (makers ops).length, ∃ root, ComesFrom ops root h
  storeOf_lt : ∀ h < (makers ops).length, s.storeOf h < s.stores.length
  storeOf_eq_iff : ∀ g < (makers ops).length, ∀ h < (makers ops).length,
    s.storeOf g = s.storeOf h ↔ Akin ops g h
  view_eq : ∀ h < (makers ops).length, s.view h = Variables.empty.putAll (written ops h)

namespace Tracks

variable {ops : List Operation} {op : Operation} {s : VariableStores} {g : Nat}

theorem start : Tracks [] Course.start.stores where
  length_handles := rfl
  exists_root _ hh := absurd hh (Nat.not_lt_zero _)
  storeOf_lt _ hh := absurd hh (Nat.not_lt_zero _)
  storeOf_eq_iff _ hg := absurd hg (Nat.not_lt_zero _)
  view_eq _ hh := absurd hh (Nat.not_lt_zero _)

variable (ht : Tracks ops s) (hops : IsProper ops)
include ht hops

/-- One more handle is made, and the others stay as they are. -/
theorem extend {s' : VariableStores} (hop : op.makesHandle = true) (hentries : op.entries = [])
    (hhandle : ∀ g ∈ op.handle?, g < (makers ops).length)
    (hlength : s'.handles.length = s.handles.length + 1)
    (hstores : s.stores.length ≤ s'.stores.length)
    (hstoreOf : ∀ h < (makers ops).length, s'.storeOf h = s.storeOf h)
    (hview : ∀ h < (makers ops).length, s'.view h = s.view h)
    (hroot : ∃ root, ComesFrom (ops ++ [op]) root (makers ops).length)
    (hnew : s'.storeOf (makers ops).length < s'.stores.length)
    (hakin : ∀ g < (makers ops).length, s'.storeOf g = s'.storeOf (makers ops).length ↔
      Akin (ops ++ [op]) g (makers ops).length)
    (hwritten : s'.view (makers ops).length =
      Variables.empty.putAll (written (ops ++ [op]) (makers ops).length)) :
    Tracks (ops ++ [op]) s' := by
  have hmakers : (makers (ops ++ [op])).length = (makers ops).length + 1 := by
    simp [makers, List.filter_append, hop]
  constructor
  case length_handles => rw [hlength, ht.length_handles, hmakers]
  -- A handle is one of those that there were, or the one that is made.
  all_goals
    rw [hmakers]
    intro h hh
    rcases Nat.lt_succ_iff_lt_or_eq.1 hh with hold | rfl
  case exists_root.inl =>
    obtain ⟨root, hroot⟩ := ht.exists_root h hold
    exact ⟨root, (comesFrom_append hold).2 hroot⟩
  case exists_root.inr => exact hroot
  case storeOf_lt.inl =>
    rw [hstoreOf h hold]
    exact Nat.lt_of_lt_of_le (ht.storeOf_lt h hold) hstores
  case storeOf_lt.inr => exact hnew
  case storeOf_eq_iff.inl =>
    intro h' hh'
    rcases Nat.lt_succ_iff_lt_or_eq.1 hh' with hold' | rfl
    · rw [hstoreOf h hold, hstoreOf h' hold', akin_append hold hold']
      exact ht.storeOf_eq_iff h hold h' hold'
    · exact hakin h hold
  case storeOf_eq_iff.inr =>
    intro h' hh'
    rcases Nat.lt_succ_iff_lt_or_eq.1 hh' with hold' | rfl
    · rw [eq_comm, hakin h' hold']
      exact ⟨Akin.symm, Akin.symm⟩
    · obtain ⟨root, hroot⟩ := hroot
      exact iff_of_true rfl ⟨root, hroot, hroot⟩
  case view_eq.inl =>
    rw [hview h hold, ht.view_eq h hold, written_concat hops hhandle hold, hentries]
    simp
  case view_eq.inr => exact hwritten

theorem create : Tracks (ops ++ [.create]) s.create := by
  have hn := ht.length_handles
  have hnew : s.create.storeOf (makers ops).length = s.stores.length := hn ▸ storeOf_create_new
  have hold {h : Nat} (hh : h < (makers ops).length) : s.create.storeOf h = s.storeOf h :=
    storeOf_create_of_lt (hn ▸ hh)
  refine ht.extend hops rfl rfl nofun ?_ ?_ (fun h hh => hold hh) ?_ ?_ ?_ ?_ ?_
  · simp [VariableStores.create]
  · simp [VariableStores.create]
  · exact fun h hh => view_create_of_lt (hn ▸ hh) (ht.storeOf_lt h hh)
  · exact ⟨_, comesFrom_create.2 rfl⟩
  · rw [hnew]
    simp [VariableStores.create]
  · intro g hg
    rw [hnew, hold hg]
    exact iff_of_false (Nat.ne_of_lt (ht.storeOf_lt g hg)) (not_akin_create hg)
  · rw [written_create hops, ← hn, view_create_new]
    rfl

theorem clone (hg : g < (makers ops).length) : Tracks (ops ++ [.clone g]) (s.clone g) := by
  have hn := ht.length_handles
  have hnew : (s.clone g).storeOf (makers ops).length = s.storeOf g := hn ▸ storeOf_clone_new
  have hold {h : Nat} (hh : h < (makers ops).length) : (s.clone g).storeOf h = s.storeOf h :=
    storeOf_clone_of_lt (hn ▸ hh)
  have hhandle : ∀ h ∈ (Operation.clone g).handle?, h < (makers ops).length := by
    intro h hh
    cases hh
    exact hg
  refine ht.extend hops rfl rfl hhandle ?_ ?_ (fun h hh => hold hh) ?_ ?_ ?_ ?_ ?_
  · simp [VariableStores.clone]
  · simp [VariableStores.clone]
  · exact fun h hh => view_clone_of_lt (hn ▸ hh)
  · obtain ⟨root, hroot⟩ := ht.exists_root g hg
    exact ⟨root, (comesFrom_clone hg).2 hroot⟩
  · rw [hnew]
    exact ht.storeOf_lt g hg
  · intro h hh
    rw [hnew, hold hh, akin_clone hg hh]
    exact ht.storeOf_eq_iff h hh g hg
  · rw [written_clone hops hg, ← hn, view_clone_new]
    exact ht.view_eq g hg

/-- No handle is made, and what is written shows through the handles akin to the one used. -/
theorem stay {s' : VariableStores} (hop : op.makesHandle = false)
    (hhandle : ∀ g ∈ op.handle?, g < (makers ops).length) (hhandles : s'.handles = s.handles)
    (hstores : s'.stores.length = s.stores.length)
    (hview : ∀ h < (makers ops).length, s'.view h = (s.view h).putAll
      (if ∃ g ∈ op.handle?, Akin ops g h then op.entries else [])) :
    Tracks (ops ++ [op]) s' := by
  have hmakers : makers (ops ++ [op]) = makers ops := by
    simp [makers, List.filter_append, hop]
  have hstoreOf (h : Nat) : s'.storeOf h = s.storeOf h := by
    rw [storeOf, hhandles, storeOf]
  constructor
  all_goals rw [hmakers]
  case length_handles => rw [hhandles, ht.length_handles]
  case exists_root =>
    intro h hh
    obtain ⟨root, hroot⟩ := ht.exists_root h hh
    exact ⟨root, (comesFrom_append hh).2 hroot⟩
  case storeOf_lt =>
    intro h hh
    rw [hstoreOf, hstores]
    exact ht.storeOf_lt h hh
  case storeOf_eq_iff =>
    intro h hh h' hh'
    rw [hstoreOf, hstoreOf, akin_append hh hh']
    exact ht.storeOf_eq_iff h hh h' hh'
  case view_eq =>
    intro h hh
    rw [hview h hh, ht.view_eq h hh, ← Variables.putAll_append, written_concat hops hhandle hh]

theorem read (hop : op.makesHandle = false) (hentries : op.entries = [])
    (hhandle : ∀ h ∈ op.handle?, h < (makers ops).length) : Tracks (ops ++ [op]) s := by
  refine ht.stay hops hop hhandle rfl rfl fun h hh => ?_
  rw [hentries, ite_self]
  rfl

theorem write (hop : op.makesHandle = false) (hhandle : op.handle? = some g)
    (hg : g < (makers ops).length) : Tracks (ops ++ [op]) (s.putAll g op.entries) := by
  refine ht.stay hops hop (by simpa [hhandle] using hg) rfl ?_ fun h hh => ?_
  · simp [VariableStores.putAll]
  · rw [view_putAll (ht.storeOf_lt h hh)]
    simp only [ht.storeOf_eq_iff g hg h hh, hhandle, Option.mem_some_iff, exists_eq_left']
    split <;> rfl

end Tracks

theorem tracks_run {ops : List Operation} (hops : IsProper ops) :
    Tracks ops (Course.run ops).stores := by
  induction ops using List.reverseRecOn with
  | nil => exact .start
  | append_singleton earlier op ih =>
    obtain ⟨hearlier, hop⟩ := isProper_concat.1 hops
    have ht := ih hearlier
    rw [Course.run_concat]
    cases op with
    | create => exact ht.create hearlier
    | clone g => exact ht.clone hearlier (hop g rfl)
    | put g name value => exact ht.write hearlier rfl rfl (hop g rfl)
    | putAll g entries => exact ht.write hearlier rfl rfl (hop g rfl)
    | get g name => exact ht.read hearlier rfl rfl hop
    | snapshot g => exact ht.read hearlier rfl rfl hop

/-! ### The whole course -/

section Whole

variable {ops later : List Operation} {g h : Nat} {name : Text}

/-- Handles that are akin are akin to the same handles, and so see the same. -/
theorem Akin.written_eq (hgh : Akin ops g h) : written ops g = written ops h := by
  have hiff (k : Nat) : Akin ops k g ↔ Akin ops k h := by
    obtain ⟨root, hg, hh⟩ := hgh
    constructor
    · rintro ⟨root', hk, hg'⟩
      exact ⟨root', hk, hg'.unique hg ▸ hh⟩
    · rintro ⟨root', hk, hh'⟩
      exact ⟨root', hk, hh'.unique hh ▸ hg⟩
  simp only [written, hiff]

/-- What is found under a name is what the family of the handle has written there last. -/
theorem get?_run (hops : IsProper ops) (hh : h < (makers ops).length) :
    (Course.run ops).stores.get? h name = (written ops h).reverse.lookup name := by
  rw [VariableStores.get?, (tracks_run hops).view_eq h hh, Variables.get?_putAll]
  exact Option.or_none

/-- A name is present once the family of the handle has written under it. -/
theorem isSome_get?_run (hops : IsProper ops) (hh : h < (makers ops).length) :
    ((Course.run ops).stores.get? h name).isSome ↔ ∃ entry ∈ written ops h, entry.1 = name := by
  simp only [get?_run hops hh, List.lookup_isSome_iff, List.mem_reverse, beq_iff_eq]
  exact exists_congr fun entry => and_congr_right fun _ => eq_comm

theorem readings_run_append (ops later : List Operation) :
    (Course.run ops).readings <+: (Course.run (ops ++ later)).readings := by
  induction later using List.reverseRecOn with
  | nil => simp
  | append_singleton later op ih =>
    rw [← List.append_assoc, Course.run_concat]
    refine ih.trans ?_
    cases op with
    | get | snapshot => exact List.prefix_append _ _
    | _ => exact List.prefix_rfl

/-- What is seen through a handle is what its family has written, one text after the other, so that
the last text counts under every name. What another family writes does not show. A name that is
present in a family stays present. And what has been read, a text or all variables at once, stays as
it was when it was read. -/
theorem handles_share_variables {ops : List Operation} (hops : IsProper ops) :
    (∀ h < (makers ops).length,
      (Course.run ops).stores.view h = Variables.empty.putAll (written ops h) ∧
      ∀ name, (Course.run ops).stores.get? h name = (written ops h).reverse.lookup name) ∧
    (∀ g < (makers ops).length, ∀ h < (makers ops).length, ¬ Akin ops g h → ∀ entries,
      ((Course.run ops).stores.putAll g entries).view h = (Course.run ops).stores.view h) ∧
    (∀ before after, ops = before ++ after → ∀ g < (makers before).length, ∀ h, Akin ops g h →
      ∀ name, ((Course.run before).stores.get? g name).isSome →
        ((Course.run ops).stores.get? h name).isSome) ∧
    (∀ before h after, ops = before ++ .snapshot h :: after →
      (Course.run before).readings ++ [.all (Variables.empty.putAll (written before h))] <+:
        (Course.run ops).readings) ∧
    ∀ before h name after, ops = before ++ .get h name :: after →
      (Course.run before).readings ++ [.text ((written before h).reverse.lookup name)] <+:
        (Course.run ops).readings := by
  have ht := tracks_run hops
  refine ⟨fun h hh => ⟨ht.view_eq h hh, fun name => get?_run hops hh⟩, ?_, ?_, ?_, ?_⟩
  · intro g hg h hh hnot entries
    rw [view_putAll (ht.storeOf_lt h hh), if_neg (mt (ht.storeOf_eq_iff g hg h hh).1 hnot)]
  · rintro before after rfl g hg h ⟨root, hroot, hroot'⟩ name hname
    obtain ⟨entry, hentry, rfl⟩ := (isSome_get?_run hops.of_append hg).1 hname
    refine (isSome_get?_run hops hroot'.lt).2 ⟨entry, ?_, rfl⟩
    rw [← Akin.written_eq ⟨root, hroot, hroot'⟩,
      written_append hops.of_append fun k hk => akin_append hk hg]
    exact List.mem_append_left _ hentry
  · rintro before h after rfl
    rw [List.append_cons before] at hops ⊢
    obtain ⟨hbefore, hhandle⟩ := isProper_concat.1 hops.of_append
    have hlater := readings_run_append (before ++ [.snapshot h]) after
    rw [Course.run_concat] at hlater
    rw [← (tracks_run hbefore).view_eq h (hhandle h rfl)]
    exact hlater
  · rintro before h name after rfl
    rw [List.append_cons before] at hops ⊢
    obtain ⟨hbefore, hhandle⟩ := isProper_concat.1 hops.of_append
    have hlater := readings_run_append (before ++ [.get h name]) after
    rw [Course.run_concat] at hlater
    rw [← get?_run hbefore (hhandle h rfl)]
    exact hlater

/-- Handle 2 is cloned from handle 0 after a text was written, and handle 3 from handle 2; handle 1
belongs to another family. One of the names is written twice at once, and once more after all
variables were read. -/
theorem handles_share_variables_cloned :
    let ops := [.create, .put 0 ['a'] ['p'], .create, .clone 0, .put 1 ['a'] ['q'], .clone 2,
      .putAll 3 [(['b'], ['r']), (['b'], ['s'])], .snapshot 0, .put 2 ['b'] ['t']]
    IsProper ops ∧
      (Course.run ops).stores.get? 0 ['a'] = some ['p'] ∧
      (Course.run ops).stores.get? 3 ['b'] = some ['t'] ∧
      (Course.run ops).stores.get? 1 ['b'] = none ∧
      [.all ⟨[(['a'], ['p']), (['b'], ['s'])]⟩] <+: (Course.run ops).readings := by
  intro ops
  have hops : IsProper ops := by decide
  obtain ⟨hview, -, -, hsnapshot, -⟩ := handles_share_variables hops
  refine ⟨hops, ?_, ?_, ?_, ?_⟩
  · rw [(hview 0 (by decide)).2]
    decide +kernel
  · rw [(hview 3 (by decide)).2]
    decide +kernel
  · rw [(hview 1 (by decide)).2]
    decide +kernel
  · have hwritten : written (ops.take 7) 0 =
        [(['a'], ['p']), (['b'], ['r']), (['b'], ['s'])] := by decide +kernel
    have hall := hsnapshot (ops.take 7) 0 (ops.drop 8) rfl
    rw [hwritten] at hall
    exact hall

end Whole

end VariableStores

end Extraction
