import Extraction.Text.Basic

/-!
# Variables

The rules and scripts of a session share variables: names with texts. Variables are written and
read, never removed.

## Main definitions

* `Variables`: names with texts
* `VariableStores`: stores of variables that are reached by handles, several handles perhaps by one
-/

namespace Extraction

/-- Names with texts, each name once, in the order of their first writing. -/
structure Variables where
  entries : List (Text × Text)

namespace Variables

/-- No variables. -/
def empty : Variables := ⟨[]⟩

/-- The text of a name. -/
def get? (vs : Variables) (name : Text) : Option Text := vs.entries.lookup name

/-- The text of a name; empty if it has none. -/
def get (vs : Variables) (name : Text) : Text := (vs.get? name).getD []

/-- The entries with the text of a name replaced, or added at the end. -/
def insert (name value : Text) : List (Text × Text) → List (Text × Text)
  | [] => [(name, value)]
  | (n, v) :: rest => if n = name then (n, value) :: rest else (n, v) :: insert name value rest

/-- The variables with a text written under a name. -/
def put (vs : Variables) (name value : Text) : Variables := ⟨insert name value vs.entries⟩

/-- The variables with texts written under names, one after the other. -/
def putAll (vs : Variables) (entries : List (Text × Text)) : Variables :=
  entries.foldl (fun vs (name, value) => vs.put name value) vs

/-- The number of names. -/
def size (vs : Variables) : Nat := vs.entries.length

theorem get?_put (vs : Variables) (name value other : Text) :
    (vs.put name value).get? other = if other = name then some value else vs.get? other := by
  have hcons (n v : Text) (rest : List (Text × Text)) : ((n, v) :: rest).lookup other =
      if other = n then some v else rest.lookup other := by
    by_cases h : other = n
    · simp [h]
    · rw [List.lookup_cons, beq_eq_false_iff_ne.2 h, if_neg h]
  unfold put get?
  induction vs.entries with
  | nil => exact hcons name value []
  | cons entry rest ih =>
    obtain ⟨n, v⟩ := entry
    dsimp only at ih
    rw [insert]
    split
    · next h => simp only [hcons, h]; split <;> rfl
    · next h =>
      simp only [hcons, ih]
      by_cases hother : other = n
      · rw [if_pos hother, if_pos hother, if_neg (hother ▸ h)]
      · rw [if_neg hother, if_neg hother]

/-- A name that nothing is written under keeps its text. -/
theorem get?_putAll_of_notMem {entries : List (Text × Text)} {name : Text}
    (h : name ∉ entries.map Prod.fst) (vs : Variables) :
    (vs.putAll entries).get? name = vs.get? name := by
  induction entries generalizing vs with
  | nil => rfl
  | cons entry rest ih =>
    rw [List.map_cons, List.mem_cons, not_or] at h
    exact (ih h.2 _).trans ((get?_put vs entry.1 entry.2 name).trans (if_neg h.1))

/-- Of texts written under distinct names each is found under its name. -/
theorem get?_putAll_of_mem {entries : List (Text × Text)} (hnames : (entries.map Prod.fst).Nodup)
    {entry : Text × Text} (h : entry ∈ entries) (vs : Variables) :
    (vs.putAll entries).get? entry.1 = some entry.2 := by
  induction entries generalizing vs with
  | nil => cases h
  | cons first rest ih =>
    obtain ⟨hfirst, hrest⟩ := List.nodup_cons.1 hnames
    rcases List.mem_cons.1 h with rfl | h
    · exact (get?_putAll_of_notMem hfirst _).trans
        ((get?_put vs entry.1 entry.2 entry.1).trans (if_pos rfl))
    · exact ih hrest h _

end Variables

/-- Stores of variables, and for every handle which store it reaches. -/
structure VariableStores where
  stores : List Variables
  handles : List Nat

namespace VariableStores

/-- One store with one handle. -/
def start : VariableStores := ⟨[.empty], [0]⟩

/-- The store that a handle reaches. -/
def storeOf (s : VariableStores) (handle : Nat) : Nat := s.handles.getD handle 0

/-- The variables that are seen through a handle. -/
def view (s : VariableStores) (handle : Nat) : Variables := s.stores.getD (s.storeOf handle) .empty

/-- A handle to the store of another handle. -/
def clone (s : VariableStores) (handle : Nat) : VariableStores :=
  ⟨s.stores, s.handles ++ [s.storeOf handle]⟩

/-- A handle to a store of its own. -/
def create (s : VariableStores) : VariableStores :=
  ⟨s.stores ++ [.empty], s.handles ++ [s.stores.length]⟩

/-- Texts written under names through a handle, one after the other. -/
def putAll (s : VariableStores) (handle : Nat) (entries : List (Text × Text)) : VariableStores :=
  ⟨s.stores.modify (s.storeOf handle) (·.putAll entries), s.handles⟩

/-- A text written under a name through a handle. -/
def put (s : VariableStores) (handle : Nat) (name value : Text) : VariableStores :=
  s.putAll handle [(name, value)]

/-- The text of a name, seen through a handle. -/
def get? (s : VariableStores) (handle : Nat) (name : Text) : Option Text := (s.view handle).get? name

end VariableStores

end Extraction
