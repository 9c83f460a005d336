import Extraction.Proofs.PathComposition
import Mathlib.Data.List.Basic
import Mathlib.Tactic.Choose

/-!
# What descending finds

A step that descends finds the values under a key anywhere inside a value. Which ones these are is
said by places: a place is the way down to a value, one position for each value on the way, and the
places to be found are those of the members under the key in all objects that a way leads to.
Descending lists each of them once, an object's own member before what is inside the object, and
else in the order in which things are stored.

## Main definitions

* `Json.below?`: the value at a place
* `Json.StoredUnder`: the places of what is stored under a key
* `Before`: the order of places in which descending lists them
-/

namespace Extraction

namespace Json

/-! ### Places -/

/-- The value at a place: each position is that of an item of an array or a member of an object. -/
def below? (v : Json) : List Nat → Option Json
  | [] => some v
  | i :: rest => v.children[i]?.bind (·.below? rest)

/-- At the place is the member under `key` of an object in `v`. Where a list of members repeats a
key, its first member with that key is the member under it. -/
def StoredUnder (key : Text) (v : Json) (place : List Nat) : Prop :=
  ∃ front members i, v.below? front = some (.obj members) ∧
    members.findIdx? (·.1 == key) = some i ∧ place = front ++ [i]

/-- One place comes before another. What stands in an object directly comes before what stands
deeper in it; else, where the ways to two places part, the one that turns to the earlier position
leads to the earlier place. -/
inductive Before : List Nat → List Nat → Prop
  | own {i j : Nat} {rest : List Nat} : rest ≠ [] → Before [i] (j :: rest)
  | apart {i j : Nat} {rest rest' : List Nat} : i < j → rest ≠ [] → rest' ≠ [] →
      Before (i :: rest) (j :: rest')
  | inside {i : Nat} {rest rest' : List Nat} : Before rest rest' → Before (i :: rest) (i :: rest')

theorem Before.asymm {p q : List Nat} (h : Before p q) : ¬ Before q p := by
  induction h with
  | own hne =>
    intro h
    cases h with
    | own => exact hne rfl
    | apart _ _ hnil => exact hnil rfl
    | inside h => cases h
  | apart hlt hne hne' =>
    intro h
    cases h with
    | own => exact hne' rfl
    | apart hlt' => exact hlt.asymm hlt'
    | inside => exact hlt.ne rfl
  | inside h ih =>
    intro h'
    cases h' with
    | own => cases h
    | apart hlt => exact hlt.ne rfl
    | inside h' => exact ih h'

theorem Before.ne {p q : List Nat} (h : Before p q) : p ≠ q := by
  rintro rfl
  exact h.asymm h

section StoredUnder

variable {key : Text} {v : Json} {i : Nat} {place : List Nat}

theorem not_storedUnder_nil : ¬ v.StoredUnder key [] := by
  rintro ⟨front, members, i, -, -, h⟩
  exact List.append_ne_nil_of_right_ne_nil front (List.cons_ne_nil i []) h.symm

theorem storedUnder_singleton : v.StoredUnder key [i] ↔
    ∃ members, v = .obj members ∧ members.findIdx? (·.1 == key) = some i := by
  constructor
  · rintro ⟨front, members, j, hfront, hj, h⟩
    cases front with
    | nil =>
      cases h
      exact ⟨members, Option.some.inj hfront, hj⟩
    | cons k front => simp at h
  · rintro ⟨members, rfl, hi⟩
    exact ⟨[], members, i, rfl, hi, rfl⟩

theorem storedUnder_cons (hne : place ≠ []) : v.StoredUnder key (i :: place) ↔
    ∃ w, v.children[i]? = some w ∧ w.StoredUnder key place := by
  constructor
  · rintro ⟨front, members, j, hfront, hj, h⟩
    cases front with
    | nil => exact (hne (List.cons.inj h).2).elim
    | cons k front =>
      obtain ⟨rfl, rfl⟩ := List.cons.inj h
      obtain ⟨w, hw, hfront⟩ := Option.bind_eq_some_iff.1 hfront
      exact ⟨w, hw, front, members, j, hfront, hj, rfl⟩
  · rintro ⟨w, hw, front, members, j, hfront, hj, rfl⟩
    refine ⟨i :: front, members, j, ?_, hj, rfl⟩
    rw [below?, hw]
    exact hfront

end StoredUnder

/-! ### Going down one level -/

theorem sizeOf_lt_of_mem_children {v w : Json} (h : w ∈ v.children) : sizeOf w < sizeOf v := by
  cases v with
  | arr items =>
    have hitem : sizeOf w < sizeOf items := List.sizeOf_lt_of_mem h
    simp only [arr.sizeOf_spec]
    omega
  | obj members =>
    obtain ⟨⟨key, u⟩, hmem, rfl⟩ := List.mem_map.1 h
    have hmember : sizeOf (key, u) < sizeOf members := List.sizeOf_lt_of_mem hmem
    simp only [Prod.mk.sizeOf_spec, obj.sizeOf_spec] at hmember ⊢
    omega
  | _ => cases h

/-- What holds of a value if it holds of all values directly inside holds of every value. -/
theorem induction_children {P : Json → Prop} (h : ∀ v, (∀ w ∈ v.children, P w) → P v) (v : Json) :
    P v :=
  h v fun w _ => induction_children h w
termination_by sizeOf v
decreasing_by exact sizeOf_lt_of_mem_children ‹_›

section Descendants

variable (key : Text)

theorem itemsUnder_eq_flatMap (items : List Json) :
    itemsUnder key items = items.flatMap (descendantsUnder key) := by
  induction items with
  | nil => rfl
  | cons v items ih => rw [itemsUnder, ih, List.flatMap_cons]

theorem membersUnder_eq_flatMap (members : List (Text × Json)) :
    membersUnder key members = (members.map Prod.snd).flatMap (descendantsUnder key) := by
  induction members with
  | nil => rfl
  | cons m members ih =>
    obtain ⟨k, v⟩ := m
    rw [membersUnder, ih, List.map_cons, List.flatMap_cons]

/-- Descending finds a value's own member and what it finds in the values directly inside. -/
theorem descendantsUnder_eq (v : Json) : v.descendantsUnder key =
    (v.get? key).toList ++ v.children.flatMap (descendantsUnder key) := by
  cases v with
  | arr items => exact itemsUnder_eq_flatMap key items
  | obj members =>
    rw [descendantsUnder, membersUnder_eq_flatMap]
    rfl
  | _ => rfl

theorem lookup_eq (members : List (Text × Json)) : members.lookup key =
    (members.findIdx? (·.1 == key)).bind fun i => (members.map Prod.snd)[i]? := by
  induction members with
  | nil => rfl
  | cons m members ih =>
    obtain ⟨k, v⟩ := m
    by_cases hk : k = key
    · simp [List.findIdx?_cons, hk]
    · have hk' : (key == k) = false := by simpa using Ne.symm hk
      rw [List.lookup_cons, hk', ih, List.findIdx?_cons, if_neg (by simpa using hk), Option.bind_map]
      rfl

end Descendants

/-! ### Listing -/

/-- The places list what descending finds: the places of what is stored under the key, each once and
in order, with the values at them. -/
structure ListsUnder (key : Text) (v : Json) (places : List (List Nat)) : Prop where
  mem_iff : ∀ place, place ∈ places ↔ v.StoredUnder key place
  pairwise : places.Pairwise Before
  values : places.map v.below? = (v.descendantsUnder key).map some

/-- The place of the member under a key in the object itself. -/
def ownPlaces (key : Text) : Json → List (List Nat)
  | .obj members => (members.findIdx? (·.1 == key)).toList.map fun i => [i]
  | _ => []

theorem mem_ownPlaces {key : Text} {v : Json} {place : List Nat} :
    place ∈ v.ownPlaces key ↔ ∃ i, place = [i] ∧ v.StoredUnder key [i] := by
  simp only [storedUnder_singleton]
  cases v <;> simp [ownPlaces, eq_comm, and_comm]

theorem map_below?_ownPlaces (key : Text) (v : Json) :
    (v.ownPlaces key).map v.below? = (v.get? key).toList.map some := by
  cases v with
  | obj members =>
    rw [ownPlaces, get?, lookup_eq]
    cases h : members.findIdx? (·.1 == key) with
    | none => rfl
    | some i =>
      have hi : i < members.length := (List.findIdx?_eq_some_iff_findIdx_eq.1 h).1
      simp [below?, children, hi]
  | _ => rfl

theorem pairwise_ownPlaces (key : Text) (v : Json) : (v.ownPlaces key).Pairwise Before := by
  cases v with
  | obj members =>
    rw [ownPlaces]
    cases members.findIdx? (·.1 == key) with
    | none => exact .nil
    | some i => exact List.pairwise_singleton _ _
  | _ => exact .nil

theorem pairwise_snd_zipIdx {α : Type} (xs : List α) :
    xs.zipIdx.Pairwise fun x y => x.2 < y.2 := by
  have hsorted : (xs.zipIdx.map Prod.snd).Pairwise (· < ·) := by
    rw [List.zipIdx_map_snd]
    exact List.pairwise_lt_range'
  exact List.pairwise_map.1 hsorted

section Children

variable {key : Text} {v : Json} {f : Json → List (List Nat)}

/-- The places inside the values directly inside a value, from the places inside each of these. -/
def innerPlaces (f : Json → List (List Nat)) (v : Json) : List (List Nat) :=
  v.children.zipIdx.flatMap fun (w, i) => (f w).map (i :: ·)

theorem mem_innerPlaces {place : List Nat} : place ∈ v.innerPlaces f ↔
    ∃ i w rest, v.children[i]? = some w ∧ rest ∈ f w ∧ place = i :: rest := by
  simp only [innerPlaces, List.mem_flatMap, List.mem_map, Prod.exists,
    List.mem_zipIdx_iff_getElem?]
  constructor
  · rintro ⟨w, i, hw, rest, hrest, rfl⟩
    exact ⟨i, w, rest, hw, hrest, rfl⟩
  · rintro ⟨i, w, rest, hw, hrest, rfl⟩
    exact ⟨w, i, hw, rest, hrest, rfl⟩

variable (hf : ∀ w ∈ v.children, ListsUnder key w (f w))

include hf

theorem mem_innerPlaces_iff {place : List Nat} : place ∈ v.innerPlaces f ↔
    v.StoredUnder key place ∧ ∃ i rest, place = i :: rest ∧ rest ≠ [] := by
  rw [mem_innerPlaces]
  constructor
  · rintro ⟨i, w, rest, hw, hrest, rfl⟩
    have hstored := ((hf w (List.mem_of_getElem? hw)).mem_iff rest).1 hrest
    have hne : rest ≠ [] := by
      rintro rfl
      exact not_storedUnder_nil hstored
    exact ⟨(storedUnder_cons hne).2 ⟨w, hw, hstored⟩, i, rest, rfl, hne⟩
  · rintro ⟨hstored, i, rest, rfl, hne⟩
    obtain ⟨w, hw, hstored⟩ := (storedUnder_cons hne).1 hstored
    exact ⟨i, w, rest, hw, ((hf w (List.mem_of_getElem? hw)).mem_iff rest).2 hstored, rfl⟩

theorem pairwise_innerPlaces : (v.innerPlaces f).Pairwise Before := by
  rw [innerPlaces, List.pairwise_flatMap]
  constructor
  · rintro ⟨w, i⟩ hw
    have hmem := List.mem_of_getElem? (List.mem_zipIdx_iff_getElem?.1 hw)
    exact (hf w hmem).pairwise.map _ fun _ _ h => .inside h
  · refine (pairwise_snd_zipIdx v.children).imp_of_mem ?_
    rintro ⟨w, i⟩ ⟨u, j⟩ hw hu hlt place hplace place' hplace'
    -- what is listed inside a value is never the value itself
    have hne {w : Json} {i : Nat} {p : List Nat} (hw : (w, i) ∈ v.children.zipIdx)
        (hp : p ∈ f w) : p ≠ [] := by
      rintro rfl
      have hmem := List.mem_of_getElem? (List.mem_zipIdx_iff_getElem?.1 hw)
      exact not_storedUnder_nil (((hf w hmem).mem_iff []).1 hp)
    obtain ⟨p, hp, rfl⟩ := List.mem_map.1 hplace
    obtain ⟨q, hq, rfl⟩ := List.mem_map.1 hplace'
    exact .apart hlt (hne hw hp) (hne hu hq)

theorem map_below?_innerPlaces : (v.innerPlaces f).map v.below? =
    (v.children.flatMap (descendantsUnder key)).map some := by
  have hchild : ∀ x ∈ v.children.zipIdx, ((f x.1).map (x.2 :: ·)).map v.below? =
      (x.1.descendantsUnder key).map some := by
    rintro ⟨w, i⟩ hx
    have hw : v.children[i]? = some w := List.mem_zipIdx_iff_getElem?.1 hx
    rw [← (hf w (List.mem_of_getElem? hw)).values, List.map_map]
    refine List.map_congr_left fun rest _ => ?_
    simp [below?, hw]
  calc (v.innerPlaces f).map v.below?
    _ = v.children.zipIdx.flatMap fun x => ((f x.1).map (x.2 :: ·)).map v.below? :=
      List.map_flatMap
    _ = v.children.zipIdx.flatMap fun x => (x.1.descendantsUnder key).map some :=
      List.flatMap_congr hchild
    _ = (v.children.zipIdx.map Prod.fst).flatMap fun w => (w.descendantsUnder key).map some :=
      by rw [List.flatMap_map]
    _ = (v.children.flatMap (descendantsUnder key)).map some := by
      rw [List.zipIdx_map_fst, List.map_flatMap]

/-- The places in a value are listed if those in the values directly inside are: first its own
member, then what is inside. -/
theorem ListsUnder.of_children : ListsUnder key v (v.ownPlaces key ++ v.innerPlaces f) where
  mem_iff place := by
    rw [List.mem_append, mem_ownPlaces, mem_innerPlaces_iff hf]
    constructor
    · rintro (⟨i, rfl, h⟩ | ⟨h, -⟩) <;> exact h
    · intro h
      match place, h with
      | [], h => exact (not_storedUnder_nil h).elim
      | [i], h => exact .inl ⟨i, rfl, h⟩
      | i :: j :: rest, h => exact .inr ⟨h, i, j :: rest, rfl, List.cons_ne_nil j rest⟩
  pairwise := by
    rw [List.pairwise_append]
    refine ⟨pairwise_ownPlaces key v, pairwise_innerPlaces hf, fun p hp q hq => ?_⟩
    obtain ⟨i, rfl, -⟩ := mem_ownPlaces.1 hp
    obtain ⟨-, j, rest, rfl, hne⟩ := (mem_innerPlaces_iff hf).1 hq
    exact .own hne
  values := by
    rw [List.map_append, map_below?_ownPlaces, map_below?_innerPlaces hf, descendantsUnder_eq,
      List.map_append]

end Children

/-- The places of what descending finds can be listed. -/
theorem exists_listsUnder (key : Text) (v : Json) : ∃ places, ListsUnder key v places := by
  induction v using induction_children with
  | h v ih =>
    choose! f hf using ih
    exact ⟨_, ListsUnder.of_children hf⟩

end Json

namespace JsonPath

open Text

/-- A path of one step that descends finds exactly what is stored under its key anywhere inside a
value, each of these things once and in order. -/
theorem select_descent (v : Json) {key : Text} (hne : key ≠ []) (hpoint : '.' ∉ key)
    (hbracket : '[' ∉ key) (hlast : ∀ c ∈ key.getLast?, isBlank c = false) :
    ∃ (found : List Json) (places : List (List Nat)),
      select v (['$', '.', '.'] ++ key) = .ok found ∧ places.map v.below? = found.map some ∧
      (∀ place, place ∈ places ↔ v.StoredUnder key place) ∧ places.Nodup ∧
      places.Pairwise Json.Before := by
  have hkey : ∀ c ∈ key, isKeyChar c = true := by
    intro c hc
    have hc' : c ≠ '.' ∧ c ≠ '[' :=
      ⟨fun h => hpoint (h ▸ hc), fun h => hbracket (h ▸ hc)⟩
    simpa [isKeyChar] using hc'
  have htake : key.takeWhile isKeyChar = key := List.takeWhile_eq_self_iff.2 hkey
  have hdrop : key.dropWhile isKeyChar = [] := List.dropWhile_eq_nil_iff.2 hkey
  have htrim : trim (['$', '.', '.'] ++ key) = ['$', '.', '.'] ++ key := by
    refine trim_eq_self (fun c hc => ?_) fun c hc => ?_
    · cases hc
      rfl
    · rw [List.getLast?_append_of_ne_nil _ hne] at hc
      exact hlast c hc
  have hsteps : steps (trim (['$', '.', '.'] ++ key)) = .ok [.descend key] := by
    rw [htrim]
    change readSegments ('.' :: '.' :: key) = _
    rw [readSegments_descend (by rwa [htake]), htake, hdrop, readSegments]
    rfl
  have hfollow : follow [.descend key] v = v.descendantsUnder key := List.flatMap_singleton' _
  obtain ⟨places, hplaces⟩ := Json.exists_listsUnder key v
  refine ⟨v.descendantsUnder key, places, ?_, hplaces.values, hplaces.mem_iff, ?_,
    hplaces.pairwise⟩
  · rw [select_eq_of_steps hsteps, hfollow]
  · exact hplaces.pairwise.imp Json.Before.ne

/-- A member under the key that holds another one, and one that stands earlier but deeper. -/
theorem select_descent_nested :
    let inner : Json := .obj [(['k'], .null)]
    let v : Json := .obj [(['a'], .arr [.obj [(['k'], .bool true)]]), (['k'], inner)]
    let key := ['k']
    (key ≠ [] ∧ '.' ∉ key ∧ '[' ∉ key ∧ ∀ c ∈ key.getLast?, isBlank c = false) ∧
      select v "$..k".toList = .ok [inner, .bool true, .null] ∧
      ∃ places : List (List Nat),
        places.map v.below? = [some inner, some (.bool true), some .null] ∧
        (∀ place, place ∈ places ↔ v.StoredUnder key place) ∧ places.Nodup ∧
        places.Pairwise Json.Before := by
  intro inner v key
  have hkey : key ≠ [] ∧ '.' ∉ key ∧ '[' ∉ key := by decide
  have hlast : ∀ c ∈ key.getLast?, isBlank c = false := by
    rintro c ⟨⟩
    rfl
  obtain ⟨found, places, hselect, hvalues, hplaces⟩ :=
    select_descent v hkey.1 hkey.2.1 hkey.2.2 hlast
  have hsteps : steps (trim "$..k".toList) = .ok [.descend key] := by decide +kernel
  have hfound : found = [inner, .bool true, .null] :=
    Except.ok.inj (hselect.symm.trans (select_eq_of_steps hsteps v))
  rw [hfound] at hselect hvalues
  exact ⟨⟨hkey.1, hkey.2.1, hkey.2.2, hlast⟩, hselect, places, hvalues, hplaces⟩

end JsonPath

end Extraction
