import Mathlib.Data.List.Forall2

/-!
# Outcomes

A computation that goes through several parts, or through the items of a list, has an outcome exactly
if each of them has one.
-/

namespace Extraction

variable {ε α β : Type}

section Parts

variable {x : Except ε α} {a : α} {b : β}

theorem bind_eq_ok_iff {f : α → Except ε β} :
    x >>= f = .ok b ↔ ∃ a, x = .ok a ∧ f a = .ok b := by
  cases x <;> simp [bind, Except.bind]

theorem exists_of_map_eq_ok {f : α → β} (h : x.map f = .ok b) : ∃ a, x = .ok a ∧ f a = b := by
  cases x with
  | error e => cases h
  | ok a => exact ⟨a, rfl, Except.ok.inj h⟩

theorem eq_ok_of_toOption (h : x.toOption = some a) : x = .ok a := by
  cases x with
  | error e => cases h
  | ok a' => exact congrArg Except.ok (Option.some.inj h)

/-- An outcome from something that can be seen of it. -/
theorem exists_of_map_toOption {f : α → β} (h : x.toOption.map f = some b) :
    ∃ a, x = .ok a ∧ f a = b := by
  obtain ⟨a, ha, hb⟩ := Option.map_eq_some_iff.1 h
  exact ⟨a, eq_ok_of_toOption ha, hb⟩

end Parts

section Items

variable {f : α → Except ε β} {xs ys : List α} {x : α} {us vs : List β} {v : β}

theorem mapM_cons_eq_ok_iff :
    (x :: xs).mapM f = .ok vs ↔ ∃ v, f x = .ok v ∧ ∃ us, xs.mapM f = .ok us ∧ vs = v :: us := by
  rw [List.mapM_cons]
  simp only [bind_eq_ok_iff, pure, Except.pure, Except.ok.injEq, eq_comm (a := vs)]

theorem exists_of_mem_forall₂ {R : α → β → Prop} (h : List.Forall₂ R xs vs) :
    ∀ v ∈ vs, ∃ x ∈ xs, R x v := by
  induction h with
  | nil => exact List.forall_mem_nil _
  | cons hx _ ih =>
    refine List.forall_mem_cons.2 ⟨⟨_, List.mem_cons_self, hx⟩, fun v hv => ?_⟩
    obtain ⟨x, hmem, hx⟩ := ih v hv
    exact ⟨x, List.mem_cons_of_mem _ hmem, hx⟩

/-- The outcomes of the items, in their order, are the outcome of the list. -/
theorem mapM_eq_ok_iff : xs.mapM f = .ok vs ↔ List.Forall₂ (fun x v => f x = .ok v) xs vs := by
  induction xs generalizing vs with
  | nil => simp [pure, Except.pure, eq_comm]
  | cons x xs ih =>
    rw [mapM_cons_eq_ok_iff, List.forall₂_cons_left_iff]
    constructor
    · rintro ⟨v, hv, us, hus, rfl⟩
      exact ⟨v, us, hv, ih.1 hus, rfl⟩
    · rintro ⟨v, us, hv, hus, rfl⟩
      exact ⟨v, hv, us, ih.2 hus, rfl⟩

theorem exists_of_mapM_append_singleton (h : (xs ++ [x]).mapM f = .ok vs) :
    ∃ us v, xs.mapM f = .ok us ∧ f x = .ok v ∧ vs = us ++ [v] := by
  rw [List.mapM_append] at h
  obtain ⟨us, hus, h⟩ := bind_eq_ok_iff.1 h
  obtain ⟨ws, hws, h⟩ := bind_eq_ok_iff.1 h
  obtain ⟨v, hv, vs, hvs, rfl⟩ := mapM_cons_eq_ok_iff.1 hws
  cases hvs
  cases h
  exact ⟨us, v, hus, hv, rfl⟩

theorem mapM_append_cons_eq_ok_iff (hxs : xs.mapM f = .ok us) (hys : ys.mapM f = .ok vs) :
    (xs ++ [x] ++ ys).mapM f = .ok (us ++ [v] ++ vs) ↔ f x = .ok v := by
  rw [List.mapM_append, List.mapM_append, List.mapM_cons, List.mapM_nil, hxs, hys]
  cases hx : f x with
  | error e => simp [bind, Except.bind]
  | ok v' => simp [bind, Except.bind, pure, Except.pure]

end Items

end Extraction
