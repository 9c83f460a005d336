import Extraction.Script.Host
import Extraction.Proofs.AddressForms
import Extraction.Proofs.Outcomes

/-!
# Completed addresses

An extracted address is completed once and then kept, so completing it again must not change it,
whatever the base is by then.

## Main definitions

* `Url.IsComplete`: what needs no base and no trimming any more
* `Host.noting`: a fetcher that notes what it is asked for

## Main statements

* `Url.resolves_of_resolve`: the three ways in which an address is completed
* `Url.isComplete_of_joined`: an address that is read relative to a base is written complete
* `Host.completed_stays_completed`: what completing answers is completed already, and it is all
  that is ever fetched
-/

namespace Extraction

namespace Url

variable {base : Option Text} {value u : Text}

/-- What is read as an address of its own, and has no blanks at either end. -/
structure IsComplete (s : Text) : Prop where
  trimmed : Text.Trimmed s
  parses : ∃ u, parse none s = .ok u

/-- The ways in which an address is completed: a blank one is empty, one that is an address of its
own stays, and any other is read relative to the base. -/
inductive Resolves (base : Option Text) (value : Text) : Text → Prop where
  | blank (h : Text.trim value = []) : Resolves base value []
  | complete (h : IsComplete (Text.trim value)) : Resolves base value (Text.trim value)
  | joined {b : Text} {root v : Url} (hbase : base = some b) (hvalue : Text.trim value ≠ [])
      (hown : ∀ w, parse none (Text.trim value) ≠ .ok w)
      (hroot : parse none (Text.trim b) = .ok root)
      (hjoined : parse (some root) (Text.trim value) = .ok v) : Resolves base value v.toText

theorem resolves_of_resolve (h : resolve base value = .ok u) : Resolves base value u := by
  unfold resolve at h
  dsimp only at h
  split at h
  next hempty =>
    cases h
    exact .blank (List.isEmpty_iff.1 hempty)
  next hempty =>
    have hne : Text.trim value ≠ [] := fun hnil => hempty (List.isEmpty_iff.2 hnil)
    split at h
    next v hv =>
      cases h
      exact .complete ⟨⟨hne, Text.trim_trim value⟩, v, hv⟩
    next hown =>
      split at h
      · cases h
      next b hb =>
        split at h
        · cases h
        next root hroot =>
          split at h
          · cases h
          next v hv =>
            cases h
            refine .joined (Option.filter_eq_some_iff.1 hb).1 hne (fun w hw => ?_) hroot hv
            rw [hown] at hw
            cases hw

/-- The text of a joined address is complete. The address has no path that is not a list, except
with a fragment, since it is not an address of its own. -/
theorem isComplete_of_joined {root v : Url} {b s : Text} (hown : ∀ w, parse none s ≠ .ok w)
    (hroot : parse none b = .ok root) (hjoined : parse (some root) s = .ok v) :
    IsComplete v.toText := by
  have hbase : ∀ c ∈ some root, IsWritten c := fun c hc => by
    cases hc
    exact (isWritten_of_parse (fun _ hnone => (Option.not_mem_none _ hnone).elim) hroot).1
  obtain ⟨hwritten, hend⟩ := isWritten_of_parse hbase hjoined
  obtain ⟨htrimmed, hparses⟩ := exists_parse_toText hwritten fun hopaque =>
    (hend hopaque).resolve_right (hown v)
  exact ⟨htrimmed, hparses⟩

theorem resolve_nil (base : Option Text) : resolve base [] = .ok [] := rfl

theorem resolve_of_isComplete (h : IsComplete u) (base : Option Text) :
    resolve base u = .ok u := by
  obtain ⟨v, hv⟩ := h.parses
  unfold resolve
  dsimp only
  rw [h.trimmed.2, if_neg fun hempty => h.trimmed.1 (List.isEmpty_iff.1 hempty), hv]

end Url

namespace Host

/-- A fetcher that notes every address it is asked for, and then asks another one. -/
def noting (fetch : Fetcher) (address : Text) : ExceptT RuleError (StateM (List Text)) Text := do
  modify (· ++ [address])
  liftM (fetch address)

/-- The address that is fetched for a text: its complete form, if it has one that is not empty. -/
def asked (base : Option Text) (value : Text) : List Text :=
  match Url.resolve base value with
  | .ok (c :: u) => [c :: u]
  | _ => []

theorem run_fetchAt_noting (base : Option Text) (fetch : Fetcher) (value : Text)
    (log : List Text) :
    (fetchAt base (noting fetch) value).run log =
      (ajax ⟨base, fetch⟩ value, log ++ asked base value) := by
  unfold ajax fetchAt asked
  cases Url.resolve base value with
  | error e =>
    rw [List.append_nil]
    rfl
  | ok u =>
    cases u with
    | nil =>
      rw [List.append_nil]
      rfl
    | cons c u =>
      change (liftM (fetch (c :: u)) : ExceptT RuleError (StateM (List Text)) Text).run _ =
        (fetch (c :: u), _)
      cases fetch (c :: u) <;> rfl

theorem mem_asked_iff {base : Option Text} {value u : Text} :
    u ∈ asked base value ↔ u ≠ [] ∧ Url.resolve base value = .ok u := by
  unfold asked
  split
  next c v h =>
    rw [List.mem_singleton, h, Except.ok.injEq]
    grind
  next h =>
    refine iff_of_false List.not_mem_nil fun ⟨hne, hu⟩ => ?_
    obtain ⟨c, v, rfl⟩ := List.exists_cons_of_ne_nil hne
    exact h c v hu

theorem length_asked_le (base : Option Text) (value : Text) : (asked base value).length ≤ 1 := by
  unfold asked
  split
  · exact le_rfl
  · exact Nat.zero_le 1

/-- Completing answers the empty text for a blank one only, and what it answers is complete
whatever the base is later. A fetcher is asked at most once, and for such an address. -/
theorem completed_stays_completed (base : Option Text) (value : Text) :
    (∀ u, Url.resolve base value = .ok u →
      (u = [] ↔ Text.isBlankText value = true) ∧ ∀ other, Url.resolve other u = .ok u) ∧
    ∀ fetch log, ∃ asked, (fetchAt base (noting fetch) value).run log =
        (ajax ⟨base, fetch⟩ value, log ++ asked) ∧
      asked.length ≤ 1 ∧ ∀ u, u ∈ asked ↔ u ≠ [] ∧ Url.resolve base value = .ok u := by
  constructor
  · intro u hu
    rw [Text.isBlankText_iff, ← Text.trim_eq_nil_iff]
    rcases Url.resolves_of_resolve hu with h | h | ⟨_, hvalue, hown, hroot, hjoined⟩
    · exact ⟨iff_of_true rfl h, Url.resolve_nil⟩
    · exact ⟨Iff.rfl, Url.resolve_of_isComplete h⟩
    · have hcomplete := Url.isComplete_of_joined hown hroot hjoined
      exact ⟨iff_of_false hcomplete.trimmed.1 hvalue, Url.resolve_of_isComplete hcomplete⟩
  · intro fetch log
    exact ⟨_, run_fetchAt_noting base fetch value log, length_asked_le base value,
      fun _ => mem_asked_iff⟩

/-- A relative address with blanks around it is read relative to the base, and what it comes to is
asked for as it is. -/
theorem completed_stays_completed_relative :
    let base := some "https://a.org/list/".toList
    let value := " ../b?page=2\n".toList
    let u := "https://a.org/b?page=2".toList
    let fetch : Fetcher := fun address => .ok ("page of ".toList ++ address)
    Url.resolve base value = .ok u ∧ (∀ other, Url.resolve other u = .ok u) ∧
      ajax ⟨base, fetch⟩ value = .ok ("page of ".toList ++ u) ∧
      (fetchAt base (noting fetch) value).run [] = (.ok ("page of ".toList ++ u), [u]) := by
  intro base value u fetch
  have hresolve : Url.resolve base value = .ok u := eq_ok_of_toOption (by decide +kernel)
  have hfetch : ajax ⟨base, fetch⟩ value = .ok ("page of ".toList ++ u) :=
    eq_ok_of_toOption (by decide +kernel)
  obtain ⟨hstays, hasks⟩ := completed_stays_completed base value
  obtain ⟨asked, hrun, hlength, hmem⟩ := hasks fetch []
  have hu : u ∈ asked := (hmem u).2 ⟨by decide, hresolve⟩
  have hasked : asked = [u] := by
    match asked, hlength, hu with
    | [v], _, hu => rw [List.mem_singleton.1 hu]
  exact ⟨hresolve, (hstays u hresolve).2, hfetch, by rw [hrun, hfetch, hasked, List.nil_append]⟩

end Host

end Extraction
