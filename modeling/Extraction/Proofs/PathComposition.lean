import Extraction.Json.Path.Parser
import Extraction.Proofs.Outcomes
import Extraction.Proofs.TextFacts

/-!
# Paths that are put together

A path into JSON values may be written in two parts. Where the second part begins with a point or a
bracket no step reaches over the joint, so that the whole path leads from each of the values to
which the first part leads to those to which the second part leads from there.
-/

namespace Extraction.JsonPath

open Text

/-! ### Following -/

/-- The steps of two paths are taken one after the other. -/
theorem follow_append (first second : List Segment) (v : Json) :
    follow (first ++ second) v = (follow first v).flatMap (follow second) := by
  induction first generalizing v with
  | nil => exact (List.flatMap_singleton (follow second) v).symm
  | cons s rest ih =>
    rw [List.cons_append, follow, follow, List.flatMap_assoc]
    exact List.flatMap_congr fun w _ => ih w

/-! ### Reading -/

/-- No key goes on in the text. -/
def EndsKey (t : Text) : Prop := ∀ c ∈ t.head?, isKeyChar c = false

section Joint

variable {t : Text} (ht : EndsKey t)

include ht

theorem takeWhile_isKeyChar_append (s : Text) :
    (s ++ t).takeWhile isKeyChar = s.takeWhile isKeyChar := by
  induction s with
  | nil =>
    cases t with
    | nil => rfl
    | cons c t => exact List.takeWhile_cons_of_neg (by simp [ht c rfl])
  | cons c s ih => rw [List.cons_append, List.takeWhile_cons, List.takeWhile_cons, ih]

theorem dropWhile_isKeyChar_append (s : Text) :
    (s ++ t).dropWhile isKeyChar = s.dropWhile isKeyChar ++ t := by
  induction s with
  | nil =>
    cases t with
    | nil => rfl
    | cons c t => exact List.dropWhile_cons_of_neg (by simp [ht c rfl])
  | cons c s ih =>
    rw [List.cons_append, List.dropWhile_cons, List.dropWhile_cons, ih]
    split <;> rfl

end Joint

/-- A subscript that is closed stays as it is when the text goes on. -/
theorem splitSubscript?_append {quote : Option Char} {s body rest : Text} (t : Text)
    (h : splitSubscript? quote s = some (body, rest)) :
    splitSubscript? quote (s ++ t) = some (body, rest ++ t) := by
  induction s generalizing quote body with
  | nil => cases h
  | cons c s ih =>
    have hmore {quote : Option Char}
        (h : (splitSubscript? quote s).map (fun cut => (c :: cut.1, cut.2)) = some (body, rest)) :
        (splitSubscript? quote (s ++ t)).map (fun cut => (c :: cut.1, cut.2)) =
          some (body, rest ++ t) := by
      obtain ⟨⟨b, r⟩, hb, heq⟩ := Option.map_eq_some_iff.1 h
      cases heq
      rw [ih hb]
      rfl
    simp only [splitSubscript?, List.cons_append] at h ⊢
    split
    · exact hmore h
    · next hquote =>
      split
      · next hmark =>
        rw [if_pos hmark] at h
        exact hmore h
      · next hmark =>
        rw [if_neg hmark] at h
        split
        · next hclose =>
          rw [if_pos hclose] at h
          cases h
          rfl
        · next hclose =>
          rw [if_neg hclose] at h
          exact hmore h

section Steps

variable {after : Text}

/-- A key after two points is a step. -/
theorem readSegments_descend (h : after.takeWhile isKeyChar ≠ []) :
    readSegments ('.' :: '.' :: after) = (readSegments (after.dropWhile isKeyChar)).map
      (.descend (after.takeWhile isKeyChar) :: ·) := by
  have hkey : (after.takeWhile isKeyChar).isEmpty = false := List.isEmpty_eq_false_iff.2 h
  rw [readSegments]
  simp only [hkey]
  rfl

/-- A key after one point is a step. -/
theorem readSegments_key (h : after.takeWhile isKeyChar ≠ []) :
    readSegments ('.' :: after) = (readSegments (after.dropWhile isKeyChar)).map
      ((if after.takeWhile isKeyChar = ['*'] then .wildcard
        else .key (after.takeWhile isKeyChar)) :: ·) := by
  have hkey : (after.takeWhile isKeyChar).isEmpty = false := List.isEmpty_eq_false_iff.2 h
  have hpoint : ∀ rest, after ≠ '.' :: rest := by
    rintro rest rfl
    exact h rfl
  rw [readSegments]
  · simp only [hkey]
    rfl
  · exact hpoint

/-- A subscript is a step. -/
theorem readSegments_subscript {body rest : Text} {s : Segment}
    (hsplit : splitSubscript? none after = some (body, rest)) (hs : subscript (trim body) = .ok s) :
    readSegments ('[' :: after) = (readSegments rest).map (s :: ·) := by
  rw [readSegments]
  split
  · next hnone =>
    rw [hsplit] at hnone
    cases hnone
  · next hsome =>
    rw [hsplit] at hsome
    cases hsome
    rw [hs]
    rfl

end Steps

theorem readSegments_append {s t : Text} {first second : List Segment}
    (hs : readSegments s = .ok first) (hend : EndsKey t) (ht : readSegments t = .ok second) :
    readSegments (s ++ t) = .ok (first ++ second) := by
  -- By induction on the steps that are read: what is read of a step ends before the joint.
  fun_induction readSegments s generalizing first with
  | case1 =>
    cases hs
    exact ht
  | case3 after key hkey =>
    rename_i ih
    have hne : after.takeWhile isKeyChar ≠ [] := mt List.isEmpty_iff.2 hkey
    obtain ⟨rest, hrest, rfl⟩ := exists_of_map_eq_ok hs
    rw [List.cons_append, List.cons_append, readSegments_descend, takeWhile_isKeyChar_append hend,
      dropWhile_isKeyChar_append hend, ih hrest]
    · rfl
    · rwa [takeWhile_isKeyChar_append hend]
  | case5 after hpoint key hkey =>
    rename_i ih
    have hne : after.takeWhile isKeyChar ≠ [] := mt List.isEmpty_iff.2 hkey
    obtain ⟨rest, hrest, rfl⟩ := exists_of_map_eq_ok hs
    rw [List.cons_append, readSegments_key, takeWhile_isKeyChar_append hend,
      dropWhile_isKeyChar_append hend, ih hrest]
    · rfl
    · rwa [takeWhile_isKeyChar_append hend]
  | case7 after body rest hsplit ih =>
    cases hbody : subscript (trim body) with
    | error fault =>
      rw [hbody] at hs
      cases hs
    | ok s =>
      rw [hbody] at hs
      obtain ⟨others, hothers, rfl⟩ := exists_of_map_eq_ok hs
      rw [List.cons_append, readSegments_subscript (splitSubscript?_append t hsplit) hbody,
        ih hothers]
      rfl
  | case2 | case4 | case6 | case8 => cases hs

/-- The first step of a path may be a bare key, which ends before the joint as well. -/
theorem steps_append {s t : Text} {first second : List Segment} (hs : steps s = .ok first)
    (hend : EndsKey t) (ht : readSegments t = .ok second) :
    steps (s ++ t) = .ok (first ++ second) := by
  unfold steps at hs
  split at hs
  · exact readSegments_append hs hend ht
  · cases hs
    cases t with
    | nil =>
      rw [readSegments] at ht
      exact ht
    | cons c t =>
      have hc : isKeyChar c = false := hend c rfl
      have hroot : c ≠ '$' := by
        rintro rfl
        cases hc
      rw [List.nil_append, steps]
      · simp only [hc]
        exact ht
      · exact hroot
  · next c cs hroot =>
    rw [List.cons_append, steps]
    · rw [← List.cons_append, takeWhile_isKeyChar_append hend, dropWhile_isKeyChar_append hend]
      split at hs
      · next hkey =>
        obtain ⟨rest, hrest, rfl⟩ := exists_of_map_eq_ok hs
        rw [if_pos hkey, readSegments_append hrest hend ht]
        rfl
      · next hkey =>
        rw [if_neg hkey]
        exact readSegments_append hs hend ht
    · exact hroot

/-! ### Selecting -/

theorem parse_eq_ok_iff {text : Text} {path : JsonPath} :
    parse text = .ok path ↔ steps (trim text) = .ok path.segments := by
  unfold parse
  cases steps (trim text) with
  | error fault => exact ⟨nofun, nofun⟩
  | ok segments =>
    constructor
    · rintro ⟨⟩
      rfl
    · intro h
      rw [Except.ok.inj h]

theorem select_eq_of_steps {text : Text} {segments : List Segment}
    (h : steps (trim text) = .ok segments) (v : Json) :
    select v text = .ok (follow segments v) := by
  have hparse : parse text = .ok ⟨segments⟩ := parse_eq_ok_iff.2 h
  rw [select, hparse]
  rfl

/-- From each of several values the same steps are taken. -/
theorem mapM_select {text : Text} {segments : List Segment}
    (h : steps (trim text) = .ok segments) (vs : List Json) :
    vs.mapM (select · text) = .ok (vs.map (follow segments)) := by
  have hselect : (select · text) = fun v => pure (follow segments v) :=
    funext (select_eq_of_steps h)
  rw [hselect, List.mapM_pure]
  rfl

/-- A path that is written in two parts, the second of which begins with a point or a bracket, leads
to what the second part leads to from each of the values to which the first one leads, in their
order. -/
theorem select_append (v : Json) {p q : Text} (htrim : trim p = p)
    (hp : ∃ path, parse p = .ok path) (hhead : q.head? = some '.' ∨ q.head? = some '[')
    (hq : ∃ path, parse ('$' :: q) = .ok path) :
    ∃ ws found, select v p = .ok ws ∧ ws.mapM (select · ('$' :: q)) = .ok found ∧
      select v (p ++ q) = .ok found.flatten := by
  obtain ⟨⟨first⟩, hfirst⟩ := hp
  obtain ⟨⟨second⟩, hsecond⟩ := hq
  obtain ⟨c, q, rfl⟩ : ∃ c t, q = c :: t := by
    cases q with
    | nil => rcases hhead with h | h <;> cases h
    | cons c t => exact ⟨c, t, rfl⟩
  have hc : isBlank c = false ∧ isKeyChar c = false := by
    rcases hhead with h | h <;>
      (cases h; decide)
  have hblank : ∀ d ∈ (c :: q).head?, isBlank d = false := by
    rintro d ⟨⟩
    exact hc.1
  have hend : EndsKey (trim (c :: q)) := by
    intro d hd
    rw [head?_trim hblank] at hd
    cases hd
    exact hc.2
  rw [parse_eq_ok_iff, htrim] at hfirst
  rw [parse_eq_ok_iff] at hsecond
  have hroot : trim ('$' :: c :: q) = '$' :: trim (c :: q) :=
    trim_append_of_head (s := ['$']) hblank rfl (List.cons_ne_nil c q)
  have hwhole : trim (p ++ c :: q) = p ++ trim (c :: q) :=
    trim_append_of_head hblank htrim (List.cons_ne_nil c q)
  have hsteps : steps (trim (p ++ c :: q)) = .ok (first ++ second) := by
    rw [hwhole]
    rw [hroot] at hsecond
    exact steps_append hfirst hend hsecond
  refine ⟨follow first v, (follow first v).map (follow second),
    select_eq_of_steps (by rwa [htrim]) v, mapM_select hsecond _, ?_⟩
  rw [select_eq_of_steps hsteps, follow_append, List.flatMap_def]

/-- A first part that begins with a bare key and leads to two values, and a second part that goes
any way down from them, with a blank after it. -/
theorem select_append_bareKey :
    let v : Json := .obj [(['a'], .arr [.obj [(['b'], .bool true)], .arr [.obj [(['b'], .null)]]])]
    let p := "a[*]".toList
    let q := "..b ".toList
    trim p = p ∧ (∃ path, parse p = .ok path) ∧ (q.head? = some '.' ∨ q.head? = some '[') ∧
      (∃ path, parse ('$' :: q) = .ok path) ∧
      select v (p ++ q) = .ok [.bool true, .null] := by
  intro v p q
  have hp : steps (trim p) = .ok [.key ['a'], .wildcard] := by decide +kernel
  have hq : steps (trim ('$' :: q)) = .ok [.descend ['b']] := by decide +kernel
  have hpath : ∃ path, parse p = .ok path := ⟨⟨_⟩, parse_eq_ok_iff.2 hp⟩
  have hpath' : ∃ path, parse ('$' :: q) = .ok path := ⟨⟨_⟩, parse_eq_ok_iff.2 hq⟩
  obtain ⟨ws, found, hws, hfound, hselect⟩ := select_append v rfl hpath (.inl rfl) hpath'
  rw [select_eq_of_steps hp] at hws
  cases hws
  rw [mapM_select hq] at hfound
  cases hfound
  exact ⟨rfl, hpath, .inl rfl, hpath', hselect⟩

end Extraction.JsonPath
