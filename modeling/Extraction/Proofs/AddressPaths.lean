import Extraction.Proofs.WrittenAddresses

/-!
# Paths of read addresses

Whatever is read onto a path, what is added is visible, and a path that begins with a slash goes on
to do so.

## Main definitions

* `Path.Grows`: what becomes of a path while it is read

## Main statements

* `Path.grows_addSegment`, `Path.grows_addSegments`: one segment, and a run of them
* `Path.isRooted_extend`, `Path.isList_start`: the paths that are read
-/

namespace Extraction.Url

open Host (IsVisible)

section Percent

variable {forbidden : Char → Bool} (hspace : forbidden ' ' = true) (s : Text)

include hspace

/-- Percent encoding leaves visible characters, where spaces are encoded. -/
theorem isVisible_percentEncode : ∀ c ∈ percentEncode forbidden s, IsVisible c := by
  refine forall_mem_percentEncode (by decide) (by decide) fun c _ hlow hhigh hfree => ⟨?_, hhigh⟩
  refine lt_of_le_of_ne hlow fun hnat => ?_
  rw [show c = ' ' from Char.toNat_inj.1 hnat.symm, hspace] at hfree
  cases hfree

theorem isVisible_percentEncode_notMem (hmarks : Host.authorityMarks.all forbidden = true) :
    ∀ c ∈ percentEncode forbidden s, IsVisible c ∧ c ∉ Host.authorityMarks := by
  have hfree : ∀ c ∈ percentEncode forbidden s, c ∉ Host.authorityMarks :=
    forall_mem_percentEncode (by decide) (by decide) fun c _ _ _ hfree =>
      Host.notMem_of_all hmarks hfree
  exact fun c hc => ⟨isVisible_percentEncode hspace s c hc, hfree c hc⟩

end Percent

namespace Path

variable {kind : SchemeKind} {path p q s t : Text}

/-- The path is a list of segments that begins with a slash. -/
structure IsRooted (path : Text) : Prop where
  visible : ∀ c ∈ path, IsVisible c
  head : path.head? = some '/'

theorem IsRooted.isList (h : IsRooted path) : IsList path :=
  ⟨h.visible, fun c hc => by
    rw [h.head] at hc
    cases hc
    rfl⟩

/-- What is added to a path is visible, and the slash that it begins with stays. -/
structure Grows (p q : Text) : Prop where
  added : ∀ c ∈ q, c ∈ p ∨ IsVisible c
  head : p.head? = some '/' → q.head? = some '/'

namespace Grows

theorem refl (p : Text) : Grows p p := ⟨fun _ hc => .inl hc, id⟩

theorem trans (hp : Grows p q) (hq : Grows q t) : Grows p t :=
  ⟨fun c hc => (hq.added c hc).elim (hp.added c) .inr, fun h => hq.head (hp.head h)⟩

theorem append (h : ∀ c ∈ t, IsVisible c) : Grows p (p ++ t) where
  added c hc := (List.mem_append.1 hc).imp_right (h c)
  head hp := by
    rw [List.head?_append, hp]
    rfl

theorem ofFront (h : q <+: p) (hne : p.head? = some '/' → q ≠ []) : Grows p q where
  added c hc := .inl (h.subset hc)
  head hp := by
    obtain ⟨c, q, rfl⟩ := List.exists_cons_of_ne_nil (hne hp)
    obtain ⟨t, rfl⟩ := h
    exact hp

theorem visible (h : Grows p q) (hp : ∀ c ∈ p, IsVisible c) : ∀ c ∈ q, IsVisible c :=
  fun c hc => (h.added c hc).elim (hp c) id

end Grows

theorem front_upToSlash (p : Text) : upToSlash p <+: p := List.rdropWhile_prefix _ _

theorem grows_upToSlash (p : Text) : Grows p (upToSlash p) := by
  refine .ofFront (front_upToSlash p) fun hhead hnil => ?_
  have hall := List.rdropWhile_eq_nil_iff.1 hnil '/' (List.mem_of_mem_head? hhead)
  exact absurd hall (by decide)

theorem grows_pop (kind : SchemeKind) (p : Text) : Grows p (pop kind p) := by
  unfold pop
  split_ifs
  · exact .refl p
  · exact grows_upToSlash p

theorem grows_shorten (kind : SchemeKind) (p : Text) : Grows p (shorten kind p) := by
  unfold shorten
  split_ifs
  · exact .refl p
  · exact grows_pop kind p

theorem grows_dropLast (h : canDropSlash p = true) : Grows p p.dropLast := by
  refine .ofFront (List.dropLast_prefix p) fun _ hnil => ?_
  unfold canDropSlash at h
  rw [hnil] at h
  cases h

theorem isVisible_drive {segment : Text} (h : isDrive segment = true) :
    ∀ c ∈ segment.take 1 ++ [':'], IsVisible c := by
  unfold isDrive at h
  split at h
  · next c d =>
    rw [Bool.and_eq_true] at h
    have hc : isSchemeChar c = true := by
      simp [isSchemeChar, Char.isAlphanum, h.1]
    exact List.forall_mem_append.2
      ⟨List.forall_mem_singleton.2 (isVisible_of_isSchemeChar hc), by decide⟩
  · cases h

/-- A segment that is added leaves what is there, but for the one that two dots take away. -/
theorem grows_addSegment (kind : SchemeKind) (p segment : Text) (slash : Bool) :
    Grows p (addSegment kind p segment slash).1 := by
  have hslash : ∀ c ∈ ['/'], IsVisible c := by decide
  have hclosed (q : Text) : Grows q (if q.getLast? = some '/' then q else q ++ ['/']) := by
    split_ifs
    · exact .refl q
    · exact .append hslash
  have htail : ∀ c ∈ (if slash then ['/'] else []), IsVisible c := by
    cases slash <;> decide
  unfold addSegment
  dsimp only
  split
  · -- Two dots.
    have hdropped : Grows p
        (if p.getLast? = some '/' && canDropSlash p then p.dropLast else p) := by
      split
      · next h => exact grows_dropLast (Bool.and_eq_true _ _ ▸ h).2
      · exact .refl p
    split
    · exact (hdropped.trans (grows_shorten kind _)).trans (hclosed _)
    · exact hdropped.trans (grows_shorten kind _)
  · split
    · exact hclosed p
    · -- A segment that stays, after a slash behind a drive letter.
      have hfront : Grows p (if kind = .file && !segment.isEmpty && isNormalDrive (p.drop 1)
          then p ++ ['/'] else p) := by
        split
        · exact .append hslash
        · exact .refl p
      generalize (if kind = .file && !segment.isEmpty && isNormalDrive (p.drop 1) then p ++ ['/']
        else p) = front at hfront
      split
      · next hdrive =>
        rw [Bool.and_eq_true] at hdrive
        have hletter := isVisible_drive hdrive.2
        rw [List.append_assoc _ _ [':']]
        exact (hfront.trans (.append hletter)).trans (.append htail)
      · exact (hfront.trans (.append (isVisible_percentEncode rfl segment))).trans (.append htail)

theorem grows_addSegments (kind : SchemeKind) (p : Text) (hasDrive : Bool) (run s : Text) :
    Grows p (addSegments kind p hasDrive run s).1 := by
  fun_induction addSegments kind p hasDrive run s with
  | case1 path hasDrive run path' drive h =>
    rw [← show (addSegment kind path run.reverse false).1 = path' from congrArg Prod.fst h]
    exact grows_addSegment ..
  | case2 path hasDrive run c rest hc path' drive h ih =>
    have hfirst := grows_addSegment kind path run.reverse true
    rw [h] at hfirst
    exact hfirst.trans ih
  | case3 path hasDrive run c rest hc hc' path' drive h =>
    have hfirst := grows_addSegment kind path run.reverse false
    rwa [h] at hfirst
  | case4 path hasDrive run c rest hc hc' ih => exact ih

/-- What is read onto a path begins with a slash, if the path does or stands in a file address. -/
theorem isRooted_extend (hpath : ∀ c ∈ path, IsVisible c)
    (hroot : kind = .file ∨ path.head? = some '/') (s : Text) :
    IsRooted (extend kind path s).1 := by
  have hgrows := grows_addSegments kind path false [] s
  unfold extend
  dsimp only
  split_ifs with hkind
  · refine ⟨List.forall_mem_cons.2 ⟨by decide, fun c hc => ?_⟩, rfl⟩
    exact hgrows.visible hpath c ((List.dropWhile_suffix _).subset hc)
  · exact ⟨hgrows.visible hpath, hgrows.head (hroot.resolve_left hkind)⟩

theorem isRooted_slash : IsRooted ['/'] := ⟨by decide, rfl⟩

theorem isRooted_start_file (hasHost : Bool) (s : Text) : IsRooted (start .file hasHost s).1 := by
  have hroot {path : Text} (hpath : ∀ c ∈ path, IsVisible c) (s : Text) :=
    isRooted_extend hpath (.inl (rfl : SchemeKind.file = .file)) s
  unfold start
  rw [if_pos (show SchemeKind.file.isSpecial = true from rfl)]
  split
  · split <;> exact hroot isRooted_slash.visible _
  · exact hroot (List.forall_mem_nil _) s

theorem isList_nil : IsList [] :=
  ⟨List.forall_mem_nil _, fun c hc => (Option.not_mem_none c hc).elim⟩

theorem extend_slash (s : Text) : extend .other [] ('/' :: s) = extend .other ['/'] s := rfl

/-- The path that follows an authority is empty or begins with a slash. -/
theorem isList_start (kind : SchemeKind) (s : Text) : IsList (start kind true s).1 := by
  have hslash (kind : SchemeKind) (s : Text) : IsList (extend kind ['/'] s).1 :=
    (isRooted_extend isRooted_slash.visible (.inr rfl) s).isList
  unfold start
  by_cases hspecial : kind.isSpecial = true
  · rw [if_pos hspecial, if_pos rfl]
    split <;> exact hslash _ _
  · obtain rfl : kind = .other := by
      simpa [SchemeKind.isSpecial] using hspecial
    rw [if_neg hspecial]
    split
    · exact isList_nil
    · exact isList_nil
    · exact isList_nil
    · rw [extend_slash]
      exact hslash _ _
    · exact hslash _ _

end Path

end Extraction.Url
