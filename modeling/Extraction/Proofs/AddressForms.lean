import Extraction.Proofs.AddressPaths

/-!
# The form of read addresses

Every part of an address that is read is in its written form, so its text is an address of its own.

## Main statements

* `isAuthority_of_readAuthority`: an authority that is read is in its written form
* `isWritten_of_parse`: an address that is read is in its written form, if the base is
-/

namespace Extraction.Url

open Host (IsVisible IsHost authorityMarks)

variable {kind : SchemeKind} {scheme s t path : Text} {a : Authority} {u v : Url}
  {base : Option Url}

/-! ### Schemes -/

theorem isAlpha_toLower {c : Char} (hc : c.isAlpha = true) : c.toLower.isAlpha = true := by
  by_cases hupper : 65 ≤ c.toNat ∧ c.toNat ≤ 90
  · have hnat := Text.toNat_toLower_of_upper hupper
    rw [Text.isAlpha_iff]
    omega
  · rwa [Text.toLower_of_not_upper hupper]

theorem isSchemeChar_toLower {c : Char} (hc : isSchemeChar c = true) :
    isSchemeChar c.toLower = true := by
  by_cases halpha : c.isAlpha = true
  · rw [isSchemeChar, Char.isAlphanum, isAlpha_toLower halpha]
    rfl
  · rw [Text.isAlpha_iff, not_or] at halpha
    rwa [Text.toLower_of_not_upper halpha.1]

theorem lowerAscii_lowerAscii (s : Text) :
    Text.lowerAscii (Text.lowerAscii s) = Text.lowerAscii s := by
  refine Text.lowerAscii_eq_self fun d hd => ?_
  obtain ⟨c, -, rfl⟩ := List.mem_map.1 hd
  rw [← Bool.not_eq_true, Text.isUpper_iff]
  exact Text.not_upper_toLower c

/-- A scheme that is read is in its written form. -/
theorem isScheme_of_scheme? {rest : Text} (h : scheme? s = some (scheme, rest)) :
    IsScheme scheme := by
  unfold scheme? at h
  split at h
  · cases h
  next c cs =>
    split_ifs at h with hc
    split at h
    · cases h
      have hfirst : isSchemeChar c = true := by
        rw [isSchemeChar, Char.isAlphanum, hc]
        rfl
      refine ⟨⟨c.toLower, Text.lowerAscii (cs.takeWhile isSchemeChar), ?_, isAlpha_toLower hc⟩, ?_,
        lowerAscii_lowerAscii _⟩
      · rw [List.takeWhile_cons_of_pos hfirst]
        rfl
      · intro d hd
        obtain ⟨d, hmem, rfl⟩ := List.mem_map.1 hd
        exact isSchemeChar_toLower (List.mem_takeWhile_imp hmem)
    · cases h

theorem isScheme_file : IsScheme "file".toList where
  head := ⟨'f', "ile".toList, rfl, rfl⟩
  chars := by decide
  lower := by decide

/-! ### Queries and fragments -/

theorem isVisible_fragment? (s : Text) : ∀ f ∈ fragment? s, ∀ c ∈ f, IsVisible c := by
  unfold fragment?
  split
  · rintro f ⟨⟩
    exact isVisible_percentEncode rfl _
  · rintro f ⟨⟩

theorem isWritten_withTail (hu : HasFront u) (kind : SchemeKind) (s : Text) :
    IsWritten (withTail kind u s) := by
  unfold withTail
  split
  · refine { hu with query := ?_, fragment := isVisible_fragment? _ }
    rintro q ⟨⟩
    exact isVisible_percentEncode (by cases kind <;> rfl) _
  · refine { hu with query := ?_, fragment := isVisible_fragment? _ }
    rintro q ⟨⟩

theorem isWritten_withFragment (hu : IsWritten u) (s : Text) : IsWritten (withFragment u s) := by
  refine { hu with fragment := ?_ }
  rintro f ⟨⟩
  exact isVisible_percentEncode rfl _

theorem isOpaque_withTail (kind : SchemeKind) (u : Url) (s : Text) :
    (withTail kind u s).isOpaque = u.isOpaque := by
  unfold withTail
  split <;> rfl

/-- An address in its written form whose path is a list of segments. -/
structure IsListed (u : Url) : Prop extends IsWritten u where
  isOpaque : u.isOpaque = false

theorem isListed_withFragment (hu : IsListed u) (s : Text) : IsListed (withFragment u s) :=
  ⟨isWritten_withFragment hu.toIsWritten s, hu.isOpaque⟩

theorem isListed_withoutFragment (hu : IsListed u) :
    IsListed ⟨u.scheme, u.authority, u.path, u.query, none⟩ :=
  { hu with fragment := fun f hf => (Option.not_mem_none f hf).elim }

theorem isListed_withTail (hu : IsListed u) (kind : SchemeKind) (s : Text) :
    IsListed (withTail kind u s) :=
  ⟨isWritten_withTail hu.toHasFront kind s, (isOpaque_withTail kind u s).trans hu.isOpaque⟩

/-- An address with a path that is a list of segments is written if its scheme and its authority
are. -/
theorem isListed_withPath {authority : Option Authority} {query fragment : Option Text} {old : Text}
    (hscheme : IsScheme scheme) (hauthority : HasAuthority (SchemeKind.of scheme) authority)
    (hpath : IsList path) (hroot : authority.isSome = true ∨ path.head? = some '/') (s : Text) :
    IsListed (withPath kind ⟨scheme, authority, old, query, fragment⟩ path s) := by
  have hopaque : isOpaque ⟨scheme, authority, path, none, none⟩ = false := by
    unfold isOpaque
    rcases hroot with h | h
    · obtain ⟨a, rfl⟩ := Option.isSome_iff_exists.1 h
      rfl
    · simp [h]
  have hfront : IsListed ⟨scheme, authority, path, none, none⟩ := {
    scheme := hscheme
    authority := hauthority
    list := fun _ => hpath
    printable := fun c hc => isPrintable_of_isVisible (hpath.visible c hc)
    query := fun q hq => (Option.not_mem_none q hq).elim
    fragment := fun f hf => (Option.not_mem_none f hf).elim
    isOpaque := hopaque }
  exact isListed_withTail hfront kind s

/-! ### Authorities -/

theorem isUser_userText (s : Text) : IsUser (userText s) := by
  have hencode (s : Text) :
      ∀ c ∈ percentEncode forbiddenUser s, IsVisible c ∧ c ∉ authorityMarks :=
    isVisible_percentEncode_notMem rfl s rfl
  unfold userText
  dsimp only
  split_ifs
  · exact .none
  · exact .some (hencode _)
  · exact .some (List.forall_mem_append.2
      ⟨hencode _, List.forall_mem_cons.2 ⟨by decide, hencode _⟩⟩)

theorem isUser_of_user {name rest : Text} (h : user kind s = .ok (name, rest)) : IsUser name := by
  unfold user at h
  dsimp only at h
  split_ifs at h
  · cases h
    exact isUser_userText _
  · cases h
    exact .none

theorem port_le_of_portAfter {p : Option Nat} {rest : Text}
    (h : portAfter scheme s = .ok (p, rest)) : ∀ n ∈ p, n ≤ 65535 := by
  unfold portAfter at h
  split at h
  · unfold port at h
    dsimp only at h
    split_ifs at h with hbad hdefault
    · cases h
      rintro n ⟨⟩
    · cases h
      intro n hn
      rw [Option.mem_def.1 hn] at hbad
      rw [Bool.not_eq_true, Bool.or_eq_false_iff] at hbad
      exact not_lt.1 (of_decide_eq_false hbad.1)
  · cases h
    rintro n ⟨⟩

theorem eq_none_of_portAfter {p : Option Nat} {rest : Text} (hs : s.head? ≠ some ':')
    (h : portAfter scheme s = .ok (p, rest)) : p = none := by
  unfold portAfter at h
  split at h
  · exact (hs rfl).elim
  · cases h
    rfl

/-- An authority that is read is in its written form. -/
theorem isAuthority_of_readAuthority {rest : Text}
    (h : readAuthority scheme s = .ok (a, rest)) : IsAuthority (SchemeKind.of scheme) a := by
  obtain ⟨after, host, left, huser, -, hspecial, hread, hwhole, hport⟩ := exists_of_readAuthority h
  have hhost : IsHost a.host ∧ readHost (SchemeKind.of scheme) a.host = .ok a.host ∧
      ((SchemeKind.of scheme).isSpecial = true → a.host ≠ []) := by
    unfold readHost at hread ⊢
    split_ifs at hread ⊢ with hkind
    · obtain ⟨hsame, hne, hhost⟩ := Host.read_of_read hread
      exact ⟨hhost, hsame, fun _ => hne⟩
    · obtain ⟨hsame, hhost⟩ := Host.readOpaque_of_readOpaque hread
      exact ⟨hhost, hsame, fun hspecial => (hkind hspecial).elim⟩
  exact {
    user := isUser_of_user huser
    host := hhost.1
    read := hhost.2.1
    port := port_le_of_portAfter hport
    special := hhost.2.2
    whole := fun hnil => ⟨(hwhole hnil).2, eq_none_of_portAfter (hwhole hnil).1 hport⟩ }

theorem isListed_of_afterSlashes (hscheme : IsScheme scheme) (hkind : SchemeKind.of scheme ≠ .file)
    (h : afterSlashes scheme s = .ok v) : IsListed v := by
  unfold afterSlashes at h
  simp only [bind, Except.bind] at h
  split at h
  · cases h
  next found hfound =>
    cases h
    have ha := isAuthority_of_readAuthority hfound
    exact isListed_withPath hscheme (.some hkind ha) (Path.isList_start _ _) (.inl rfl) _

/-! ### Files -/

/-- The host of a file address in its written form, which may be missing. -/
def IsFileHost (host : Text) : Prop := IsHost host ∧ (host = [] ∨ Host.read host = .ok host)

theorem isFileHost_nil : IsFileHost [] :=
  ⟨.plain (List.forall_mem_nil _), .inl rfl⟩

theorem isListed_fileUrl {host : Text} (hhost : IsFileHost host) (hpath : Path.IsRooted path)
    (s : Text) : IsListed (fileUrl host path s) :=
  isListed_withPath isScheme_file (.file hhost.1 hhost.2) hpath.isList (.inl rfl) s

theorem isListed_of_fileHost (h : fileHost s = .ok v) : IsListed v := by
  have hkept {host : Text} (hhost : IsFileHost host) (hidden : Bool) :
      IsFileHost (if hidden then [] else if host = "localhost".toList then [] else host) := by
    split
    · exact isFileHost_nil
    · split
      · exact isFileHost_nil
      · exact hhost
  unfold fileHost at h
  simp only [bind, Except.bind] at h
  split_ifs at h
  · cases h
    exact isListed_fileUrl isFileHost_nil (Path.isRooted_extend (by decide) (.inl rfl) _) _
  · cases h
    exact isListed_fileUrl (hkept isFileHost_nil _) (Path.isRooted_start_file _ _) _
  · split at h
    · cases h
    next host hread =>
      cases h
      obtain ⟨hsame, -, hhost⟩ := Host.read_of_read hread
      exact isListed_fileUrl (hkept ⟨hhost, .inr hsame⟩ _) (Path.isRooted_start_file _ _) _

/-- The host of a file address is that of its authority. -/
theorem isFileHost_hostOf (hu : IsListed u) (hkind : u.kind = .file) : IsFileHost (hostOf u) := by
  have hauthority := hu.authority
  rw [hkind] at hauthority
  unfold hostOf
  generalize u.authority = authority at hauthority
  cases hauthority with
  | file hhost hread => exact ⟨hhost, hread⟩
  | some hne _ => exact (hne rfl).elim

section File

variable (hbase : ∀ b ∈ base, IsListed b ∧ b.kind = .file) (s : Text)

include hbase

theorem isListed_rooted : IsListed (file.rooted base s) := by
  have hextend {path : Text} (hpath : ∀ c ∈ path, IsVisible c) :
      Path.IsRooted (Path.extend .file path s).1 :=
    Path.isRooted_extend hpath (.inl rfl) s
  have hnil : ∀ c ∈ ([] : Text), IsVisible c := List.forall_mem_nil _
  unfold file.rooted
  cases base with
  | none => exact isListed_fileUrl isFileHost_nil (hextend hnil) _
  | some b =>
    obtain ⟨hb, hkind⟩ := hbase b rfl
    dsimp only
    split_ifs
    · exact isListed_fileUrl isFileHost_nil (hextend hnil) _
    · -- The drive letter of the base stays.
      refine isListed_fileUrl isFileHost_nil (hextend (List.forall_mem_cons.2 ⟨by decide, ?_⟩)) _
      exact fun c hc => (hb.list hb.isOpaque).visible c
        (List.mem_of_mem_drop ((List.takeWhile_prefix _).subset hc))
    · exact isListed_fileUrl (isFileHost_hostOf hb hkind) (hextend hnil) _

theorem isListed_relative_file {fresh : Url} (hfresh : IsListed fresh) :
    IsListed (file.relative base fresh s) := by
  unfold file.relative
  cases base with
  | none => exact hfresh
  | some b =>
    obtain ⟨hb, hkind⟩ := hbase b rfl
    dsimp only
    split
    · exact isListed_withoutFragment hb
    · exact isListed_withTail hb _ _
    · exact isListed_withFragment hb _
    · split_ifs
      · exact hfresh
      · have hvisible := (hb.list hb.isOpaque).visible
        have hpath := Path.isRooted_extend ((Path.grows_shorten .file b.path).visible hvisible)
          (.inl (rfl : SchemeKind.file = .file)) s
        exact isListed_withPath hb.scheme hb.authority hpath.isList (.inr hpath.head) _

theorem isListed_of_file (h : file base s = .ok v) : IsListed v := by
  have hfresh : IsListed
      (fileUrl [] (Path.extend .file ['/'] s).1 (Path.extend .file ['/'] s).2.2) :=
    isListed_fileUrl isFileHost_nil (Path.isRooted_extend (by decide) (.inl rfl) s) _
  have hrelative := isListed_relative_file hbase s hfresh
  have hrooted := isListed_rooted hbase s
  unfold file at h
  dsimp only at h
  split at h
  · split_ifs at h
    · exact isListed_of_fileHost h
    all_goals
      cases h
      assumption
  · split_ifs at h
    all_goals
      cases h
      assumption
  · cases h
    exact hrelative

end File

/-! ### Addresses -/

/-- A path without its last segment begins with a slash, if one is put for an empty path. -/
theorem isRooted_pop (hpath : IsList path) (kind : SchemeKind) :
    Path.IsRooted (if (Path.pop kind path).isEmpty then ['/'] else Path.pop kind path) := by
  have hgrows := Path.grows_pop kind path
  split
  · exact Path.isRooted_slash
  next hne =>
    refine ⟨hgrows.visible hpath.visible, hgrows.head ?_⟩
    cases path with
    | nil =>
      refine (hne ?_).elim
      unfold Path.pop
      split_ifs <;> rfl
    | cons c path => rw [hpath.head c rfl, List.head?_cons]

theorem isListed_of_relative {b : Url} (hb : IsListed b) (hkind : b.kind ≠ .file)
    (h : relative b s = .ok v) : IsListed v := by
  have hvisible := (hb.list hb.isOpaque).visible
  have hwith {path : Text} (hpath : Path.IsRooted path) (t : Text) :
      IsListed (withPath b.kind b path t) :=
    isListed_withPath hb.scheme hb.authority hpath.isList (.inr hpath.head) t
  have hroot (t : Text) : Path.IsRooted (Path.extend b.kind ['/'] t).1 :=
    Path.isRooted_extend Path.isRooted_slash.visible (.inr rfl) t
  unfold relative at h
  dsimp only at h
  split at h
  · cases h
    exact isListed_withoutFragment hb
  · cases h
    exact isListed_withTail hb _ _
  · cases h
    exact isListed_withFragment hb _
  · split at h
    · split at h
      · split_ifs at h
        · exact isListed_of_afterSlashes hb.scheme hkind h
        · exact isListed_of_afterSlashes hb.scheme hkind h
        · cases h
          exact hwith (hroot _) _
      · cases h
        exact hwith (hroot _) _
    · cases h
      have hfront := isRooted_pop (hb.list hb.isOpaque) b.kind
      exact hwith (Path.isRooted_extend hfront.visible (.inr hfront.head) _) _

theorem head?_percentEncode {forbidden : Char → Bool}
    (h : (percentEncode forbidden s).head? = some '/') : s.head? = some '/' := by
  cases s with
  | nil => cases h
  | cons c s =>
    rw [percentEncode, List.flatMap_cons] at h
    split_ifs at h
    · have hchar : (percentChar c).head? = some '%' := by
        unfold percentChar Utf8.encodeChar
        dsimp only
        split_ifs <;> rfl
      rw [List.head?_append, hchar] at h
      cases h
    · exact h

theorem isWritten_of_plain (hscheme : IsScheme scheme) (hkind : SchemeKind.of scheme = .other)
    (h : plain scheme s = .ok v) : IsWritten v := by
  have hnone : HasAuthority (SchemeKind.of scheme) none := by
    rw [hkind]
    exact .none
  unfold plain at h
  dsimp only at h
  split at h
  · exact (isListed_of_afterSlashes hscheme (by rw [hkind]; decide) h).toIsWritten
  · cases h
    have hpath (t : Text) : Path.IsRooted (Path.extend .other ['/'] t).1 :=
      Path.isRooted_extend Path.isRooted_slash.visible (.inr rfl) t
    exact (isListed_withPath hscheme hnone (hpath _).isList (.inr (hpath _).head) _).toIsWritten
  next hsingle =>
    cases h
    -- The path begins with no slash, so it is no list of segments and may hold spaces.
    have hopaque {stop : Char → Bool} :
        ¬ (percentEncode forbiddenOpaque (s.takeWhile stop)).head? = some '/' := fun hhead => by
      obtain ⟨t, ht⟩ := List.head?_eq_some_iff.1 (head?_percentEncode hhead)
      obtain ⟨rest, hrest⟩ := List.takeWhile_prefix (p := stop) (l := s)
      rw [ht] at hrest
      exact hsingle _ hrest.symm
    have hfront : HasFront ⟨scheme, none, percentEncode forbiddenOpaque
        (s.takeWhile fun c => !(c == '?' || c == '#')), none, none⟩ := by
      refine ⟨hscheme, hnone, fun hlist => ?_, ?_⟩
      · simp [isOpaque, hopaque] at hlist
      · exact forall_mem_percentEncode (by unfold IsPrintable; decide)
          (by unfold IsPrintable; decide) fun c _ hlow hhigh _ => ⟨hlow, hhigh⟩
    exact isWritten_withTail hfront _ _

theorem isListed_of_kind (hu : IsWritten u) (hkind : u.kind ≠ .other) : IsListed u := by
  have hauthority := hu.authority
  refine ⟨hu, ?_⟩
  unfold isOpaque
  generalize u.kind = kind at hauthority hkind
  generalize u.authority = authority at hauthority
  cases hauthority with
  | file => rfl
  | some => rfl
  | none => exact (hkind rfl).elim

/-- An address that is read is in its written form, if the base is. Its path is a list of segments,
unless the base is not needed or only another fragment is read. -/
theorem isWritten_of_parse (hbase : ∀ b ∈ base, IsWritten b) (h : parse base s = .ok v) :
    IsWritten v ∧ (v.isOpaque = true → v.fragment.isSome = true ∨ parse none s = .ok v) := by
  have hlisted (hv : IsListed v) :
      IsWritten v ∧ (v.isOpaque = true → v.fragment.isSome = true ∨ parse none s = .ok v) :=
    ⟨hv.toIsWritten, fun hopaque => by
      rw [hv.isOpaque] at hopaque
      cases hopaque⟩
  unfold parse at h
  dsimp only at h
  split at h
  next scheme rest hscheme =>
    have hwritten := isScheme_of_scheme? hscheme
    have hsame {p : Url → Bool} (hp : ∀ b, p b = true → b.scheme = scheme)
        (hkind : SchemeKind.of scheme ≠ .other) : ∀ b ∈ base.filter p,
        IsListed b ∧ b.kind = SchemeKind.of scheme := fun b hb => by
      obtain ⟨hb, hpb⟩ := Option.filter_eq_some_iff.1 hb
      have hbkind : b.kind = SchemeKind.of scheme := congrArg SchemeKind.of (hp b hpb)
      exact ⟨isListed_of_kind (hbase b hb) (hbkind ▸ hkind), hbkind⟩
    split at h
    next hkind =>
      refine hlisted (isListed_of_file (fun b hb => ?_) rest h)
      rw [← hkind]
      exact hsame (fun b hb => by simpa using hb) (by rw [hkind]; decide) b hb
    next hkind =>
      -- Only here may the path be no list of segments, and the base is not looked at.
      refine ⟨isWritten_of_plain hwritten hkind h, fun _ => .inr ?_⟩
      unfold parse
      dsimp only
      rw [hscheme]
      dsimp only
      rw [hkind]
      exact h
    next hkind =>
      split at h
      next b hb =>
        obtain ⟨hlist, hbkind⟩ := hsame (fun b hb => by
          simp only [Bool.and_eq_true, beq_iff_eq] at hb
          exact hb.2) (by rw [hkind]; decide) b hb
        refine hlisted (isListed_of_relative hlist ?_ h)
        rw [hbkind, hkind]
        decide
      next => exact hlisted (isListed_of_afterSlashes hwritten (by rw [hkind]; decide) h)
  next =>
    split at h
    · cases h
    next b =>
      have hb := hbase b rfl
      split_ifs at h with hfragment hopaque hkind
      · cases h
        exact ⟨isWritten_withFragment hb _, fun _ => .inl rfl⟩
      · refine hlisted (isListed_of_file (fun c hc => ?_) _ h)
        cases hc
        exact ⟨isListed_of_kind hb (by rw [hkind]; decide), hkind⟩
      · exact hlisted (isListed_of_relative ⟨hb, by simpa using hopaque⟩ hkind h)

end Extraction.Url
