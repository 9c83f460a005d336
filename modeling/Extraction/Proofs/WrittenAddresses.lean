import Extraction.Url.Parser
import Extraction.Proofs.HostNames

/-!
# Written addresses

An address whose parts are in their written form. Its text is read as an address again, with no
base.

## Main definitions

* `Url.IsAuthority`: an authority in its written form
* `Url.IsWritten`: an address in its written form

## Main statements

* `Url.exists_readAuthority`: a written authority is read
* `Url.exists_parse_toText`: a written address is read
-/

namespace Extraction.Url

open Host (IsVisible IsHost authorityMarks hostMarks)

/-! ### Authorities -/

/-- A user part in its written form. -/
inductive IsUser : Text → Prop where
  | none : IsUser []
  | some {name : Text} (hname : ∀ c ∈ name, IsVisible c ∧ c ∉ authorityMarks) :
      IsUser (name ++ ['@'])

/-- An authority in its written form, under a scheme of the given kind. A special address has a
host, and beside no host there is nothing else. -/
structure IsAuthority (kind : SchemeKind) (a : Authority) : Prop where
  user : IsUser a.user
  host : IsHost a.host
  read : readHost kind a.host = .ok a.host
  port : ∀ n ∈ a.port, n ≤ 65535
  special : kind.isSpecial = true → a.host ≠ []
  whole : a.host = [] → a.user = [] ∧ a.port = none

/-- What may follow an authority: the end, or a mark that begins another part. -/
def Follows (t : Text) : Prop := ∀ c ∈ t.head?, c ∈ ['/', '?', '#']

theorem takeWhile_append_of_head {p : Char → Bool} {s t : Text} (hs : ∀ c ∈ s, p c = true)
    (ht : ∀ c ∈ t.head?, p c = false) : (s ++ t).takeWhile p = s := by
  rw [List.takeWhile_append_of_pos hs]
  cases t with
  | nil => rw [List.takeWhile_nil, List.append_nil]
  | cons c t =>
    rw [List.takeWhile_cons_of_neg (by simp [ht c rfl]), List.append_nil]

theorem Follows.head {p : Char → Bool} {t : Text} (hp : ['/', '?', '#'].all p = true)
    (ht : Follows t) : ∀ c ∈ t.head?, p c = true :=
  fun c hc => List.all_eq_true.1 hp c (ht c hc)

section Authority

variable {kind : SchemeKind} {scheme h t : Text} {a : Authority} {c : Char}

theorem endsAuthority_eq_false (hc : c ∉ authorityMarks) : endsAuthority kind c = false := by
  simp only [authorityMarks, List.mem_cons, List.not_mem_nil, or_false, not_or] at hc
  simp [endsAuthority, hc]

theorem Follows.endsAuthority (ht : Follows t) : ∀ c ∈ t.head?, endsAuthority kind c = true :=
  ht.head rfl

/-- Characters of a host are read on, inside brackets or without colons. -/
theorem hostText_of_forall {inBrackets : Bool}
    (hh : ∀ c ∈ h, (IsVisible c ∧ c ∉ hostMarks) ∧ (c = ':' → inBrackets = true)) :
    hostText kind inBrackets (h ++ t) =
      (h ++ (hostText kind inBrackets t).1, (hostText kind inBrackets t).2) := by
  induction h with
  | nil => rfl
  | cons c h ih =>
    obtain ⟨⟨⟨-, hc⟩, hcolon⟩, hh⟩ := List.forall_mem_cons.1 hh
    simp only [hostMarks, List.mem_cons, not_or] at hc
    have hgoes : ¬ (endsAuthority kind c || (c == ':' && !inBrackets)) = true := by
      rw [endsAuthority_eq_false hc.2.2]
      cases inBrackets with
      | true => simp
      | false => simpa using hcolon
    rw [List.cons_append, hostText, if_neg hgoes, if_neg hc.1, if_neg hc.2.1]
    dsimp only
    rw [ih hh]
    rfl

theorem hostText_of_ends (ht : ∀ c ∈ t.head?, endsAuthority kind c = true ∨ c = ':') :
    hostText kind false t = ([], t) := by
  cases t with
  | nil => rfl
  | cons c t =>
    rw [hostText, if_pos]
    rcases ht c rfl with hc | rfl
    · rw [hc, Bool.true_or]
    · simp

/-- A written host ends where another part begins. -/
theorem hostText_append (hh : IsHost h)
    (ht : ∀ c ∈ t.head?, endsAuthority kind c = true ∨ c = ':') :
    hostText kind false (h ++ t) = (h, t) := by
  cases hh with
  | plain hchars =>
    rw [hostText_of_forall, hostText_of_ends ht, List.append_nil]
    intro c hc
    obtain ⟨hvisible, hmarks⟩ := hchars c hc
    rw [List.mem_cons, not_or] at hmarks
    exact ⟨⟨hvisible, hmarks.2⟩, fun hcolon => (hmarks.1 hcolon).elim⟩
  | @bracketed inner hchars =>
    have hopen : ¬ (endsAuthority kind '[' || ('[' == ':' && !false)) = true := by
      rw [endsAuthority_eq_false (by decide)]
      decide
    have hclose : ¬ (endsAuthority kind ']' || (']' == ':' && !true)) = true := by
      rw [endsAuthority_eq_false (by decide)]
      decide
    have hinner : hostText kind true (inner ++ ']' :: t) = (inner ++ [']'], t) := by
      rw [hostText_of_forall fun c hc => ⟨hchars c hc, fun _ => rfl⟩, hostText, if_neg hclose]
      dsimp only
      rw [if_neg (by decide), if_pos rfl, hostText_of_ends ht]
    rw [List.cons_append, List.cons_append, List.append_assoc, List.singleton_append, hostText,
      if_neg hopen]
    dsimp only
    rw [if_pos rfl, hinner]

theorem port_append {n : Nat} (hn : n ≤ 65535) (ht : Follows t) :
    ∃ p, port scheme (Text.ofNat n ++ t) = .ok (p, t) := by
  have hdigits : (Text.ofNat n ++ t).takeWhile Char.isDigit = Text.ofNat n :=
    takeWhile_append_of_head (fun c hc => Text.isDigit_of_mem_ofNat hc) fun c hc => by
      simpa using ht.head (p := fun d => !d.isDigit) rfl c hc
  have hrest : (Text.ofNat n ++ t).drop (Text.ofNat n).length = t := List.drop_left
  unfold port
  dsimp only
  rw [hdigits, hrest, Text.digits?_ofNat, if_neg]
  · exact ⟨_, rfl⟩
  · cases t with
    | nil => simpa using hn
    | cons c t =>
      have hcut : ['/', '\\', '?', '#'].elem c = true :=
        ht.head (p := (['/', '\\', '?', '#'].elem ·)) rfl c rfl
      dsimp only
      rw [hcut]
      simpa using hn

/-- The text of a port. -/
def portText (p : Option Nat) : Text :=
  match p with
  | some n => ':' :: Text.ofNat n
  | none => []

theorem authorityText_eq (a : Authority) :
    authorityText a = '/' :: '/' :: (a.user ++ (a.host ++ portText a.port)) := by
  unfold authorityText portText
  rw [List.append_assoc, List.append_assoc]
  rfl

theorem isVisible_of_isDigit (hc : c.isDigit = true) : IsVisible c ∧ c ∉ authorityMarks := by
  refine ⟨?_, Host.notMem_of_all (p := fun d => !d.isDigit) rfl (by rw [hc]; rfl)⟩
  rw [Text.isDigit_iff] at hc
  exact ⟨by omega, by omega⟩

theorem forall_mem_portText (p : Option Nat) :
    ∀ c ∈ portText p, IsVisible c ∧ c ∉ authorityMarks := by
  cases p with
  | none => exact List.forall_mem_nil _
  | some n =>
    exact List.forall_mem_cons.2 ⟨by decide,
      fun c hc => isVisible_of_isDigit (Text.isDigit_of_mem_ofNat hc)⟩

theorem Host.IsHost.forall_mem (hh : IsHost h) : ∀ c ∈ h, IsVisible c ∧ c ∉ authorityMarks := by
  cases hh with
  | plain hchars =>
    intro c hc
    obtain ⟨hvisible, hmarks⟩ := hchars c hc
    simp only [hostMarks, List.mem_cons, not_or] at hmarks
    exact ⟨hvisible, hmarks.2.2.2⟩
  | bracketed hchars =>
    refine List.forall_mem_cons.2 ⟨by decide, List.forall_mem_append.2 ⟨fun c hc => ?_, ?_⟩⟩
    · obtain ⟨hvisible, hmarks⟩ := hchars c hc
      simp only [hostMarks, List.mem_cons, not_or] at hmarks
      exact ⟨hvisible, hmarks.2.2⟩
    · decide

theorem takeWhile_authority {s : Text} (hs : ∀ c ∈ s, endsAuthority kind c = false)
    (ht : Follows t) : (s ++ t).takeWhile (!endsAuthority kind ·) = s :=
  takeWhile_append_of_head (fun c hc => by rw [hs c hc]; rfl) fun c hc => by
    rw [ht.endsAuthority c hc]
    rfl

/-- What stands after the last mark of a kind. -/
theorem takeWhile_after_mark {mark : Char} {host : Text} (name : Text) (h : mark ∉ host) :
    ((name ++ mark :: host).reverse.takeWhile (· != mark)).reverse = host := by
  rw [List.reverse_append, List.reverse_cons, List.append_assoc, List.takeWhile_append_of_pos,
    List.singleton_append, List.takeWhile_cons_of_neg (by simp), List.append_nil,
    List.reverse_reverse]
  intro c hc
  rw [bne_iff_ne]
  rintro rfl
  exact h (List.mem_reverse.1 hc)

/-- The user part ends with the only at sign before the host. -/
theorem user_append {name host : Text} (hname : IsUser name)
    (hhost : ∀ c ∈ host, c ∉ authorityMarks) (hwhole : host = [] → name = []) (ht : Follows t) :
    ∃ u, user kind (name ++ (host ++ t)) = .ok (u, host ++ t) ∧ (name = [] → u = []) := by
  have hhostEnds : ∀ c ∈ host, endsAuthority kind c = false := fun c hc =>
    endsAuthority_eq_false (hhost c hc)
  have hat : '@' ∉ host := fun hmem => hhost '@' hmem (by decide)
  cases hname with
  | none =>
    refine ⟨[], ?_, fun _ => rfl⟩
    unfold user
    dsimp only
    rw [List.nil_append, takeWhile_authority hhostEnds ht, if_neg]
    rwa [List.elem_iff]
  | @some name hname =>
    have hne : host ≠ [] := fun hnil => List.append_ne_nil_of_right_ne_nil _ (by simp) (hwhole hnil)
    have hall : ∀ c ∈ name ++ '@' :: host, endsAuthority kind c = false :=
      List.forall_mem_append.2 ⟨fun c hc => endsAuthority_eq_false (hname c hc).2,
        List.forall_mem_cons.2 ⟨by simp [endsAuthority], hhostEnds⟩⟩
    have htext : name ++ ['@'] ++ (host ++ t) = name ++ '@' :: host ++ t := by simp
    have hlast := takeWhile_after_mark name hat
    have hbefore : (name ++ '@' :: host).take
        ((name ++ '@' :: host).length - host.length - 1) = name := by
      rw [List.length_append, List.length_cons,
        show name.length + (host.length + 1) - host.length - 1 = name.length by omega,
        List.take_left]
    refine ⟨userText name, ?_,
      fun hnil => (List.append_ne_nil_of_right_ne_nil _ (by simp) hnil).elim⟩
    unfold user
    dsimp only
    rw [htext, takeWhile_authority hall ht, hlast, hbefore, List.drop_left, if_pos, if_neg]
    · simp [hne]
    · simp

theorem readAuthority_eq_ok {s : Text} {u rest host after name left : Text} {p : Option Nat}
    (huser : user (SchemeKind.of scheme) s = .ok (u, rest))
    (hhost : hostText (SchemeKind.of scheme) false rest = (host, after))
    (hspecial : (SchemeKind.of scheme).isSpecial = true → host ≠ [])
    (hname : readHost (SchemeKind.of scheme) host = .ok name)
    (hwhole : name = [] → after.head? ≠ some ':' ∧ u = [])
    (hport : portAfter scheme after = .ok (p, left)) :
    readAuthority scheme s = .ok (⟨u, name, p⟩, left) := by
  unfold readAuthority
  simp only [huser, hhost, hname, hport, bind, Except.bind]
  rw [if_neg, if_neg]
  · rfl
  · simpa using hwhole
  · simpa using hspecial

theorem exists_of_readAuthority {s left : Text} (h : readAuthority scheme s = .ok (a, left)) :
    ∃ rest host after, user (SchemeKind.of scheme) s = .ok (a.user, rest) ∧
      hostText (SchemeKind.of scheme) false rest = (host, after) ∧
      ((SchemeKind.of scheme).isSpecial = true → host ≠ []) ∧
      readHost (SchemeKind.of scheme) host = .ok a.host ∧
      (a.host = [] → after.head? ≠ some ':' ∧ a.user = []) ∧
      portAfter scheme after = .ok (a.port, left) := by
  unfold readAuthority at h
  simp only [bind, Except.bind] at h
  split at h
  · cases h
  next v hv =>
    split_ifs at h with hspecial
    split at h
    · cases h
    next name hname =>
      split_ifs at h with hwhole
      split at h
      · cases h
      next q hq =>
        cases h
        exact ⟨_, _, _, hv, rfl, by simpa using hspecial, hname, by simpa using hwhole, hq⟩

/-- A written authority is read, up to where another part begins. -/
theorem exists_readAuthority (ha : IsAuthority (SchemeKind.of scheme) a) (ht : Follows t) :
    ∃ b, readAuthority scheme (a.user ++ (a.host ++ (portText a.port ++ t))) = .ok (b, t) := by
  have hends : ∀ c ∈ (portText a.port ++ t).head?,
      endsAuthority (SchemeKind.of scheme) c = true ∨ c = ':' := by
    intro c hc
    cases hp : a.port with
    | none =>
      rw [hp] at hc
      exact .inl (ht.endsAuthority c hc)
    | some n =>
      rw [hp] at hc
      cases hc
      exact .inr rfl
  obtain ⟨p, hport⟩ : ∃ p, portAfter scheme (portText a.port ++ t) = .ok (p, t) := by
    cases hp : a.port with
    | none =>
      refine ⟨none, ?_⟩
      rw [portText, List.nil_append]
      unfold portAfter
      split
      · exact absurd (ht ':' rfl) (by decide)
      · rfl
    | some n => exact port_append (ha.port n hp) ht
  have hafter : ∀ c ∈ a.host ++ portText a.port, c ∉ authorityMarks :=
    List.forall_mem_append.2 ⟨fun c hc => (ha.host.forall_mem c hc).2,
      fun c hc => (forall_mem_portText a.port c hc).2⟩
  have hnone (hnil : a.host ++ portText a.port = []) : a.user = [] :=
    (ha.whole (List.append_eq_nil_iff.1 hnil).1).1
  obtain ⟨u, huser, hu⟩ := user_append ha.user hafter hnone ht
  rw [List.append_assoc] at huser
  refine ⟨_, readAuthority_eq_ok huser (hostText_append ha.host hends) ha.special ha.read
    (fun hnil => ?_) hport⟩
  obtain ⟨hempty, hp⟩ := ha.whole hnil
  refine ⟨fun hcolon => ?_, hu hempty⟩
  rw [hp, portText, List.nil_append] at hcolon
  exact absurd (ht ':' hcolon) (by decide)

end Authority

/-! ### Addresses -/

/-- Whether a character is visible ASCII or a space. -/
def IsPrintable (c : Char) : Prop := 0x20 ≤ c.toNat ∧ c.toNat < 0x7F

theorem isPrintable_of_isVisible {c : Char} (hc : IsVisible c) : IsPrintable c := ⟨hc.1.le, hc.2⟩

/-- A scheme in its written form. -/
structure IsScheme (s : Text) : Prop where
  head : ∃ c rest, s = c :: rest ∧ c.isAlpha = true
  chars : ∀ c ∈ s, isSchemeChar c = true
  lower : Text.lowerAscii s = s

/-- What authority an address has under a scheme of the given kind: a file has a host at most, and
every other special address has one. -/
inductive HasAuthority : SchemeKind → Option Authority → Prop where
  | file {host : Text} (hhost : IsHost host) (hread : host = [] ∨ Host.read host = .ok host) :
      HasAuthority .file (some (hostOnly host))
  | some {kind : SchemeKind} {a : Authority} (hkind : kind ≠ .file) (ha : IsAuthority kind a) :
      HasAuthority kind (some a)
  | none : HasAuthority .other none

/-- A path in its written form that is a list of segments. -/
structure IsList (path : Text) : Prop where
  visible : ∀ c ∈ path, IsVisible c
  head : ∀ c ∈ path.head?, c = '/'

/-- Scheme, authority and path in their written form. Only a path that is no list of segments may
hold spaces. -/
structure HasFront (u : Url) : Prop where
  scheme : IsScheme u.scheme
  authority : HasAuthority u.kind u.authority
  list : u.isOpaque = false → IsList u.path
  printable : ∀ c ∈ u.path, IsPrintable c

/-- An address in its written form. -/
structure IsWritten (u : Url) : Prop extends HasFront u where
  query : ∀ q ∈ u.query, ∀ c ∈ q, IsVisible c
  fragment : ∀ f ∈ u.fragment, ∀ c ∈ f, IsVisible c

/-- The text between the scheme and the path. -/
def authorityPart (u : Url) : Text :=
  match u.authority with
  | some a => authorityText a
  | none => if ['/', '/'].isPrefixOf u.path then ['/', '.'] else []

/-- The text of the query and the fragment. -/
def tailText (u : Url) : Text :=
  (match u.query with
    | some q => '?' :: q
    | none => []) ++
    match u.fragment with
    | some f => '#' :: f
    | none => []

section Reading

variable {u : Url} {s t : Text}

theorem toText_eq (u : Url) :
    u.toText = u.scheme ++ ':' :: (authorityPart u ++ (u.path ++ tailText u)) := by
  unfold toText authorityPart tailText
  simp only [List.append_assoc, List.singleton_append]
  rfl

/-- A query or a fragment begins with its mark. -/
theorem head?_tailText (u : Url) : ∀ c ∈ (tailText u).head?, c ∈ ['?', '#'] := by
  unfold tailText
  cases u.query with
  | some q =>
    rintro c ⟨⟩
    exact List.mem_cons_self
  | none =>
    cases u.fragment with
    | some f =>
      rintro c ⟨⟩
      exact List.mem_cons_of_mem _ List.mem_cons_self
    | none => rintro c ⟨⟩

theorem isVisible_of_isSchemeChar {c : Char} (hc : isSchemeChar c = true) : IsVisible c := by
  rw [isSchemeChar, Bool.or_eq_true, List.elem_iff] at hc
  rcases hc with hc | hc
  · rw [Text.isAlphanum_iff] at hc
    exact ⟨by omega, by omega⟩
  · simp only [List.mem_cons, List.not_mem_nil, or_false] at hc
    rcases hc with rfl | rfl | rfl <;> decide

/-- What begins and ends with visible characters, with spaces at most between, is read as it is. -/
theorem cleaned_eq_self (hs : ∀ c ∈ s, IsPrintable c) (hhead : ∀ c ∈ s.head?, IsVisible c)
    (hlast : ∀ c ∈ s.getLast?, IsVisible c) : cleaned s = s := by
  have hedge {l : Text} (hl : ∀ c ∈ l.head?, IsVisible c) :
      l.dropWhile (fun c => decide (c.toNat ≤ 0x20)) = l := by
    cases l with
    | nil => rfl
    | cons c l =>
      rw [List.dropWhile_cons_of_neg]
      have := (hl c rfl).1
      simpa using this
  unfold cleaned
  dsimp only
  rw [hedge hhead, hedge (by rwa [List.head?_reverse]), List.reverse_reverse, List.filter_eq_self]
  intro c hc
  have hlow := (hs c hc).1
  have hne {d : Char} (hd : d.toNat < 0x20) : c ≠ d := by
    rintro rfl
    omega
  simp [hne (show '\t'.toNat < 0x20 by decide), hne (show '\n'.toNat < 0x20 by decide),
    hne (show '\r'.toNat < 0x20 by decide)]

theorem isBlank_of_isVisible {c : Char} (hc : IsVisible c) : Text.isBlank c = false := by
  obtain ⟨hlow, hhigh⟩ := hc
  simp only [Text.isBlank, Bool.or_eq_false_iff, Bool.and_eq_false_iff, decide_eq_false_iff_not,
    beq_eq_false_iff_ne]
  omega

/-- The scheme of a written address is read back. -/
theorem scheme?_append (hs : IsScheme s) (rest : Text) :
    scheme? (s ++ ':' :: rest) = some (s, rest) := by
  have htake : (s ++ ':' :: rest).takeWhile isSchemeChar = s := by
    rw [List.takeWhile_append_of_pos hs.chars, List.takeWhile_cons_of_neg (by decide),
      List.append_nil]
  have hdrop : (s ++ ':' :: rest).dropWhile isSchemeChar = ':' :: rest := by
    rw [List.dropWhile_append_of_pos hs.chars, List.dropWhile_cons_of_neg (by decide)]
  obtain ⟨c, cs, hcs, hc⟩ := hs.head
  unfold scheme?
  split
  · next hnil => cases (List.append_eq_nil_iff.1 hnil).2
  · next d ds hds =>
    have hd : d.isAlpha = true := by
      rw [hcs] at hds
      cases hds
      exact hc
    rw [if_pos hd, htake, hdrop, hs.lower]
    rfl

theorem parse_none_eq {rest : Text} (hclean : cleaned s = s) (hs : scheme? s = some (t, rest)) :
    parse none s = match SchemeKind.of t with
      | .file => file none rest
      | .other => plain t rest
      | .special =>
        afterSlashes t (rest.drop (rest.takeWhile fun c => c == '/' || c == '\\').length) := by
  unfold parse
  dsimp only
  rw [hclean, hs]
  rfl

theorem exists_afterSlashes {b : Authority} {scheme : Text}
    (h : readAuthority scheme s = .ok (b, t)) : ∃ v, afterSlashes scheme s = .ok v := by
  unfold afterSlashes
  simp only [h, bind, Except.bind]
  exact ⟨_, rfl⟩

theorem exists_fileHost {host : Text} (hhost : IsHost host)
    (hread : host = [] ∨ Host.read host = .ok host) (ht : Follows t) :
    ∃ v, fileHost (host ++ t) = .ok v := by
  have hname : (host ++ t).takeWhile (fun c => !(['/', '\\', '?', '#'].elem c)) = host :=
    takeWhile_append_of_head (fun c hc => by
      have hmarks := (hhost.forall_mem c hc).2
      simp only [authorityMarks, List.mem_cons, List.not_mem_nil, or_false, not_or] at hmarks
      simp [hmarks]) fun c hc => by
        rw [show ['/', '\\', '?', '#'].elem c = true from
          ht.head (p := (['/', '\\', '?', '#'].elem ·)) rfl c hc]
        rfl
  unfold fileHost
  simp only [hname, bind, Except.bind]
  split_ifs with hdrive hempty
  · exact ⟨_, rfl⟩
  · exact ⟨_, rfl⟩
  · rw [hread.resolve_left fun hnil => hempty (List.isEmpty_iff.2 hnil)]
    exact ⟨_, rfl⟩

theorem exists_plain_of_not_prefix {scheme : Text} (hs : ¬ ['/', '/'] <+: s) :
    ∃ v, plain scheme s = .ok v := by
  unfold plain
  split
  · exact (hs ⟨_, rfl⟩).elim
  · exact ⟨_, rfl⟩
  · exact ⟨_, rfl⟩

/-- What follows the authority of a written address, its path and the rest. -/
theorem follows_path_append (hpath : ∀ c ∈ u.path.head?, c = '/') :
    Follows (u.path ++ tailText u) := by
  intro c hc
  rw [List.head?_append, Option.mem_def, Option.or_eq_some_iff] at hc
  rcases hc with hc | ⟨-, hc⟩
  · rw [hpath c hc]
    exact List.mem_cons_self
  · exact List.mem_cons_of_mem _ (head?_tailText u c hc)

theorem isOpaque_of_authority {a : Authority} (ha : u.authority = some a) : u.isOpaque = false := by
  simp [isOpaque, ha]

/-- After the scheme, a written special address goes on with two slashes exactly. -/
theorem length_slashes {kind : SchemeKind} {a : Authority} (ha : IsAuthority kind a)
    (hne : a.host ≠ []) (t : Text) :
    (('/' :: '/' :: (a.user ++ (a.host ++ t))).takeWhile
      fun c => c == '/' || c == '\\').length = 2 := by
  have hslash {c : Char} (hc : c ∉ authorityMarks) : (c == '/' || c == '\\') = false := by
    simp only [authorityMarks, List.mem_cons, List.not_mem_nil, or_false, not_or] at hc
    simp [hc]
  have hhost : ∀ c ∈ (a.host ++ t).head?, (c == '/' || c == '\\') = false := fun c hc => by
    rw [List.head?_append_of_ne_nil _ hne] at hc
    exact hslash (ha.host.forall_mem c (List.mem_of_mem_head? hc)).2
  have hfirst : ∀ c ∈ (a.user ++ (a.host ++ t)).head?, (c == '/' || c == '\\') = false := by
    have huser := ha.user
    generalize a.user = name at huser
    cases huser with
    | none => exact hhost
    | @some name hname =>
      intro c hc
      rw [List.head?_append_of_ne_nil _ (List.append_ne_nil_of_right_ne_nil _ (by simp))] at hc
      rcases List.mem_append.1 (List.mem_of_mem_head? hc) with hc | hc
      · exact hslash (hname c hc).2
      · rw [List.mem_singleton.1 hc]
        rfl
  rw [show '/' :: '/' :: (a.user ++ (a.host ++ t)) =
    ['/', '/'] ++ (a.user ++ (a.host ++ t)) from rfl, takeWhile_append_of_head (by decide) hfirst]
  rfl

/-- Slashes before the query and the fragment belong to the path. -/
theorem prefix_path (h : ['/', '/'] <+: u.path ++ tailText u) : ['/', '/'] <+: u.path := by
  have htail {c : Char} (hc : c ∈ (tailText u).head?) : c ≠ '/' := by
    have hmark := head?_tailText u c hc
    rintro rfl
    revert hmark
    decide
  by_cases hpath : u.path = []
  · rw [hpath, List.nil_append] at h
    obtain ⟨t, ht⟩ := h
    exact (htail (by rw [← ht]; rfl) rfl).elim
  · refine (Text.prefix_append_iff hpath fun d hd hmem => htail hd ?_).1 h
    simpa using hmem

/-- The text of a written address is read once it is cleaned. -/
theorem exists_parse_of_cleaned (hu : IsWritten u) (hclean : cleaned u.toText = u.toText) :
    ∃ v, parse none u.toText = .ok v := by
  have htext := toText_eq u
  rw [parse_none_eq hclean (htext ▸ scheme?_append hu.scheme _)]
  have hlist := hu.list
  have hauthority := hu.authority
  have hpath {a : Authority} (ha : u.authority = some a) : Follows (u.path ++ tailText u) :=
    follows_path_append (hlist (isOpaque_of_authority ha)).head
  unfold authorityPart
  change HasAuthority (SchemeKind.of u.scheme) u.authority at hauthority
  generalize hkind : SchemeKind.of u.scheme = kind at hauthority
  generalize hwhole : u.authority = authority at hauthority
  cases hauthority with
  | @file host hhost hread =>
    have htail : authorityText (hostOnly host) ++ (u.path ++ tailText u) =
        '/' :: '/' :: (host ++ (u.path ++ tailText u)) := by
      simp [authorityText_eq, hostOnly, portText]
    dsimp only
    rw [htail]
    exact exists_fileHost hhost hread (hpath hwhole)
  | @some _ a hne ha =>
    have htail : authorityText a ++ (u.path ++ tailText u) =
        '/' :: '/' :: (a.user ++ (a.host ++ (portText a.port ++ (u.path ++ tailText u)))) := by
      simp [authorityText_eq]
    rw [← hkind] at ha
    obtain ⟨b, hread⟩ := exists_readAuthority ha (hpath hwhole)
    dsimp only
    rw [htail]
    cases kind with
    | file => exact (hne rfl).elim
    | special =>
      dsimp only
      rw [length_slashes ha (ha.special (by rw [hkind]; rfl))]
      exact exists_afterSlashes hread
    | other => exact exists_afterSlashes hread
  | none =>
    dsimp only
    -- A dot keeps the slashes of such a path from being read as those of an authority.
    refine exists_plain_of_not_prefix ?_
    split_ifs with hslashes
    · rintro ⟨t, ht⟩
      cases ht
    · rw [List.nil_append]
      exact fun hprefix => hslashes (List.isPrefixOf_iff_prefix.2 (prefix_path hprefix))

theorem isVisible_of_mem_authorityText {a : Authority} (huser : ∀ c ∈ a.user, IsVisible c)
    (hhost : IsHost a.host) : ∀ c ∈ authorityText a, IsVisible c := by
  rw [authorityText_eq]
  have hall := List.forall_mem_append.2 ⟨fun c hc => (hhost.forall_mem c hc).1,
    fun c hc => (forall_mem_portText a.port c hc).1⟩
  exact List.forall_mem_cons.2 ⟨by decide, List.forall_mem_cons.2 ⟨by decide,
    List.forall_mem_append.2 ⟨huser, hall⟩⟩⟩

theorem isVisible_of_mem_authorityPart (hu : IsWritten u) :
    ∀ c ∈ authorityPart u, IsVisible c := by
  have hauthority := hu.authority
  unfold authorityPart
  generalize u.kind = kind at hauthority
  generalize u.authority = authority at hauthority
  cases hauthority with
  | file hhost _ =>
    exact isVisible_of_mem_authorityText (List.forall_mem_nil _) hhost
  | some _ ha =>
    refine isVisible_of_mem_authorityText ?_ ha.host
    have huser := ha.user
    generalize Authority.user _ = name at huser
    cases huser with
    | none => exact List.forall_mem_nil _
    | some hname =>
      exact List.forall_mem_append.2 ⟨fun c hc => (hname c hc).1, by decide⟩
  | none =>
    dsimp only
    split_ifs <;> decide

theorem isVisible_of_mem_tailText (hu : IsWritten u) : ∀ c ∈ tailText u, IsVisible c := by
  refine List.forall_mem_append.2 ⟨?_, ?_⟩
  · cases hquery : u.query with
    | none => exact List.forall_mem_nil _
    | some q => exact List.forall_mem_cons.2 ⟨by decide, hu.query q hquery⟩
  · cases hfragment : u.fragment with
    | none => exact List.forall_mem_nil _
    | some f => exact List.forall_mem_cons.2 ⟨by decide, hu.fragment f hfragment⟩

theorem tailText_ne_nil (h : u.fragment.isSome = true) : tailText u ≠ [] := by
  obtain ⟨f, hf⟩ := Option.isSome_iff_exists.1 h
  unfold tailText
  rw [hf]
  exact List.append_ne_nil_of_right_ne_nil _ (List.cons_ne_nil _ _)

section Tidy

variable (hu : IsWritten u)

include hu

theorem isVisible_of_mem_front :
    ∀ c ∈ u.scheme ++ ':' :: authorityPart u, IsVisible c :=
  List.forall_mem_append.2 ⟨fun c hc => isVisible_of_isSchemeChar (hu.scheme.chars c hc),
    List.forall_mem_cons.2 ⟨by decide, isVisible_of_mem_authorityPart hu⟩⟩

theorem isPrintable_of_mem_toText : ∀ c ∈ u.toText, IsPrintable c := by
  have hfront := fun c hc => isPrintable_of_isVisible (isVisible_of_mem_front hu c hc)
  have htail := fun c hc => isPrintable_of_isVisible (isVisible_of_mem_tailText hu c hc)
  have hall := List.forall_mem_append.2 ⟨hfront, List.forall_mem_append.2 ⟨hu.printable, htail⟩⟩
  rw [toText_eq]
  rwa [List.append_assoc, List.cons_append] at hall

theorem isVisible_head_toText : ∀ c ∈ u.toText.head?, IsVisible c := by
  obtain ⟨d, ds, hds, -⟩ := hu.scheme.head
  intro c hc
  rw [toText_eq, hds] at hc
  cases hc
  exact isVisible_of_isSchemeChar (hu.scheme.chars d (hds ▸ List.mem_cons_self))

/-- The text ends with a visible character, because a path that may hold spaces stands before a
fragment. -/
theorem isVisible_getLast_toText (hend : u.isOpaque = true → u.fragment.isSome = true) :
    ∀ c ∈ u.toText.getLast?, IsVisible c := by
  have htail := isVisible_of_mem_tailText hu
  have htext : u.toText = u.scheme ++ ':' :: authorityPart u ++ (u.path ++ tailText u) := by
    rw [toText_eq, List.append_assoc, List.cons_append]
  intro c hc
  rw [htext] at hc
  by_cases hnil : tailText u = []
  · -- Without a fragment the path is a list of segments, which are visible.
    have hlist : u.isOpaque = false := by
      rw [← Bool.not_eq_true]
      exact fun hopaque => tailText_ne_nil (hend hopaque) hnil
    have hall := List.forall_mem_append.2 ⟨isVisible_of_mem_front hu,
      List.forall_mem_append.2 ⟨(hu.list hlist).visible, htail⟩⟩
    exact hall c (List.mem_of_mem_getLast? hc)
  · rw [← List.append_assoc, List.getLast?_append_of_ne_nil _ hnil] at hc
    exact htail c (List.mem_of_mem_getLast? hc)

end Tidy

/-- The text of a written address is complete. -/
theorem exists_parse_toText (hu : IsWritten u)
    (hend : u.isOpaque = true → u.fragment.isSome = true) :
    Text.Trimmed u.toText ∧ ∃ v, parse none u.toText = .ok v := by
  have hhead := isVisible_head_toText hu
  have hlast := isVisible_getLast_toText hu hend
  refine ⟨Text.Trimmed.of_ends ?_ (fun c hc => isBlank_of_isVisible (hhead c hc))
    fun c hc => isBlank_of_isVisible (hlast c hc),
    exists_parse_of_cleaned hu
      (cleaned_eq_self (isPrintable_of_mem_toText hu) hhead hlast)⟩
  rw [toText_eq]
  simp

end Reading

end Extraction.Url
