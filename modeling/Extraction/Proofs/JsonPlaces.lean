import Extraction.Json.Path.Parser
import Extraction.Proofs.TextFacts

/-!
# Places in JSON values

A place in a JSON value is reached from the top by keys and positions. A path of subscripts writes
the way there: each key between quotes of a kind that it does not hold, each position counted from
the front or from the end. Selecting by such a path yields the value at the place and no other, and
nothing where there is no such place.

## Main definitions

* `JsonPath.Subscript`, `JsonPath.write`: what stands in one pair of brackets; the path that a list
  of subscripts makes
* `JsonPath.Subscript.Finds`, `JsonPath.Leads`: the value that a subscript names directly inside a
  value; the value that subscripts lead to from the top down
-/

namespace Extraction.JsonPath

open Text

/-! ### Subscripts and the values they name -/

/-- What stands in a pair of brackets: a key with the quote around it, or a position, which counts
from the end if it is negative. -/
inductive Subscript where
  | member (quote : Char) (key : Text)
  | item (index : Int)

namespace Subscript

/-- A quote stands around a key that does not hold it, and a position has 64 bits. -/
def IsWritable : Subscript → Prop
  | member quote key => (quote = '\'' ∨ quote = '"') ∧ quote ∉ key
  | item index => -9223372036854775808 ≤ index ∧ index ≤ 9223372036854775807

instance : (s : Subscript) → Decidable s.IsWritable
  | member _ _ => inferInstanceAs (Decidable (_ ∧ _))
  | item _ => inferInstanceAs (Decidable (_ ∧ _))

/-- The text between the brackets. -/
def body : Subscript → Text
  | member quote key => quote :: (key ++ [quote])
  | item index => ofInt index

/-- The subscript in its brackets. -/
def text (s : Subscript) : Text := '[' :: (s.body ++ [']'])

/-- The value that a subscript names directly inside a value. -/
inductive Finds : Subscript → Json → Json → Prop
  | member {quote : Char} {key : Text} {members : List (Text × Json)} {v : Json} :
      members.lookup key = some v → Finds (.member quote key) (.obj members) v
  | fromFront {n : Nat} {items : List Json} {v : Json} :
      items[n]? = some v → Finds (.item n) (.arr items) v
  | fromEnd {n : Nat} {items : List Json} {v : Json} :
      items[n]? = some v → Finds (.item (n - items.length)) (.arr items) v

end Subscript

/-- The path of a list of subscripts. -/
def write (subscripts : List Subscript) : Text := '$' :: subscripts.flatMap Subscript.text

/-- The value that subscripts lead to from the top of a value down. -/
inductive Leads : List Subscript → Json → Json → Prop
  | here {v : Json} : Leads [] v v
  | down {s : Subscript} {rest : List Subscript} {v u w : Json} :
      s.Finds v u → Leads rest u w → Leads (s :: rest) v w

/-! ### Following subscripts -/

namespace Subscript

/-- The step that a subscript stands for. -/
def segment : Subscript → Segment
  | member _ key => .key key
  | item index => .index index

/-- The item at a position is the one that stands there, counted from the front or the end. -/
theorem at?_eq_some_iff {index : Int} {items : List Json} {v : Json} :
    (Json.arr items).at? index = some v ↔
      ∃ n : Nat, items[n]? = some v ∧ (index = n ∨ index = n - items.length) := by
  cases index with
  | ofNat k =>
    constructor
    · intro h
      exact ⟨k, h, .inl rfl⟩
    · rintro ⟨n, hn, hfront | hend⟩
      · have hkn : k = n := Int.ofNat.inj hfront
        rw [hkn]
        exact hn
      · -- counted from the end, a position in the list is negative
        have hlt : n < items.length := (List.getElem?_eq_some_iff.1 hn).1
        have hk : (k : Int) = n - items.length := hend
        omega
  | negSucc k =>
    have hat : (Json.arr items).at? (.negSucc k) =
        if k < items.length then items[items.length - 1 - k]? else none := rfl
    rw [hat]
    constructor
    · intro h
      split at h
      · next hk => exact ⟨_, h, .inr (by omega)⟩
      · cases h
    · rintro ⟨n, hn, hfront | hend⟩
      · omega
      · have hlt : n < items.length := (List.getElem?_eq_some_iff.1 hn).1
        have hk : k < items.length := by omega
        have hn' : items.length - 1 - k = n := by omega
        rw [if_pos hk, hn']
        exact hn

/-- A step leads to the value that its subscript names. -/
theorem mem_apply_segment {s : Subscript} {v u : Json} : u ∈ s.segment.apply v ↔ s.Finds v u := by
  cases s with
  | member quote key =>
    have happly : u ∈ (Segment.key key).apply v ↔ v.get? key = some u := Option.mem_toList
    rw [segment, happly]
    constructor
    · intro h
      cases v with
      | obj members => exact .member h
      | _ => cases h
    · rintro ⟨h⟩
      exact h
  | item index =>
    have happly : u ∈ (Segment.index index).apply v ↔ v.at? index = some u := Option.mem_toList
    rw [segment, happly]
    constructor
    · intro h
      cases v with
      | arr items =>
        obtain ⟨n, hn, rfl | rfl⟩ := at?_eq_some_iff.1 h
        · exact .fromFront hn
        · exact .fromEnd hn
      | _ => cases h
    · intro h
      cases h with
      | fromFront hn => exact at?_eq_some_iff.2 ⟨_, hn, .inl rfl⟩
      | fromEnd hn => exact at?_eq_some_iff.2 ⟨_, hn, .inr rfl⟩

/-- A subscript names one value at most. -/
theorem apply_segment_of_finds {s : Subscript} {v u : Json} (h : s.Finds v u) :
    s.segment.apply v = [u] := by
  have hone : ∃ o : Option Json, s.segment.apply v = o.toList := by
    cases s with
    | member quote key => exact ⟨v.get? key, rfl⟩
    | item index => exact ⟨v.at? index, rfl⟩
  obtain ⟨o, ho⟩ := hone
  have hu : u ∈ o.toList := ho ▸ mem_apply_segment.2 h
  rw [ho, Option.mem_toList.1 hu]
  rfl

end Subscript

theorem follow_of_leads {subscripts : List Subscript} {v w : Json} (h : Leads subscripts v w) :
    follow (subscripts.map Subscript.segment) v = [w] := by
  induction h with
  | here => rfl
  | down hs _ ih =>
    rw [List.map_cons, follow, Subscript.apply_segment_of_finds hs, List.flatMap_singleton]
    exact ih

theorem leads_of_mem_follow {subscripts : List Subscript} {v w : Json}
    (h : w ∈ follow (subscripts.map Subscript.segment) v) : Leads subscripts v w := by
  induction subscripts generalizing v with
  | nil =>
    rw [List.mem_singleton.1 h]
    exact .here
  | cons s rest ih =>
    rw [List.map_cons, follow, List.mem_flatMap] at h
    obtain ⟨u, hu, hw⟩ := h
    exact .down (Subscript.mem_apply_segment.1 hu) (ih hw)

/-! ### Reading subscripts -/

/-- A text without quotes and closing brackets is read up to the bracket after it. -/
theorem splitSubscript?_of_plain {s : Text} (t : Text)
    (h : ∀ c ∈ s, c ≠ '\'' ∧ c ≠ '"' ∧ c ≠ ']') :
    splitSubscript? none (s ++ ']' :: t) = some (s, t) := by
  induction s with
  | nil => rfl
  | cons c s ih =>
    obtain ⟨⟨hsingle, hdouble, hclose⟩, hs⟩ := List.forall_mem_cons.1 h
    rw [List.cons_append, splitSubscript?]
    simp [hsingle, hdouble, hclose, ih hs]

/-- Nothing but the same quote ends a quoted key. -/
theorem splitSubscript?_of_quote {q : Char} {s : Text} (t : Text) (h : q ∉ s) :
    splitSubscript? (some q) (s ++ q :: t) =
      (splitSubscript? none t).map fun (body, rest) => (s ++ q :: body, rest) := by
  induction s with
  | nil => simp [splitSubscript?]
  | cons c s ih =>
    rw [List.mem_cons, not_or] at h
    rw [List.cons_append, splitSubscript?]
    simp [Ne.symm h.1, ih h.2, Function.comp_def]

theorem position?_ofInt {index : Int} (hlow : -9223372036854775808 ≤ index)
    (hhigh : index ≤ 9223372036854775807) : position? (ofInt index) = some index := by
  cases index with
  | ofNat n =>
    have hsign : ∀ c ∈ ofNat n, c ≠ '-' ∧ c ≠ '+' := by
      intro c hc
      have hdigit := isDigit_of_mem_ofNat hc
      constructor <;> rintro rfl <;> exact absurd hdigit (by decide)
    have hn : n < 9223372036854775808 := by
      have : (n : Int) ≤ 9223372036854775807 := hhigh
      omega
    rw [ofInt]
    unfold position?
    split
    · next rest hminus => exact ((hsign '-' (hminus ▸ List.mem_cons_self)).1 rfl).elim
    · next rest hplus => exact ((hsign '+' (hplus ▸ List.mem_cons_self)).2 rfl).elim
    · rw [digits?_ofNat, Option.filter_some, if_pos (decide_eq_true hn)]
      rfl
  | negSucc n =>
    have hn : n + 1 ≤ 9223372036854775808 := by omega
    rw [ofInt, position?, digits?_ofNat, Option.filter_some, if_pos (decide_eq_true hn)]
    rfl

theorem mem_ofInt {index : Int} {c : Char} (hc : c ∈ ofInt index) :
    c = '-' ∨ c.isDigit = true := by
  cases index with
  | ofNat n => exact .inr (isDigit_of_mem_ofNat hc)
  | negSucc n => exact (List.mem_cons.1 hc).imp id isDigit_of_mem_ofNat

namespace Subscript

theorem trimmed_body {s : Subscript} (h : s.IsWritable) : Trimmed s.body := by
  cases s with
  | member quote key =>
    have hmark : Trimmed [quote] := by rcases h.1 with rfl | rfl <;> decide
    exact hmark.append key hmark
  | item index =>
    refine .of_forall ?_ fun c hc => ?_
    · cases index with
      | ofNat n => exact Nat.toDigits_ne_nil
      | negSucc n => exact List.cons_ne_nil _ _
    · rcases mem_ofInt hc with rfl | hdigit
      · rfl
      · exact isBlank_of_isDigit hdigit

/-- The bracket that ends a subscript is found after its body, whatever a key holds. -/
theorem splitSubscript?_body {s : Subscript} (h : s.IsWritable) (t : Text) :
    splitSubscript? none (s.body ++ ']' :: t) = some (s.body, t) := by
  cases s with
  | member quote key =>
    obtain ⟨hquote, hkey⟩ := h
    have hclose := splitSubscript?_of_quote (']' :: t) hkey
    rw [body, List.cons_append, List.append_assoc, List.singleton_append, splitSubscript?]
    simp only [Bool.or_eq_true, decide_eq_true_eq, hquote, if_true, hclose]
    rfl
  | item index =>
    refine splitSubscript?_of_plain t fun c hc => ?_
    have hall : ∀ d ∈ ['\'', '"', ']'], d ≠ '-' ∧ d.isDigit = false := by decide
    have hne {d : Char} (hd : d ∈ ['\'', '"', ']']) : c ≠ d := by
      rintro rfl
      rcases mem_ofInt hc with hminus | hdigit
      · exact (hall c hd).1 hminus
      · rw [(hall c hd).2] at hdigit
        cases hdigit
    exact ⟨hne (by decide), hne (by decide), hne (by decide)⟩

/-- A key between quotes is read as that key: it is neither a position nor the mark for all. -/
theorem subscript_body {s : Subscript} (h : s.IsWritable) : subscript s.body = .ok s.segment := by
  cases s with
  | member quote key =>
    obtain ⟨hquote, -⟩ := h
    have hstar : quote :: (key ++ [quote]) ≠ ['*'] := by
      intro heq
      have : quote = '*' := (List.cons.inj heq).1
      rcases hquote with rfl | rfl <;> cases this
    have hnumber : position? (quote :: (key ++ [quote])) = none := by
      have hdigit : digitValue? 10 quote = none := by rcases hquote with rfl | rfl <;> rfl
      unfold position?
      split
      · next heq => rcases hquote with rfl | rfl <;> cases heq
      · next heq => rcases hquote with rfl | rfl <;> cases heq
      · rw [digits?_eq_none hdigit]
        rfl
    have hkey : (unquote? '\'' (quote :: (key ++ [quote])) <|>
        unquote? '"' (quote :: (key ++ [quote]))) = some key := by
      have hsame : unquote? quote (quote :: (key ++ [quote])) = some key :=
        (if_pos rfl).trans (dropSuffix?_append key [quote])
      rcases hquote with rfl | rfl
      · rw [hsame]
        rfl
      · exact hsame
    unfold subscript
    rw [body, if_neg hstar, hnumber]
    simp only [hkey]
    rfl
  | item index =>
    have hstar : ofInt index ≠ ['*'] := by
      intro heq
      have hmem : '*' ∈ ofInt index := heq ▸ List.mem_singleton.2 rfl
      rcases mem_ofInt hmem with h | h <;> cases h
    unfold subscript
    rw [body, if_neg hstar, position?_ofInt h.1 h.2]
    rfl

end Subscript

theorem readSegments_text {subscripts : List Subscript} (h : ∀ s ∈ subscripts, s.IsWritable) :
    readSegments (subscripts.flatMap Subscript.text) =
      .ok (subscripts.map Subscript.segment) := by
  induction subscripts with
  | nil => rw [List.flatMap_nil, readSegments]; rfl
  | cons s rest ih =>
    obtain ⟨hs, hrest⟩ := List.forall_mem_cons.1 h
    have htext : (s :: rest).flatMap Subscript.text =
        '[' :: (s.body ++ ']' :: rest.flatMap Subscript.text) := by
      rw [List.flatMap_cons, Subscript.text, List.cons_append, List.append_assoc,
        List.singleton_append]
    have hsplit := Subscript.splitSubscript?_body hs (rest.flatMap Subscript.text)
    rw [htext, readSegments]
    split
    · next hnone =>
      rw [hsplit] at hnone
      cases hnone
    · next body after hsome =>
      rw [hsplit] at hsome
      cases hsome
      rw [(Subscript.trimmed_body hs).2, Subscript.subscript_body hs, ih hrest]
      rfl

/-- A path of subscripts is read as the steps that they stand for. -/
theorem parse_write {subscripts : List Subscript} (h : ∀ s ∈ subscripts, s.IsWritable) :
    parse (write subscripts) = .ok ⟨subscripts.map Subscript.segment⟩ := by
  have htrim : trim (write subscripts) = write subscripts := by
    refine trim_eq_self (fun c hc => ?_) fun c hc => ?_
    · cases hc
      rfl
    · -- the last character is the bracket of the last subscript, or the sign in front of none
      rcases List.eq_nil_or_concat' subscripts with rfl | ⟨front, s, rfl⟩
      · cases hc
        rfl
      · have hlast : write (front ++ [s]) =
            ('$' :: front.flatMap Subscript.text ++ '[' :: s.body) ++ [']'] := by
          simp [write, Subscript.text]
        rw [hlast, List.getLast?_concat] at hc
        cases hc
        rfl
  unfold parse
  rw [htrim]
  have hsteps : steps (write subscripts) = .ok (subscripts.map Subscript.segment) :=
    readSegments_text h
  rw [hsteps]

/-- Selecting by a path of subscripts yields exactly the value that they lead to, and nothing where
they lead nowhere. -/
theorem select_write (v : Json) (subscripts : List Subscript)
    (h : ∀ s ∈ subscripts, s.IsWritable) :
    (∀ w, Leads subscripts v w → select v (write subscripts) = .ok [w]) ∧
      ((∀ w, ¬ Leads subscripts v w) → select v (write subscripts) = .ok []) := by
  have hselect : select v (write subscripts) =
      .ok (follow (subscripts.map Subscript.segment) v) := by
    unfold select
    rw [parse_write h]
    rfl
  rw [hselect]
  constructor
  · intro w hw
    rw [follow_of_leads hw]
  · intro hnone
    have hnil : follow (subscripts.map Subscript.segment) v = [] := by
      rw [List.eq_nil_iff_forall_not_mem]
      intro w hw
      exact hnone w (leads_of_mem_follow hw)
    rw [hnil]

/-- A key with a bracket and a quote in it, the last item and the first, and the least position
there is. -/
theorem select_write_nested :
    let v : Json := .obj [("a]'".toList, .arr [.null, .arr [.bool true, .str []]])]
    let found : List Subscript := [.member '"' "a]'".toList, .item (-1), .item 0]
    let missing : List Subscript := [.member '"' "a]'".toList, .item (-9223372036854775808)]
    (∀ s ∈ found, s.IsWritable) ∧ Leads found v (.bool true) ∧
      write found = "$[\"a]'\"][-1][0]".toList ∧ select v (write found) = .ok [.bool true] ∧
      (∀ s ∈ missing, s.IsWritable) ∧ (∀ w, ¬ Leads missing v w) ∧
      select v (write missing) = .ok [] := by
  intro v found missing
  have hfound : ∀ s ∈ found, s.IsWritable := by decide +kernel
  have hmissing : ∀ s ∈ missing, s.IsWritable := by decide +kernel
  have hleads : Leads found v (.bool true) := leads_of_mem_follow (List.mem_singleton.2 rfl)
  have hnone : ∀ w, ¬ Leads missing v w := by
    intro w hw
    have hnil : follow (missing.map Subscript.segment) v = [] := rfl
    rw [follow_of_leads hw] at hnil
    cases hnil
  exact ⟨hfound, hleads, rfl, (select_write v found hfound).1 _ hleads, hmissing, hnone,
    (select_write v missing hmissing).2 hnone⟩

end Extraction.JsonPath
