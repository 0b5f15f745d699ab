import Courier.Proofs.Text.Separated
import Courier.Proofs.Url.Host
import Courier.Proofs.Url.Segments
import Courier.Url.Parser

/-!
# Cutting the text of an address where it was joined

The reader of an address cuts a text at certain characters. Where a part does not hold the
character that is looked for, the cut is made just behind the part, whatever follows:

| what is cut | theorem |
|---|---|
| the scheme | `Courier.UrlReader.scheme?_append` |
| user and host, at the last `@` | `Courier.UrlReader.splitAtLast?_append` |
| host and port, at a colon outside brackets | `Courier.UrlReader.spanHost_append` |
| the port, where its digits end | `Courier.UrlReader.port?_append` |
| path, query and fragment | `Courier.UrlReader.splitTail_append` |
| the segments of a path | `Courier.UrlReader.pathAfterAuthority_slash` |
-/

namespace Courier

namespace UrlReader

/-! ### Cutting the text -/

/-- A text without white space and controls has none at its ends. -/
theorem trimmed_of_lt {s : String} (h : ∀ c ∈ s.toList, 0x20 < c.toNat) : trimmed s = s.toList := by
  have hdrop : ∀ l : List Char, (∀ c ∈ l, 0x20 < c.toNat) →
      l.dropWhile (fun c => c.toNat ≤ 0x20) = l := by
    intro l hl
    cases l with
    | nil => rfl
    | cons c l => simp [Nat.not_le.2 (hl c List.mem_cons_self)]
  have hreverse : ∀ c ∈ s.toList.reverse, 0x20 < c.toNat := fun c hc => h c (List.mem_reverse.1 hc)
  simp only [trimmed, hdrop _ h, hdrop _ hreverse, List.reverse_reverse]

/-- Schemes with a server are schemes as they are written. -/
theorem scheme?_append {scheme : String} (h : (Url.defaultPort? scheme).isSome) (r : List Char) :
    scheme? (scheme.toList ++ ':' :: r) = some (scheme, r) := by
  unfold Url.defaultPort? at h
  split at h
  case h_6 => cases h
  all_goals rfl

/-! ### User, host and port -/

theorem splitAtLast?_append {c : Char} {b : List Char} (hb : c ∉ b) (a : List Char) :
    splitAtLast? c (a ++ c :: b) = some (a, b) := by
  have hcut : (a ++ c :: b).reverse.span (· != c) = (b.reverse, c :: a.reverse) := by
    rw [List.reverse_append, List.reverse_cons, List.append_assoc, List.singleton_append]
    refine span_append (fun d hd => ?_) (fun d hd => ?_)
    · rw [bne_iff_ne]
      rintro rfl
      exact hb (List.mem_reverse.1 hd)
    · obtain rfl : c = d := Option.some.inj hd
      simp
  simp only [splitAtLast?, hcut, List.reverse_reverse]

theorem splitAtLast?_of_notMem {c : Char} {cs : List Char} (h : c ∉ cs) :
    splitAtLast? c cs = none := by
  have hcut : cs.reverse.span (· != c) = (cs.reverse, []) := by
    have hspan : (cs.reverse ++ []).span (· != c) = (cs.reverse, []) := by
      refine span_append (fun d hd => ?_) (fun d hd => by cases hd)
      rw [bne_iff_ne]
      rintro rfl
      exact h (List.mem_reverse.1 hd)
    rwa [List.append_nil] at hspan
  simp only [splitAtLast?, hcut]

/-- What may follow a host: nothing, or a colon. -/
def IsPortText (t : List Char) : Prop := ∀ c ∈ t.head?, c = ':'

theorem spanHost_portText (t : List Char) (ht : IsPortText t) : spanHost false t = ([], t) := by
  cases t with
  | nil => rfl
  | cons c t =>
    obtain rfl : c = ':' := ht c rfl
    simp [spanHost]

/-- **A host ends before a colon outside brackets.** -/
theorem spanHost_append {cs t : List Char} (h : Host.IsBracketed cs) (ht : IsPortText t) :
    spanHost false (cs ++ t) = (cs, t) := by
  cases h with
  | plain h =>
    induction cs with
    | nil => exact spanHost_portText t ht
    | cons c cs ih =>
      rw [List.forall_mem_cons] at h
      have hne : c ≠ ':' ∧ c ≠ '[' := by
        constructor <;> rintro rfl <;> exact absurd h.1 (by decide)
      rw [List.cons_append, spanHost, if_neg (by simp [hne.1]), if_neg hne.2, ite_self, ih h.2]
  | inside h =>
    rename_i cs
    have hinside : spanHost true (cs ++ ']' :: t) = (cs ++ [']'], t) := by
      induction cs with
      | nil => simp [spanHost, spanHost_portText t ht]
      | cons c cs ih =>
        rw [List.forall_mem_cons] at h
        rw [List.cons_append, spanHost, if_neg (by simp), if_neg h.1.2.1, if_neg h.1.2.2, ih h.2]
        rfl
    simp [spanHost, hinside]

/-- The digits of a port add up to it. -/
theorem foldl_toDigits {n : Nat} (h : n ≤ 65535) :
    (Nat.toDigits 10 n).foldl (fun n c => min (n * 10 + (c.toNat - 48)) 65536) 0 = n := by
  have hdigit : ∀ d < 10, (Nat.digitChar d).toNat - 48 = d := by decide
  induction n using Nat.strongRecOn with
  | ind n ih =>
    by_cases hn : n < 10
    · rw [Nat.toDigits_of_lt_base hn, List.foldl_cons, List.foldl_nil, hdigit n hn]
      omega
    · have hmod : n % 10 < 10 := Nat.mod_lt _ (by decide)
      rw [Nat.toDigits_of_base_le (by decide) (by omega), List.foldl_append, List.foldl_cons,
        List.foldl_nil, ih (n / 10) (by omega) (by omega), hdigit _ hmod]
      omega

/-- A port that is the default of the scheme is none. -/
theorem port?_toDigits {scheme : String} {p : Nat} (hp : p ≤ 65535) {t : List Char}
    (ht : ∀ c ∈ t.head?, endsAuthority true c = true) :
    port? scheme (Nat.toDigits 10 p ++ t)
      = .ok (if Url.defaultPort? scheme = some p then none else some p, t) := by
  have hdigits : (Nat.toDigits 10 p ++ t).span Char.isDigit = (Nat.toDigits 10 p, t) := by
    refine span_append (fun c hc => Nat.isDigit_of_mem_toDigits (by decide) (by decide) hc) ?_
    intro c hc
    have hends := ht c hc
    simp only [endsAuthority, isSlash, Bool.true_and, Bool.or_eq_true, beq_iff_eq] at hends
    rcases hends with ((rfl | rfl) | rfl) | rfl <;> decide
  simp only [port?, hdigits, foldl_toDigits hp, Nat.toDigits_ne_nil, false_or]
  rw [if_neg (by omega)]
  cases t with
  | nil => rfl
  | cons c t => simp [ht c rfl]

/-- **A written port is read again.** -/
theorem port?_append {scheme : String} {p : Nat} (hp : p ≤ 65535)
    (hdefault : Url.defaultPort? scheme ≠ some p) {t : List Char}
    (ht : ∀ c ∈ t.head?, endsAuthority true c = true) :
    port? scheme (Nat.toDigits 10 p ++ t) = .ok (some p, t) := by
  rw [port?_toDigits hp ht, if_neg hdefault]

/-! ### Path, query and fragment -/

/-- A fragment with the sign that begins it. -/
def fragmentText : Option String → List Char
  | some f => '#' :: f.toList
  | none => []

/-- Query and fragment with the signs that begin them. -/
def tailText : Option String → Option String → List Char
  | some q, fragment => '?' :: (q.toList ++ fragmentText fragment)
  | none, fragment => fragmentText fragment

theorem head?_fragmentText {fragment : Option String} {c : Char}
    (hc : c ∈ (fragmentText fragment).head?) : c = '#' := by
  cases fragment with
  | none => cases hc
  | some f => exact (Option.some.inj hc).symm

theorem head?_tailText {query fragment : Option String} {c : Char}
    (hc : c ∈ (tailText query fragment).head?) : c = '?' ∨ c = '#' := by
  cases query with
  | none => exact Or.inr (head?_fragmentText hc)
  | some q => exact Or.inl (Option.some.inj hc).symm

/-- **Path, query and fragment are told apart.** -/
theorem splitTail_append {path : List Char} {query : Option String}
    (hpath : ∀ c ∈ path, c ≠ '?' ∧ c ≠ '#') (hquery : ∀ q ∈ query, '#' ∉ q.toList)
    (fragment : Option String) :
    splitTail (path ++ tailText query fragment)
      = (path, query.map String.toList, fragment.map String.toList) := by
  have hcut : (path ++ tailText query fragment).span (fun c => c != '?' && c != '#')
      = (path, tailText query fragment) := by
    refine span_append (fun c hc => by simp [hpath c hc]) fun c hc => ?_
    rcases head?_tailText hc with rfl | rfl <;> rfl
  unfold splitTail
  rw [hcut]
  cases query with
  | none => cases fragment <;> rfl
  | some q =>
    have hq : (q.toList ++ fragmentText fragment).span (· != '#')
        = (q.toList, fragmentText fragment) := by
      refine span_append (fun c hc => ?_) fun c hc => ?_
      · rw [bne_iff_ne]
        rintro rfl
        exact hquery q rfl hc
      · rw [head?_fragmentText hc]
        rfl
    simp only [tailText, hq]
    cases fragment <;> rfl

/-- **A written path is read again.** -/
theorem pathAfterAuthority_slash {s : String} {l : List String}
    (hl : ∀ t ∈ s :: l, IsSegment t.toList) :
    pathAfterAuthority true ((s :: l).flatMap fun t => '/' :: t.toList) = s :: l := by
  rw [List.forall_mem_cons] at hl
  have hsegments : (Trail.ofPath true false
      (s.toList ++ (l.map String.toList).flatMap ('/' :: ·))).segments
        = s.toList :: l.map String.toList := by
    refine Trail.segments_ofPath hl.1 fun t ht => ?_
    obtain ⟨r, hr, rfl⟩ := List.mem_map.1 ht
    exact hl.2 r hr
  rw [List.flatMap_map] at hsegments
  rw [List.flatMap_cons, List.cons_append, pathAfterAuthority, if_pos (by decide), Trail.texts,
    hsegments]
  simp [Function.comp_def]

end UrlReader

end Courier
