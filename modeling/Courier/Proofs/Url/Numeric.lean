import Courier.Url.Host
import Mathlib.Algebra.Group.Nat.Defs
import Mathlib.Data.List.Induction
import Mathlib.Data.List.TakeDrop
import Mathlib.Data.List.TakeWhile

/-!
# Reading numeric hosts again

An IPv4 address is written as its four bytes in decimal, an IPv6 address as its eight pieces in
hexadecimal, of which a run of zeros may be left out. Both are read again as they were written
(`Courier.Host.ipv4?_ipv4Text`, `Courier.Host.ipv6?_ipv6Text`), and what is read is always an
address of 32 bits or of eight pieces (`Courier.Host.lt_of_ipv4?`,
`Courier.Host.isIpv6_of_ipv6?`).

Wherever a run of zeros is left out, eight pieces are known to be there, so the reader puts in
as many zeros as were left out (`Courier.Host.replicate_zeroRun`).
-/

namespace Courier.Host

/-! ### Lists of parts that can be read -/

/-- Parts that are written one by one are read one by one. -/
theorem mapM_map_of_forall {α β : Type} {read : β → Option α} {write : α → β} {l : List α}
    (h : ∀ x ∈ l, read (write x) = some x) : (l.map write).mapM read = some l := by
  induction l with
  | nil => rfl
  | cons x l ih =>
    rw [List.forall_mem_cons] at h
    rw [List.map_cons, List.mapM_cons, h.1, ih h.2]
    rfl

/-- What is read has been read from one of the parts. -/
theorem exists_of_mem_mapM {α β : Type} {read : β → Option α} {l : List β} {r : List α}
    (h : l.mapM read = some r) {x : α} (hx : x ∈ r) : ∃ y ∈ l, read y = some x := by
  induction l generalizing r with
  | nil =>
    obtain rfl : [] = r := Option.some.inj h
    cases hx
  | cons y l ih =>
    rw [List.mapM_cons] at h
    obtain ⟨z, hz, h⟩ := Option.bind_eq_some_iff.1 h
    obtain ⟨zs, hzs, h⟩ := Option.bind_eq_some_iff.1 h
    obtain rfl : z :: zs = r := Option.some.inj h
    rcases List.mem_cons.1 hx with rfl | hx
    · exact ⟨y, List.mem_cons_self, hz⟩
    · obtain ⟨w, hw, hread⟩ := ih hzs hx
      exact ⟨w, List.mem_cons_of_mem _ hw, hread⟩

/-! ### Digits -/

section Digits

variable {base n : Nat}

/-- The last digit is worth its value, all others are worth `base` times as much. -/
theorem digits?_concat (base : Nat) (cs : List Char) (c : Char) :
    digits? base (cs ++ [c]) = (digits? base cs).bind fun n => (Hex.value? c.toNat).bind fun d =>
      if d < base then some (n * base + d) else none := by
  simp only [digits?, List.foldl_append, List.foldl_cons, List.foldl_nil]
  rfl

theorem value?_digitChar : ∀ d < 16, Hex.value? (Nat.digitChar d).toNat = some d := by decide

/-- **A number is read from its digits.** -/
theorem digits?_toDigits (h1 : 1 < base) (h16 : base ≤ 16) (n : Nat) :
    digits? base (Nat.toDigits base n) = some n := by
  induction n using Nat.strongRecOn with
  | ind n ih =>
    by_cases hn : n < base
    · rw [Nat.toDigits_of_lt_base hn, ← List.nil_append [n.digitChar], digits?_concat]
      simp [digits?, value?_digitChar n (by omega), hn]
    · have hlt : n / base < n := Nat.div_lt_self (by omega) h1
      have hmod : n % base < base := Nat.mod_lt _ (by omega)
      rw [Nat.toDigits_of_base_le h1 (by omega), digits?_concat, ih _ hlt,
        Option.bind_some, value?_digitChar _ (by omega), Option.bind_some, if_pos hmod,
        Nat.div_add_mod']

/-- **A number with so many digits** is less than so many times the base. -/
theorem lt_of_digits? {cs : List Char} (h : digits? base cs = some n) : n < base ^ cs.length := by
  induction cs using List.reverseRec generalizing n with
  | nil =>
    obtain rfl : 0 = n := Option.some.inj h
    exact Nat.one_pos
  | append_singleton cs c ih =>
    rw [digits?_concat] at h
    obtain ⟨m, hm, h⟩ := Option.bind_eq_some_iff.1 h
    obtain ⟨d, -, h⟩ := Option.bind_eq_some_iff.1 h
    split at h
    · rename_i hd
      obtain rfl := Option.some.inj h
      have hlt : m + 1 ≤ base ^ cs.length := ih hm
      calc m * base + d < (m + 1) * base := by
            rw [Nat.add_mul, Nat.one_mul]
            omega
        _ ≤ base ^ cs.length * base := Nat.mul_le_mul_right _ hlt
        _ = base ^ (cs ++ [c]).length := by
          rw [List.length_append, List.length_singleton, Nat.pow_succ]
    · cases h

/-- The characters of a number are digits. -/
theorem exists_of_mem_toDigits (h1 : 1 < base) {c : Char} (hc : c ∈ Nat.toDigits base n) :
    ∃ d < base, c = Nat.digitChar d := by
  induction n using Nat.strongRecOn with
  | ind n ih =>
    by_cases hn : n < base
    · rw [Nat.toDigits_of_lt_base hn, List.mem_singleton] at hc
      exact ⟨n, hn, hc⟩
    · rw [Nat.toDigits_of_base_le h1 (by omega)] at hc
      rcases List.mem_append.1 hc with hc | hc
      · exact ih _ (Nat.div_lt_self (by omega) h1) hc
      · exact ⟨n % base, Nat.mod_lt _ (by omega), List.mem_singleton.1 hc⟩

end Digits

/-! ### IPv4 -/

/-- The four bytes of an address. -/
def bytes (a : Nat) : List Nat :=
  [a / 2 ^ 24 % 256, a / 2 ^ 16 % 256, a / 2 ^ 8 % 256, a % 256]

theorem ipv4Text_eq (a : Nat) : ipv4Text a = ['.'].intercalate ((bytes a).map decimal) := by
  simp [ipv4Text, bytes, List.intercalate]

theorem lt_of_mem_bytes {a n : Nat} (h : n ∈ bytes a) : n < 256 := by
  simp only [bytes, List.mem_cons, List.not_mem_nil, or_false] at h
  omega

theorem decimal_ne_nil (n : Nat) : decimal n ≠ [] := Nat.toDigits_ne_nil

theorem isDigit_of_mem_decimal {n : Nat} {c : Char} (h : c ∈ decimal n) : c.isDigit = true :=
  Nat.isDigit_of_mem_toDigits (by decide) (by decide) h

theorem dot_notMem_decimal (n : Nat) : '.' ∉ decimal n := fun h =>
  absurd (isDigit_of_mem_decimal h) (by decide)

/-- The labels of a written address are its numbers. -/
theorem splitOn_ipv4Text (a : Nat) : (ipv4Text a).splitOn '.' = (bytes a).map decimal := by
  rw [ipv4Text_eq, List.splitOn_intercalate]
  · intro s hs
    obtain ⟨n, -, rfl⟩ := List.mem_map.1 hs
    exact dot_notMem_decimal n
  · simp [bytes]

theorem labels_ipv4Text (a : Nat) : labels (ipv4Text a) = (bytes a).map decimal := by
  unfold labels
  rw [splitOn_ipv4Text, if_neg]
  simp [bytes, decimal_ne_nil]

/-- A byte has no leading zero, so it is read in decimal. -/
theorem ipv4Number?_decimal : ∀ n < 256, ipv4Number? (decimal n) = some n := by decide +kernel

theorem endsInNumber_ipv4Text (a : Nat) : endsInNumber (ipv4Text a) = true := by
  have hlast : ((bytes a).map decimal).getLast? = some (decimal (a % 256)) := by simp [bytes]
  simp only [endsInNumber, labels_ipv4Text, hlast]
  rw [ipv4Number?_decimal _ (Nat.mod_lt _ (by decide)), Option.isSome_some, Bool.or_true]

/-- Four numbers below 256 are the bytes of an address. -/
theorem ipv4?_of_four {cs : List Char} {w x y z : Nat}
    (h : (labels cs).mapM ipv4Number? = some [w, x, y, z]) (hw : w < 256) (hx : x < 256)
    (hy : y < 256) (hz : z < 256) :
    ipv4? cs = some (w * 2 ^ 24 + x * 2 ^ 16 + y * 2 ^ 8 + z) := by
  simp [ipv4?, h, Nat.not_lt.2 (Nat.le_of_lt_succ hw), Nat.not_lt.2 (Nat.le_of_lt_succ hx),
    Nat.not_lt.2 (Nat.le_of_lt_succ hy), Nat.not_le.2 hz]
  omega

/-- **A written IPv4 address is read again.** -/
theorem ipv4?_ipv4Text {a : Nat} (h : a < 2 ^ 32) : ipv4? (ipv4Text a) = some a := by
  have hnumbers : (labels (ipv4Text a)).mapM ipv4Number? = some (bytes a) := by
    rw [labels_ipv4Text]
    exact mapM_map_of_forall fun n hn => ipv4Number?_decimal n (lt_of_mem_bytes hn)
  have hlt : ∀ n ∈ bytes a, n < 256 := fun _ => lt_of_mem_bytes
  simp only [bytes, List.forall_mem_cons] at hlt
  rw [ipv4?_of_four hnumbers hlt.1 hlt.2.1 hlt.2.2.1 hlt.2.2.2.1]
  congr 1
  omega

/-- **What is read has 32 bits**: the last number fills just the bytes that the others leave. -/
theorem lt_of_ipv4? {cs : List Char} {a : Nat} (h : ipv4? cs = some a) : a < 2 ^ 32 := by
  unfold ipv4? at h
  obtain ⟨numbers, -, h⟩ := Option.bind_eq_some_iff.1 h
  obtain ⟨last, hlast, h⟩ := Option.bind_eq_some_iff.1 h
  split at h
  · cases h
  rename_i hguard
  have hvalue := Option.some.inj h
  simp only [not_or, Nat.not_lt, Nat.not_le] at hguard
  obtain ⟨hlength, hfront, hfits⟩ := hguard
  -- the powers are given names, so that nothing is computed
  obtain ⟨pow, hpow⟩ : ∃ pow, Nat.pow 256 = pow := ⟨_, rfl⟩
  rw [hpow] at hfits hvalue
  have h1 : pow 1 = 256 := by rw [← hpow]
  have h2 : pow 2 = 65536 := by rw [← hpow]
  have h3 : pow 3 = 16777216 := by rw [← hpow]
  have h4 : pow 4 = 4294967296 := by rw [← hpow]
  rcases numbers with _ | ⟨w, _ | ⟨x, _ | ⟨y, _ | ⟨z, _ | ⟨v, rest⟩⟩⟩⟩⟩
  case nil => simp at hlast
  case cons.nil =>
    have hfits : last < pow 4 := hfits
    have hvalue : last = a := hvalue
    omega
  case cons.cons.nil =>
    have hfits : last < pow 3 := hfits
    have hvalue : last + w * pow 3 = a := hvalue
    rw [h3] at hfits hvalue
    simp at hfront
    omega
  case cons.cons.cons.nil =>
    have hfits : last < pow 2 := hfits
    have hvalue : last + w * pow 3 + x * pow 2 = a := hvalue
    rw [h3, h2] at hvalue
    simp at hfront
    omega
  case cons.cons.cons.cons.nil =>
    have hfits : last < pow 1 := hfits
    have hvalue : last + w * pow 3 + x * pow 2 + y * pow 1 = a := hvalue
    rw [h3, h2, h1] at hvalue
    simp at hfront
    omega
  case cons.cons.cons.cons.cons =>
    simp only [List.length_cons] at hlength
    omega

/-! ### IPv6 -/

/-- What the pieces of an address are. -/
structure IsIpv6 (ps : List Nat) : Prop where
  length : ps.length = 8
  lt : ∀ p ∈ ps, p < 16 ^ 4

/-- A piece as it is written: hexadecimal digits, so that no colon stands in it. -/
structure IsPiece (s : List Char) : Prop where
  ne_nil : s ≠ []
  colon : ':' ∉ s

theorem exists_of_mem_hex {n : Nat} {c : Char} (hc : c ∈ Nat.toDigits 16 n) :
    ∃ d < 16, c = Nat.digitChar d := exists_of_mem_toDigits (by decide) hc

theorem isPiece_hex (n : Nat) : IsPiece (Nat.toDigits 16 n) where
  ne_nil := Nat.toDigits_ne_nil
  colon := by
    intro h
    obtain ⟨d, hd, he⟩ := exists_of_mem_hex h
    have key : ∀ d < 16, ':' ≠ Nat.digitChar d := by decide
    exact key d hd he

theorem piece?_hex {n : Nat} (h : n < 16 ^ 4) : piece? (Nat.toDigits 16 n) = some n := by
  have hlength : (Nat.toDigits 16 n).length ≤ 4 :=
    (Nat.length_toDigits_le_iff (by decide) (by decide)).2 h
  rw [piece?, if_neg, digits?_toDigits (by decide) (by decide)]
  simp [Nat.toDigits_ne_nil, Nat.not_lt.2 hlength]

theorem lt_of_piece? {cs : List Char} {n : Nat} (h : piece? cs = some n) : n < 16 ^ 4 := by
  unfold piece? at h
  split at h
  · cases h
  · rename_i hlength
    rw [not_or, Nat.not_lt] at hlength
    exact (lt_of_digits? h).trans_le (Nat.pow_le_pow_right (by decide) hlength.2)

theorem lt_of_byte? {cs : List Char} {n : Nat} (h : byte? cs = some n) : n < 256 := by
  unfold byte? at h
  split at h
  · cases h
  · split at h
    · split at h
      · obtain rfl := Option.some.inj h
        omega
      · cases h
    · cases h

/-- Two bytes make a piece. -/
theorem lt_of_embedded? {cs : List Char} {e : List Nat} (h : embedded? cs = some e) :
    ∀ p ∈ e, p < 16 ^ 4 := by
  unfold embedded? at h
  split at h
  · rename_i a b c d hbytes
    obtain rfl := Option.some.inj h
    have hlt : ∀ n ∈ [a, b, c, d], n < 256 := by
      intro n hn
      obtain ⟨cs, -, hread⟩ := exists_of_mem_mapM hbytes hn
      exact lt_of_byte? hread
    simp only [List.forall_mem_cons] at hlt ⊢
    refine ⟨?_, ?_, by simp⟩ <;> omega
  · cases h

section Pieces

variable {ps : List Nat}

theorem piecesText_singleton (p : Nat) : piecesText [p] = Nat.toDigits 16 p := by
  simp [piecesText]

theorem piecesText_cons_cons (p q : Nat) (ps : List Nat) :
    piecesText (p :: q :: ps) = Nat.toDigits 16 p ++ ':' :: piecesText (q :: ps) := by
  simp [piecesText, List.intercalate]

theorem splitOn_piecesText (h : ps ≠ []) :
    (piecesText ps).splitOn ':' = ps.map (Nat.toDigits 16) := by
  rw [piecesText, List.splitOn_intercalate]
  · intro s hs
    obtain ⟨n, -, rfl⟩ := List.mem_map.1 hs
    exact (isPiece_hex n).colon
  · simpa using h

theorem piecesText_ne_nil (h : ps ≠ []) : piecesText ps ≠ [] := by
  intro hnil
  have hsplit := splitOn_piecesText h
  obtain ⟨p, ps, rfl⟩ := List.exists_cons_of_ne_nil h
  rw [hnil, List.splitOn_nil, List.map_cons, List.cons.injEq] at hsplit
  exact Nat.toDigits_ne_nil hsplit.1.symm

/-- **Written pieces are read again**, whether the last may be four bytes or not. -/
theorem pieces?_piecesText (mayEmbed : Bool) (h : ∀ p ∈ ps, p < 16 ^ 4) :
    pieces? mayEmbed (piecesText ps) = some ps := by
  rcases ps.eq_nil_or_concat with rfl | ⟨front, last, rfl⟩
  · rfl
  have hne : piecesText (front ++ [last]) ≠ [] := piecesText_ne_nil (by simp)
  have hdot : '.' ∉ Nat.toDigits 16 last := by
    intro hc
    obtain ⟨d, hd, he⟩ := exists_of_mem_hex hc
    have key : ∀ d < 16, '.' ≠ Nat.digitChar d := by decide
    exact key d hd he
  have hfront : (front.map (Nat.toDigits 16)).mapM piece? = some front :=
    mapM_map_of_forall fun n hn => piece?_hex (h n (by simp [hn]))
  have hlast : piece? (Nat.toDigits 16 last) = some last := piece?_hex (h last (by simp))
  simp [pieces?, hne, splitOn_piecesText, hdot, hfront, hlast]

/-- Pieces that are read are pieces. -/
theorem lt_of_pieces? {mayEmbed : Bool} {cs : List Char} (h : pieces? mayEmbed cs = some ps) :
    ∀ p ∈ ps, p < 16 ^ 4 := by
  unfold pieces? at h
  split at h
  · obtain rfl := Option.some.inj h
    simp
  obtain ⟨front, hfront, h⟩ := Option.bind_eq_some_iff.1 h
  obtain ⟨last, -, h⟩ := Option.bind_eq_some_iff.1 h
  have hpiece : ∀ p ∈ front, p < 16 ^ 4 := by
    intro p hp
    obtain ⟨cs, -, hread⟩ := exists_of_mem_mapM hfront hp
    exact lt_of_piece? hread
  split at h
  · obtain ⟨e, he, h⟩ := Option.bind_eq_some_iff.1 h
    obtain rfl := Option.some.inj h
    intro p hp
    rcases List.mem_append.1 hp with hp | hp
    · exact hpiece p hp
    · exact lt_of_embedded? he p hp
  · obtain ⟨e, he, h⟩ := Option.bind_eq_some_iff.1 h
    obtain rfl := Option.some.inj h
    intro p hp
    rcases List.mem_append.1 hp with hp | hp
    · exact hpiece p hp
    · rw [List.mem_singleton.1 hp]
      exact lt_of_piece? he

end Pieces

/-! #### The double colon -/

/-- No double colon begins in a text without colons. -/
theorem splitDouble_append {s : List Char} (hs : ':' ∉ s) (t : List Char) :
    splitDouble (s ++ t) = (splitDouble t).map fun cut => (s ++ cut.1, cut.2) := by
  induction s with
  | nil => simp
  | cons c s ih =>
    rw [List.mem_cons, not_or] at hs
    have hc : c ≠ ':' := Ne.symm hs.1
    rw [List.cons_append, splitDouble, ih hs.2, Option.map_map]
    · rfl
    · simp [hc]

/-- A colon in front of something else is a single one. -/
theorem splitDouble_colon {c : Char} (hc : c ≠ ':') (t : List Char) :
    splitDouble (':' :: c :: t)
      = (splitDouble (c :: t)).map fun cut => (':' :: cut.1, cut.2) := by
  rw [splitDouble]
  simp [hc]

/-- **No double colon begins in written pieces.** -/
theorem splitDouble_piecesText (ps : List Nat) (t : List Char) :
    splitDouble (piecesText ps ++ t)
      = (splitDouble t).map fun cut => (piecesText ps ++ cut.1, cut.2) := by
  match ps with
  | [] => simp [piecesText]
  | [p] => rw [piecesText_singleton, splitDouble_append (isPiece_hex p).colon]
  | p :: q :: ps =>
    -- the piece after the colon begins with a digit
    have ih := splitDouble_piecesText (q :: ps) t
    obtain ⟨c, r, hq⟩ := List.exists_cons_of_ne_nil (piecesText_ne_nil (List.cons_ne_nil q ps))
    have hc : c ≠ ':' := by
      rintro rfl
      have hsplit := splitOn_piecesText (List.cons_ne_nil q ps)
      rw [hq, List.splitOn_cons_eq_if_modifyHead, if_pos (by decide), List.map_cons,
        List.cons.injEq] at hsplit
      exact (isPiece_hex q).ne_nil hsplit.1.symm
    rw [hq, List.cons_append] at ih
    rw [piecesText_cons_cons, hq, List.append_assoc, List.cons_append, List.cons_append,
      splitDouble_append (isPiece_hex p).colon, splitDouble_colon hc, ih, Option.map_map,
      Option.map_map]
    simp [Function.comp_def]

/-! #### The run of zeros -/

/-- A run of zeros among pieces: where it starts, so many zeros follow. -/
def IsRun (ps : List Nat) (r : Nat × Nat) : Prop :=
  r.2 ≤ ((ps.drop r.1).takeWhile (· = 0)).length

/-- The longest run of zeros is one. -/
theorem isRun_zeroRun (ps : List Nat) : IsRun ps (zeroRun ps) := by
  unfold zeroRun
  refine List.foldlRecOn _ _ (Nat.zero_le _) fun best hbest r hr => ?_
  split
  · obtain ⟨e, -, rfl⟩ := List.mem_map.1 hr
    exact Nat.le_refl _
  · exact hbest

/-- The zeros of a run. -/
theorem IsRun.take_eq {ps : List Nat} {r : Nat × Nat} (h : IsRun ps r) :
    (ps.drop r.1).take r.2 = List.replicate r.2 0 := by
  have hbefore : (ps.drop r.1).take r.2 = ((ps.drop r.1).takeWhile (· = 0)).take r.2 := by
    rw [List.prefix_iff_eq_take.1 (List.takeWhile_prefix (l := ps.drop r.1) (· = 0)),
      List.take_take, Nat.min_eq_left h]
  rw [hbefore, List.eq_replicate_iff]
  refine ⟨by rw [List.length_take, Nat.min_eq_left h], fun p hp => ?_⟩
  simpa using List.mem_takeWhile_imp (List.mem_of_mem_take hp)

/-- **What is left out are zeros**: with as many of them, the pieces are whole again. -/
theorem replicate_zeroRun (ps : List Nat) :
    ps.take (zeroRun ps).1 ++ List.replicate (zeroRun ps).2 0
      ++ ps.drop ((zeroRun ps).1 + (zeroRun ps).2) = ps := by
  rw [← (isRun_zeroRun ps).take_eq, List.append_assoc, ← List.drop_drop, List.take_append_drop,
    List.take_append_drop]

/-- A run of zeros is left out only where there is one. -/
theorem zeroRun_add_le {ps : List Nat} (h : 0 < (zeroRun ps).2) :
    (zeroRun ps).1 + (zeroRun ps).2 ≤ ps.length := by
  have hle := (isRun_zeroRun ps).trans (List.takeWhile_prefix _).length_le
  rw [List.length_drop] at hle
  omega

/-! #### The whole address -/

/-- **A written IPv6 address is read again.** -/
theorem ipv6?_ipv6Text {ps : List Nat} (h : IsIpv6 ps) : ipv6? (ipv6Text ps) = some ps := by
  unfold ipv6Text
  dsimp only
  split
  · have hcut : splitDouble (piecesText ps) = none := by
      have := splitDouble_piecesText ps []
      rwa [List.append_nil] at this
    simp [ipv6?, hcut, pieces?_piecesText true h.lt, h.length]
  · rename_i hrun
    have hle : (zeroRun ps).1 + (zeroRun ps).2 ≤ ps.length := zeroRun_add_le (by omega)
    have hwhole := replicate_zeroRun ps
    have hfront : ∀ p ∈ ps.take (zeroRun ps).1, p < 16 ^ 4 := fun p hp =>
      h.lt p (List.mem_of_mem_take hp)
    have hback : ∀ p ∈ ps.drop ((zeroRun ps).1 + (zeroRun ps).2), p < 16 ^ 4 := fun p hp =>
      h.lt p (List.mem_of_mem_drop hp)
    have hlength := congrArg List.length hwhole
    rw [List.length_append, List.length_append, List.length_replicate, h.length] at hlength
    rw [ipv6?, splitDouble_piecesText]
    simp only [splitDouble, Option.map_some, List.append_nil, pieces?_piecesText _ hfront,
      pieces?_piecesText _ hback, Option.bind_eq_bind, Option.bind_some]
    rw [if_pos (by omega)]
    have hzeros : 8 - ((ps.take (zeroRun ps).1).length
        + (ps.drop ((zeroRun ps).1 + (zeroRun ps).2)).length) = (zeroRun ps).2 := by
      omega
    rw [hzeros, hwhole]

/-- The characters of a written address are digits and colons. -/
theorem mem_ipv6Text {ps : List Nat} {c : Char} (hc : c ∈ ipv6Text ps) :
    c = ':' ∨ ∃ d < 16, c = Nat.digitChar d := by
  have hpieces (ps : List Nat) (h : c ∈ piecesText ps) :
      c = ':' ∨ ∃ d < 16, c = Nat.digitChar d := by
    induction ps with
    | nil => cases h
    | cons p ps ih =>
      cases ps with
      | nil =>
        rw [piecesText_singleton] at h
        exact Or.inr (exists_of_mem_hex h)
      | cons q ps =>
        rw [piecesText_cons_cons, List.mem_append, List.mem_cons] at h
        rcases h with h | h | h
        · exact Or.inr (exists_of_mem_hex h)
        · exact Or.inl h
        · exact ih h
  unfold ipv6Text at hc
  dsimp only at hc
  split at hc
  · exact hpieces _ hc
  · simp only [List.mem_append, List.mem_cons] at hc
    rcases hc with h | h | h | h
    · exact hpieces _ h
    · exact Or.inl h
    · exact Or.inl h
    · exact hpieces _ h

/-- **What is read has eight pieces.** -/
theorem isIpv6_of_ipv6? {cs : List Char} {ps : List Nat} (h : ipv6? cs = some ps) : IsIpv6 ps := by
  unfold ipv6? at h
  split at h
  · obtain ⟨qs, hread, h⟩ := Option.bind_eq_some_iff.1 h
    split at h
    · rename_i hlength
      obtain rfl := Option.some.inj h
      exact ⟨hlength, lt_of_pieces? hread⟩
    · cases h
  · obtain ⟨front, hfront, h⟩ := Option.bind_eq_some_iff.1 h
    obtain ⟨back, hback, h⟩ := Option.bind_eq_some_iff.1 h
    dsimp only at h
    split at h
    · obtain rfl := Option.some.inj h
      refine ⟨?_, fun p hp => ?_⟩
      · simp only [List.length_append, List.length_replicate]
        omega
      · rw [List.mem_append, List.mem_append] at hp
        rcases hp with (hp | hp) | hp
        · exact lt_of_pieces? hfront p hp
        · rw [List.eq_of_mem_replicate hp]
          decide
        · exact lt_of_pieces? hback p hp
    · cases h

end Courier.Host
