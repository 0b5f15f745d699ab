import Courier.Gzip.Inflate
import Courier.Proofs.Gzip.PrefixCode

/-!
# Codes that are sent with a block

The codes of a block follow from the lengths of their words, and these are sent by a code of their
own, whose lengths are sent in three bits each (`Courier.Gzip.Inflate.SendsCodes`).

| symbol of the code of lengths | bits behind it | lengths |
|---|---|---|
| at most 15 | none | the symbol |
| 16 | 2 | the last length, three times and more |
| 17 | 3 | zeros, three and more |
| 18 | 7 | zeros, eleven and more |

Lengths of symbols and of distances are sent as one sequence (`Courier.Gzip.Inflate.SendsLengths`),
so that a run may begin among the ones and end among the others. The sequence ends where there are
as many lengths as were announced; a run that goes beyond this is not part of any sequence.
-/

namespace Courier.Gzip.Inflate

/-! ### The code of lengths -/

theorem reads_triples? (count : Nat) :
    Reads (triples? count) fun sizes w =>
      sizes.length = count ∧ (∀ n ∈ sizes, n < 2 ^ 3) ∧ w = sizes.flatMap (numeral 3) := by
  induction count with
  | zero =>
    refine (Reads.pure []).congr fun sizes w => ?_
    constructor
    · rintro ⟨rfl, rfl⟩
      simp
    · rintro ⟨hcount, -, rfl⟩
      obtain rfl := List.length_eq_zero_iff.1 hcount
      exact ⟨rfl, rfl⟩
  | succ count ih =>
    refine Reads.congr (Reads.of_eq ((BitSource.reads_number? 3).andThen fun n =>
      ih.map fun sizes => n :: sizes) fun s => by rw [triples?]; cases s.number? 3 <;> rfl)
      fun sizes w => ?_
    constructor
    · rintro ⟨n, _, _, ⟨hn, rfl⟩, ⟨rest, ⟨rfl, hrest, rfl⟩, rfl⟩, rfl⟩
      exact ⟨rfl, List.forall_mem_cons.2 ⟨hn, hrest⟩, rfl⟩
    · rintro ⟨hcount, hsizes, rfl⟩
      cases sizes with
      | nil => cases hcount
      | cons n rest =>
        obtain ⟨hn, hrest⟩ := List.forall_mem_cons.1 hsizes
        exact ⟨n, _, _, ⟨hn, rfl⟩, ⟨rest, ⟨Nat.succ.inj hcount, hrest, rfl⟩, rfl⟩, rfl⟩

/-! ### Runs of lengths -/

/-- One length as often as a least count and a number behind it say. -/
def IsReplicated (least bits length : Nat) (run : List Nat) (w : List Bool) : Prop :=
  ∃ more, more < 2 ^ bits ∧ run = List.replicate (least + more) length ∧ w = numeral bits more

/-- The lengths that a symbol stands for with the bits behind it, given the lengths before them. -/
def IsRun (sent : List Nat) : Nat → List Nat → List Bool → Prop
  | 16, run, w => ∃ last, sent.getLast? = some last ∧ IsReplicated 3 2 last run w
  | 17, run, w => IsReplicated 3 3 0 run w
  | 18, run, w => IsReplicated 11 7 0 run w
  | length, run, w => run = [length] ∧ w = []

theorem reads_replicate (least bits length : Nat) :
    Reads (fun s => (s.number? bits).map fun r => (List.replicate (least + r.1) length, r.2))
      (IsReplicated least bits length) := by
  refine ((BitSource.reads_number? bits).map fun more =>
    List.replicate (least + more) length).congr fun run w => ?_
  constructor
  · rintro ⟨more, ⟨hmore, rfl⟩, rfl⟩
    exact ⟨more, hmore, rfl, rfl⟩
  · rintro ⟨more, hmore, rfl, rfl⟩
    exact ⟨more, ⟨hmore, rfl⟩, rfl⟩

theorem reads_run? (sent : List Nat) (symbol : Nat) :
    Reads (run? sent.reverse symbol) (IsRun sent symbol) := by
  unfold run? IsRun
  split
  · rw [List.head?_reverse]
    cases sent.getLast? with
    | none => exact Reads.never.congr (by simp)
    | some last => exact (reads_replicate 3 2 last).congr (by simp)
  · exact reads_replicate 3 3 0
  · exact reads_replicate 11 7 0
  next h₁₆ h₁₇ h₁₈ =>
    refine (Reads.pure [symbol]).congr fun run w => ?_
    split
    · exact (h₁₆ rfl).elim
    · exact (h₁₇ rfl).elim
    · exact (h₁₈ rfl).elim
    · exact Iff.rfl

/-- A run is one length, repeated. -/
theorem IsRun.exists_eq_replicate {sent run : List Nat} {symbol : Nat} {w : List Bool}
    (h : IsRun sent symbol run w) : ∃ more length, run = List.replicate (more + 1) length := by
  unfold IsRun at h
  split at h
  · obtain ⟨last, -, more, -, rfl, -⟩ := h
    exact ⟨2 + more, last, by rw [Nat.add_right_comm]⟩
  · obtain ⟨more, -, rfl, -⟩ := h
    exact ⟨2 + more, 0, by rw [Nat.add_right_comm]⟩
  · obtain ⟨more, -, rfl, -⟩ := h
    exact ⟨10 + more, 0, by rw [Nat.add_right_comm]⟩
  · obtain ⟨rfl, -⟩ := h
    exact ⟨0, symbol, rfl⟩

/-- The next lengths: the word of a symbol and what stands behind it. -/
def IsNextLengths (code : PrefixCode) (sent run : List Nat) (w : List Bool) : Prop :=
  ∃ symbol v v', code.IsWord symbol v ∧ IsRun sent symbol run v' ∧ w = v ++ v'

theorem reads_nextLengths? (code : PrefixCode) (sent : List Nat) :
    Reads (nextLengths? code sent.reverse) (IsNextLengths code sent) := by
  refine ((PrefixCode.reads_symbol? code).andThen (reads_run? sent)).of_eq fun s => ?_
  unfold nextLengths?
  cases code.symbol? s <;> rfl

/-! ### Sequences of lengths -/

/-- **A sequence of lengths**: those before it, its bits, and all lengths after it. -/
inductive SendsLengths (code : PrefixCode) : List Nat → List Bool → List Nat → Prop
  | nil (sent : List Nat) : SendsLengths code sent [] sent
  | run {sent run all : List Nat} {w rest : List Bool} (h : IsNextLengths code sent run w)
      (hrest : SendsLengths code (sent ++ run) rest all) : SendsLengths code sent (w ++ rest) all

theorem SendsLengths.length_le {code : PrefixCode} {sent all : List Nat} {w : List Bool}
    (h : SendsLengths code sent w all) : sent.length ≤ all.length := by
  induction h with
  | nil sent => exact Nat.le_refl _
  | run h hrest ih =>
    rw [List.length_append] at ih
    exact (Nat.le_add_right _ _).trans ih

/-- What is found is a sequence of as many lengths as are asked for. -/
theorem sendsLengths_of_sentLengths? {code : PrefixCode} {count steps : Nat} {s s' : BitSource}
    {sent all : List Nat}
    (h : sentLengths? code count steps s sent.reverse = some (all.reverse, s')) :
    ∃ w, SendsLengths code sent w all ∧ all.length = count ∧ s.bits = w ++ s'.bits := by
  induction steps generalizing s sent with
  | zero => cases h
  | succ steps ih =>
    rw [sentLengths?, List.length_reverse] at h
    split at h
    · cases h
    · split at h
      next hcount =>
        obtain ⟨hall, rfl⟩ := Prod.mk.inj (Option.some.inj h)
        obtain rfl := List.reverse_injective hall
        exact ⟨[], .nil sent, hcount, rfl⟩
      · split at h
        · cases h
        next run s₁ hread =>
          obtain ⟨w, hw, hs⟩ := (reads_nextLengths? code sent).sound hread
          obtain ⟨symbol, v, v', hv, hrun, rfl⟩ := hw
          obtain ⟨more, length, rfl⟩ := hrun.exists_eq_replicate
          have hsent : List.replicate (more + 1) length ++ sent.reverse
              = (sent ++ List.replicate (more + 1) length).reverse := by
            rw [List.reverse_append, List.reverse_replicate]
          rw [hsent] at h
          obtain ⟨rest, hrest, hcount, hs₁⟩ := ih h
          refine ⟨v ++ v' ++ rest, .run ⟨symbol, v, v', hv, hrun, rfl⟩ hrest, hcount, ?_⟩
          rw [hs, hs₁, List.append_assoc _ rest]

/-- A sequence of lengths is found if it is asked for, with more steps than lengths. -/
theorem SendsLengths.exists_sentLengths? {code : PrefixCode} {sent all : List Nat} {w : List Bool}
    (h : SendsLengths code sent w all) {steps : Nat} (hsteps : all.length < steps + sent.length)
    {s : BitSource} {t : List Bool} (hs : s.bits = w ++ t) :
    ∃ s', sentLengths? code all.length steps s sent.reverse = some (all.reverse, s') ∧
      s'.bits = t := by
  induction h generalizing s steps with
  | nil sent =>
    obtain ⟨steps, rfl⟩ := Nat.exists_eq_succ_of_ne_zero (show steps ≠ 0 by omega)
    refine ⟨s, ?_, hs⟩
    rw [sentLengths?, List.length_reverse, if_neg (Nat.lt_irrefl _), if_pos rfl]
  | @run sent run all w rest h hrest ih =>
    have hle := hrest.length_le
    obtain ⟨symbol, v, v', hv, hrun, rfl⟩ := h
    obtain ⟨more, length, rfl⟩ := hrun.exists_eq_replicate
    rw [List.length_append, List.length_replicate] at hle
    obtain ⟨steps, rfl⟩ := Nat.exists_eq_succ_of_ne_zero (show steps ≠ 0 by omega)
    rw [List.append_assoc] at hs
    obtain ⟨s₁, hread, hs₁⟩ :=
      (reads_nextLengths? code sent).complete ⟨symbol, v, v', hv, hrun, rfl⟩ hs
    have hrestSteps : all.length < steps + (sent ++ List.replicate (more + 1) length).length := by
      rw [List.length_append, List.length_replicate]
      omega
    obtain ⟨s', hall, hs'⟩ := ih hrestSteps hs₁
    refine ⟨s', ?_, hs'⟩
    rw [sentLengths?, List.length_reverse, if_neg (by omega), if_neg (by omega), hread]
    rw [List.reverse_append, List.reverse_replicate] at hall
    exact hall

/-- **As many lengths as are asked for** are read. -/
theorem reads_sentLengths? (code : PrefixCode) (count : Nat) :
    Reads (fun s => sentLengths? code count (count + 1) s []) fun reversed w =>
      SendsLengths code [] w reversed.reverse ∧ reversed.length = count where
  sound {s s' reversed} hread := by
    rw [← List.reverse_nil, ← List.reverse_reverse reversed] at hread
    obtain ⟨w, hw, hcount, hs⟩ := sendsLengths_of_sentLengths? hread
    rw [List.length_reverse] at hcount
    exact ⟨w, ⟨hw, hcount⟩, hs⟩
  complete {s reversed w t} hw hs := by
    obtain ⟨hw, rfl⟩ := hw
    obtain ⟨s', hread, hs'⟩ := hw.exists_sentLengths? (Nat.lt_succ_self _) hs
    rw [List.length_reverse, List.reverse_reverse] at hread
    exact ⟨s', hread, hs'⟩

/-! ### Codes -/

/-- A code may be used for data if it is complete. Some codes that are not may be used as well: one
without symbols, and one with a single symbol, whose word is one bit. -/
def IsUsable (c : PrefixCode) : Prop :=
  c.IsComplete ∨ c.size = 0 ∨ c.size = 1 ∧ (c.levels.headD []).length = 1

theorem isUsable_iff {c : PrefixCode} : isUsable c = true ↔ IsUsable c := by
  have hhead : (c.levels.headD []).length ≤ c.size := by
    rw [PrefixCode.size]
    cases c.levels with
    | nil => exact Nat.zero_le _
    | cons level rest =>
      rw [List.flatten_cons, List.length_append]
      exact Nat.le_add_right _ _
  rw [isUsable, Bool.or_eq_true, PrefixCode.isFull_iff, Bool.and_eq_true, decide_eq_true_eq,
    beq_iff_eq, IsUsable]
  refine or_congr_right ?_
  omega

/-- **Codes that are sent**: how many lengths of symbols and of distances there are, how many of
their own lengths, these lengths, and the lengths of symbols and distances. -/
inductive SendsCodes : Codes → List Bool → Prop
  | intro {symbols distances sizes : List Nat} {w : List Bool}
      (hsymbols : 257 ≤ symbols.length ∧ symbols.length ≤ 286)
      (hdistances : 1 ≤ distances.length ∧ distances.length ≤ 30)
      (hsizes : 4 ≤ sizes.length ∧ sizes.length ≤ 19 ∧ ∀ n ∈ sizes, n < 2 ^ 3)
      (hcomplete : (lengthCode sizes).IsComplete)
      (hlengths : SendsLengths (lengthCode sizes) [] w (symbols ++ distances))
      (husable : IsUsable (.ofLengths symbols) ∧ IsUsable (.ofLengths distances)) :
      SendsCodes ⟨.ofLengths symbols, .ofLengths distances⟩
        (numeral 5 (symbols.length - 257) ++ (numeral 5 (distances.length - 1)
          ++ (numeral 4 (sizes.length - 4) ++ (sizes.flatMap (numeral 3) ++ w))))

theorem reads_count? (bits least greatest : Nat) :
    Reads (count? bits least greatest) fun n w =>
      least ≤ n ∧ n < least + 2 ^ bits ∧ n ≤ greatest ∧ w = numeral bits (n - least) := by
  refine Reads.congr (((BitSource.reads_number? bits).map (least + ·)).filter
    fun n => decide (n ≤ greatest)) fun n w => ?_
  rw [decide_eq_true_eq]
  constructor
  · rintro ⟨⟨more, ⟨hmore, rfl⟩, rfl⟩, hle⟩
    exact ⟨Nat.le_add_right _ _, by omega, hle, by rw [Nat.add_sub_cancel_left]⟩
  · rintro ⟨hleast, hlt, hle, rfl⟩
    exact ⟨⟨n - least, ⟨by omega, rfl⟩, by omega⟩, hle⟩

theorem reads_lengthCode? (count : Nat) :
    Reads (lengthCode? count) fun code w => ∃ sizes : List Nat, sizes.length = count ∧
      (∀ n ∈ sizes, n < 2 ^ 3) ∧ code = lengthCode sizes ∧ code.IsComplete ∧
        w = sizes.flatMap (numeral 3) := by
  refine Reads.congr (((reads_triples? count).map lengthCode).filter PrefixCode.isFull)
    fun code w => ?_
  rw [PrefixCode.isFull_iff]
  constructor
  · rintro ⟨⟨sizes, ⟨hcount, hsizes, rfl⟩, rfl⟩, hcomplete⟩
    exact ⟨sizes, hcount, hsizes, rfl, hcomplete, rfl⟩
  · rintro ⟨sizes, hcount, hsizes, rfl, hcomplete, rfl⟩
    exact ⟨⟨sizes, ⟨hcount, hsizes, rfl⟩, rfl⟩, hcomplete⟩

theorem reads_dataCodes? (code : PrefixCode) (symbolCount distanceCount : Nat) :
    Reads (dataCodes? code symbolCount distanceCount) fun c w => ∃ symbols distances : List Nat,
      symbols.length = symbolCount ∧ distances.length = distanceCount ∧
        SendsLengths code [] w (symbols ++ distances) ∧
          c = ⟨.ofLengths symbols, .ofLengths distances⟩ ∧ IsUsable c.symbols ∧
            IsUsable c.distances := by
  refine Reads.congr (((reads_sentLengths? code (symbolCount + distanceCount)).map
    fun reversed => codesOf symbolCount reversed.reverse).filter
      fun c => isUsable c.symbols && isUsable c.distances) fun c w => ?_
  rw [Bool.and_eq_true, isUsable_iff, isUsable_iff]
  constructor
  · rintro ⟨⟨reversed, ⟨hlengths, hcount⟩, rfl⟩, husable⟩
    rw [← List.take_append_drop symbolCount reversed.reverse] at hlengths
    rw [← List.length_reverse] at hcount
    exact ⟨reversed.reverse.take symbolCount, reversed.reverse.drop symbolCount,
      by rw [List.length_take]; omega, by rw [List.length_drop]; omega, hlengths, rfl, husable⟩
  · rintro ⟨symbols, distances, rfl, rfl, hlengths, rfl, husable⟩
    refine ⟨⟨(symbols ++ distances).reverse, ⟨?_, ?_⟩, ?_⟩, husable⟩
    · rwa [List.reverse_reverse]
    · rw [List.length_reverse, List.length_append]
    · rw [List.reverse_reverse, codesOf, List.take_left, List.drop_left]

/-- **The codes that are sent are read.** -/
theorem reads_sentCodes? : Reads sentCodes? SendsCodes := by
  refine Reads.congr ((reads_count? 5 257 286).bind fun symbolCount =>
    (reads_count? 5 1 30).bind fun distanceCount =>
      (reads_count? 4 4 19).bind fun lengthCount =>
        (reads_lengthCode? lengthCount).bind fun code =>
          reads_dataCodes? code symbolCount distanceCount) fun c w => ?_
  constructor
  · rintro ⟨_, _, _, ⟨hsymbols, -, hsymbols', rfl⟩, hw, rfl⟩
    obtain ⟨_, _, _, ⟨hdistances, -, hdistances', rfl⟩, hw, rfl⟩ := hw
    obtain ⟨_, _, _, ⟨hsizes, -, hsizes', rfl⟩, hw, rfl⟩ := hw
    obtain ⟨_, _, w, ⟨sizes, rfl, hsmall, rfl, hcomplete, rfl⟩, hw, rfl⟩ := hw
    obtain ⟨symbols, distances, rfl, rfl, hlengths, rfl, husable⟩ := hw
    exact .intro ⟨hsymbols, hsymbols'⟩ ⟨hdistances, hdistances'⟩ ⟨hsizes, hsizes', hsmall⟩
      hcomplete hlengths husable
  · rintro @⟨symbols, distances, sizes, w, ⟨hsymbols, hsymbols'⟩, ⟨hdistances, hdistances'⟩,
      ⟨hsizes, hsizes', hsmall⟩, hcomplete, hlengths, husable⟩
    refine ⟨symbols.length, _, _, ⟨hsymbols, by omega, hsymbols', rfl⟩, ?_, rfl⟩
    refine ⟨distances.length, _, _, ⟨hdistances, by omega, hdistances', rfl⟩, ?_, rfl⟩
    refine ⟨sizes.length, _, _, ⟨hsizes, by omega, hsizes', rfl⟩, ?_, rfl⟩
    refine ⟨lengthCode sizes, _, w, ⟨sizes, rfl, hsmall, rfl, hcomplete, rfl⟩, ?_, rfl⟩
    exact ⟨symbols, distances, rfl, rfl, hlengths, rfl, husable⟩

end Courier.Gzip.Inflate
