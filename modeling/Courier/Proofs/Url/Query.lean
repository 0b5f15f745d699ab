import Courier.Proofs.Url.Parser
import Courier.Url.Query

/-!
# Pairs at the end of a query

The pairs of an address to which pairs are added are those that it had and the new ones after
them (`Courier.Url.queryPairs_appendPairs`), whatever query there was: none, an empty one, or
one that ends with `&`. Nothing is lost or merged, because the coding of a text holds neither of
the signs between pairs and their parts (`Courier.Query.isFormChar_of_mem_encode`), and because
each byte of a coding is read back as the byte that was coded (`Courier.Query.decodeText_encode`)
– the sign for a space included, which is only read as a space where it was not coded.

The coding holds no character that ends a query either, so the longer address is as it is
written, and is read again (`Courier.Url.IsServed.appendPairs`).
-/

namespace Courier

namespace Query

/-! ### The coding of a text -/

/-- What a byte is read as before the digits are read: the sign for a space is one. -/
def unplus (b : UInt8) : UInt8 := if b = 0x2B then 0x20 else b

/-- The bytes that code a byte, the sign for a space read. -/
def codeBytes (b : UInt8) : Bytes :=
  if isPlain b || b = 0x20 then [b]
  else [37, Hex.upperByte (b.toNat / 16), Hex.upperByte (b.toNat % 16)]

/-- The coding of one byte, as text and as bytes. -/
theorem map_unplus_encodeByte (b : UInt8) :
    ((encodeByte b).flatMap String.utf8EncodeChar).map unplus = codeBytes b := by
  have key : ∀ n < 256, ((encodeByte (UInt8.ofNat n)).flatMap String.utf8EncodeChar).map unplus
      = codeBytes (UInt8.ofNat n) := by decide +kernel
  simpa using key b.toNat b.toNat_lt

/-- One coded byte in front is read back, whatever follows. -/
theorem decode_codeBytes_append (b : UInt8) (r : Bytes) :
    UrlCoding.decode (codeBytes b ++ r) = b :: UrlCoding.decode r := by
  rw [UrlCoding.decode_eq, UrlCoding.decode_eq]
  by_cases h : (isPlain b || b = 0x20) = true
  · have hb : b ≠ 37 := by
      rintro rfl
      exact absurd h (by decide)
    rw [codeBytes, if_pos h]
    exact Percent.decode_cons_of_ne hb r
  · rw [codeBytes, if_neg h]
    simp [Percent.decode, Percent.pairValue?_upperByte]

/-- **The coding of a text is read as the text.** -/
theorem decodeText_encode (s : String) : decodeText (utf8 (String.ofList (encode s))) = s := by
  have key : ∀ b : Bytes, UrlCoding.decode (((b.flatMap encodeByte).flatMap
      String.utf8EncodeChar).map unplus) = b := by
    intro b
    induction b with
    | nil => rfl
    | cons x b ih =>
      rw [List.flatMap_cons, List.flatMap_append, List.map_append, map_unplus_encodeByte,
        decode_codeBytes_append, ih]
  have hbytes : utf8 (String.ofList (encode s))
      = ((utf8 s).flatMap encodeByte).flatMap String.utf8EncodeChar := by
    rw [utf8, String.toList_ofList, encode]
  rw [decodeText, hbytes]
  exact (congrArg Utf8.lossy (key (utf8 s))).trans (Utf8.lossy_utf8 s)

/-- Whether a character can stand in the coding of a text. -/
def isFormChar (c : Char) : Bool :=
  UrlCoding.isWritten UrlCoding.specialQuery c && c != '&' && c != '='

/-- **A coding holds no sign that stands between pairs or their parts.** -/
theorem isFormChar_of_mem_encode {s : String} {c : Char} (hc : c ∈ encode s) :
    isFormChar c = true := by
  have key : ∀ n < 256, (encodeByte (UInt8.ofNat n)).all isFormChar = true := by decide +kernel
  obtain ⟨b, -, hb⟩ := List.mem_flatMap.1 hc
  have hall := key b.toNat b.toNat_lt
  rw [UInt8.ofNat_toNat, List.all_eq_true] at hall
  exact hall c hb

theorem isFormChar_iff {c : Char} : isFormChar c = true ↔
    UrlCoding.isWritten UrlCoding.specialQuery c = true ∧ c ≠ '&' ∧ c ≠ '=' := by
  simp [isFormChar, and_assoc]

/-! ### The coding of a pair -/

theorem utf8_append (s t : String) : utf8 (s ++ t) = utf8 s ++ utf8 t := by
  simp [utf8]

/-- A byte of ASCII stands only where its character does. -/
theorem ofNat_notMem_utf8 {c : Char} (hc : c.toNat < 0x80) {s : String} (h : c ∉ s.toList) :
    UInt8.ofNat c.toNat ∉ utf8 s := by
  intro hmem
  obtain ⟨d, hd, hb⟩ := List.mem_flatMap.1 hmem
  have hn : (UInt8.ofNat c.toNat).toNat = c.toNat := Utf8.toNat_ofNat_of_lt (by omega)
  have hlt : UInt8.ofNat c.toNat < 0x80 := by
    simpa only [UInt8.lt_iff_toNat_lt, hn, UInt8.reduceToNat] using hc
  have hdc := UrlCoding.eq_ofNat_of_mem_utf8EncodeChar hlt hb
  rw [hn, Char.ofNat_toNat] at hdc
  exact h (hdc ▸ hd)

theorem mem_encodePair {kv : String × String} {c : Char} (hc : c ∈ encodePair kv) :
    c = '=' ∨ isFormChar c = true := by
  rw [encodePair, List.mem_append, List.mem_cons] at hc
  rcases hc with hc | hc | hc
  · exact Or.inr (isFormChar_of_mem_encode hc)
  · exact Or.inl hc
  · exact Or.inr (isFormChar_of_mem_encode hc)

/-- **The coding of a pair is read as the pair.** -/
theorem decodePair_encodePair (kv : String × String) :
    decodePair (utf8 (String.ofList (encodePair kv))) = kv := by
  have hbytes : utf8 (String.ofList (encodePair kv))
      = utf8 (String.ofList (encode kv.1)) ++ 0x3D :: utf8 (String.ofList (encode kv.2)) := by
    simp [utf8, encodePair]
    rfl
  have hname : 0x3D ∉ utf8 (String.ofList (encode kv.1)) := by
    refine ofNat_notMem_utf8 (c := '=') (by decide) fun hmem => ?_
    rw [String.toList_ofList] at hmem
    exact absurd (isFormChar_of_mem_encode hmem) (by decide)
  have hcut : (utf8 (String.ofList (encodePair kv))).span (· ≠ 0x3D)
      = (utf8 (String.ofList (encode kv.1)), 0x3D :: utf8 (String.ofList (encode kv.2))) := by
    rw [hbytes]
    refine span_append (fun b hb => ?_) fun b hb => ?_
    · rw [decide_eq_true_eq]
      rintro rfl
      exact hname hb
    · rw [← Option.some.inj hb]
      rfl
  rw [decodePair, hcut]
  exact Prod.ext (decodeText_encode kv.1) (decodeText_encode kv.2)

/-! ### Pairs joined -/

/-- **Queries that are joined by `&` have the pairs of both.** -/
theorem decode_append (s t : String) : decode (s ++ "&" ++ t) = decode s ++ decode t := by
  have hbytes : utf8 (s ++ "&" ++ t) = utf8 s ++ 0x26 :: utf8 t := by
    rw [utf8_append, utf8_append, List.append_assoc]
    rfl
  rw [decode, hbytes, List.splitOn_append_cons_self, List.filter_append, List.map_append]
  rfl

theorem decode_encodePair (kv : String × String) :
    decode (String.ofList (encodePair kv)) = [kv] := by
  have hamp : 0x26 ∉ utf8 (String.ofList (encodePair kv)) := by
    refine ofNat_notMem_utf8 (c := '&') (by decide) fun hmem => ?_
    rw [String.toList_ofList] at hmem
    rcases mem_encodePair hmem with h | h
    · exact absurd h (by decide)
    · exact absurd h (by decide)
  have hne : utf8 (String.ofList (encodePair kv)) ≠ [] := by
    intro h
    have hempty : String.ofList (encodePair kv) = "" := Utf8.utf8_injective h
    simp [encodePair] at hempty
  rw [decode, List.splitOn_eq_singleton hamp, List.filter_cons_of_pos (by simpa using hne)]
  simp [decodePair_encodePair]

/-- The coding of pairs. -/
def encodePairs (pairs : List (String × String)) : List Char :=
  List.intercalate ['&'] (pairs.map encodePair)

theorem encodePairs_cons_cons (kv kv' : String × String) (pairs : List (String × String)) :
    encodePairs (kv :: kv' :: pairs) = encodePair kv ++ '&' :: encodePairs (kv' :: pairs) := by
  simp [encodePairs, List.intercalate]

/-- **The coding of pairs is read as the pairs.** -/
theorem decode_encodePairs (pairs : List (String × String)) :
    decode (String.ofList (encodePairs pairs)) = pairs := by
  induction pairs with
  | nil => rfl
  | cons kv pairs ih =>
    cases pairs with
    | nil => simpa [encodePairs] using decode_encodePair kv
    | cons kv' pairs =>
      have htext : String.ofList (encodePairs (kv :: kv' :: pairs))
          = String.ofList (encodePair kv) ++ "&" ++ String.ofList (encodePairs (kv' :: pairs)) := by
        refine String.toList_inj.1 ?_
        simp [encodePairs_cons_cons]
      rw [htext, decode_append, decode_encodePair, ih, List.singleton_append]

/-- The coding of pairs can stand in a query. -/
theorem isWritten_of_mem_encodePairs {pairs : List (String × String)} {c : Char}
    (hc : c ∈ encodePairs pairs) : UrlCoding.isWritten UrlCoding.specialQuery c = true := by
  induction pairs with
  | nil => cases hc
  | cons kv pairs ih =>
    have hpair : c ∈ encodePair kv → UrlCoding.isWritten UrlCoding.specialQuery c = true := by
      intro h
      rcases mem_encodePair h with rfl | h
      · decide
      · exact (isFormChar_iff.1 h).1
    cases pairs with
    | nil => exact hpair (by simpa [encodePairs] using hc)
    | cons kv' pairs =>
      rw [encodePairs_cons_cons, List.mem_append, List.mem_cons] at hc
      rcases hc with hc | rfl | hc
      · exact hpair hc
      · decide
      · exact ih hc

end Query

namespace Url

/-- The query of an address with more pairs. -/
theorem query_appendPairs (u : Url) {pairs : List (String × String)} (hne : pairs ≠ []) :
    (u.appendPairs pairs).query = some (if u.query.getD "" = "" then
      String.ofList (Query.encodePairs pairs)
    else u.query.getD "" ++ "&" ++ String.ofList (Query.encodePairs pairs)) := by
  rw [appendPairs, if_neg hne]
  refine congrArg some (String.toList_inj.1 ?_)
  by_cases hempty : u.query.getD "" = ""
  · simp [hempty, Query.encodePairs]
  · simp [hempty, Query.encodePairs]

/-- **Adding pairs adds them at the end**, and changes none that was there. -/
theorem queryPairs_appendPairs (u : Url) (pairs : List (String × String)) :
    (u.appendPairs pairs).queryPairs = u.queryPairs ++ pairs := by
  by_cases hne : pairs = []
  · rw [hne, List.append_nil]
    rfl
  rw [queryPairs, query_appendPairs u hne, Option.getD_some, queryPairs]
  split
  · rename_i hempty
    rw [hempty, Query.decode_encodePairs]
    rfl
  · rw [Query.decode_append, Query.decode_encodePairs]

/-- Only the query is another one. -/
theorem appendPairs_eq (u : Url) (pairs : List (String × String)) :
    u.appendPairs pairs = { u with query := (u.appendPairs pairs).query } := by
  unfold appendPairs
  split <;> rfl

/-- **An address with more pairs is as it is written.** -/
theorem IsServed.appendPairs {u : Url} (hu : u.IsServed) (pairs : List (String × String)) :
    (u.appendPairs pairs).IsServed := by
  by_cases hne : pairs = []
  · rw [Url.appendPairs, if_pos hne]
    exact hu
  have hold : ∀ c ∈ (u.query.getD "").toList,
      UrlCoding.isWritten UrlCoding.specialQuery c = true := by
    cases hq : u.query with
    | none => simp
    | some q => exact hu.query q hq
  have hquery : ∀ q ∈ (u.appendPairs pairs).query, ∀ c ∈ q.toList,
      UrlCoding.isWritten UrlCoding.specialQuery c = true := by
    intro q hq c hc
    rw [query_appendPairs u hne] at hq
    obtain rfl := Option.some.inj hq
    split at hc
    · rw [String.toList_ofList] at hc
      exact Query.isWritten_of_mem_encodePairs hc
    · rw [String.toList_append, String.toList_append, List.mem_append, List.mem_append] at hc
      rcases hc with (hc | hc) | hc
      · exact hold c hc
      · obtain rfl : c = '&' := by simpa using hc
        decide
      · rw [String.toList_ofList] at hc
        exact Query.isWritten_of_mem_encodePairs hc
  rw [appendPairs_eq]
  exact { hu with query := hquery }

end Url

end Courier
