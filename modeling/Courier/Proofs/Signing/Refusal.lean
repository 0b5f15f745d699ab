import Courier.Proofs.Signing.Preparing

/-!
# When signing fails, and what it leaves

With a date in the header, signing can fail in four places, and where it fails first is what it
reports (`Courier.Keyed.verdict`):

| what cannot be used | error | what was written before |
|---|---|---|
| the given host, if there is none to keep | `host` | content type, digest |
| the date, if no character ends at its eighth byte | the timestamp | and the host |
| the date, the access key, the region or the service | `authorization` | and the host |
| the session token | `x-security-token` | and `authorization` |

Each way to end is one constructor of `Courier.Keyed.Ending`, which lists the conditions that
led there and the header that is left. Every run is one of them (`Courier.Keyed.ending_sign`),
and what a run reports and what it keeps is read off it, case by case
(`Courier.Keyed.sign_verdict_and_keeps`).
-/

namespace Courier

/-! ### Texts that cannot be used -/

/-- A text with a byte that may not stand in a header: a control that is no tab. -/
def HasIllegalByte (s : String) : Prop := ∃ b ∈ utf8 s, b ≠ 9 ∧ (b < 32 ∨ b = 127)

theorem hasIllegalByte_iff {s : String} :
    HasIllegalByte s ↔ HeaderValue.isValueText s = false := by
  rw [HasIllegalByte, HeaderValue.isValueText, List.all_eq_false]
  refine exists_congr fun b => and_congr_right fun _ => ?_
  simp only [isValueByte, Bool.or_eq_true, Bool.and_eq_true, beq_iff_eq, bne_iff_ne,
    decide_eq_true_eq, not_or, not_and_or, UInt8.not_le, ne_eq, not_not]

instance (s : String) : Decidable (HasIllegalByte s) :=
  decidable_of_iff _ hasIllegalByte_iff.symm

/-- A text with such a byte is not written. -/
theorem Headers.write_of_hasIllegalByte {s : String} (hs : HasIllegalByte s) (h : Headers)
    (n : HeaderName) : h.write n s = (h, .error (.invalidValue n)) := by
  rw [hasIllegalByte_iff, Bool.eq_false_iff, ne_eq, ← HeaderValue.exists_ofText?_eq_some_iff,
    ← Option.ne_none_iff_exists', not_not] at hs
  rw [write, hs]

/-- Every other text is. -/
theorem Headers.exists_write_eq {s : String} (hs : ¬ HasIllegalByte s) (h : Headers)
    (n : HeaderName) : ∃ v, h.write n s = (h.insert n v, .ok ()) := by
  rw [hasIllegalByte_iff, Bool.not_eq_false, ← HeaderValue.exists_ofText?_eq_some_iff] at hs
  obtain ⟨v, hv⟩ := hs
  exact ⟨v, by rw [write, hv]⟩

/-- The characters that fill a number of bytes are those in front with so many bytes. -/
theorem takeBytesChars?_eq_some_iff {n : Nat} {cs front : List Char} :
    takeBytesChars? n cs = some front ↔
      ∃ rest, cs = front ++ rest ∧ (front.flatMap String.utf8EncodeChar).length = n := by
  have hpos := fun c : Char => c.utf8Size_pos
  simp only [List.length_flatMap, String.length_utf8EncodeChar]
  fun_induction takeBytesChars? n cs generalizing front with
  | case1 cs =>
    constructor
    · rintro ⟨⟩
      exact ⟨cs, rfl, rfl⟩
    · rintro ⟨rest, -, hlength⟩
      cases front with
      | nil => rfl
      | cons c front =>
        rw [List.map_cons, List.sum_cons] at hlength
        have := hpos c
        omega
  | case2 n =>
    constructor
    · rintro ⟨⟩
    · rintro ⟨rest, hcs, hlength⟩
      obtain ⟨rfl, -⟩ := List.append_eq_nil_iff.1 hcs.symm
      simp at hlength
  | case3 n c cs hfits ih =>
    rw [Option.map_eq_some_iff]
    constructor
    · rintro ⟨front, hfront, rfl⟩
      obtain ⟨rest, rfl, hlength⟩ := ih.1 hfront
      refine ⟨rest, rfl, ?_⟩
      rw [List.map_cons, List.sum_cons]
      omega
    · rintro ⟨rest, hcs, hlength⟩
      cases front with
      | nil => simp at hlength
      | cons d front =>
        obtain ⟨rfl, rfl⟩ := List.cons.inj hcs
        rw [List.map_cons, List.sum_cons] at hlength
        exact ⟨front, ih.2 ⟨rest, rfl, by omega⟩, rfl⟩
  | case4 n c cs hfits =>
    constructor
    · rintro ⟨⟩
    · rintro ⟨rest, hcs, hlength⟩
      cases front with
      | nil => simp at hlength
      | cons d front =>
        obtain ⟨rfl, rfl⟩ := List.cons.inj hcs
        rw [List.map_cons, List.sum_cons] at hlength
        omega

/-- **The beginning of a text that fills a number of bytes.** -/
theorem takeBytes?_eq_some_iff {n : Nat} {s front : String} :
    takeBytes? n s = some front ↔ ∃ rest, s = front ++ rest ∧ (utf8 front).length = n := by
  rw [takeBytes?, Option.map_eq_some_iff]
  constructor
  · rintro ⟨cs, hcs, rfl⟩
    obtain ⟨rest, he, hlength⟩ := takeBytesChars?_eq_some_iff.1 hcs
    refine ⟨String.ofList rest, ?_, by rw [utf8, String.toList_ofList, hlength]⟩
    rw [← String.ofList_append, ← he, String.ofList_toList]
  · rintro ⟨rest, rfl, hlength⟩
    refine ⟨front.toList, ?_, String.ofList_toList⟩
    exact takeBytesChars?_eq_some_iff.2 ⟨rest.toList, String.toList_append, hlength⟩

namespace Keyed

/-! ### What signing reports -/

/-- The date of a timestamp: a beginning of eight bytes. -/
def IsDate (timestamp date : String) : Prop :=
  ∃ rest, timestamp = date ++ rest ∧ (utf8 date).length = 8

theorem dateOf?_eq_some_iff {timestamp date : String} :
    dateOf? timestamp = some date ↔ IsDate timestamp date :=
  takeBytes?_eq_some_iff

instance (timestamp : String) : Decidable (∃ date, IsDate timestamp date) :=
  decidable_of_iff ((dateOf? timestamp).isSome = true)
    (Option.isSome_iff_exists.trans (exists_congr fun _ => dateOf?_eq_some_iff))

/-- There is no host to keep, and the given one cannot be written. -/
def RefusesHost (h : Headers) (p : Parts) : Prop :=
  isFilled h .host = false ∧ HasIllegalByte p.host
deriving Decidable

/-- A part of the scope cannot be written. -/
def RefusesScope (h : Headers) (c : Credential) : Prop :=
  ∃ date, IsDate (h.lossy .xDate) date ∧
    ∃ s ∈ [date, c.accessKey, c.region, c.service], HasIllegalByte s

instance (h : Headers) (c : Credential) : Decidable (RefusesScope h c) :=
  decidable_of_iff
    (∃ date ∈ dateOf? (h.lossy .xDate),
      ∃ s ∈ [date, c.accessKey, c.region, c.service], HasIllegalByte s)
    (exists_congr fun _ => and_congr_left fun _ => dateOf?_eq_some_iff)

/-- There is a session token, and it cannot be written. -/
def RefusesToken (c : Credential) : Prop :=
  ∃ token ∈ c.sessionToken, HasIllegalByte token
deriving Decidable

/-- What signing a header with a date comes to. -/
def verdict (h : Headers) (p : Parts) (c : Credential) : Except SigningError Unit :=
  if RefusesHost h p then .error (.invalidValue .host)
  else if ¬ ∃ date, IsDate (h.lossy .xDate) date then .error .badTimestamp
  else if RefusesScope h c then .error (.invalidValue .authorization)
  else if RefusesToken c then .error (.invalidValue .xSecurityToken)
  else .ok ()

/-- What a run of signing keeps of a header with a date, which is itself among the other
names. -/
structure Keeps (h : Headers) (run : Headers × Except SigningError Unit) : Prop where
  others : ∀ n, n ∉ [.contentType, .xContentSha256, .host, .authorization, .xSecurityToken] →
    run.1.values n = h.values n
  filled : ∀ n ∈ [.contentType, .host], isFilled h n = true → run.1.values n = h.values n
  token : run.2 ≠ .ok () → run.1.values .xSecurityToken = h.values .xSecurityToken
  authorization : ∀ e, run.2 = .error e → e ≠ .invalidValue .xSecurityToken →
    run.1.values .authorization = h.values .authorization

/-! ### How a run ends -/

/-- How signing a header with a date ends: each way with what led there, and with the header
that is left beside the result. -/
inductive Ending (h : Headers) (p : Parts) (c : Credential) (now : String) :
    Headers × Except SigningError Unit → Prop
  | host (hhost : RefusesHost h p) :
    Ending h p c now (prepared h p now, .error (.invalidValue .host))
  | date (hhost : ¬ RefusesHost h p) (hdate : ¬ ∃ date, IsDate (h.lossy .xDate) date) :
    Ending h p c now (prepared h p now, .error .badTimestamp)
  | scope (hhost : ¬ RefusesHost h p) (hdate : ∃ date, IsDate (h.lossy .xDate) date)
      (hscope : RefusesScope h c) :
    Ending h p c now (prepared h p now, .error (.invalidValue .authorization))
  | token (hhost : ¬ RefusesHost h p) (hdate : ∃ date, IsDate (h.lossy .xDate) date)
      (hscope : ¬ RefusesScope h c) (v : HeaderValue) (htoken : RefusesToken c) :
    Ending h p c now
      ((prepared h p now).insert .authorization v, .error (.invalidValue .xSecurityToken))
  | plain (hhost : ¬ RefusesHost h p) (hdate : ∃ date, IsDate (h.lossy .xDate) date)
      (hscope : ¬ RefusesScope h c) (v : HeaderValue) (htoken : c.sessionToken = none) :
    Ending h p c now ((prepared h p now).insert .authorization v, .ok ())
  | withToken (hhost : ¬ RefusesHost h p) (hdate : ∃ date, IsDate (h.lossy .xDate) date)
      (hscope : ¬ RefusesScope h c) (v w : HeaderValue) (htoken : ¬ RefusesToken c) :
    Ending h p c now
      (((prepared h p now).insert .authorization v).insert .xSecurityToken w, .ok ())

section Steps

variable {h : Headers} {p : Parts} {c : Credential} {now : String}

/-- Preparing fails exactly if the host is refused. -/
theorem prepare_result (h : Headers) (p : Parts) (now : String) :
    RefusesHost h p ∧ (prepare h now p.host (sha256Hex p.body)).2 = .error (.invalidValue .host)
      ∨ ¬ RefusesHost h p ∧ (prepare h now p.host (sha256Hex p.body)).2 = .ok () := by
  by_cases hf : isFilled h .host = true
  · refine Or.inr ⟨fun hr => ?_, by rw [prepare_eq, if_pos hf]⟩
    rw [hr.1] at hf
    exact absurd hf (by decide)
  rw [Bool.not_eq_true] at hf
  rw [prepare_of_not_isFilled hf]
  by_cases hbyte : HasIllegalByte p.host
  · rw [Headers.write_of_hasIllegalByte hbyte]
    exact Or.inl ⟨⟨hf, hbyte⟩, rfl⟩
  · obtain ⟨v, hv⟩ := (withDefaults h now (sha256Hex p.body)).exists_write_eq hbyte .host
    rw [hv]
    exact Or.inr ⟨fun hr => hbyte hr.2, rfl⟩

/-- The value of `authorization` can be written exactly if no part of the scope is refused. -/
theorem hasIllegalByte_authorization_iff {r : Canonical.Request} {date : String}
    (hdate : IsDate (h.lossy .xDate) date) (timestamp : String) :
    HasIllegalByte (authorization r timestamp date c) ↔ RefusesScope h c := by
  have hunique : ∀ date', IsDate (h.lossy .xDate) date' ↔ date' = date := by
    intro date'
    rw [← dateOf?_eq_some_iff, dateOf?_eq_some_iff.2 hdate, Option.some.injEq, eq_comm]
  simp only [RefusesScope, hunique, exists_eq_left, hasIllegalByte_iff,
    isValueText_authorization, Bool.and_eq_false_iff, List.mem_cons, List.not_mem_nil, or_false,
    exists_eq_or_imp]
  tauto

/-- From a prepared header on. -/
theorem ending_finish (hd : h.contains .xDate = true) (hhost : ¬ RefusesHost h p) :
    Ending h p c now (finish (prepared h p now) p (sha256Hex p.body) c) := by
  have htimestamp : (prepared h p now).lossy .xDate = h.lossy .xDate :=
    Headers.lossy_congr (values_prepared_xDate hd)
  unfold finish
  dsimp only
  rw [htimestamp]
  cases hdate : dateOf? (h.lossy .xDate) with
  | none =>
    refine .date hhost fun ⟨date, hd⟩ => ?_
    rw [dateOf?_eq_some_iff.2 hd] at hdate
    cases hdate
  | some date =>
    rw [dateOf?_eq_some_iff] at hdate
    have hauthorization := hasIllegalByte_authorization_iff (c := c)
      (r := canonicalRequest (prepared h p now) p (sha256Hex p.body)) hdate (h.lossy .xDate)
    dsimp only
    by_cases hscope : RefusesScope h c
    · rw [Headers.write_of_hasIllegalByte (hauthorization.2 hscope)]
      exact .scope hhost ⟨date, hdate⟩ hscope
    obtain ⟨v, hv⟩ := (prepared h p now).exists_write_eq (mt hauthorization.1 hscope) .authorization
    rw [hv]
    dsimp only
    cases htoken : c.sessionToken with
    | none => exact .plain hhost ⟨date, hdate⟩ hscope v htoken
    | some token =>
      have hrefuses : RefusesToken c ↔ HasIllegalByte token := by simp [RefusesToken, htoken]
      dsimp only
      by_cases hbyte : HasIllegalByte token
      · rw [Headers.write_of_hasIllegalByte hbyte]
        exact .token hhost ⟨date, hdate⟩ hscope v (hrefuses.2 hbyte)
      · obtain ⟨w, hw⟩ :=
          ((prepared h p now).insert .authorization v).exists_write_eq hbyte .xSecurityToken
        rw [hw]
        exact .withToken hhost ⟨date, hdate⟩ hscope v w (mt hrefuses.1 hbyte)

/-- **Every run ends in one of these ways.** -/
theorem ending_sign (hd : h.contains .xDate = true) : Ending h p c now (sign h p c now) := by
  have hfinish := @ending_finish h p c now hd
  have hresult := prepare_result h p now
  unfold sign
  unfold prepared at hfinish
  dsimp only
  generalize hg : prepare h now p.host (sha256Hex p.body) = filled at hfinish hresult ⊢
  obtain ⟨g, result⟩ := filled
  rcases hresult with ⟨hhost, rfl⟩ | ⟨hhost, rfl⟩
  · have hprepared : prepared h p now = g := by rw [prepared, hg]
    exact hprepared ▸ .host hhost
  · exact hfinish hhost

/-! ### What a run reports and keeps -/

namespace Ending

variable {run : Headers × Except SigningError Unit}

/-- The first thing that cannot be used is reported. -/
theorem result_eq (he : Ending h p c now run) : run.2 = verdict h p c := by
  cases he with
  | host hhost => rw [verdict, if_pos hhost]
  | date hhost hdate => rw [verdict, if_neg hhost, if_pos hdate]
  | scope hhost hdate hscope =>
    rw [verdict, if_neg hhost, if_neg (not_not.2 hdate), if_pos hscope]
  | token hhost hdate hscope v htoken =>
    rw [verdict, if_neg hhost, if_neg (not_not.2 hdate), if_neg hscope, if_pos htoken]
  | plain hhost hdate hscope v htoken =>
    have hnone : ¬ RefusesToken c := by simp [RefusesToken, htoken]
    rw [verdict, if_neg hhost, if_neg (not_not.2 hdate), if_neg hscope, if_neg hnone]
  | withToken hhost hdate hscope v w htoken =>
    rw [verdict, if_neg hhost, if_neg (not_not.2 hdate), if_neg hscope, if_neg htoken]

/-- Beside `authorization` and the token, the header that is left is the prepared one. -/
theorem values_eq (he : Ending h p c now run) {n : HeaderName} (ha : n ≠ .authorization)
    (ht : n ≠ .xSecurityToken) : run.1.values n = (prepared h p now).values n := by
  cases he with
  | host | date | scope => rfl
  | token | plain => exact Headers.values_insert_of_ne _ _ ha
  | withToken => rw [Headers.values_insert_of_ne _ _ ht, Headers.values_insert_of_ne _ _ ha]

/-- A token is written last. -/
theorem values_xSecurityToken (he : Ending h p c now run) (hfail : run.2 ≠ .ok ()) :
    run.1.values .xSecurityToken = (prepared h p now).values .xSecurityToken := by
  cases he with
  | host | date | scope => rfl
  | token => exact Headers.values_insert_of_ne _ _ (by decide)
  | plain | withToken => exact absurd rfl hfail

/-- Nothing but the token can fail after `authorization` is written. -/
theorem values_authorization (he : Ending h p c now run) {e : SigningError}
    (hfail : run.2 = .error e) (ht : e ≠ .invalidValue .xSecurityToken) :
    run.1.values .authorization = (prepared h p now).values .authorization := by
  cases he with
  | host | date | scope => rfl
  | token => exact absurd (Except.error.inj hfail).symm ht
  | plain | withToken => cases hfail

theorem keeps (he : Ending h p c now run) (hd : h.contains .xDate = true) : Keeps h run where
  others n hn := by
    simp only [List.mem_cons, List.not_mem_nil, or_false, not_or] at hn
    obtain ⟨htype, hdigest, hhost, hauthorization, htoken⟩ := hn
    rw [he.values_eq hauthorization htoken]
    by_cases hdate : n = .xDate
    · rw [hdate, values_prepared_xDate hd]
    · exact values_prepared_of_ne (by simp [preparedNames, htype, hdate, hdigest, hhost])
  filled n hn hf := by
    simp only [List.mem_cons, List.not_mem_nil, or_false] at hn
    rcases hn with rfl | rfl
    · rw [he.values_eq (by decide) (by decide), values_prepared_contentType, if_pos hf]
    · rw [he.values_eq (by decide) (by decide), values_prepared_host hf]
  token hfail := by
    rw [he.values_xSecurityToken hfail, values_prepared_of_ne (by decide)]
  authorization e hfail ht := by
    rw [he.values_authorization hfail ht, values_prepared_of_ne (by decide)]

end Ending

end Steps

/-- **Errors and effects of signing a header with a date**: the first thing that cannot be used
is reported, and if there is none, signing succeeds; and in every case the header keeps what it
does not have to give up. -/
theorem sign_verdict_and_keeps {h : Headers} (hd : h.contains .xDate = true) (p : Parts)
    (c : Credential) (now : String) :
    (sign h p c now).2 = verdict h p c ∧ Keeps h (sign h p c now) :=
  ⟨(ending_sign hd).result_eq, (ending_sign hd).keeps hd⟩

/-- The eighth byte of this date, as it is decoded, stands inside a character: the ill-formed
byte is read as one of three bytes. -/
theorem sign_badTimestamp :
    let h : Headers := ⟨[(.accept, ⟨utf8 "*/*", by decide⟩),
      (.xDate, ⟨utf8 "2024010" ++ 0xC3 :: utf8 "T030405Z", by decide⟩),
      (.authorization, ⟨utf8 "old", by decide⟩)]⟩
    let p : Parts := ⟨"GET", "h", "/", [], []⟩
    let c : Credential := ⟨"A\nK", "SK", "r", "s", none⟩
    (sign h p c "").2 = .error .badTimestamp ∧ Keeps h (sign h p c "") := by
  intro h p c
  obtain ⟨hresult, hkeeps⟩ := sign_verdict_and_keeps (h := h) (by decide) p c ""
  have hverdict : verdict h p c = .error .badTimestamp := by decide +kernel
  exact ⟨hresult.trans hverdict, hkeeps⟩

end Keyed

end Courier
