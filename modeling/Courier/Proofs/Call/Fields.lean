import Courier.Proofs.Call.Execution
import Courier.Proofs.Signing.Frame

/-!
# What the header of a call says

A header is made of entries put in one after the other, so **the last entry of a name
counts** (`Courier.CallFields.values_insertAll`). The entries that every call has come first.
What one of them says therefore stands only if neither the settings nor the options have an
entry of that name (`Courier.lastNamed?`).

This matters for two fields that speak about the rest of the call
(`Courier.Headers.Describes`):

| field | without an entry | what it speaks about |
|---|---|---|
| `request-id` | the identifier of the request | the log lines of the call |
| `content-encoding` | `gzip` | the body |

An entry changes what the field says and nothing else: the lines go on under the identifier,
and the body is compressed all the same (`Courier.Caller.describes_of_headers`).
-/

namespace Courier

/-! ### The last entry of a name -/

/-- The value that the last entry of a name gives. -/
def lastNamed? (n : HeaderName) (l : List (String × String)) : Option String :=
  (l.filter fun e => HeaderName.ofText? e.1 = some n).getLast?.map (·.2)

theorem lastNamed?_append (n : HeaderName) (l l' : List (String × String)) :
    lastNamed? n (l ++ l') = (lastNamed? n l').or (lastNamed? n l) := by
  rw [lastNamed?, List.filter_append, List.getLast?_append, Option.map_or]
  rfl

theorem lastNamed?_eq_none_iff {n : HeaderName} {l : List (String × String)} :
    lastNamed? n l = none ↔ ∀ e ∈ l, HeaderName.ofText? e.1 ≠ some n := by
  simp [lastNamed?]

/-- Entries of another name do not count. -/
theorem lastNamed?_map_of_ne {n : HeaderName} {name : String}
    (hname : HeaderName.ofText? name ≠ some n) {α : Type} (l : List α) (value : α → String) :
    lastNamed? n (l.map fun x => (name, value x)) = none := by
  refine lastNamed?_eq_none_iff.2 fun e he => ?_
  obtain ⟨x, -, rfl⟩ := List.mem_map.1 he
  exact hname

/-- A name has one value, and that is a text. -/
def Headers.Says (h : Headers) (n : HeaderName) (s : String) : Prop :=
  (h.values n).map HeaderValue.bytes = [utf8 s]

namespace CallFields

/-- **The last entry of a name counts**. A name without an entry keeps its values. -/
theorem values_insertAll {h h' : Headers} {l : List (String × String)}
    (hl : insertAll h l = .ok h') (n : HeaderName) :
    (h'.values n).map HeaderValue.bytes
      = match lastNamed? n l with
        | some s => [utf8 s]
        | none => (h.values n).map HeaderValue.bytes := by
  induction l generalizing h with
  | nil =>
    obtain rfl : h = h' := Except.ok.inj hl
    rfl
  | cons e rest ih =>
    obtain ⟨name, value⟩ := e
    unfold insertAll at hl
    cases hname : HeaderName.ofText? name with
    | none => simp [hname] at hl
    | some m =>
      cases hvalue : HeaderValue.ofText? value with
      | none => simp [hname, hvalue] at hl
      | some v =>
        simp only [hname, hvalue] at hl
        rw [ih hl, ← List.singleton_append, lastNamed?_append]
        cases lastNamed? n rest with
        | some s => rfl
        | none =>
          by_cases hm : m = n
          · subst hm
            simp [lastNamed?, hname, HeaderValue.ofText?_eq_some_iff.1 hvalue]
          · rw [Headers.values_insert_of_ne _ _ (Ne.symm hm)]
            simp [lastNamed?, hname, hm]

variable (f : CallFields) (o : CallOptions)

/-- **What the standard entries say stands** unless there is an entry of that name among those
of the settings and of the options. -/
theorem lastNamed?_entries {n : HeaderName} {contentType id standard : String}
    (hstandard : lastNamed? n [("Content-Encoding", "gzip"), ("Accept-Encoding", "gzip"),
      ("Content-Type", contentType), ("Accept", contentType), ("Tenant-Id", f.tenantId),
      ("Request-Id", id)] = some standard)
    (hproject : HeaderName.ofText? "Project-Id" ≠ some n)
    (hhost : HeaderName.ofText? "Host" ≠ some n)
    (htimeout : HeaderName.ofText? "Timeout-Millis" ≠ some n) :
    lastNamed? n (f.entries o contentType id)
      = some ((lastNamed? n (f.extra ++ o.headers)).getD standard) := by
  have hproject : lastNamed? n (onlyIf (f.projectId ≠ "") "Project-Id" f.projectId) = none := by
    unfold onlyIf
    split
    · exact lastNamed?_map_of_ne hproject [f.projectId] fun value => value
    · rfl
  have hhost : lastNamed? n (f.hostHeader.toList.map fun h => ("Host", h)) = none :=
    lastNamed?_map_of_ne hhost _ _
  have htimeout : lastNamed? n
      (o.serverTimeout.toList.map fun t => ("Timeout-Millis", toString (t / 1000))) = none :=
    lastNamed?_map_of_ne htimeout _ _
  unfold entries
  simp only [lastNamed?_append, hstandard, hproject, hhost, htimeout, Option.none_or]
  cases lastNamed? n o.headers with
  | some s => rfl
  | none => cases lastNamed? n f.extra <;> rfl

theorem headers_eq_ok_iff {f : CallFields} {o : CallOptions}
    {address contentType fresh id : String} {h : Headers} :
    f.headers o address contentType fresh = .ok (h, id) ↔
      id = requestId o fresh ∧ insertAll .empty (f.entries o contentType id) = .ok h := by
  unfold headers
  dsimp only
  cases hl : insertAll .empty (f.entries o contentType (requestId o fresh)) with
  | error message =>
    simp only [reduceCtorEq, false_iff, not_and]
    rintro rfl
    simp [hl]
  | ok g =>
    simp only [Except.ok.injEq, Prod.mk.injEq]
    constructor
    · rintro ⟨rfl, rfl⟩
      exact ⟨rfl, hl⟩
    · rintro ⟨rfl, hg⟩
      rw [hl] at hg
      exact ⟨Except.ok.inj hg, rfl⟩

/-- A header can be made exactly if **every** entry is legal, also one that does not count in
the end. -/
theorem exists_insertAll_iff {h : Headers} {l : List (String × String)} :
    (∃ h', insertAll h l = .ok h') ↔
      ∀ e ∈ l, (HeaderName.ofText? e.1).isSome ∧ (HeaderValue.ofText? e.2).isSome := by
  induction l generalizing h with
  | nil =>
    constructor
    · rintro - e ⟨⟩
    · rintro -
      exact ⟨h, rfl⟩
  | cons e rest ih =>
    obtain ⟨name, value⟩ := e
    rw [List.forall_mem_cons]
    unfold insertAll
    cases HeaderName.ofText? name with
    | none => simp
    | some m =>
      cases HeaderValue.ofText? value with
      | none => simp
      | some v => simpa using ih

theorem exists_headers_iff {f : CallFields} {o : CallOptions}
    {address contentType fresh : String} :
    (∃ h, f.headers o address contentType fresh = .ok (h, requestId o fresh)) ↔
      ∀ e ∈ f.entries o contentType (requestId o fresh),
        (HeaderName.ofText? e.1).isSome ∧ (HeaderValue.ofText? e.2).isSome := by
  rw [← exists_insertAll_iff (h := .empty)]
  simp only [headers_eq_ok_iff, true_and]

end CallFields

/-- **What a header says of its call**: the identifier of the request and the coding of the
body, unless there are entries of these names, and then what the last of them says. -/
structure Headers.Describes (h : Headers) (f : CallFields) (o : CallOptions) (id : String) :
    Prop where
  requestId : h.Says .requestId ((lastNamed? .requestId (f.extra ++ o.headers)).getD id)
  contentEncoding : h.Says .contentEncoding
    ((lastNamed? .contentEncoding (f.extra ++ o.headers)).getD "gzip")

namespace CallFields

/-- A header that was made describes its call. -/
theorem describes_headers {f : CallFields} {o : CallOptions}
    {address contentType fresh id : String} {h : Headers}
    (hh : f.headers o address contentType fresh = .ok (h, id)) : h.Describes f o id := by
  obtain ⟨-, hl⟩ := headers_eq_ok_iff.1 hh
  have hsays {n : HeaderName} {s : String}
      (hs : lastNamed? n (f.entries o contentType id) = some s) : h.Says n s := by
    rw [Headers.Says, values_insertAll hl, hs]
  constructor
  · refine hsays (lastNamed?_entries f o ?_ (by decide) (by decide) (by decide))
    simp +decide only [lastNamed?, List.filter_cons, List.filter_nil]
    rfl
  · refine hsays (lastNamed?_entries f o ?_ (by decide) (by decide) (by decide))
    simp +decide only [lastNamed?, List.filter_cons, List.filter_nil]
    rfl

end CallFields

/-! ### The request that is sent -/

/-- Only the two fields matter. -/
theorem Headers.Describes.congr {h h' : Headers} {f : CallFields} {o : CallOptions} {id : String}
    (hd : h.Describes f o id) (hid : h'.values .requestId = h.values .requestId)
    (hcoding : h'.values .contentEncoding = h.values .contentEncoding) :
    h'.Describes f o id where
  requestId := by
    rw [Headers.Says, hid]
    exact hd.requestId
  contentEncoding := by
    rw [Headers.Says, hcoding]
    exact hd.contentEncoding

theorem Headers.Says.contains {h : Headers} {n : HeaderName} {s : String} (hs : h.Says n s) :
    h.contains n = true := by
  refine Headers.contains_iff.2 fun hnil => ?_
  rw [Headers.Says, hnil] at hs
  cases hs

/-- A request takes over the values of the names that a header has. -/
theorem Request.values_withHeaders {r : Request} {h : Headers} {n : HeaderName}
    (hn : h.contains n = true) : (r.withHeaders h).headers.values n = h.values n := by
  have hnone : ((r.headers.fields.filter fun f => !h.contains f.1).filter (·.1 = n)) = [] := by
    refine List.filter_eq_nil_iff.2 fun e he hen => ?_
    obtain rfl : e.1 = n := of_decide_eq_true hen
    have hnot := (List.mem_filter.1 he).2
    rw [hn] at hnot
    cases hnot
  simp only [withHeaders, Headers.values, List.filter_append, hnone, List.nil_append]

namespace Caller

variable {c : Caller} {o : CallOptions}

/-- A request that was prepared is described by its header and has the compressed body. -/
theorem describes_prepare {address contentType fresh : String} {body : Bytes} {q : Prepared}
    (hq : c.prepare o address contentType fresh body = .ok q) :
    q.id = CallFields.requestId o fresh ∧ q.request.headers.Describes c.fields o q.id ∧
      q.request.body = gzip body := by
  unfold prepare at hq
  split at hq
  · cases hq
  · rename_i h id hfields
    split at hq
    · cases hq
    · dsimp only at hq
      split at hq
      · cases hq
      · obtain rfl := Except.ok.inj hq
        have hd := CallFields.describes_headers hfields
        exact ⟨(CallFields.headers_eq_ok_iff.1 hfields).1,
          hd.congr (Request.values_withHeaders hd.requestId.contains)
            (Request.values_withHeaders hd.contentEncoding.contains), rfl⟩

/-- A request that is sent is described by its header and has the compressed body. -/
theorem describes_signed {address contentType fresh : String} {body : Bytes} {q : Prepared}
    (hq : c.prepare o address contentType fresh body = .ok q) {r : Request} {now : Nat}
    {nonceId : String} (hr : c.authentication.signAt q.request now nonceId = (r, .ok ())) :
    ∀ request ∈ [r], request.headers.Describes c.fields o q.id ∧ request.body = gzip body := by
  intro request hrequest
  obtain rfl := List.mem_singleton.1 hrequest
  obtain ⟨-, hd, hbody⟩ := describes_prepare hq
  have hkept := c.authentication.body_signAt q.request now nonceId
  rw [hr] at hkept
  exact ⟨hd.congr (Authentication.values_signAt_of_ne hr (by decide))
    (Authentication.values_signAt_of_ne hr (by decide)), hkept.trans hbody⟩

/-! ### The log lines of a call -/

/-- All log lines among emissions are about one request. -/
def IsAbout (id : String) (l : List (Emission Binary64)) : Prop :=
  ∀ line, .log line ∈ l → line.id = id

theorem IsAbout.append {id : String} {l l' : List (Emission Binary64)} (h : IsAbout id l)
    (h' : IsAbout id l') : IsAbout id (l ++ l') := by
  intro line hline
  rcases List.mem_append.1 hline with hline | hline
  · exact h line hline
  · exact h' line hline

theorem isAbout_sentEmissions (url id : String) (cost now : Nat) :
    IsAbout id (c.sentEmissions url id cost now) := by
  rintro line hline
  simp only [sentEmissions, logLine, List.mem_cons, reduceCtorEq, Emission.log.injEq,
    List.not_mem_nil, or_false, false_or] at hline
  rw [hline]

theorem isAbout_countFailure_logLine (url kind id message : String) (more : List String)
    (level : LogLevel) (now : Nat) :
    IsAbout id [c.countFailure url kind more, logLine level id message now] := by
  rintro line hline
  simp only [countFailure, logLine, List.mem_cons, reduceCtorEq, Emission.log.injEq,
    List.not_mem_nil, or_false, false_or] at hline
  rw [hline]

theorem isAbout_failureEmissions (url id : String) (e : CallError) (now : Nat) :
    IsAbout id (c.failureEmissions url id e now) := by
  cases e with
  | encoding _ _ =>
    rintro line hline
    simp [failureEmissions, countFailure] at hline
  | _ => exact isAbout_countFailure_logLine _ _ _ _ _ _ _

theorem isAbout_reported (q : Prepared) (e : Exchange) (now : Nat) :
    IsAbout q.id (c.reported q e now).emissions := by
  have hsent : IsAbout q.id (c.sentEmissions q.url q.id e.cost now) :=
    isAbout_sentEmissions _ _ _ _
  unfold reported
  cases classify q.url e.corruption e.outcome with
  | ok data => exact hsent
  | error error => exact hsent.append (isAbout_failureEmissions _ _ _ _)

theorem isAbout_readReply {β : Type} (read : Bytes → Except String β) {id : String}
    {r : CallReport Bytes} (address : String) (now : Nat) (h : IsAbout id r.emissions) :
    IsAbout id (c.readReply read address id now r).emissions := by
  obtain ⟨result, emissions⟩ := r
  cases result with
  | error e => exact h
  | ok data =>
    unfold readReply
    dsimp only
    cases read data with
    | ok b => exact h
    | error reason => exact h.append (isAbout_countFailure_logLine _ _ _ _ _ _ _)

/-! ### A call on any script -/

/-- **A call is described by what it sends**: the header of a request that it sends says the
identifier of its log lines and the coding of the body, unless there are entries of these
names; and the body is the compressed one all the same. -/
def IsDescribed {β : Type} (c : Caller) (o : CallOptions) (id : String) (body : Bytes)
    (p : Playback) (call : OnScript (CallReport β)) : Prop :=
  ∃ p' sent r, call.run p = pure (r, p') ∧ p'.sent = p.sent ++ sent ∧
    (∀ request ∈ sent, request.headers.Describes c.fields o id ∧ request.body = gzip body) ∧
    IsAbout id r.emissions

variable (c o) (address contentType : String) (body : Bytes) (p : Playback)

theorem isDescribed_callBytes :
    c.IsDescribed o (CallFields.requestId o (p.script.freshId p.ids)) body p
      (c.callBytes o address contentType body) := by
  refine c.exists_run_callBytes o address contentType body p (fun e _ _ => ?_)
    fun q r now ⟨hq, hr⟩ => ?_
  · exact ⟨by rintro _ ⟨⟩, by rintro _ ⟨⟩⟩
  · rw [← (describes_prepare hq).1]
    exact ⟨describes_signed hq hr, c.isAbout_reported { q with request := r } _ now⟩

theorem isDescribed_callJson :
    c.IsDescribed o (CallFields.requestId o (p.script.freshId p.ids)) body p
      (c.callJson o address (.ok body)) := by
  refine c.exists_run_callReading o address body valueIn p (fun e _ _ => ?_)
    fun q r now now' ⟨hq, hr⟩ => ?_
  · exact ⟨by rintro _ ⟨⟩, by rintro _ ⟨⟩⟩
  · rw [← (describes_prepare hq).1]
    exact ⟨describes_signed hq hr,
      c.isAbout_readReply valueIn address now' (c.isAbout_reported { q with request := r } _ now)⟩

/-- **What the header of a call says**: the identifier under which the call is logged and the
coding that its body has, unless an entry of the settings or of the options has one of these
names. Then the header says what the last such entry says, while the log lines and the body
stay as they are. -/
theorem describes_of_headers {h : Headers} {id : String}
    (hh : c.fields.headers o address contentType (p.script.freshId p.ids) = .ok (h, id)) :
    h.Describes c.fields o id ∧
      c.IsDescribed o id body p (c.callBytes o address contentType body) ∧
      c.IsDescribed o id body p (c.callJson o address (.ok body)) := by
  obtain ⟨rfl, -⟩ := CallFields.headers_eq_ok_iff.1 hh
  exact ⟨CallFields.describes_headers hh, c.isDescribed_callBytes o address contentType body p,
    c.isDescribed_callJson o address body p⟩

/-- A caller without settings of its own. -/
def plain : Caller := ⟨⟨"tenant", "", none, []⟩, .keyed ⟨"ak", "sk", "r", "s", none⟩, 1000⟩

/-- Options with an identifier, and with entries for it and for the coding. -/
def overriding : CallOptions where
  requestId := some "req-1"
  headers := [("Request-Id", "req-2"), ("content-encoding", "identity")]

theorem exists_headers_overriding :
    ∃ h, plain.fields.headers overriding "https://h/p" "text/plain" "" = .ok (h, "req-1") :=
  CallFields.exists_headers_iff.2 (by decide)

/-- The log lines are under `req-1`, the body is compressed, and the header says neither. -/
theorem describes_of_headers_overriding : ∃ h,
    plain.fields.headers overriding "https://h/p" "text/plain" "" = .ok (h, "req-1") ∧
      h.Says .requestId "req-2" ∧ h.Says .contentEncoding "identity" ∧
      plain.IsDescribed overriding "req-1" [] (.start default)
        (plain.callBytes overriding "https://h/p" "text/plain" []) := by
  obtain ⟨h, hh⟩ := exists_headers_overriding
  obtain ⟨hd, hcall, -⟩ := plain.describes_of_headers overriding "https://h/p" "text/plain" []
    (.start default) hh
  have hid : lastNamed? .requestId (plain.fields.extra ++ overriding.headers) = some "req-2" := by
    decide
  have hcoding : lastNamed? .contentEncoding (plain.fields.extra ++ overriding.headers)
      = some "identity" := by
    decide
  refine ⟨h, hh, ?_, ?_, hcall⟩
  · have hsays := hd.requestId
    rwa [hid] at hsays
  · have hsays := hd.contentEncoding
    rwa [hcoding] at hsays

/-- So the identifier in a header need not be that of the log lines, nor its coding that of the
body. -/
theorem not_says_overriding : ∃ h,
    plain.fields.headers overriding "https://h/p" "text/plain" "" = .ok (h, "req-1") ∧
      ¬h.Says .requestId "req-1" ∧ ¬h.Says .contentEncoding "gzip" := by
  obtain ⟨h, hh⟩ := exists_headers_overriding
  obtain ⟨hid, hcoding⟩ := CallFields.describes_headers hh
  refine ⟨h, hh, fun hsays => ?_, fun hsays => ?_⟩
  · exact absurd (hid.symm.trans hsays) (by decide)
  · exact absurd (hcoding.symm.trans hsays) (by decide)

end Caller

end Courier
