import Courier.Proofs.Call.Fields
import Courier.Proofs.Gzip.Member

/-!
# Compressed bodies of calls

The body of a request is compressed, and a reply may be. **Compression loses nothing**
(`Courier.gunzip?_gzip_append_and_decodeBody_gzip`):

| what is read | what it gives |
|---|---|
| what was written in the format, whatever follows it | the data, if checksum and length are theirs |
| what does not begin with a compressed body | nothing |

The first line is about everyone who writes compressed bodies, whichever way. One may divide the
data, use codes of one's own and repeat what one likes, and need not write the header that is
written here; the data are found as long as the format is kept (`Courier.Gzip.IsMember`). That
`gzip`, which divides the data into blocks and writes these as they are, keeps to it is one case.
-/

namespace Courier

/-- A body with the coding `gzip`, in any case and with white space around it, is read by
`gunzip?`. -/
theorem decodeBody_eq_ok_iff {coding : String} (hcoding : lowercase (trim coding) = "gzip")
    {body data : Bytes} : decodeBody (some coding) body = .ok data ↔ gunzip? body = some data := by
  unfold decodeBody
  rw [Option.getD_some, hcoding, if_pos rfl]
  cases gunzip? body with
  | none => simp
  | some found => simp

/-- A compressed body is read, whatever follows it. -/
theorem gunzip?_append {member data : Bytes} (hmember : Gzip.IsMember member data) (rest : Bytes) :
    gunzip? (member ++ rest) = some data :=
  gunzip?_eq_some_iff.2 ⟨member, rest, rfl, hmember⟩

theorem decodeBody_of_isMember {coding : String} (hcoding : lowercase (trim coding) = "gzip")
    {member data : Bytes} (hmember : Gzip.IsMember member data) :
    decodeBody (some coding) member = .ok data := by
  have hread := gunzip?_append hmember []
  rw [List.append_nil] at hread
  exact (decodeBody_eq_ok_iff hcoding).2 hread

namespace Caller

/-- **What a call sends decodes to its body**: every request that it sends, with a coding. -/
def SendsCoded {β : Type} (coding : String) (body : Bytes) (p : Playback)
    (call : OnScript (CallReport β)) : Prop :=
  ∃ p' sent r, call.run p = pure (r, p') ∧ p'.sent = p.sent ++ sent ∧
    ∀ request ∈ sent, decodeBody (some coding) request.body = .ok body

variable {coding : String} (hcoding : lowercase (trim coding) = "gzip")
  (c : Caller) (o : CallOptions) (address contentType : String) (body : Bytes) (p : Playback)
include hcoding

/-- A request that is sent has a body that decodes to that of the call. -/
theorem decodeBody_signed {fresh : String} {q : Prepared}
    (hq : c.prepare o address contentType fresh body = .ok q) {r : Request} {now : Nat}
    {nonceId : String} (hr : c.authentication.signAt q.request now nonceId = (r, .ok ())) :
    ∀ request ∈ [r], decodeBody (some coding) request.body = .ok body := by
  intro request hrequest
  rw [(describes_signed hq hr request hrequest).2]
  exact decodeBody_of_isMember hcoding (Gzip.isMember_gzip body)

theorem sendsCoded_callBytes :
    SendsCoded coding body p (c.callBytes o address contentType body) :=
  c.exists_run_callBytes o address contentType body p (fun e _ _ => by rintro _ ⟨⟩)
    fun q r now ⟨hq, hr⟩ => c.decodeBody_signed hcoding o address contentType body hq hr

theorem sendsCoded_callReading {β : Type} (read : Bytes → Except String β) :
    SendsCoded coding body p (c.callReading read o address (.ok body)) :=
  c.exists_run_callReading o address body read p (fun e _ _ => by rintro _ ⟨⟩)
    fun q r now now' ⟨hq, hr⟩ => c.decodeBody_signed hcoding o address jsonType body hq hr

end Caller

/-- **Compression loses nothing.** What is written in the format is read again, whatever follows it,
and as a body with the coding `gzip` it decodes to the data; this holds of what `gzip` writes. What
is read begins with a compressed body of the data, with their checksum and length, and every such
body is read. All that a call sends decodes to the body of the call. -/
theorem gunzip?_gzip_append_and_decodeBody_gzip (data : Bytes) {coding : String}
    (hcoding : lowercase (trim coding) = "gzip") :
    (∀ encode : Bytes → Bytes, Gzip.IsMember (encode data) data →
      (∀ rest, gunzip? (encode data ++ rest) = some data) ∧
        decodeBody (some coding) (encode data) = .ok data) ∧
      Gzip.IsMember (gzip data) data ∧
      (∀ rest, gunzip? (gzip data ++ rest) = some data) ∧
      (∀ body, gunzip? body = some data ↔
        ∃ member rest, body = member ++ rest ∧ Gzip.IsMember member data) ∧
      decodeBody (some coding) (gzip data) = .ok data ∧
      (∀ (c : Caller) (o : CallOptions) (address contentType : String) (p : Playback),
        Caller.SendsCoded coding data p (c.callBytes o address contentType data)) ∧
      ∀ (c : Caller) {β : Type} (read : Bytes → Except String β) (o : CallOptions)
        (address : String) (p : Playback),
        Caller.SendsCoded coding data p (c.callReading read o address (.ok data)) :=
  ⟨fun _ hmember => ⟨gunzip?_append hmember, decodeBody_of_isMember hcoding hmember⟩,
    Gzip.isMember_gzip data, gunzip?_append (Gzip.isMember_gzip data),
    fun _ => gunzip?_eq_some_iff, decodeBody_of_isMember hcoding (Gzip.isMember_gzip data),
    fun c o address contentType p => c.sendsCoded_callBytes hcoding o address contentType data p,
    fun c _ read o address p => c.sendsCoded_callReading hcoding o address data p read⟩

/-- The name of the coding may be written in capitals, and with blanks around it. -/
theorem decodeBody_gzip_capitals :
    lowercase (trim " GZIP ") = "gzip" ∧
      decodeBody (some " GZIP ") (gzip (utf8 "pong")) = .ok (utf8 "pong") := by
  have hcoding : lowercase (trim " GZIP ") = "gzip" := by decide
  exact ⟨hcoding, (gunzip?_gzip_append_and_decodeBody_gzip (utf8 "pong") hcoding).2.2.2.2.1⟩

end Courier
