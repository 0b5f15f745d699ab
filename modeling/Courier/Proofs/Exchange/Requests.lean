import Courier.Exchange.Basic

/-!
# Requests as they go to an address

What is known of a request is where it goes, by which method and with how much time
(`Courier.Request.GoesTo`). It does not matter how it was made. Of a text a request is made
exactly if the text is an address with a host:

| the text | the request |
|---|---|
| an address with a host | goes to it (`Courier.Request.exists_to?`) |
| an address without a host, or none | there is none (`Courier.Request.to?_eq_none_of`) |

Of what comes of a request the status is there as soon as the header of the reply was read,
whatever becomes of the body (`Courier.Outcome.statusCode?`).
-/

namespace Courier

/-- The status of a reply, if there is one. -/
def Outcome.statusCode? : Outcome → Option Nat
  | .reply r => some r.status
  | .cut status _ _ => some status
  | .failed _ => none

namespace Request

/-- **A request that goes to an address**, by a method and with so much time. It goes without the
user of the address if the header names the user instead. -/
structure GoesTo (r : Request) (verb : String) (u : Url) (timeout : Nat) : Prop where
  method : r.method = verb
  url : r.url = u ∨ r.url = { u with username := "", password := "" }
  timeout : r.timeout = timeout

/-- The user is all that is missing. -/
theorem GoesTo.eq_of_user {r : Request} {verb : String} {u : Url} {timeout : Nat}
    (h : r.GoesTo verb u timeout) :
    { r.url with username := u.username, password := u.password } = u := by
  rcases h.url with hurl | hurl <;> rw [hurl]

/-- The host is not part of the user. -/
theorem GoesTo.hostText? {r : Request} {verb : String} {u : Url} {timeout : Nat}
    (h : r.GoesTo verb u timeout) : r.url.hostText? = u.hostText? := by
  rcases h.url with hurl | hurl
  · rw [hurl]
  · rw [hurl]
    rfl

/-- **A request is made** for the text of an address with a host. It goes there, its body is
empty, and its header has no field but the one that names the user. -/
theorem exists_to? {address : String} {u : Url} (hparse : Url.parse address = .ok u)
    (hhost : u.hostText? ≠ none) (verb : String) (timeout : Nat) :
    ∃ r, to? verb address timeout = some r ∧ r.GoesTo verb u timeout ∧ r.body = []
      ∧ ∀ n, n ≠ .authorization → r.headers.values n = [] := by
  have hsome : ¬u.hostText?.isNone = true := by rwa [Option.isNone_iff_eq_none]
  simp only [to?, hparse]
  rw [if_neg hsome]
  cases userField? u with
  | none => exact ⟨_, rfl, ⟨rfl, .inl rfl, rfl⟩, rfl, fun n _ => rfl⟩
  | some v =>
    refine ⟨_, rfl, ⟨rfl, .inr rfl, rfl⟩, rfl, fun n hn => ?_⟩
    simp [Headers.values, Headers.append, Headers.empty, Ne.symm hn]

/-- There is no request to what is no address with a host. -/
theorem to?_eq_none_of {address : String}
    (h : ∀ u, Url.parse address = .ok u → u.hostText? = none) (verb : String) (timeout : Nat) :
    to? verb address timeout = none := by
  cases hparse : Url.parse address with
  | error e => simp only [to?, hparse]
  | ok u =>
    simp only [to?, hparse]
    rw [if_pos (Option.isNone_iff_eq_none.2 (h u hparse))]

end Request

end Courier
