import Courier.Proofs.Call.Fields
import Courier.Proofs.Signing.Refusal
import Courier.Proofs.Sorted
import Mathlib.Data.Prod.Lex
import Mathlib.Data.String.Basic

/-!
# Which entry of a header counts

The header of a call is made of a list of entries (`Courier.CallFields.entries`): the standard
ones, those of the settings in ascending order, and those of the options in the order in which
they were given. Three rules settle what comes of any such list that is not too long
(`Courier.CallFields.headers?_of_entries`):

* a header is made exactly if **every** entry is legal (`Courier.IsLegal`), the ones that do not
  count in the end included;
* its names are those of the entries, in whatever case they were given, and each has one value,
  that of **the last** entry of the name (`Courier.Headers.IsMadeOf`);
* otherwise **the first** entry that is not legal is reported, and of that entry the name rather
  than the value (`Courier.CallFields.complaint`).

The settings keep their entries in a table, which a program may well list in another order.
Sorting by name and value gives the same list each time (`Courier.Table.sortedBy_eq_entries`),
so this order decides neither which entry counts nor which one is reported.

For a list of more than 24576 entries there is no room, whatever the entries are, and the call
breaks off (`Courier.CallFields.headers?_eq_none_of_crowded`).
-/

namespace Courier

/-! ### Entries that can be written -/

/-- A text that can be the name of a field, in upper or lower case. -/
structure IsToken (s : String) : Prop where
  nonempty : s ≠ ""
  length : s.toList.length ≤ 65535
  chars : ∀ c ∈ s.toList, isTokenChar c = true

/-- A letter is a character of a token in both cases, and is written in lower case. -/
theorem isTokenChar_toLower (c : Char) :
    (isTokenChar c.toLower && !c.toLower.isUpper) = isTokenChar c := by
  have hletters : ∀ n < 91, 65 ≤ n → isTokenChar (Char.ofNat n) = true ∧
      (isTokenChar (Char.ofNat n).toLower && !(Char.ofNat n).toLower.isUpper) = true := by
    decide
  by_cases hupper : c.isUpper = true
  · have hbounds : 65 ≤ c.toNat ∧ c.toNat ≤ 90 := of_decide_eq_true hupper
    obtain ⟨htoken, hlower⟩ := hletters c.toNat (by omega) hbounds.1
    rw [Char.ofNat_toNat] at htoken hlower
    rw [htoken, hlower]
  · rw [Bool.not_eq_true] at hupper
    have hsame : c.toLower = c := dif_neg fun h => of_decide_eq_false hupper h
    rw [hsame, hupper, Bool.not_false, Bool.and_true]

theorem isFieldName_lowercase_iff {s : String} : isFieldName (lowercase s) = true ↔ IsToken s := by
  have hchars : (lowercase s).toList = s.toList.map Char.toLower := String.toList_ofList
  simp only [isFieldName, hchars, List.isEmpty_map, List.length_map, List.all_map,
    Function.comp_def, isTokenChar_toLower, Bool.and_eq_true, Bool.not_eq_true',
    List.isEmpty_eq_false_iff, decide_eq_true_eq, List.all_eq_true]
  constructor
  · rintro ⟨⟨hne, hlength⟩, hall⟩
    exact ⟨fun he => hne (by rw [he]; rfl), hlength, hall⟩
  · rintro ⟨hne, hlength, hall⟩
    exact ⟨⟨fun he => hne (String.toList_eq_nil_iff.1 he), hlength⟩, hall⟩

namespace HeaderName

/-- A text spells the name that it is in lower case. -/
theorem ofText?_eq_some_iff {s : String} {n : HeaderName} :
    ofText? s = some n ↔ lowercase s = n.text := by
  unfold ofText?
  split
  · rw [Option.some.injEq]
    exact ⟨fun he => he ▸ rfl, fun he => ext he⟩
  · rename_i hnot
    constructor
    · intro he
      cases he
    · intro he
      exact absurd n.legal (he ▸ hnot)

theorem isSome_ofText?_iff {s : String} : (ofText? s).isSome = true ↔ IsToken s := by
  rw [← isFieldName_lowercase_iff]
  unfold ofText?
  split <;> simp [*]

end HeaderName

instance (s : String) : Decidable (IsToken s) := decidable_of_iff _ HeaderName.isSome_ofText?_iff

/-- An entry whose name and whose value can be written. -/
def IsLegal (e : String × String) : Prop := IsToken e.1 ∧ ¬HasIllegalByte e.2
deriving Decidable

theorem isLegal_iff {e : String × String} :
    IsLegal e ↔
      (HeaderName.ofText? e.1).isSome = true ∧ (HeaderValue.ofText? e.2).isSome = true := by
  rw [IsLegal, HeaderName.isSome_ofText?_iff, hasIllegalByte_iff, Bool.not_eq_false,
    ← HeaderValue.exists_ofText?_eq_some_iff, Option.isSome_iff_exists]

/-! ### What entries make of a header -/

/-- **A header that is made of entries**: it has their names, and each name has one value, that
of the last entry of the name. -/
structure Headers.IsMadeOf (h : Headers) (l : List (String × String)) : Prop where
  mem_names : ∀ n, n ∈ h.names ↔ ∃ e ∈ l, lowercase e.1 = n.text
  last : ∀ before e later n, l = before ++ e :: later → lowercase e.1 = n.text →
    (∀ e' ∈ later, lowercase e'.1 ≠ n.text) → h.Says n e.2

/-- An entry counts if none of its name follows. -/
theorem lastNamed?_append_cons {n : HeaderName} {e : String × String}
    {before later : List (String × String)} (he : HeaderName.ofText? e.1 = some n)
    (hlater : ∀ e' ∈ later, HeaderName.ofText? e'.1 ≠ some n) :
    lastNamed? n (before ++ e :: later) = some e.2 := by
  have hone : lastNamed? n [e] = some e.2 := by simp [lastNamed?, he]
  rw [lastNamed?_append, ← List.singleton_append, lastNamed?_append,
    lastNamed?_eq_none_iff.2 hlater, hone]
  rfl

namespace CallFields

theorem isMadeOf_of_insertAll {h : Headers} {l : List (String × String)}
    (hl : insertAll .empty l = .ok h) : h.IsMadeOf l where
  mem_names n := by
    have hvalues := values_insertAll hl n
    simp only [← HeaderName.ofText?_eq_some_iff]
    rw [Headers.mem_names, ← not_iff_not, not_not, ← List.map_eq_nil_iff, hvalues]
    rcases hlast : lastNamed? n l with _ | s
    · simpa [Headers.values, Headers.empty] using lastNamed?_eq_none_iff.1 hlast
    · have hsome : lastNamed? n l ≠ none := by simp [hlast]
      rw [ne_eq, lastNamed?_eq_none_iff] at hsome
      simpa using hsome
  last := by
    rintro before e later n rfl he hlater
    rw [← HeaderName.ofText?_eq_some_iff] at he
    simp only [ne_eq, ← HeaderName.ofText?_eq_some_iff] at hlater
    rw [Headers.Says, values_insertAll hl, lastNamed?_append_cons he hlater]

/-- What is said of an entry that is not legal. -/
def complaint (e : String × String) : String :=
  if IsToken e.1 then "invalid header value '" ++ e.1 ++ "'"
  else "invalid header name '" ++ e.1 ++ "'"

/-- Entries are put in one after the other. -/
theorem insertAll_append (h : Headers) (l l' : List (String × String)) :
    insertAll h (l ++ l') = (insertAll h l).bind fun h' => insertAll h' l' := by
  induction l generalizing h with
  | nil => rfl
  | cons e rest ih =>
    obtain ⟨name, value⟩ := e
    simp only [List.cons_append, insertAll]
    rcases HeaderName.ofText? name with _ | n
    · rfl
    · rcases HeaderValue.ofText? value with _ | v
      · rfl
      · exact ih _

theorem insertAll_cons_of_not_isLegal {e : String × String} (he : ¬IsLegal e) (h : Headers)
    (later : List (String × String)) : insertAll h (e :: later) = .error (complaint e) := by
  unfold insertAll complaint
  rw [isLegal_iff] at he
  rcases hname : HeaderName.ofText? e.1 with _ | n
  · have hnot : ¬IsToken e.1 := by rw [← HeaderName.isSome_ofText?_iff, hname]; simp
    rw [if_neg hnot]
  · have htoken : IsToken e.1 := by rw [← HeaderName.isSome_ofText?_iff, hname]; rfl
    rcases hvalue : HeaderValue.ofText? e.2 with _ | v
    · rw [if_pos htoken]
    · exact absurd ⟨by rw [hname]; rfl, by rw [hvalue]; rfl⟩ he

/-- **The first entry that is not legal is reported.** -/
theorem insertAll_eq_error {before later : List (String × String)} {e : String × String}
    (hbefore : ∀ e' ∈ before, IsLegal e') (he : ¬IsLegal e) (h : Headers) :
    insertAll h (before ++ e :: later) = .error (complaint e) := by
  obtain ⟨h', hh'⟩ := (exists_insertAll_iff (h := h)).2 fun e' he' => isLegal_iff.1 (hbefore e' he')
  rw [insertAll_append, hh']
  exact insertAll_cons_of_not_isLegal he h' later

end CallFields

/-! ### The order of the settings -/

/-- **The entries of a table, met in any order**, come out the same when they are sorted by name
and value. -/
theorem Table.sortedBy_eq_entries {t : Table String} {given : List (String × String)}
    (hgiven : given.Perm t.entries) : sortedBy toLex given = t.entries := by
  refine ((sortedBy_perm toLex given).trans hgiven).eq_of_pairwise (fun a b _ _ hab hba => ?_)
    (pairwise_sortedBy toLex given)
    (t.ascending.imp fun hlt => Prod.Lex.toLex_le_toLex.2 (.inl hlt))
  exact toLex.injective (le_antisymm hab hba)

/-! ### The header of a call -/

namespace CallFields

theorem length_entries (f : CallFields) (o : CallOptions) (contentType id : String) :
    (f.entries o contentType id).length = (f.entries o "" "").length := by
  simp [entries]

theorem headers?_eq_none_iff {f : CallFields} {o : CallOptions}
    {address contentType fresh : String} (id : String) :
    f.headers? o address contentType fresh = none ↔
      24576 < (f.entries o contentType id).length := by
  rw [headers?, hasRoom, length_entries f o contentType id, Headers.room]
  simp

theorem headers?_of_le {f : CallFields} {o : CallOptions} {address contentType fresh : String}
    (id : String) (h : (f.entries o contentType id).length ≤ 24576) :
    f.headers? o address contentType fresh = some (f.headers o address contentType fresh) := by
  rw [length_entries] at h
  exact if_pos (decide_eq_true h)

/-- A header is made exactly if all entries are legal, and then of these. -/
theorem exists_headers_eq_ok_iff {f : CallFields} {o : CallOptions}
    {address contentType fresh : String} :
    (∃ r, f.headers o address contentType fresh = .ok r) ↔
      ∀ e ∈ f.entries o contentType (requestId o fresh), IsLegal e := by
  have hlegal : (∃ h, f.headers o address contentType fresh = .ok (h, requestId o fresh)) ↔ _ :=
    exists_headers_iff
  simp only [isLegal_iff, ← hlegal]
  constructor
  · rintro ⟨⟨h, id⟩, hh⟩
    obtain ⟨rfl, -⟩ := headers_eq_ok_iff.1 hh
    exact ⟨h, hh⟩
  · rintro ⟨h, hh⟩
    exact ⟨_, hh⟩

theorem headers_eq_error {f : CallFields} {o : CallOptions} {address contentType fresh : String}
    {before later : List (String × String)} {e : String × String}
    (hl : f.entries o contentType (requestId o fresh) = before ++ e :: later)
    (hbefore : ∀ e' ∈ before, IsLegal e') (he : ¬IsLegal e) :
    f.headers o address contentType fresh = .error (.invalidRequest address (complaint e)) := by
  unfold headers
  dsimp only
  rw [hl, insertAll_eq_error hbefore he .empty]

/-- The entries of a call for some settings, whose own entries are met in any order. -/
theorem entries_ofSettings (s : Settings) (o : CallOptions) (contentType id : String)
    {given : List (String × String)} (hgiven : given.Perm s.headers.entries) :
    (ofSettings s).entries o contentType id =
      [("Content-Encoding", "gzip"), ("Accept-Encoding", "gzip"), ("Content-Type", contentType),
        ("Accept", contentType), ("Tenant-Id", s.tenantId), ("Request-Id", id)]
      ++ (s.projectId.filter (· ≠ "")).toList.map (("Project-Id", ·))
      ++ (s.hostHeader.filter (· ≠ "")).toList.map (("Host", ·))
      ++ o.serverTimeout.toList.map (fun t => ("Timeout-Millis", toString (t / 1000)))
      ++ sortedBy toLex given ++ o.headers := by
  have hproject : onlyIf ((ofSettings s).projectId ≠ "") "Project-Id" (ofSettings s).projectId
      = (s.projectId.filter (· ≠ "")).toList.map (("Project-Id", ·)) := by
    unfold onlyIf ofSettings
    cases s.projectId with
    | none => rfl
    | some id => by_cases hid : id = "" <;> simp [Option.filter_some, hid]
  rw [entries, hproject, Table.sortedBy_eq_entries hgiven]
  rfl

/-- Of two entries that cannot be written, the first is reported, and of that the name. -/
example :
    (ofSettings { headers := Table.ofList [("b", "\n"), ("a b", "\n")] }).headers
        { headers := [("é", "v")] } "https://h/p" "text/plain" "id"
      = .error (.invalidRequest "https://h/p" "invalid header name 'a b'") := by
  decide +kernel

end CallFields

end Courier
