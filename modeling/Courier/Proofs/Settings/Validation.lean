import Courier.Settings.File
import Mathlib.Data.List.DropRight
import Mathlib.Data.List.TakeWhile

/-!
# What valid settings promise

Settings are checked by a list of rules, each of which says what is wrong. Everything else
wants to know the contrary: that there is a host, that a token is not blank, that an interval
is not zero. This file turns the one into the other, once for all rules:
`Courier.Settings.IsSound` has a field for each of them, and settings are valid **exactly if**
they are sound (`Courier.Settings.isValid_iff_isSound`).

To be blank is meant as it is checked, by the characters of a text; what is left of a text
when it is trimmed says the same (`Courier.isBlank_iff`), and that is how the fields put it.
-/

namespace Courier

/-! ### Blank texts -/

/-- **A text is blank exactly if nothing is left of it** when it is trimmed. -/
theorem isBlank_iff {s : String} : isBlank s = true ↔ trim s = "" := by
  have hnil : trim s = "" ↔ Blank.trimChars s.toList = [] := by
    rw [trim, ← String.toList_inj, String.toList_ofList]
    rfl
  have htrim : Blank.trimChars s.toList
      = (s.toList.dropWhile Blank.isBlankChar).rdropWhile Blank.isBlankChar := rfl
  rw [hnil, htrim, List.rdropWhile_eq_nil_iff, isBlank, List.all_eq_true]
  constructor
  · intro h c hc
    exact h c ((List.dropWhile_suffix _).subset hc)
  · intro h
    -- what is left begins with a character that is no white space, so nothing is left
    have hdrop : s.toList.dropWhile Blank.isBlankChar = [] := by
      by_contra hne
      have hhead := h _ (List.head_mem hne)
      rw [List.head_dropWhile_not Blank.isBlankChar _] at hhead
      cases hhead
    exact List.dropWhile_eq_nil_iff.1 hdrop

theorem isBlank_eq_false_iff {s : String} : isBlank s = false ↔ trim s ≠ "" := by
  rw [← Bool.not_eq_true, isBlank_iff]

@[simp] theorem trim_empty : trim "" = "" := rfl

/-- A text that may be absent is neither absent nor blank exactly if something is left of it. -/
theorem isBlankOption_eq_false_iff {o : Option String} :
    isBlankOption o = false ↔ trim (o.getD "") ≠ "" := by
  cases o with
  | none => simp [isBlankOption]
  | some s => exact isBlank_eq_false_iff

theorem isGivenBlank_eq_false_iff {o : Option String} :
    isGivenBlank o = false ↔ ∀ s ∈ o, trim s ≠ "" := by
  cases o with
  | none => simp [isGivenBlank]
  | some s => simpa [isGivenBlank] using isBlank_eq_false_iff

namespace Settings

/-! ### The rules -/

/-- **What valid settings promise**, one field for each rule, in the order of the rules. -/
structure IsSound (s : Settings) : Prop where
  tenant : trim s.tenantId ≠ ""
  token : s.auth.useAirAuth = true → trim (s.auth.airAuthToken.getD "") ≠ ""
  keys : s.auth.useAirAuth = false →
    trim (s.auth.accessKey.getD "") ≠ "" ∧ trim (s.auth.secretKey.getD "") ≠ ""
  region : trim s.region ≠ ""
  hosts_ne_nil : s.resolvedHosts ≠ []
  host_ne_blank : ∀ host ∈ s.resolvedHosts, trim host ≠ ""
  hostHeader : ∀ name ∈ s.hostHeader, trim name ≠ ""
  schema : s.schema = "http" ∨ s.schema = "https"
  project : ∀ id ∈ s.projectId, trim id ≠ ""
  windowSize : 0 < s.availability.windowSize
  scoreInterval : 0 < s.availability.scoreIntervalMs
  fetchInterval : 0 < s.availability.fetchIntervalSecs
  pingTimeout : 0 < s.availability.pingTimeoutMs
  threshold : isShare s.availability.failureRateThreshold = true
  pingPath : startsWith s.availability.pingPath "/" = true
  pingInterval : s.keepAlive = true → 0 < s.caller.pingIntervalSecs
  queueCapacity : 0 < s.metrics.queueCapacity
  batchSize : 0 < s.metrics.batchSize

/-- Settings are valid if what no rule says is wrong. -/
theorem isValid_iff_forall_rules (s : Settings) :
    s.isValid = true ↔ ∀ r ∈ s.rules, r.2.2 = false := by
  rw [isValid, issues, List.isEmpty_iff, List.filterMap_eq_nil_iff]
  refine forall₂_congr fun r _ => ?_
  cases r.2.2 <;> simp

/-- **Settings are valid exactly if they are sound.** -/
theorem isValid_iff_isSound (s : Settings) : s.isValid = true ↔ s.IsSound := by
  rw [isValid_iff_forall_rules]
  simp only [rules, List.forall_mem_cons, List.not_mem_nil, false_imp_iff, implies_true, and_true,
    Bool.and_eq_false_imp, Bool.or_eq_false_iff, Bool.not_eq_true', Bool.not_eq_false',
    isBlank_eq_false_iff, isBlankOption_eq_false_iff, isGivenBlank_eq_false_iff,
    List.isEmpty_eq_false_iff, List.any_eq_false, Bool.not_eq_true, bne_eq_false_iff_eq,
    bne_iff_ne, beq_eq_false_iff_ne, ← Nat.pos_iff_ne_zero]
  constructor
  · rintro ⟨tenant, token, keys, region, hosts_ne_nil, host_ne_blank, hostHeader, schema, project,
      windowSize, scoreInterval, fetchInterval, pingTimeout, threshold, pingPath, pingInterval,
      queueCapacity, batchSize⟩
    exact { tenant, token, keys, region, hosts_ne_nil, host_ne_blank, hostHeader,
            schema := or_iff_not_imp_left.2 schema, project, windowSize, scoreInterval,
            fetchInterval, pingTimeout, threshold, pingPath, pingInterval, queueCapacity,
            batchSize }
  · intro h
    exact ⟨h.tenant, h.token, h.keys, h.region, h.hosts_ne_nil, h.host_ne_blank, h.hostHeader,
      or_iff_not_imp_left.1 h.schema, h.project, h.windowSize, h.scoreInterval, h.fetchInterval,
      h.pingTimeout, h.threshold, h.pingPath, h.pingInterval, h.queueCapacity, h.batchSize⟩

/-- Valid settings pass the check as they are. -/
theorem check_of_isValid {s : Settings} (h : s.isValid = true) : s.check = .ok s := by
  rw [check, show s.issues.isEmpty = true from h, if_pos rfl]

end Settings

end Courier
