import Courier.Proofs.Headers
import Courier.Proofs.Text.Sorted
import Courier.Signing.Canonical

/-!
# The signed fields of a header

Which names of a header are signed depends on nothing but which of the signable names occur
(`Courier.Canonical.signedNames_eq_of_mem_iff`): the order in which the fields arrived is
sorted away, and a name counts once. So two headers with the same signed names differ in
their signed fields exactly where a canonical value differs
(`Courier.Canonical.signedFields_eq_iff`).
-/

namespace Courier.Canonical

/-- A name is signed if it is signable and occurs. -/
theorem mem_signedNames {h : Headers} {n : HeaderName} :
    n ∈ signedNames h ↔ isSignable n = true ∧ h.values n ≠ [] := by
  rw [signedNames, List.mem_mergeSort, List.mem_filter, Headers.mem_names, and_comm]

theorem nodup_signedNames (h : Headers) : (signedNames h).Nodup :=
  (List.mergeSort_perm _ _).nodup_iff.2 (h.nodup_names.filter _)

/-- The signed names ascend. -/
theorem pairwise_signedNames (h : Headers) :
    (signedNames h).Pairwise fun a b => a.text ≤ b.text :=
  pairwise_sortedByText HeaderName.text _

/-- **The order of arrival does not matter**: headers with the same signable names have the
same list of signed names. -/
theorem signedNames_eq_of_mem_iff {h h' : Headers}
    (hmem : ∀ n, n ∈ signedNames h ↔ n ∈ signedNames h') : signedNames h = signedNames h' := by
  have hperm : (signedNames h).Perm (signedNames h') :=
    (List.perm_ext_iff_of_nodup (nodup_signedNames h) (nodup_signedNames h')).2 hmem
  refine hperm.eq_of_pairwise ?_ (pairwise_signedNames h) (pairwise_signedNames h')
  intro a b _ _ hab hba
  exact HeaderName.ext (String.le_antisymm hab hba)

/-- Headers with the same signed names have the same signed fields exactly if the canonical
values agree. -/
theorem signedFields_eq_iff {h h' : Headers} (hnames : signedNames h = signedNames h') :
    signedFields h = signedFields h' ↔
      ∀ n ∈ signedNames h, fieldValue n (h.lossy n) = fieldValue n (h'.lossy n) := by
  rw [signedFields, signedFields, ← hnames]
  simp [List.map_inj_left]

end Courier.Canonical
