import BundleInstaller.Proofs.Entries

/-!
# Merging JSON

`Json.merge target patch` is what a merge patch makes of a value.  A patch that is an object is
merged key by key into the entries of the target, or into none if the target is no object: a null
removes its key, and any other value is merged into what stands under its key.  A patch that is no
object takes the place of the target.

* `mergeEntries_null`, `mergeEntries_cons`: what one entry of a patch does.
* `WellFormed.merge`: what is merged from well-formed values is well-formed.
-/

namespace BundleInstaller.Json

/-- The entries of an object; any other value has none. -/
def entries : Json → List (String × Json)
  | .obj entries => entries
  | _ => []

theorem WellFormed.entries {j : Json} (h : WellFormed j) : WellFormed (.obj j.entries) := by
  cases h with
  | obj hkeys h => exact .obj hkeys h
  | _ => exact .obj List.Pairwise.nil (by simp [Json.entries])

mutual

/-- A value with a patch merged into it. -/
def merge (target : Json) : Json → Json
  | .obj patch => .obj (mergeEntries target.entries patch)
  | patch => patch

def mergeEntries (target : List (String × Json)) : List (String × Json) → List (String × Json)
  | [] => target
  | (key, value) :: rest =>
    match value with
    | .null => mergeEntries (target.filter (·.1 != key)) rest
    | value =>
      mergeEntries (setEntry key (merge ((target.lookup key).getD .null) value) target) rest

end

theorem mergeEntries_null (target : List (String × Json)) (key : String)
    (rest : List (String × Json)) :
    mergeEntries target ((key, .null) :: rest) =
      mergeEntries (target.filter (·.1 != key)) rest := by
  rw [mergeEntries]

theorem mergeEntries_cons {value : Json} (h : value ≠ .null) (target : List (String × Json))
    (key : String) (rest : List (String × Json)) :
    mergeEntries target ((key, value) :: rest) =
      mergeEntries (setEntry key (merge ((target.lookup key).getD .null) value) target) rest := by
  cases value with
  | null => exact absurd rfl h
  | _ => rw [mergeEntries]; exact h

/-! ## Well-formed values -/

mutual

/-- **What is merged from well-formed values is well-formed.** -/
theorem WellFormed.merge {target : Json} (ht : WellFormed target) :
    ∀ {patch : Json}, WellFormed patch → WellFormed (merge target patch)
  | .obj patch, h => by
    rw [Json.merge]
    exact WellFormed.mergeEntries ht.entries h
  | .null, h | .bool _, h | .int _, h | .float _, h | .str _, h | .arr _, h => by
    simpa only [Json.merge] using h

theorem WellFormed.mergeEntries {target : List (String × Json)} (ht : WellFormed (.obj target)) :
    ∀ {patch : List (String × Json)}, WellFormed (.obj patch) →
      WellFormed (.obj (mergeEntries target patch))
  | [], _ => by rwa [Json.mergeEntries]
  | (key, value) :: rest, h => by
    have hvalue : WellFormed value := h.of_mem (e := (key, value)) List.mem_cons_self
    have hrest : WellFormed (.obj rest) :=
      .obj (List.pairwise_cons.mp h.ascending).2 fun _ he => h.of_mem (List.mem_cons_of_mem _ he)
    by_cases hnull : value = .null
    · subst hnull
      rw [mergeEntries_null]
      exact WellFormed.mergeEntries (ht.filter _) hrest
    · rw [mergeEntries_cons hnull]
      have hold : WellFormed ((target.lookup key).getD .null) := by
        cases hl : target.lookup key with
        | none => exact .null
        | some old => exact ht.of_lookup hl
      exact WellFormed.mergeEntries (ht.setEntry (WellFormed.merge hold hvalue) key) hrest

end

end BundleInstaller.Json
