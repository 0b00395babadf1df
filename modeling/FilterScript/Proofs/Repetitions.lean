import Mathlib.Data.List.Induction
import Mathlib.Data.List.Nodup

/-!
# Lists without repetitions

What comes again in a list is left out: each item stays where it comes first. References and categories of
filters are kept in this order.

* **One more item** (`eraseDups_concat`): an item at the end is left out if it was there.
* **No repetitions** (`nodup_eraseDups`, `eraseDups_of_nodup`): none are left, and nothing else is lost.
-/

namespace FilterScript

variable {α : Type} [BEq α] [LawfulBEq α]

/-- One more item is left out if it is there before. -/
theorem eraseDups_concat (xs : List α) (x : α) [Decidable (x ∈ xs)] :
    (xs ++ [x]).eraseDups = if x ∈ xs then xs.eraseDups else xs.eraseDups ++ [x] := by
  rw [List.eraseDups_append]
  split
  · next old => simp [List.removeAll, old]
  · next new => simp [List.removeAll, new, List.eraseDups_cons]

/-- Leaving out repetitions leaves none. -/
theorem nodup_eraseDups [DecidableEq α] (xs : List α) : xs.eraseDups.Nodup := by
  induction xs using List.reverseRecOn with
  | nil => simp
  | append_singleton xs x ih =>
    rw [eraseDups_concat]
    split
    · exact ih
    · next new =>
      have fresh : x ∉ xs.eraseDups := fun old => new (List.mem_eraseDups.1 old)
      rw [← List.concat_eq_append, List.nodup_concat]
      exact ⟨fresh, ih⟩

/-- Where there are no repetitions, none is left out. -/
theorem eraseDups_of_nodup [DecidableEq α] {xs : List α} (apart : xs.Nodup) : xs.eraseDups = xs := by
  induction xs using List.reverseRecOn with
  | nil => simp
  | append_singleton xs x ih =>
    rw [← List.concat_eq_append, List.nodup_concat] at apart
    obtain ⟨new, front⟩ := apart
    rw [eraseDups_concat, if_neg new, ih front]

end FilterScript
