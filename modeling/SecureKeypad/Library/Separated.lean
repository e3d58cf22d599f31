import Mathlib

/-!
# Separated Texts

Texts joined by a separator character can be read off the joined text again when none of them
contains the separator.
-/

namespace Separated

/-- The characters of texts joined by a separator. -/
def joined (sep : Char) (parts : List String) : List Char :=
  [sep].intercalate (parts.map String.toList)

/-- **Joined texts determine their parts**, when no part has the separator. -/
theorem joined_inj {sep : Char} {parts parts' : List String} (hne : parts ≠ []) (hne' : parts' ≠ [])
    (h : ∀ part ∈ parts, sep ∉ part.toList) (h' : ∀ part ∈ parts', sep ∉ part.toList)
    (heq : joined sep parts = joined sep parts') : parts = parts' := by
  have hfree : ∀ chars ∈ parts.map String.toList, sep ∉ chars := List.forall_mem_map.mpr h
  have hfree' : ∀ chars ∈ parts'.map String.toList, sep ∉ chars := List.forall_mem_map.mpr h'
  have hsplit := congrArg (List.splitOn sep) heq
  rw [joined, joined, List.splitOn_intercalate sep hfree (by simpa using hne),
    List.splitOn_intercalate sep hfree' (by simpa using hne')] at hsplit
  exact List.map_injective_iff.mpr (fun _ _ => String.toList_injective) hsplit

end Separated
