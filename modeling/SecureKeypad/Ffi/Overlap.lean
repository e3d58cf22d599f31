import SecureKeypad.Ffi.Abi

/-!
# The Overlap Tests Are Exact

The test of two ranges is the sharing of an address, but for ranges whose end has no address: these
overlap with everything that is not empty. The finish functions compare what they are passed two by
two; what is left out are the two identifiers, which they only read.

## Main results

- `apart_iff_pairs`: the pairs compared are all that have to be apart
- `overlap_tests_exact`: the tests against the ranges as sets of addresses
-/

namespace SecureKeypad.Ffi

open ByteMemory

variable (target : Target) (flow : Flow)

namespace AuthFinishArguments

/-- The two slots, the input object and the response. -/
def owned (a : AuthFinishArguments) : List Range :=
  [⟨a.inputSlot, target.pointerBytes⟩, ⟨a.output, target.pointerBytes⟩,
    ⟨a.inputObject, target.sizeOf (.client flow)⟩, ⟨a.response, target.sizeOf .authMessage⟩]

/-- The two identifier buffers. -/
def identifiers (a : AuthFinishArguments) : List Range :=
  [⟨a.clientIdentifier, a.clientIdentifierLen⟩, ⟨a.serverIdentifier, a.serverIdentifierLen⟩]

/-- The slots and the objects share no address with each other, and neither identifier shares one
    with any of them. -/
structure Apart (a : AuthFinishArguments) : Prop where
  owned : (a.owned target flow).Pairwise fun first second => ¬ Share first second
  identifiers : ∀ identifier ∈ a.identifiers, ∀ range ∈ a.owned target flow,
    ¬ Share identifier range

/-- Every range has an end that can be represented. -/
def NonWrapping (a : AuthFinishArguments) : Prop :=
  ∀ range ∈ a.owned target flow ++ a.identifiers, range.start + range.length < 2 ^ target.usizeBits

/-- The pairs compared are the pairs of owned ranges, and those of an identifier and an owned
    range. -/
theorem apart_iff_pairs {a : AuthFinishArguments} : a.Apart target flow ↔
    ∀ pair ∈ a.pairs target flow, ¬ Share pair.1 pair.2 := by
  have hsplit : a.Apart target flow ↔
      ((a.owned target flow).Pairwise fun first second => ¬ Share first second) ∧
      ∀ identifier ∈ a.identifiers, ∀ range ∈ a.owned target flow, ¬ Share identifier range :=
    ⟨fun h => ⟨h.owned, h.identifiers⟩, fun h => ⟨h.1, h.2⟩⟩
  rw [hsplit]
  simp only [AuthFinishArguments.owned, AuthFinishArguments.identifiers, pairs, List.pairwise_cons,
    List.forall_mem_cons, List.not_mem_nil, List.Pairwise.nil]
  tauto

theorem pairs_nonWrapping {a : AuthFinishArguments} (h : a.NonWrapping target flow) :
    ∀ pair ∈ a.pairs target flow, pair.1.start + pair.1.length < 2 ^ target.usizeBits ∧
      pair.2.start + pair.2.length < 2 ^ target.usizeBits := by
  simp only [NonWrapping, AuthFinishArguments.owned, AuthFinishArguments.identifiers,
    List.cons_append, List.nil_append, List.forall_mem_cons] at h
  simp only [pairs, List.forall_mem_cons]
  tauto

end AuthFinishArguments

/-- **The overlap tests are exact.** Two ranges overlap when neither is empty and they share an
    address or one has no end in the address space. The finish functions find nothing only where
    all that has to be apart is, and find nothing there unless a range has no end. -/
theorem overlap_tests_exact (w : ℕ) (target : Target) (flow : Flow) :
    (∀ first firstLength second secondLength,
      memoryRangesOverlap w first firstLength second secondLength = true ↔
        firstLength ≠ 0 ∧ secondLength ≠ 0 ∧
          (Share ⟨first, firstLength⟩ ⟨second, secondLength⟩ ∨
            2 ^ w - 1 < first + firstLength ∨ 2 ^ w - 1 < second + secondLength)) ∧
    (∀ a : AuthFinishArguments, authFinishArgumentsAlias target flow a = false →
      a.Apart target flow) ∧
    ∀ a : AuthFinishArguments, a.NonWrapping target flow → a.Apart target flow →
      authFinishArgumentsAlias target flow a = false := by
  refine ⟨fun first firstLength second secondLength => ?ranges, fun a h => ?apart,
    fun a hfits hapart => ?exact⟩
  case ranges =>
    have hpos : 0 < 2 ^ w := Nat.two_pow_pos w
    rw [memoryRangesOverlap_iff, Nat.pos_iff_ne_zero, Nat.pos_iff_ne_zero]
    refine and_congr_right fun _ => and_congr_right fun _ => ?_
    constructor
    · rintro (hend | hend | hshare)
      · exact .inr (.inl (by omega))
      · exact .inr (.inr (by omega))
      · exact .inl hshare
    · rintro (hshare | hend | hend)
      · exact .inr (.inr hshare)
      · exact .inl (by omega)
      · exact .inr (.inl (by omega))
  -- Every pair is tested, so a shared byte is always found.
  case apart =>
    rw [AuthFinishArguments.apart_iff_pairs]
    intro pair hpair hshare
    have halias := (authFinishArgumentsAlias_iff target).mpr
      ⟨pair, hpair, memoryRangesOverlap_of_share target.usizeBits hshare⟩
    rw [h] at halias
    cases halias
  -- Without a wrap the test says no more than that a byte is shared.
  case exact =>
    rw [Bool.eq_false_iff]
    intro halias
    obtain ⟨pair, hpair, hoverlap⟩ := (authFinishArgumentsAlias_iff target).mp halias
    obtain ⟨hfirst, hsecond⟩ := a.pairs_nonWrapping target flow hfits pair hpair
    have hshare : Share pair.1 pair.2 := by
      rcases (memoryRangesOverlap_iff.mp hoverlap).2.2 with hend | hend | hshare
      · exact absurd hend (by omega)
      · exact absurd hend (by omega)
      · exact hshare
    exact (a.apart_iff_pairs target flow).mp hapart pair hpair hshare

end SecureKeypad.Ffi
