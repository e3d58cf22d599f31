import SecureKeypad.Library.ByteViews
import SecureKeypad.Library.Rust

/-!
# The Bounded Body Reader (`packages/server-node`)

Embeds `readBoundedBody`. The stream is what its `read()` calls settle with, in order; a list that
runs out is a read that never settles. Chunks are views on buffers that may be shared, and clearing
one writes to its buffer; views are attached, and a bare `SharedArrayBuffer` is a chunk that nothing
is behind. What the stream has delivered is recorded beside the variables of the function.

## Main results

- `readLoop_taken`: the loop over chunks that fit
- `exists_stop`: where the loop stops
- `boundedRead_iff`: the reader keeps its contract, but for the chunk that exceeds the limit
-/

namespace SecureKeypad.Node

open ByteViews Rust

/-! ## The reader -/

/-- A chunk, as `byteView` and `zeroizeChunk` tell chunks apart. -/
inductive StreamChunk where
  | uint8Array (view : View)
  /-- Any other view; a `DataView` has no `BYTES_PER_ELEMENT`. -/
  | arrayBufferView (bytesPerElement : Option ℕ) (view : View)
  | arrayBuffer (buffer byteLength : ℕ)
  | other
deriving DecidableEq

/-- What a `read()` settles with. -/
inductive StreamResult (ε : Type) where
  | chunk (value : StreamChunk)
  | done
  | failed (error : ε)

/-- What `readBoundedBody` throws. -/
inductive BodyError (ε : Type) where
  | bodyTooLarge
  | nonByteChunk
  | stream (error : ε)
deriving DecidableEq

/-- `byteView`. -/
def byteView : StreamChunk → Option View
  | .uint8Array view => some view
  | .arrayBufferView bytesPerElement view => if bytesPerElement ≠ some 1 then none else some view
  | .arrayBuffer buffer byteLength => some ⟨buffer, 0, byteLength⟩
  | .other => none

/-- The bytes behind a chunk. -/
def StreamChunk.backing : StreamChunk → Option View
  | .uint8Array view | .arrayBufferView _ view => some view
  | .arrayBuffer buffer byteLength => some ⟨buffer, 0, byteLength⟩
  | .other => none

/-- `zeroizeChunk`. -/
def zeroizeChunk (memory : Memory) (value : StreamChunk) : Memory :=
  match value.backing with
  | some view => zero memory view
  | none => memory

/-- The variables of `readBoundedBody`, and what the stream has delivered. -/
structure ReadState where
  memory : Memory
  chunks : List View
  total : ℕ
  delivered : List StreamChunk

/-- `clearChunks`. -/
def ReadState.clearChunks (state : ReadState) : ReadState :=
  { state with memory := zeroAll state.memory state.chunks }

variable {ε : Type}

/-- `try { await reader.cancel() } catch {}`. -/
def ReadState.afterCancel (cancel : Except ε Unit) (state : ReadState) : ReadState :=
  match cancel with
  | .ok () => state
  | .error _ => state

/-- The loop of `readBoundedBody`: how it is left, if it is, and the variables then. -/
def readLoop (limit : ℕ) (cancel : Except ε Unit) :
    List (StreamResult ε) → ReadState → Option (Except (BodyError ε) Unit) × ReadState
  | [], state => (none, state)
  | .failed error :: _, state => (some (.error (.stream error)), state)
  | .done :: _, state => (some (.ok ()), state)
  | .chunk value :: rest, state =>
    let state := { state with delivered := state.delivered ++ [value] }
    match byteView value with
    | none =>
      let state := { state with memory := zeroizeChunk state.memory value }
      (some (.error .nonByteChunk), (state.afterCancel cancel).clearChunks)
    | some bytes =>
      let state := { state with total := state.total + bytes.byteLength }
      if state.total > limit then
        (some (.error .bodyTooLarge), (state.afterCancel cancel).clearChunks)
      else readLoop limit cancel rest { state with chunks := state.chunks ++ [bytes] }

/-- `output.set(bytes, offset)`. -/
def setBytes (output : Bytes) (offset : ℕ) (bytes : Bytes) : Bytes :=
  output.take offset ++ bytes ++ output.drop (offset + bytes.length)

/-- The loop that copies the chunks. -/
def copyChunks (memory : Memory) : List View → ℕ → Bytes → Bytes
  | [], _, output => output
  | chunk :: chunks, offset, output =>
    copyChunks memory chunks (offset + chunk.byteLength) (setBytes output offset (read memory chunk))

/-- How a call ended, if it did, with the memory and the delivered chunks then. -/
structure BodyRun (ε : Type) where
  outcome : Option (Except (BodyError ε) Bytes)
  memory : Memory
  delivered : List StreamChunk

/-- `readBoundedBody`. -/
def readBoundedBody (memory : Memory) (body : Option (List (StreamResult ε))) (limit : ℕ)
    (cancel : Except ε Unit) : BodyRun ε :=
  match body with
  | none => ⟨some (.ok []), memory, []⟩
  | some results =>
    match readLoop limit cancel results ⟨memory, [], 0, []⟩ with
    | (none, state) => ⟨none, state.memory, state.delivered⟩
    | (some (.error error), state) =>
      ⟨some (.error error), state.clearChunks.memory, state.delivered⟩
    | (some (.ok ()), state) =>
      let output := copyChunks state.memory state.chunks 0 (List.replicate state.total 0)
      ⟨some (.ok output), state.clearChunks.memory, state.delivered⟩

/-! ## Where the loop stops -/

/-- The chunks are byte views, of at most `limit` bytes together. -/
def Taken (limit : ℕ) (chunks : List StreamChunk) (views : List View) : Prop :=
  chunks.map byteView = views.map some ∧ (views.map View.byteLength).sum ≤ limit

/-- The stream ends after chunks that fit. -/
def EndsWith (results : List (StreamResult ε)) (limit : ℕ) (views : List View) : Prop :=
  ∃ chunks rest, results = chunks.map .chunk ++ .done :: rest ∧ Taken limit chunks views

/-- After chunks that fit comes one that takes the total over the limit. -/
def Exceeds (results : List (StreamResult ε)) (limit : ℕ) (earlier : List View) (last : View) :
    Prop :=
  ∃ chunks value rest, results = chunks.map .chunk ++ .chunk value :: rest ∧
    Taken limit chunks earlier ∧ byteView value = some last ∧
    limit < (earlier.map View.byteLength).sum + last.byteLength

/-- The contract of `readBoundedBody`: it returns exactly the bytes of a stream that ends in time,
    finds exactly the streams that exceed the limit, and when it is left every buffer-backed chunk
    it was given has been overwritten with zeros. -/
structure BoundedRead (memory : Memory) (body : Option (List (StreamResult ε))) (limit : ℕ)
    (cancel : Except ε Unit) : Prop where
  returns : ∀ bytes, (readBoundedBody memory body limit cancel).outcome = some (.ok bytes) ↔
    ∃ views, EndsWith (body.getD [.done]) limit views ∧ bytes = views.flatMap (read memory)
  tooLarge : (readBoundedBody memory body limit cancel).outcome = some (.error .bodyTooLarge) ↔
    ∃ earlier last, Exceeds (body.getD [.done]) limit earlier last
  zeroized : (readBoundedBody memory body limit cancel).outcome.isSome = true →
    ∀ value ∈ (readBoundedBody memory body limit cancel).delivered, ∀ view,
      value.backing = some view → IsZero (readBoundedBody memory body limit cancel).memory view

/-- A body that is no stream is read like one that ends at once. -/
theorem readBoundedBody_getD (memory : Memory) (body : Option (List (StreamResult ε))) (limit : ℕ)
    (cancel : Except ε Unit) :
    readBoundedBody memory body limit cancel =
      readBoundedBody memory (some (body.getD [.done])) limit cancel := by
  cases body <;> rfl

theorem backing_of_byteView {value : StreamChunk} {view : View} (h : byteView value = some view) :
    value.backing = some view := by
  cases value with
  | uint8Array v => exact h
  | arrayBufferView size v =>
    simp only [byteView] at h
    split at h
    · cases h
    · exact h
  | arrayBuffer buffer length => exact h
  | other => cases h

/-- The state after chunks that fit. -/
def ReadState.after (state : ReadState) (chunks : List StreamChunk) (views : List View) :
    ReadState :=
  { state with chunks := state.chunks ++ views,
               total := state.total + (views.map View.byteLength).sum,
               delivered := state.delivered ++ chunks }

@[simp] theorem ReadState.afterCancel_eq (cancel : Except ε Unit) (state : ReadState) :
    state.afterCancel cancel = state := by
  cases cancel <;> rfl

/-- **Chunks that fit are stored one after the other.** -/
theorem readLoop_taken {limit : ℕ} (cancel : Except ε Unit) {chunks : List StreamChunk}
    {views : List View} (rest : List (StreamResult ε)) (state : ReadState)
    (hviews : chunks.map byteView = views.map some)
    (hfits : state.total + (views.map View.byteLength).sum ≤ limit) :
    readLoop limit cancel (chunks.map .chunk ++ rest) state =
      readLoop limit cancel rest (state.after chunks views) := by
  induction chunks generalizing views state with
  | nil =>
    rw [List.map_nil, eq_comm, List.map_eq_nil_iff] at hviews
    subst hviews
    simp [ReadState.after]
  | cons value chunks ih =>
    cases views with
    | nil => cases hviews
    | cons view views =>
      rw [List.map_cons, List.map_cons, List.cons.injEq] at hviews
      obtain ⟨hview, hviews⟩ := hviews
      rw [List.map_cons, List.sum_cons] at hfits
      have hroom : ¬ state.total + view.byteLength > limit := by omega
      rw [List.map_cons, List.cons_append, readLoop]
      simp only [hview, hroom, if_false]
      rw [ih _ hviews (by simp only; omega)]
      simp only [ReadState.after, List.append_assoc, List.singleton_append, List.map_cons,
        List.sum_cons, Nat.add_assoc]

/-- What stands behind the chunks that fit. -/
inductive Stop (limit total : ℕ) : List (StreamResult ε) → Prop where
  | waiting : Stop limit total []
  | done (rest : List (StreamResult ε)) : Stop limit total (.done :: rest)
  | failed (error : ε) (rest : List (StreamResult ε)) : Stop limit total (.failed error :: rest)
  | nonByte {value : StreamChunk} (rest : List (StreamResult ε)) (h : byteView value = none) :
      Stop limit total (.chunk value :: rest)
  | tooLarge {value : StreamChunk} {view : View} (rest : List (StreamResult ε))
      (h : byteView value = some view) (hlarge : limit < total + view.byteLength) :
      Stop limit total (.chunk value :: rest)

/-- **Every stream is chunks that fit and a reason to stop.** -/
theorem exists_stop (limit : ℕ) (results : List (StreamResult ε)) (total : ℕ)
    (htotal : total ≤ limit) :
    ∃ (chunks : List StreamChunk) (views : List View) (rest : List (StreamResult ε)),
      results = chunks.map .chunk ++ rest ∧ chunks.map byteView = views.map some ∧
      total + (views.map View.byteLength).sum ≤ limit ∧
      Stop limit (total + (views.map View.byteLength).sum) rest := by
  induction results generalizing total with
  | nil => exact ⟨[], [], [], rfl, rfl, htotal, .waiting⟩
  | cons result results ih =>
    cases result with
    | done => exact ⟨[], [], _, rfl, rfl, htotal, .done results⟩
    | failed error => exact ⟨[], [], _, rfl, rfl, htotal, .failed error results⟩
    | chunk value =>
      cases hvalue : byteView value with
      | none => exact ⟨[], [], _, rfl, rfl, htotal, .nonByte results hvalue⟩
      | some view =>
        rcases Nat.lt_or_ge limit (total + view.byteLength) with hlarge | hfits
        · exact ⟨[], [], _, rfl, rfl, htotal, .tooLarge results hvalue hlarge⟩
        · obtain ⟨chunks, views, rest, hresults, hviews, hsum, hstop⟩ :=
            ih (total + view.byteLength) hfits
          refine ⟨value :: chunks, view :: views, rest, ?_, ?_, ?_, ?_⟩
          · rw [hresults]
            rfl
          · rw [List.map_cons, List.map_cons, hvalue, hviews]
          · rwa [List.map_cons, List.sum_cons, ← Nat.add_assoc]
          · rwa [List.map_cons, List.sum_cons, ← Nat.add_assoc]

/-! ## How a call ends -/

section Endings

variable {limit : ℕ} {chunks : List StreamChunk} {views : List View}

/-- The variables after the chunks of a fresh call. -/
private theorem after_start (memory : Memory) (chunks : List StreamChunk) (views : List View) :
    ReadState.after ⟨memory, [], 0, []⟩ chunks views =
      ⟨memory, views, (views.map View.byteLength).sum, chunks⟩ := by
  simp only [ReadState.after, List.nil_append, Nat.zero_add]

private theorem readLoop_start (memory : Memory) (cancel : Except ε Unit)
    (rest : List (StreamResult ε)) (h : Taken limit chunks views) :
    readLoop limit cancel (chunks.map .chunk ++ rest) ⟨memory, [], 0, []⟩ =
      readLoop limit cancel rest ⟨memory, views, (views.map View.byteLength).sum, chunks⟩ := by
  rw [readLoop_taken cancel rest _ h.1 (by rw [Nat.zero_add]; exact h.2), after_start]

theorem copyChunks_eq (memory : Memory) (views : List View) (written : Bytes) :
    copyChunks memory views written.length
        (written ++ List.replicate (views.map View.byteLength).sum 0) =
      written ++ views.flatMap (read memory) := by
  induction views generalizing written with
  | nil => simp [copyChunks]
  | cons view views ih =>
    have hset : setBytes (written ++
        List.replicate (view.byteLength + (views.map View.byteLength).sum) 0) written.length
          (read memory view) = (written ++ read memory view) ++
            List.replicate (views.map View.byteLength).sum 0 := by
      rw [setBytes, List.take_left, length_read, ← List.drop_drop, List.drop_left,
        List.drop_replicate, Nat.add_sub_cancel_left]
    have hlength : written.length + view.byteLength = (written ++ read memory view).length := by
      rw [List.length_append, length_read]
    rw [copyChunks, List.map_cons, List.sum_cons, hset, hlength, ih, List.flatMap_cons,
      List.append_assoc]

theorem readBoundedBody_waiting (memory : Memory) (cancel : Except ε Unit)
    (h : Taken limit chunks views) :
    (readBoundedBody memory (some (chunks.map .chunk)) limit cancel).outcome = none := by
  have hloop := readLoop_start memory cancel [] h
  rw [List.append_nil] at hloop
  simp only [readBoundedBody, hloop, readLoop]

theorem readBoundedBody_done (memory : Memory) (cancel : Except ε Unit)
    (rest : List (StreamResult ε)) (h : Taken limit chunks views) :
    readBoundedBody memory (some (chunks.map .chunk ++ .done :: rest)) limit cancel =
      ⟨some (.ok (views.flatMap (read memory))), zeroAll memory views, chunks⟩ := by
  have hcopy := copyChunks_eq memory views []
  rw [List.length_nil, List.nil_append, List.nil_append] at hcopy
  simp only [readBoundedBody, readLoop_start memory cancel _ h, readLoop, hcopy,
    ReadState.clearChunks]

theorem readBoundedBody_failed (memory : Memory) (cancel : Except ε Unit) (error : ε)
    (rest : List (StreamResult ε)) (h : Taken limit chunks views) :
    readBoundedBody memory (some (chunks.map .chunk ++ .failed error :: rest)) limit cancel =
      ⟨some (.error (.stream error)), zeroAll memory views, chunks⟩ := by
  simp only [readBoundedBody, readLoop_start memory cancel _ h, readLoop, ReadState.clearChunks]

theorem readBoundedBody_nonByte (memory : Memory) (cancel : Except ε Unit) {value : StreamChunk}
    (rest : List (StreamResult ε)) (h : Taken limit chunks views) (hvalue : byteView value = none) :
    readBoundedBody memory (some (chunks.map .chunk ++ .chunk value :: rest)) limit cancel =
      ⟨some (.error .nonByteChunk), zeroAll (zeroizeChunk memory value) views,
        chunks ++ [value]⟩ := by
  simp only [readBoundedBody, readLoop_start memory cancel _ h, readLoop, hvalue,
    ReadState.afterCancel_eq, ReadState.clearChunks, zeroAll_zeroAll]

theorem readBoundedBody_tooLarge (memory : Memory) (cancel : Except ε Unit) {value : StreamChunk}
    {view : View} (rest : List (StreamResult ε)) (h : Taken limit chunks views)
    (hvalue : byteView value = some view)
    (hlarge : limit < (views.map View.byteLength).sum + view.byteLength) :
    readBoundedBody memory (some (chunks.map .chunk ++ .chunk value :: rest)) limit cancel =
      ⟨some (.error .bodyTooLarge), zeroAll memory views, chunks ++ [value]⟩ := by
  simp only [readBoundedBody, readLoop_start memory cancel _ h, readLoop, hvalue,
    if_pos hlarge, gt_iff_lt, ReadState.afterCancel_eq, ReadState.clearChunks, zeroAll_zeroAll]

end Endings

/-! ## The contract -/

section Contract

variable (memory : Memory) (limit : ℕ) (cancel : Except ε Unit)

theorem outcome_eq_ok_iff (results : List (StreamResult ε)) (bytes : Bytes) :
    (readBoundedBody memory (some results) limit cancel).outcome = some (.ok bytes) ↔
      ∃ views, EndsWith results limit views ∧ bytes = views.flatMap (read memory) := by
  constructor
  · intro hok
    obtain ⟨chunks, views, rest, rfl, hviews, hsum, hstop⟩ :=
      exists_stop limit results 0 (Nat.zero_le limit)
    rw [Nat.zero_add] at hsum hstop
    have htaken : Taken limit chunks views := ⟨hviews, hsum⟩
    cases hstop with
    | waiting =>
      rw [List.append_nil, readBoundedBody_waiting memory cancel htaken] at hok
      cases hok
    | done rest =>
      rw [readBoundedBody_done memory cancel rest htaken] at hok
      cases hok
      exact ⟨views, ⟨chunks, rest, rfl, htaken⟩, rfl⟩
    | failed error rest =>
      rw [readBoundedBody_failed memory cancel error rest htaken] at hok
      cases hok
    | nonByte rest hvalue =>
      rw [readBoundedBody_nonByte memory cancel rest htaken hvalue] at hok
      cases hok
    | tooLarge rest hvalue hlarge =>
      rw [readBoundedBody_tooLarge memory cancel rest htaken hvalue hlarge] at hok
      cases hok
  · intro ⟨views, ⟨chunks, rest, hresults, htaken⟩, hbytes⟩
    rw [hresults, readBoundedBody_done memory cancel rest htaken, hbytes]

theorem outcome_eq_tooLarge_iff (results : List (StreamResult ε)) :
    (readBoundedBody memory (some results) limit cancel).outcome = some (.error .bodyTooLarge) ↔
      ∃ earlier last, Exceeds results limit earlier last := by
  constructor
  · intro herror
    obtain ⟨chunks, views, rest, rfl, hviews, hsum, hstop⟩ :=
      exists_stop limit results 0 (Nat.zero_le limit)
    rw [Nat.zero_add] at hsum hstop
    have htaken : Taken limit chunks views := ⟨hviews, hsum⟩
    cases hstop with
    | waiting =>
      rw [List.append_nil, readBoundedBody_waiting memory cancel htaken] at herror
      cases herror
    | done rest =>
      rw [readBoundedBody_done memory cancel rest htaken] at herror
      cases herror
    | failed error rest =>
      rw [readBoundedBody_failed memory cancel error rest htaken] at herror
      cases herror
    | nonByte rest hvalue =>
      rw [readBoundedBody_nonByte memory cancel rest htaken hvalue] at herror
      cases herror
    | @tooLarge value view rest hvalue hlarge =>
      exact ⟨views, view, chunks, value, rest, rfl, htaken, hvalue, hlarge⟩
  · intro ⟨earlier, last, chunks, value, rest, hresults, htaken, hvalue, hlarge⟩
    rw [hresults, readBoundedBody_tooLarge memory cancel rest htaken hvalue hlarge]

/-- Chunks that were taken are behind the views that are cleared. -/
private theorem isZero_of_taken {chunks : List StreamChunk} {views : List View}
    (htaken : Taken limit chunks views) {value : StreamChunk} (hvalue : value ∈ chunks) {view : View}
    (hview : value.backing = some view) (before : Memory) :
    IsZero (zeroAll before views) view := by
  have hmem : byteView value ∈ views.map some := by
    rw [← htaken.1]
    exact List.mem_map_of_mem hvalue
  obtain ⟨taken, htakenMem, htakenEq⟩ := List.mem_map.mp hmem
  have hback := backing_of_byteView htakenEq.symm
  rw [hview, Option.some.injEq] at hback
  rw [hback]
  exact isZero_zeroAll before htakenMem

/-- What the last chunk holds when the call is left because of it: its bytes are zero or shared
    with an earlier chunk. -/
def LastHarmless (memory : Memory) (results : List (StreamResult ε)) (limit : ℕ) : Prop :=
  ∀ earlier last, Exceeds results limit earlier last → ∀ index, last.Covers last.buffer index →
    memory last.buffer index = 0 ∨ ∃ other ∈ earlier, other.Covers last.buffer index

theorem zeroized_iff (results : List (StreamResult ε)) :
    ((readBoundedBody memory (some results) limit cancel).outcome.isSome = true →
      ∀ value ∈ (readBoundedBody memory (some results) limit cancel).delivered, ∀ view,
        value.backing = some view →
        IsZero (readBoundedBody memory (some results) limit cancel).memory view) ↔
      LastHarmless memory results limit := by
  constructor
  -- The condition is needed: the chunk that exceeds the limit is left as it came.
  · intro hzeroized earlier last ⟨chunks, value, rest, hresults, htaken, hvalue, hlarge⟩
    rw [hresults, readBoundedBody_tooLarge memory cancel rest htaken hvalue hlarge] at hzeroized
    have hlast := hzeroized rfl value (by simp) last (backing_of_byteView hvalue)
    exact isZero_zeroAll_iff.mp hlast
  · intro hharmless hsettled
    obtain ⟨chunks, views, rest, rfl, hviews, hsum, hstop⟩ :=
      exists_stop limit results 0 (Nat.zero_le limit)
    rw [Nat.zero_add] at hsum hstop
    have htaken : Taken limit chunks views := ⟨hviews, hsum⟩
    -- By the exit that the reading takes.
    cases hstop with
    | waiting =>
      rw [List.append_nil, readBoundedBody_waiting memory cancel htaken] at hsettled
      cases hsettled
    | done rest =>
      rw [readBoundedBody_done memory cancel rest htaken]
      intro value hvalue view hview
      exact isZero_of_taken limit htaken hvalue hview memory
    | failed error rest =>
      rw [readBoundedBody_failed memory cancel error rest htaken]
      intro value hvalue view hview
      exact isZero_of_taken limit htaken hvalue hview memory
    | @nonByte last rest hlast =>
      rw [readBoundedBody_nonByte memory cancel rest htaken hlast]
      intro value hvalue view hview
      rcases List.mem_append.mp hvalue with hvalue | hvalue
      · exact isZero_of_taken limit htaken hvalue hview _
      · -- The malformed chunk itself was cleared first.
        rw [List.mem_singleton.mp hvalue] at hview
        apply IsZero.zeroAll
        rw [zeroizeChunk, hview]
        exact isZero_zeroAll memory (List.mem_singleton.mpr rfl)
    | @tooLarge last lastView rest hlast hlarge =>
      rw [readBoundedBody_tooLarge memory cancel rest htaken hlast hlarge]
      intro value hvalue view hview
      rcases List.mem_append.mp hvalue with hvalue | hvalue
      · exact isZero_of_taken limit htaken hvalue hview memory
      · rw [List.mem_singleton.mp hvalue, backing_of_byteView hlast, Option.some.injEq] at hview
        rw [← hview]
        exact isZero_zeroAll_iff.mpr
          (hharmless views lastView ⟨chunks, last, rest, rfl, htaken, hlast, hlarge⟩)

/-- **The reader keeps its contract exactly when the chunk that takes the total over the limit
    needs no clearing.** It returns the bytes of exactly the streams that end in time and reports
    exactly those that exceed the limit, and it clears every chunk it was given, but the one in
    hand when the limit is exceeded: this chunk is cleared only where its bytes are zero already or
    an earlier chunk covers them. -/
theorem boundedRead_iff (memory : Memory) (body : Option (List (StreamResult ε))) (limit : ℕ)
    (cancel : Except ε Unit) :
    BoundedRead memory body limit cancel ↔
      LastHarmless memory (body.getD [.done]) limit := by
  have hzeroized := zeroized_iff memory limit cancel (body.getD [.done])
  rw [← readBoundedBody_getD] at hzeroized
  constructor
  · intro hbounded
    exact hzeroized.mp hbounded.zeroized
  · intro hharmless
    refine ⟨?_, ?_, hzeroized.mpr hharmless⟩
    · rw [readBoundedBody_getD]
      exact outcome_eq_ok_iff memory limit cancel _
    · rw [readBoundedBody_getD]
      exact outcome_eq_tooLarge_iff memory limit cancel _

end Contract

/-- Two bytes against a limit of one: the chunk is left as it was. -/
theorem not_boundedRead_of_two_bytes :
    ¬ BoundedRead (ε := Unit) (fun _ _ => 1) (some [.chunk (.uint8Array ⟨0, 0, 2⟩), .done]) 1
      (.ok ()) := by
  intro hbounded
  have hzero := hbounded.zeroized rfl (.uint8Array ⟨0, 0, 2⟩) (List.mem_singleton.mpr rfl)
    ⟨0, 0, 2⟩ rfl 0 (by decide)
  revert hzero
  decide

end SecureKeypad.Node
