import VpuSim.Shader.Threads

/-!
# The test shader

`Test.hlsl` adds two buffers element by element; `VpuShader.c` is the same shader written
against the library. On the device its threads do not race, so a dispatch leaves the sums
in the third buffer whatever the order of the threads.
-/

set_option linter.dupNamespace false

namespace VpuSim

open ByteMemory Transition

/-- The first argument of each intrinsic, which the thunks drop. -/
structure DxilOpcodes where
  threadId : UInt32
  createHandle : UInt32
  bufferLoad : UInt32
  bufferStore : UInt32

/-- `main` of `Test.hlsl`; `fadd` is the addition of two floats as 32-bit patterns. -/
def testMain (opcodes : DxilOpcodes) (fadd : UInt32 → UInt32 → UInt32) : DxilShader :=
  .call (.threadIdI32 opcodes.threadId 0) fun threadId =>
  .call (.createHandle opcodes.createHandle kVpuResourceClassUAV 2 2 false) fun rUav =>
  .call (.createHandle opcodes.createHandle kVpuResourceClassUAV 1 1 false) fun bUav =>
  .call (.createHandle opcodes.createHandle kVpuResourceClassUAV 0 0 false) fun aUav =>
  .call (.bufferLoadI32 opcodes.bufferLoad aUav threadId 0) fun a =>
  .call (.bufferLoadI32 opcodes.bufferLoad bUav threadId 0) fun b =>
  .call (.bufferStoreI32 opcodes.bufferStore rUav threadId 0 (a.v0 + b.v0) 0 0 0 1) fun _ =>
  .call (.bufferLoadF32 opcodes.bufferLoad aUav threadId 4) fun a =>
  .call (.bufferLoadF32 opcodes.bufferLoad bUav threadId 4) fun b =>
  .call (.bufferStoreF32 opcodes.bufferStore rUav threadId 4 (fadd a.v0 b.v0) 0 0 0 1) fun _ =>
  .done ()

/-- `shader_main` of `VpuShader.c`. -/
def shaderMainCalls (fadd : UInt32 → UInt32 → UInt32) :
    Program LibCall LibCall.Answer Unit :=
  .call .threadIdI32 fun threadId =>
  .call (.createHandle kVpuResourceClassUAV 2 2 0) fun rUav =>
  .call (.createHandle kVpuResourceClassUAV 1 1 0) fun bUav =>
  .call (.createHandle kVpuResourceClassUAV 0 0 0) fun aUav =>
  .call (.bufferLoadI32 aUav threadId 0) fun a =>
  .call (.bufferLoadI32 bUav threadId 0) fun b =>
  .call (.bufferStoreI32 rUav threadId 0 (a.v0 + b.v0) 0 0 0 1) fun _ =>
  .call (.bufferLoadF32 aUav threadId 4) fun a =>
  .call (.bufferLoadF32 bUav threadId 4) fun b =>
  .call (.bufferStoreF32 rUav threadId 4 (fadd a.v0 b.v0) 0 0 0 1) fun _ =>
  .done ()

theorem link_testMain (opcodes : DxilOpcodes) (fadd : UInt32 → UInt32 → UInt32) :
    (testMain opcodes fadd).link = shaderMainCalls fadd := rfl

namespace UavBinding

/-- Where element `index` starts in the store. -/
def elementAt (binding : UavBinding) (index : Nat) : Nat :=
  binding.address.offset.toNat + index * binding.elementSize.toInt.toNat

/-- The first `count` elements have room for both words and lie in the store. -/
structure Spans (binding : UavBinding) (count : Nat) : Prop where
  elementSize : 8 ≤ binding.elementSize.toInt
  inStore : binding.elementAt count ≤ 2 ^ 20

variable {binding : UavBinding} {count : Nat}

/-- An element ends before a later one starts. -/
theorem Spans.elementAt_add_le (spans : binding.Spans count) {first second : Nat}
    (ordered : first < second) : binding.elementAt first + 8 ≤ binding.elementAt second := by
  have elementSize := spans.elementSize
  have next : (first + 1) * binding.elementSize.toInt.toNat ≤
      second * binding.elementSize.toInt.toNat := Nat.mul_le_mul_right _ ordered
  rw [Nat.succ_mul] at next
  simp only [elementAt]
  omega

theorem Spans.toNat_id (spans : binding.Spans count) {threadId : Nat} (bound : threadId < count) :
    (dispatchedId threadId).toNat = threadId := by
  have elementSize := spans.elementSize
  have inStore := spans.inStore
  have few : count * 8 ≤ count * binding.elementSize.toInt.toNat :=
    Nat.mul_le_mul_left count (by omega)
  have small : (dispatchedId threadId).toNat = threadId % 2 ^ 32 := rfl
  simp only [elementAt] at inStore
  rw [small]
  omega

end UavBinding

namespace Device

/-- Three buffers of `count` elements, the output apart from the inputs. -/
structure Buffers (device : Device) (a b r : UavBinding) (count : Nat) : Prop where
  first : device.bindings 0 = some a
  second : device.bindings 1 = some b
  output : device.bindings 2 = some r
  handles : ∀ uav other, device.handles uav = device.handles other → uav = other
  spansFirst : a.Spans count
  spansSecond : b.Spans count
  spansOutput : r.Spans count
  apartFirst : r.elementAt count ≤ a.elementAt 0 ∨ a.elementAt count ≤ r.elementAt 0
  apartSecond : r.elementAt count ≤ b.elementAt 0 ∨ b.elementAt count ≤ r.elementAt 0

theorem register_handles {device : Device}
    (handles : ∀ uav other, device.handles uav = device.handles other → uav = other)
    (uav : Fin 4) : device.register (device.handles uav) = some uav := by
  cases found : device.register (device.handles uav) with
  | none =>
    unfold register at found
    rw [List.find?_eq_none] at found
    exact absurd (decide_eq_true rfl) (found uav (List.mem_finRange uav))
  | some other =>
    rw [handles other uav (register_spec found)]

variable {device : Device} {binding : UavBinding} {count threadId : Nat}

theorem locate_element
    (handles : ∀ uav other, device.handles uav = device.handles other → uav = other)
    {uav : Fin 4} (bound : device.bindings uav = some binding) (spans : binding.Spans count)
    (inRange : threadId < count) (offset : UInt32) (word : offset.toNat + 4 ≤ 8) :
    device.locate (device.handles uav) (dispatchedId threadId) offset =
      some (binding.elementAt threadId + offset.toNat) := by
  have inElement := spans.elementAt_add_le inRange
  have inStore := spans.inStore
  have elementSize := spans.elementSize
  have id := spans.toNat_id inRange
  simp only [UavBinding.elementAt] at inElement inStore
  have reaches : (StoreHistory.mk device.bindings []).Reaches
      ⟨uav, dispatchedId threadId, offset⟩ := by
    refine ⟨binding, bound, ?_, ?_, ?_⟩
    · omega
    · simp only [id]
      omega
    · simp only [id]
      omega
  rw [locate, register_handles handles, Option.bind_some, if_pos reaches]
  simp only [StoreHistory.denoted, bound, id, UavBinding.elementAt]

/-- What a thread leaves behind, run alone. -/
def testOutcome (fadd : UInt32 → UInt32 → UInt32) (a b r : UavBinding) (view : Nat → UInt8)
    (threadId : Nat) : Nat → UInt8 :=
  (Store.ofNat (r.elementAt threadId + 4) 4
      (fadd (load32 view (a.elementAt threadId + 4))
        (load32 view (b.elementAt threadId + 4))).toNat).apply
    ((Store.ofNat (r.elementAt threadId) 4
        (load32 view (a.elementAt threadId) + load32 view (b.elementAt threadId)).toNat).apply
      view)

/-- The bytes of a thread's element. -/
def element (binding : UavBinding) (threadId : Nat) : Set Nat :=
  {cell | binding.elementAt threadId ≤ cell ∧ cell < binding.elementAt threadId + 8}

theorem load32_apply_apart (view : Nat → UInt8) {offset target value : Nat}
    (apart : offset + 4 ≤ target ∨ target + 4 ≤ offset) :
    load32 ((Store.ofNat target 4 value).apply view) offset = load32 view offset :=
  Memory.load32_storeLE_apart (.holding view) offset value apart

section Thread

variable {a b r : UavBinding} {opcodes : DxilOpcodes} {fadd : UInt32 → UInt32 → UInt32}

/-- The element of a thread in the output is apart from one of an input. -/
theorem elementAt_apart {input output : UavBinding}
    (apart : output.elementAt count ≤ input.elementAt 0 ∨
      input.elementAt count ≤ output.elementAt 0)
    (spansInput : input.Spans count) (spansOutput : output.Spans count) {first second : Nat}
    (firstBound : first < count) (secondBound : second < count) :
    output.elementAt first + 8 ≤ input.elementAt second ∨
      input.elementAt second + 8 ≤ output.elementAt first := by
  have inputEnd := spansInput.elementAt_add_le secondBound
  have outputEnd := spansOutput.elementAt_add_le firstBound
  have inputStart : input.elementAt 0 ≤ input.elementAt second :=
    Nat.add_le_add_left (Nat.mul_le_mul_right _ (Nat.zero_le _)) _
  have outputStart : output.elementAt 0 ≤ output.elementAt first :=
    Nat.add_le_add_left (Nat.mul_le_mul_right _ (Nat.zero_le _)) _
  omega

/-- A thread reads its elements of the inputs and writes its element of the output. -/
theorem Buffers.runsWithin_testMain (buffers : device.Buffers a b r count)
    (inRange : threadId < count) (view : Nat → UInt8) :
    (testMain opcodes fadd).RunsWithin (device.handler (dispatchedId threadId)) device.reads
      device.writes {cell | cell ∈ element a threadId ∨ cell ∈ element b threadId ∨
        cell ∈ element r threadId} (element r threadId) view ()
      (testOutcome fadd a b r view threadId) := by
  have locate := fun {uav binding} bound spans offset word =>
    @locate_element device binding count threadId buffers.handles uav bound spans inRange offset
      word
  have aLow : device.locate (device.handles 0) (dispatchedId threadId) 0 =
      some (a.elementAt threadId) := locate buffers.first buffers.spansFirst 0 (by decide)
  have aHigh : device.locate (device.handles 0) (dispatchedId threadId) 4 =
      some (a.elementAt threadId + 4) := locate buffers.first buffers.spansFirst 4 (by decide)
  have bLow : device.locate (device.handles 1) (dispatchedId threadId) 0 =
      some (b.elementAt threadId) := locate buffers.second buffers.spansSecond 0 (by decide)
  have bHigh : device.locate (device.handles 1) (dispatchedId threadId) 4 =
      some (b.elementAt threadId + 4) := locate buffers.second buffers.spansSecond 4 (by decide)
  have rLow : device.locate (device.handles 2) (dispatchedId threadId) 0 =
      some (r.elementAt threadId) := locate buffers.output buffers.spansOutput 0 (by decide)
  have rHigh : device.locate (device.handles 2) (dispatchedId threadId) 4 =
      some (r.elementAt threadId + 4) := locate buffers.output buffers.spansOutput 4 (by decide)
  have apartFirst := elementAt_apart buffers.apartFirst buffers.spansFirst buffers.spansOutput
    inRange inRange
  have apartSecond := elementAt_apart buffers.apartSecond buffers.spansSecond
    buffers.spansOutput inRange inRange
  refine runsWithin_threadId ?_
  refine runsWithin_createHandle 2 rfl ?_
  refine runsWithin_createHandle 1 rfl ?_
  refine runsWithin_createHandle 0 rfl ?_
  refine runsWithin_bufferLoadI32 aLow ?_ ?_
  · exact fun cell start finish => .inl ⟨by omega, by omega⟩
  refine runsWithin_bufferLoadI32 bLow ?_ ?_
  · exact fun cell start finish => .inr (.inl ⟨by omega, by omega⟩)
  refine runsWithin_bufferStoreI32 rLow ?_ ?_
  · exact fun cell start finish => ⟨by omega, by omega⟩
  -- The second loads see the inputs through the first store, which is apart from them.
  refine runsWithin_bufferLoadF32 aHigh ?_ ?_
  · exact fun cell start finish => .inl ⟨by omega, by omega⟩
  refine runsWithin_bufferLoadF32 bHigh ?_ ?_
  · exact fun cell start finish => .inr (.inl ⟨by omega, by omega⟩)
  refine runsWithin_bufferStoreF32 rHigh ?_ ?_
  · exact fun cell start finish => ⟨by omega, by omega⟩
  rw [load32_apply_apart view (by omega), load32_apply_apart view (by omega)]
  exact .done _ _

/-- No thread writes what another one reads. -/
theorem Buffers.raceFree_testMain (buffers : device.Buffers a b r count) (view : Nat → UInt8) :
    RaceFree (fun threadId => device.handler (dispatchedId threadId)) device.reads device.writes
      (fun _ => testMain opcodes fadd)
      (fun threadId => {cell | cell ∈ element a threadId ∨ cell ∈ element b threadId ∨
        cell ∈ element r threadId}) (element r) (List.range count) view
      (testOutcome fadd a b r view) := by
  have foreign : ∀ first < count, ∀ second < count, first ≠ second → ∀ cell ∈ element r first,
      ¬ (cell ∈ element a second ∨ cell ∈ element b second ∨ cell ∈ element r second) := by
    rintro first firstBound second secondBound different cell ⟨start, finish⟩ seen
    have apartFirst := elementAt_apart buffers.apartFirst buffers.spansFirst buffers.spansOutput
      firstBound secondBound
    have apartSecond := elementAt_apart buffers.apartSecond buffers.spansSecond
      buffers.spansOutput firstBound secondBound
    rcases seen with ⟨aStart, aFinish⟩ | ⟨bStart, bFinish⟩ | ⟨rStart, rFinish⟩
    · omega
    · omega
    · rcases Nat.lt_or_gt_of_ne different with before | after
      · have ordered := buffers.spansOutput.elementAt_add_le before
        omega
      · have ordered := buffers.spansOutput.elementAt_add_le after
        omega
  constructor
  · exact fun threadId _ => handler_local device (dispatchedId threadId)
  · exact fun threadId _ cell owned => .inr (.inr owned)
  · exact fun threadId member =>
      ⟨(), buffers.runsWithin_testMain (List.mem_range.mp member) view⟩
  · rw [List.pairwise_iff_getElem]
    intro i j iBound jBound ordered
    rw [List.length_range] at iBound jBound
    simp only [List.getElem_range]
    exact ⟨foreign i iBound j jBound (Nat.ne_of_lt ordered),
      foreign j jBound i iBound (Nat.ne_of_gt ordered)⟩

theorem load32_testOutcome_low (view : Nat → UInt8) (threadId : Nat) :
    load32 (testOutcome fadd a b r view threadId) (r.elementAt threadId) =
      load32 view (a.elementAt threadId) + load32 view (b.elementAt threadId) := by
  rw [testOutcome, load32_apply_apart _ (.inl (Nat.le_refl _))]
  exact Memory.load32_store32 (.holding view) _ _

theorem load32_testOutcome_high (view : Nat → UInt8) (threadId : Nat) :
    load32 (testOutcome fadd a b r view threadId) (r.elementAt threadId + 4) =
      fadd (load32 view (a.elementAt threadId + 4)) (load32 view (b.elementAt threadId + 4)) :=
  Memory.load32_store32 (.holding _) _ _

/-- In any order the threads leave the sums of the inputs in the output. -/
theorem Buffers.runThreads_testMain (buffers : device.Buffers a b r count) (view : Nat → UInt8)
    {order : List Nat} (permuted : order.Perm (List.range count)) :
    ∃ final, runThreads (fun threadId => device.handler (dispatchedId threadId))
        (fun _ => testMain opcodes fadd) order view = some final ∧
      (∀ t < count,
        load32 final (r.elementAt t) =
            load32 view (a.elementAt t) + load32 view (b.elementAt t) ∧
          load32 final (r.elementAt t + 4) =
            fadd (load32 view (a.elementAt t + 4)) (load32 view (b.elementAt t + 4))) ∧
      ∀ cell, (∀ t < count, cell ∉ element r t) → final cell = view cell := by
  obtain ⟨final, _, ran, owned, kept⟩ :=
    (@Buffers.raceFree_testMain device count a b r opcodes fadd buffers view).run_perm permuted
  have inElement : ∀ t < count, ∀ cell ∈ element r t,
      final cell = testOutcome fadd a b r view t cell := fun t bound =>
    owned t (List.mem_range.mpr bound)
  refine ⟨final, ran, ?_, ?_⟩
  · intro t bound
    rw [← load32_testOutcome_low, ← @load32_testOutcome_high a b r fadd]
    constructor
    · apply load32_congr
      intro k inWord
      exact inElement t bound _ ⟨by omega, by omega⟩
    · apply load32_congr
      intro k inWord
      exact inElement t bound _ ⟨by omega, by omega⟩
  · intro cell outside
    exact kept cell fun t member => outside t (List.mem_range.mp member)

end Thread

end Device

end VpuSim
