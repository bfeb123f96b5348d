import VpuSim.Shader.Lib

/-!
# Dispatching the native shader

Each thread reads its element of two inputs and stores two words into its element
of the output. Threads never read what another one stored, so a dispatch performs
the stores of its threads on the initial inputs, and their order does not matter.
-/

namespace VpuSim

open ByteMemory

/-- `shader_main`; `fadd` is the addition of two floats as 32-bit patterns. -/
def shaderMain (fadd : UInt32 → UInt32 → UInt32) (tls : VpuThreadLocalStorage)
    (memory : Memory) : Memory :=
  let threadId := dxOpThreadIdI32 tls
  let rUav := dxOpCreateHandle tls 2
  let bUav := dxOpCreateHandle tls 1
  let aUav := dxOpCreateHandle tls 0
  let a := dxOpBufferLoadI32 memory aUav threadId 0
  let b := dxOpBufferLoadI32 memory bUav threadId 0
  let i := a.v0 + b.v0
  let memory := dxOpBufferStoreI32 memory rUav threadId 0 i
  let a := dxOpBufferLoadF32 memory aUav threadId 4
  let b := dxOpBufferLoadF32 memory bUav threadId 4
  let f := fadd a.v0 b.v0
  dxOpBufferStoreF32 memory rUav threadId 4 f

/-- The loop over the threads, in the order of their ids in the list. -/
def dispatch (fadd : UInt32 → UInt32 → UInt32) :
    List Nat → VpuThreadLocalStorage → Memory → Memory
  | [], _, memory => memory
  | threadId :: rest, tls, memory =>
    let tls := { tls with id := Int32.ofNat threadId }
    dispatch fadd rest tls (shaderMain fadd tls memory)

namespace VpuResourceDescriptor

/-- The size of an element, for a positive element size. -/
def stride (uav : VpuResourceDescriptor) : Nat := uav.elementSize.toInt.toNat

/-- Where element `index` starts in the process memory. -/
def elementAt (uav : VpuResourceDescriptor) (index : Nat) : Nat :=
  uav.base.toNat + index * uav.stride

/-- The first `count` elements have room for both words and lie in the memory. -/
structure Spans (uav : VpuResourceDescriptor) (count : Nat) : Prop where
  elementSize : 8 ≤ uav.elementSize.toInt
  total : count * uav.stride ≤ 2 ^ 31
  inMemory : uav.elementAt count ≤ 2 ^ 64

/-- The first `count` elements of the two have no byte in common. -/
def ApartUpTo (first second : VpuResourceDescriptor) (count : Nat) : Prop :=
  first.elementAt count ≤ second.base.toNat ∨ second.elementAt count ≤ first.base.toNat

instance (first second : VpuResourceDescriptor) (count : Nat) :
    Decidable (first.ApartUpTo second count) :=
  inferInstanceAs (Decidable (_ ∨ _))

variable {uav : VpuResourceDescriptor} {count : Nat}

theorem Spans.stride_ge (spans : uav.Spans count) : 8 ≤ uav.stride := by
  have elementSize := spans.elementSize
  rw [stride]
  omega

/-- An element ends before the next one starts. -/
theorem Spans.elementAt_add_le (spans : uav.Spans count) {first second : Nat}
    (ordered : first < second) : uav.elementAt first + 8 ≤ uav.elementAt second := by
  have next : (first + 1) * uav.stride ≤ second * uav.stride := Nat.mul_le_mul_right _ ordered
  have room := spans.stride_ge
  rw [Nat.succ_mul] at next
  rw [elementAt, elementAt]
  omega

theorem base_le_elementAt (index : Nat) : uav.base.toNat ≤ uav.elementAt index :=
  Nat.le_add_right _ _

/-- The pointer arithmetic of an access to a word of an element is exact. -/
theorem Spans.element_eq (spans : uav.Spans count) {index : Nat} (bound : index < count)
    {offset : UInt32} (word : offset.toNat + 4 ≤ 8) :
    (uav.element (Int32.ofNat index).toUInt32 offset).toNat =
      uav.elementAt index + offset.toNat := by
  have room := spans.stride_ge
  have total := spans.total
  have inMemory := spans.inMemory
  have inElement := spans.elementAt_add_le bound
  have few : count * 8 ≤ count * uav.stride := Nat.mul_le_mul_left count room
  have product : index * uav.stride ≤ count * uav.stride := Nat.mul_le_mul_right _ bound.le
  have size : uav.elementSize.toUInt32.toNat = uav.stride :=
    toNat_toUInt32_of_pos (Int.lt_of_lt_of_le (by decide) spans.elementSize)
  have id : (Int32.ofNat index).toUInt32.toNat = index := by
    have small : (Int32.ofNat index).toUInt32.toNat = index % 2 ^ 32 := rfl
    rw [small]
    omega
  simp only [elementAt] at inElement inMemory ⊢
  rw [toNat_element size (by rw [id]; omega) (by rw [id]; omega), id]

/-- The address belongs to one of the first `count` elements. -/
def Contains (uav : VpuResourceDescriptor) (count address : Nat) : Prop :=
  uav.base.toNat ≤ address ∧ address < uav.elementAt count

theorem Spans.contains (spans : uav.Spans count) {index k : Nat} (bound : index < count)
    (inElement : k < 8) : uav.Contains count (uav.elementAt index + k) := by
  have finish := spans.elementAt_add_le bound
  have start := @base_le_elementAt uav index
  exact ⟨by omega, by omega⟩

/-- A store to an element of one misses every byte of the other. -/
theorem Spans.not_covers {other : VpuResourceDescriptor} (spans : uav.Spans count)
    (apart : uav.ApartUpTo other count) {index : Nat} (bound : index < count) {store : Store}
    (lies : store.LiesIn (uav.elementAt index) 8) {address : Nat}
    (contained : other.Contains count address) : ¬ store.Covers address := by
  rintro ⟨start, finish⟩
  have inElement := spans.elementAt_add_le bound
  have first := @base_le_elementAt uav index
  have storeStart := lies.1
  have storeFinish := lies.2
  have otherStart := contained.1
  have otherFinish := contained.2
  rcases apart with before | after
  · omega
  · omega

end VpuResourceDescriptor

/-- The stores of one thread on inputs as `contents` has them. -/
def threadStores (fadd : UInt32 → UInt32 → UInt32) (uavs : Vector VpuResourceDescriptor 4)
    (contents : Nat → UInt8) (threadId : Nat) : List Store :=
  let a := uavs[0].elementAt threadId
  let b := uavs[1].elementAt threadId
  let r := uavs[2].elementAt threadId
  [.ofNat r 4 (load32 contents a + load32 contents b).toNat,
    .ofNat (r + 4) 4 (fadd (load32 contents (a + 4)) (load32 contents (b + 4))).toNat]

/-- The three buffers of a dispatch of `count` threads; the inputs may overlap. -/
structure DispatchLayout (uavs : Vector VpuResourceDescriptor 4) (count : Nat) : Prop where
  first : uavs[0].Spans count
  second : uavs[1].Spans count
  output : uavs[2].Spans count
  firstApart : uavs[2].ApartUpTo uavs[0] count
  secondApart : uavs[2].ApartUpTo uavs[1] count

namespace DispatchLayout

variable {uavs : Vector VpuResourceDescriptor 4} {count : Nat} {contents : Nat → UInt8}
  {fadd : UInt32 → UInt32 → UInt32}

theorem liesIn_of_mem {threadId : Nat} {store : Store}
    (member : store ∈ threadStores fadd uavs contents threadId) :
    store.LiesIn (uavs[2].elementAt threadId) 8 := by
  simp only [threadStores, List.mem_cons, List.not_mem_nil, or_false] at member
  rcases member with rfl | rfl
  · exact ⟨Nat.le_refl _, Nat.add_le_add_left (by decide : 4 ≤ 8) _⟩
  · exact ⟨Nat.le_add_right _ _, Nat.le_of_eq (Nat.add_assoc _ 4 4)⟩

/-- The memory still has the inputs of the dispatch. -/
def KeepsInputs (uavs : Vector VpuResourceDescriptor 4) (count : Nat)
    (contents : Nat → UInt8) (memory : Memory) : Prop :=
  ∀ address, uavs[0].Contains count address ∨ uavs[1].Contains count address →
    memory.byte address = contents address

theorem KeepsInputs.storeAll (layout : DispatchLayout uavs count) {memory : Memory}
    (keeps : KeepsInputs uavs count contents memory) {threadId : Nat}
    (bound : threadId < count) {stores : List Store}
    (inElement : ∀ store ∈ stores, store.LiesIn (uavs[2].elementAt threadId) 8) :
    KeepsInputs uavs count contents (memory.storeAll stores) := by
  intro address input
  rw [Memory.byte_storeAll, replay_of_not_covers, keeps address input]
  intro store member
  rcases input with first | second
  · exact layout.output.not_covers layout.firstApart bound (inElement store member) first
  · exact layout.output.not_covers layout.secondApart bound (inElement store member) second

section Accesses

variable {memory : Memory} {uav : VpuResourceDescriptor} {threadId : Nat} {offset : UInt32}

theorem load32_input (spans : uav.Spans count)
    (agree : ∀ address, uav.Contains count address → memory.byte address = contents address)
    (bound : threadId < count) (word : offset.toNat + 4 ≤ 8) :
    load32 memory.byte (uav.element (Int32.ofNat threadId).toUInt32 offset).toNat =
      load32 contents (uav.elementAt threadId + offset.toNat) := by
  rw [spans.element_eq bound word]
  apply load32_congr
  intro k inWord
  apply agree
  rw [Nat.add_assoc]
  exact spans.contains bound (by omega)

theorem bufferLoadI32_input (spans : uav.Spans count)
    (agree : ∀ address, uav.Contains count address → memory.byte address = contents address)
    (bound : threadId < count) (word : offset.toNat + 4 ≤ 8) :
    (dxOpBufferLoadI32 memory uav (Int32.ofNat threadId).toUInt32 offset).v0 =
      .ofUInt32 (load32 contents (uav.elementAt threadId + offset.toNat)) :=
  congrArg Int32.ofUInt32 (load32_input spans agree bound word)

theorem bufferLoadF32_input (spans : uav.Spans count)
    (agree : ∀ address, uav.Contains count address → memory.byte address = contents address)
    (bound : threadId < count) (word : offset.toNat + 4 ≤ 8) :
    (dxOpBufferLoadF32 memory uav (Int32.ofNat threadId).toUInt32 offset).v0 =
      load32 contents (uav.elementAt threadId + offset.toNat) :=
  load32_input spans agree bound word

theorem bufferStoreF32_eq (spans : uav.Spans count) (bound : threadId < count)
    (word : offset.toNat + 4 ≤ 8) (value : UInt32) :
    dxOpBufferStoreF32 memory uav (Int32.ofNat threadId).toUInt32 offset value =
      memory.storeAll [.ofNat (uav.elementAt threadId + offset.toNat) 4 value.toNat] := by
  rw [dxOpBufferStoreF32, spans.element_eq bound word]
  rfl

end Accesses

/-- A thread performs its two stores, as computed from the initial inputs. -/
theorem shaderMain_eq {tls : VpuThreadLocalStorage} (layout : DispatchLayout tls.uavs count)
    {memory : Memory} (keeps : KeepsInputs tls.uavs count contents memory) {threadId : Nat}
    (bound : threadId < count) :
    shaderMain fadd { tls with id := Int32.ofNat threadId } memory =
      memory.storeAll (threadStores fadd tls.uavs contents threadId) := by
  have wrote : dxOpBufferStoreI32 memory tls.uavs[2] (Int32.ofNat threadId).toUInt32 0
      ((dxOpBufferLoadI32 memory tls.uavs[0] (Int32.ofNat threadId).toUInt32 0).v0
        + (dxOpBufferLoadI32 memory tls.uavs[1] (Int32.ofNat threadId).toUInt32 0).v0) =
      memory.storeAll [.ofNat (tls.uavs[2].elementAt threadId) 4
        (load32 contents (tls.uavs[0].elementAt threadId)
          + load32 contents (tls.uavs[1].elementAt threadId)).toNat] := by
    rw [bufferLoadI32_input layout.first (fun address => keeps address ∘ .inl) bound (by decide),
      bufferLoadI32_input layout.second (fun address => keeps address ∘ .inr) bound (by decide)]
    exact bufferStoreF32_eq layout.output bound (by decide) _
  have inElement : ∀ store ∈ [Store.ofNat (tls.uavs[2].elementAt threadId) 4
      (load32 contents (tls.uavs[0].elementAt threadId)
        + load32 contents (tls.uavs[1].elementAt threadId)).toNat],
      store.LiesIn (tls.uavs[2].elementAt threadId) 8 := by
    intro store member
    rw [List.mem_singleton.mp member]
    exact ⟨Nat.le_refl _, Nat.add_le_add_left (by decide : 4 ≤ 8) _⟩
  have keepsAfter := keeps.storeAll layout bound inElement
  have aUav : dxOpCreateHandle { tls with id := Int32.ofNat threadId } 0 = tls.uavs[0] := rfl
  have bUav : dxOpCreateHandle { tls with id := Int32.ofNat threadId } 1 = tls.uavs[1] := rfl
  have rUav : dxOpCreateHandle { tls with id := Int32.ofNat threadId } 2 = tls.uavs[2] := rfl
  simp only [shaderMain, dxOpThreadIdI32, aUav, bUav, rUav, wrote]
  rw [bufferLoadF32_input layout.first (fun address => keepsAfter address ∘ .inl) bound (by decide),
    bufferLoadF32_input layout.second (fun address => keepsAfter address ∘ .inr) bound (by decide),
    bufferStoreF32_eq layout.output bound (by decide), Memory.storeAll_storeAll]
  rfl

/-- A dispatch performs the stores of its threads in their order. -/
theorem dispatch_eq {order : List Nat} {tls : VpuThreadLocalStorage}
    (layout : DispatchLayout tls.uavs count) {memory : Memory}
    (keeps : KeepsInputs tls.uavs count contents memory)
    (bounded : ∀ threadId ∈ order, threadId < count) :
    dispatch fadd order tls memory =
      memory.storeAll (order.flatMap (threadStores fadd tls.uavs contents)) := by
  induction order generalizing tls memory with
  | nil => simp [dispatch]
  | cons threadId rest ih =>
    have bound := bounded threadId (List.mem_cons_self ..)
    have thread := @shaderMain_eq count contents fadd tls layout memory keeps threadId bound
    have keepsAfter := keeps.storeAll layout bound fun _ => @liesIn_of_mem tls.uavs contents fadd threadId _
    rw [dispatch, thread, List.flatMap_cons, ← Memory.storeAll_storeAll]
    exact @ih { tls with id := Int32.ofNat threadId } layout _ keepsAfter fun other member =>
      bounded other (List.mem_cons_of_mem _ member)

theorem threadStores_apart {order : List Nat} (layout : DispatchLayout uavs count)
    (distinct : order.Nodup) :
    (order.flatMap (threadStores fadd uavs contents)).Pairwise Store.Apart := by
  rw [List.pairwise_flatMap]
  constructor
  · intro threadId _
    refine List.pairwise_pair.mpr (Store.apart_of_le (.inl ?_))
    exact Nat.le_refl _
  · refine distinct.imp ?_
    intro first second different store inFirst other inSecond
    have firstLies := liesIn_of_mem inFirst
    have secondLies := liesIn_of_mem inSecond
    apply Store.apart_of_le
    rcases Nat.lt_or_gt_of_ne different with before | after
    · exact .inl ((firstLies.2.trans (layout.output.elementAt_add_le before)).trans secondLies.1)
    · exact .inr ((secondLies.2.trans (layout.output.elementAt_add_le after)).trans firstLies.1)

/-- The bytes after a dispatch of all threads, in whichever order. -/
theorem byte_dispatch {order : List Nat} {tls : VpuThreadLocalStorage}
    (layout : DispatchLayout tls.uavs count) (memory : Memory)
    (perm : order.Perm (List.range count)) :
    (dispatch fadd order tls memory).byte =
      replay memory.byte (order.flatMap (threadStores fadd tls.uavs memory.byte)) := by
  have keeps : KeepsInputs tls.uavs count memory.byte memory := fun _ _ => rfl
  have bounded : ∀ threadId ∈ order, threadId < count := fun _ member =>
    List.mem_range.mp (perm.mem_iff.mp member)
  rw [layout.dispatch_eq keeps bounded, Memory.byte_storeAll]

theorem not_covers_of_outside {order : List Nat} {address : Nat}
    (outside : ∀ threadId ∈ order, address < uavs[2].elementAt threadId ∨
      uavs[2].elementAt threadId + 8 ≤ address) :
    ∀ store ∈ order.flatMap (threadStores fadd uavs contents), ¬ store.Covers address := by
  rintro store member ⟨start, finish⟩
  obtain ⟨threadId, inOrder, performed⟩ := List.mem_flatMap.mp member
  have lies := liesIn_of_mem performed
  rcases outside threadId inOrder with before | after
  · exact absurd (before.trans_le (lies.1.trans start)) (Nat.lt_irrefl _)
  · exact absurd (finish.trans_le (lies.2.trans after)) (Nat.lt_irrefl _)

end DispatchLayout

/-- Whatever the order of the threads, the output holds the element-wise sums of the
initial inputs and nothing else changes. -/
theorem dispatch_sums (fadd : UInt32 → UInt32 → UInt32) {tls : VpuThreadLocalStorage}
    {count : Nat} (layout : DispatchLayout tls.uavs count) (memory : Memory)
    {order : List Nat} (perm : order.Perm (List.range count)) :
    (∀ t < count,
      load32 (dispatch fadd order tls memory).byte (tls.uavs[2].elementAt t) =
          load32 memory.byte (tls.uavs[0].elementAt t)
            + load32 memory.byte (tls.uavs[1].elementAt t) ∧
        load32 (dispatch fadd order tls memory).byte (tls.uavs[2].elementAt t + 4) =
          fadd (load32 memory.byte (tls.uavs[0].elementAt t + 4))
            (load32 memory.byte (tls.uavs[1].elementAt t + 4))) ∧
      (∀ address,
        (∀ t < count, address < tls.uavs[2].elementAt t ∨ tls.uavs[2].elementAt t + 8 ≤ address) →
        (dispatch fadd order tls memory).byte address = memory.byte address) ∧
      ∀ other : List Nat, other.Perm (List.range count) →
        (dispatch fadd other tls memory).byte = (dispatch fadd order tls memory).byte := by
  have apart := @DispatchLayout.threadStores_apart tls.uavs count memory.byte fadd order layout
    (perm.nodup_iff.mpr List.nodup_range)
  rw [layout.byte_dispatch memory perm]
  refine ⟨?_, ?_, ?_⟩
  · intro t bound
    have performed : ∀ store ∈ threadStores fadd tls.uavs memory.byte t,
        store ∈ order.flatMap (threadStores fadd tls.uavs memory.byte) := fun store member =>
      List.mem_flatMap.mpr ⟨t, perm.mem_iff.mpr (List.mem_range.mpr bound), member⟩
    constructor
    · exact load32_replay_of_apart apart (performed _ (List.mem_cons_self ..)) _
    · exact load32_replay_of_apart apart
        (performed _ (List.mem_cons_of_mem _ (List.mem_cons_self ..))) _
  · intro address outside
    apply replay_of_not_covers
    apply DispatchLayout.not_covers_of_outside
    intro t inOrder
    exact outside t (List.mem_range.mp (perm.mem_iff.mp inOrder))
  · intro other permuted
    rw [layout.byte_dispatch memory permuted]
    exact (replay_perm ((perm.trans permuted.symm).flatMap_right _) apart _).symm

/-- Three buffers of four elements, the first two overlapping. -/
def smallTls : VpuThreadLocalStorage where
  id := 0
  uavs := #v[⟨4096, 8⟩, ⟨4104, 8⟩, ⟨8192, 12⟩, ⟨0, 0⟩]

theorem dispatch_sums_small :
    let final := (dispatch (· + ·) [2, 0, 3, 1] smallTls (.holding fun _ => 1)).byte
    let initial := (Memory.holding fun _ => 1).byte
    (∀ t < 4,
      load32 final (smallTls.uavs[2].elementAt t) =
          load32 initial (smallTls.uavs[0].elementAt t)
            + load32 initial (smallTls.uavs[1].elementAt t) ∧
        load32 final (smallTls.uavs[2].elementAt t + 4) =
          load32 initial (smallTls.uavs[0].elementAt t + 4)
            + load32 initial (smallTls.uavs[1].elementAt t + 4)) ∧
      (∀ address,
        (∀ t < 4, address < smallTls.uavs[2].elementAt t ∨
          smallTls.uavs[2].elementAt t + 8 ≤ address) →
        final address = initial address) ∧
      ∀ other : List Nat, other.Perm (List.range 4) →
        (dispatch (· + ·) other smallTls (.holding fun _ => 1)).byte = final :=
  @dispatch_sums (· + ·) smallTls 4
    ⟨⟨by decide, by decide, by decide⟩, ⟨by decide, by decide, by decide⟩,
      ⟨by decide, by decide, by decide⟩, by decide, by decide⟩
    (.holding fun _ => 1) [2, 0, 3, 1] (by decide)

end VpuSim
