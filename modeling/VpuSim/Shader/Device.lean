import VpuSim.Shader.Handles
import VpuSim.Sim.SharedStore

/-!
# What a shader's intrinsics mean

To a shader the device is the bytes of the store and the bindings of the UAVs. A call is
allowed where its access lies in the store, and answered from those bytes. The library
behind the thunks simulates this device as long as `g_tls` holds the descriptors of the
bindings and lies outside the store.
-/

set_option linter.dupNamespace false

namespace VpuSim

open ByteMemory Transition

/-- The bindings of the UAVs and the handles that stand for them. -/
structure Device where
  bindings : Fin 4 → Option UavBinding
  handles : Fin 4 → DxTypesHandle

namespace Device

def register (self : Device) (handle : DxTypesHandle) : Option (Fin 4) :=
  (List.finRange 4).find? fun uav => self.handles uav = handle

/-- The store offset that an access reaches, `none` where it leaves the store. -/
def locate (self : Device) (handle : DxTypesHandle) (index offset : UInt32) : Option Nat :=
  (self.register handle).bind fun uav =>
    if (StoreHistory.mk self.bindings []).Reaches ⟨uav, index, offset⟩ then
      some ((StoreHistory.mk self.bindings []).denoted ⟨uav, index, offset⟩)
    else none

def handler (self : Device) (threadId : UInt32) : Handler DxilCall DxilCall.Answer (Nat → UInt8)
  | .createHandle _ resourceClass _ index _, view =>
    if bound : resourceClass = kVpuResourceClassUAV ∧ index.toNat < 4 then
      some (self.handles ⟨index.toNat, bound.2⟩, view)
    else none
  | .bufferLoadI32 _ handle index offset, view =>
    (self.locate handle index offset).map fun target =>
      (⟨.ofUInt32 (load32 view target), 0, 0, 0, 0⟩, view)
  | .bufferLoadF32 _ handle index offset, view =>
    (self.locate handle index offset).map fun target => (⟨load32 view target, 0, 0, 0, 0⟩, view)
  | .bufferStoreF32 _ handle index offset v0 _ _ _ mask, view =>
    if mask = 1 then
      (self.locate handle index offset).map fun target =>
        ((), (Store.ofNat target 4 v0.toNat).apply view)
    else none
  | .bufferStoreI32 _ handle index offset v0 _ _ _ mask, view =>
    if mask = 1 then
      (self.locate handle index offset).map fun target =>
        ((), (Store.ofNat target 4 v0.toUInt32.toNat).apply view)
    else none
  | .threadIdI32 _ component, view => if component = 0 then some (threadId, view) else none

section Footprint

/-- The four bytes of an access. -/
def word (self : Device) (handle : DxTypesHandle) (index offset : UInt32) : Set Nat :=
  {cell | ∃ target ∈ self.locate handle index offset, target ≤ cell ∧ cell < target + 4}

def reads (self : Device) : DxilCall → Set Nat
  | .bufferLoadI32 _ handle index offset | .bufferLoadF32 _ handle index offset =>
    self.word handle index offset
  | .createHandle .. | .bufferStoreF32 .. | .bufferStoreI32 .. | .threadIdI32 .. => {_cell | False}

def writes (self : Device) : DxilCall → Set Nat
  | .bufferStoreF32 _ handle index offset .. | .bufferStoreI32 _ handle index offset .. =>
    self.word handle index offset
  | .createHandle .. | .bufferLoadI32 .. | .bufferLoadF32 .. | .threadIdI32 .. => {_cell | False}

variable {self : Device} {handle : DxTypesHandle} {index offset : UInt32} {target : Nat}

theorem mem_word (located : self.locate handle index offset = some target) (cell : Nat) :
    cell ∈ self.word handle index offset ↔ target ≤ cell ∧ cell < target + 4 := by
  constructor
  · rintro ⟨other, found, inWord⟩
    rw [located] at found
    cases found
    exact inWord
  · exact fun inWord => ⟨target, located, inWord⟩

theorem load32_eq_of_word (located : self.locate handle index offset = some target)
    {first second : Nat → UInt8}
    (agree : ∀ cell ∈ self.word handle index offset, first cell = second cell) :
    load32 first target = load32 second target := by
  apply load32_congr
  intro k bound
  apply agree
  exact (mem_word located _).mpr ⟨Nat.le_add_right _ _, Nat.add_lt_add_left bound _⟩

/-- A word stored into two views leaves the same bytes in both. -/
theorem apply_eq_of_word (located : self.locate handle index offset = some target)
    (value : Nat) (first second : Nat → UInt8) :
    ∀ cell ∈ self.word handle index offset,
      (Store.ofNat target 4 value).apply first cell =
        (Store.ofNat target 4 value).apply second cell := by
  intro cell member
  have covered : (Store.ofNat target 4 value).Covers cell := (mem_word located cell).mp member
  rw [Store.apply_of_covers covered, Store.apply_of_covers covered]

theorem apply_eq_of_not_word (located : self.locate handle index offset = some target)
    (value : Nat) (view : Nat → UInt8) :
    ∀ cell ∉ self.word handle index offset,
      (Store.ofNat target 4 value).apply view cell = view cell := by
  intro cell outside
  apply Store.apply_of_not_covers
  exact fun covered => outside ((mem_word located cell).mpr covered)

theorem handler_local (self : Device) (threadId : UInt32) :
    (self.handler threadId).Local self.reads self.writes := by
  constructor
  · intro call first second answer after answered agree
    cases call with
    | createHandle opcode resourceClass rangeId index nonUniform =>
      simp only [handler] at answered ⊢
      split at answered
      · rename_i allowed
        cases answered
        exact ⟨second, dif_pos allowed, fun _ impossible => impossible.elim⟩
      · cases answered
    | bufferLoadI32 opcode handle index offset =>
      obtain ⟨target, located, same⟩ := Option.map_eq_some_iff.mp answered
      cases same
      have word := load32_eq_of_word located agree
      refine ⟨second, ?_, fun _ impossible => impossible.elim⟩
      simp only [handler, located, Option.map_some, word]
    | bufferLoadF32 opcode handle index offset =>
      obtain ⟨target, located, same⟩ := Option.map_eq_some_iff.mp answered
      cases same
      have word := load32_eq_of_word located agree
      refine ⟨second, ?_, fun _ impossible => impossible.elim⟩
      simp only [handler, located, Option.map_some, word]
    | bufferStoreF32 opcode handle index offset v0 v1 v2 v3 mask =>
      simp only [handler] at answered ⊢
      split at answered
      · rename_i full
        obtain ⟨target, located, same⟩ := Option.map_eq_some_iff.mp answered
        cases same
        rw [if_pos full, located]
        exact ⟨_, rfl, apply_eq_of_word located v0.toNat first second⟩
      · cases answered
    | bufferStoreI32 opcode handle index offset v0 v1 v2 v3 mask =>
      simp only [handler] at answered ⊢
      split at answered
      · rename_i full
        obtain ⟨target, located, same⟩ := Option.map_eq_some_iff.mp answered
        cases same
        rw [if_pos full, located]
        exact ⟨_, rfl, apply_eq_of_word located v0.toUInt32.toNat first second⟩
      · cases answered
    | threadIdI32 opcode component =>
      simp only [handler] at answered ⊢
      split at answered
      · rename_i single
        cases answered
        exact ⟨second, if_pos single, fun _ impossible => impossible.elim⟩
      · cases answered
  · intro call view answer after answered cell outside
    cases call with
    | createHandle opcode resourceClass rangeId index nonUniform =>
      simp only [handler] at answered
      split at answered
      · cases answered
        rfl
      · cases answered
    | bufferLoadI32 opcode handle index offset | bufferLoadF32 opcode handle index offset =>
      obtain ⟨target, located, same⟩ := Option.map_eq_some_iff.mp answered
      cases same
      rfl
    | bufferStoreF32 opcode handle index offset v0 v1 v2 v3 mask
    | bufferStoreI32 opcode handle index offset v0 v1 v2 v3 mask =>
      simp only [handler] at answered
      split at answered
      · obtain ⟨target, located, same⟩ := Option.map_eq_some_iff.mp answered
        cases same
        exact apply_eq_of_not_word located _ view cell outside
      · cases answered
    | threadIdI32 opcode component =>
      simp only [handler] at answered
      split at answered
      · cases answered
        rfl
      · cases answered

section Rules

variable {threadId : UInt32} {sees owns : Set Nat} {result : Unit} {view after : Nat → UInt8}

theorem runsWithin_threadId {opcode : UInt32} {next : UInt32 → DxilShader}
    (rest : (next threadId).RunsWithin (self.handler threadId) self.reads self.writes sees owns
      view result after) :
    Program.RunsWithin (self.handler threadId) self.reads self.writes sees owns
      (.call (.threadIdI32 opcode 0) next) view result after := by
  have answered : self.handler threadId (.threadIdI32 opcode 0) view = some (threadId, view) := by
    rw [handler, if_pos rfl]
  refine .call answered ?_ ?_ rest
  · exact fun _ impossible => impossible.elim
  · exact fun _ impossible => impossible.elim

theorem runsWithin_createHandle {opcode rangeId index : UInt32} {nonUniform : Bool}
    {next : DxTypesHandle → DxilShader} (uav : Fin 4) (register : index.toNat = uav.val)
    (rest : (next (self.handles uav)).RunsWithin (self.handler threadId) self.reads self.writes
      sees owns view result after) :
    Program.RunsWithin (self.handler threadId) self.reads self.writes sees owns
      (.call (.createHandle opcode kVpuResourceClassUAV rangeId index nonUniform) next) view
      result after := by
  have few : index.toNat < 4 := register ▸ uav.isLt
  have same : (⟨index.toNat, few⟩ : Fin 4) = uav := Fin.ext register
  have answered : self.handler threadId
      (.createHandle opcode kVpuResourceClassUAV rangeId index nonUniform) view =
        some (self.handles uav, view) := by
    rw [handler, dif_pos ⟨rfl, few⟩, same]
  refine .call answered ?_ ?_ rest
  · exact fun _ impossible => impossible.elim
  · exact fun _ impossible => impossible.elim

variable {opcode : UInt32} {target : Nat}

theorem runsWithin_bufferLoadI32 {next : DxTypesResRet Int32 → DxilShader}
    (located : self.locate handle index offset = some target)
    (seen : ∀ cell, target ≤ cell → cell < target + 4 → cell ∈ sees)
    (rest : (next ⟨.ofUInt32 (load32 view target), 0, 0, 0, 0⟩).RunsWithin
      (self.handler threadId) self.reads self.writes sees owns view result after) :
    Program.RunsWithin (self.handler threadId) self.reads self.writes sees owns
      (.call (.bufferLoadI32 opcode handle index offset) next) view result after := by
  refine .call (by rw [handler, located]; rfl) ?_ ?_ rest
  · intro cell member
    obtain ⟨start, finish⟩ := (mem_word located cell).mp member
    exact seen cell start finish
  · exact fun _ impossible => impossible.elim

theorem runsWithin_bufferLoadF32 {next : DxTypesResRet UInt32 → DxilShader}
    (located : self.locate handle index offset = some target)
    (seen : ∀ cell, target ≤ cell → cell < target + 4 → cell ∈ sees)
    (rest : (next ⟨load32 view target, 0, 0, 0, 0⟩).RunsWithin
      (self.handler threadId) self.reads self.writes sees owns view result after) :
    Program.RunsWithin (self.handler threadId) self.reads self.writes sees owns
      (.call (.bufferLoadF32 opcode handle index offset) next) view result after := by
  refine .call (by rw [handler, located]; rfl) ?_ ?_ rest
  · intro cell member
    obtain ⟨start, finish⟩ := (mem_word located cell).mp member
    exact seen cell start finish
  · exact fun _ impossible => impossible.elim

theorem runsWithin_bufferStoreI32 {v0 v1 v2 v3 : Int32} {next : Unit → DxilShader}
    (located : self.locate handle index offset = some target)
    (owned : ∀ cell, target ≤ cell → cell < target + 4 → cell ∈ owns)
    (rest : (next ()).RunsWithin (self.handler threadId) self.reads self.writes sees owns
      ((Store.ofNat target 4 v0.toUInt32.toNat).apply view) result after) :
    Program.RunsWithin (self.handler threadId) self.reads self.writes sees owns
      (.call (.bufferStoreI32 opcode handle index offset v0 v1 v2 v3 1) next) view result
      after := by
  refine .call (by rw [handler, if_pos rfl, located]; rfl) ?_ ?_ rest
  · exact fun _ impossible => impossible.elim
  · intro cell member
    obtain ⟨start, finish⟩ := (mem_word located cell).mp member
    exact owned cell start finish

theorem runsWithin_bufferStoreF32 {v0 v1 v2 v3 : UInt32} {next : Unit → DxilShader}
    (located : self.locate handle index offset = some target)
    (owned : ∀ cell, target ≤ cell → cell < target + 4 → cell ∈ owns)
    (rest : (next ()).RunsWithin (self.handler threadId) self.reads self.writes sees owns
      ((Store.ofNat target 4 v0.toNat).apply view) result after) :
    Program.RunsWithin (self.handler threadId) self.reads self.writes sees owns
      (.call (.bufferStoreF32 opcode handle index offset v0 v1 v2 v3 1) next) view result
      after := by
  refine .call (by rw [handler, if_pos rfl, located]; rfl) ?_ ?_ rest
  · exact fun _ impossible => impossible.elim
  · intro cell member
    obtain ⟨start, finish⟩ := (mem_word located cell).mp member
    exact owned cell start finish

end Rules

end Footprint

/-- `contents` has, outside the store at `block`, a `g_tls` with the descriptors of the
device's bindings. -/
structure Attached (device : Device) (lib : VpuShaderLib) (block : Nat)
    (contents : Nat → UInt8) : Prop where
  inAddressSpace : block + 2 ^ 20 < 2 ^ 64
  tlsInAddressSpace : lib.gTls.toNat + sizeofVpuThreadLocalStorage ≤ 2 ^ 64
  apart : lib.gTls.toNat + sizeofVpuThreadLocalStorage ≤ block ∨
    block + 2 ^ 20 ≤ lib.gTls.toNat
  handles : ∀ uav, device.handles uav = lib.gTls + 8 + UInt64.ofNat uav.val * 16
  descriptors : ∀ uav binding, device.bindings uav = some binding →
    VpuResourceDescriptor.read contents (lib.gTls.toNat + uavOffset uav.val) =
      ⟨UInt64.ofNat block + binding.address.offset, binding.elementSize⟩

/-- The memory shows the view in the store at `block` and `contents` everywhere else. -/
structure Shows (block : Nat) (contents : Nat → UInt8) (memory : Memory) (view : Nat → UInt8) :
    Prop where
  inside : ∀ k < 2 ^ 20, memory.byte (block + k) = view k
  outside : ∀ address, address < block ∨ block + 2 ^ 20 ≤ address →
    memory.byte address = contents address

variable {self : Device} {lib : VpuShaderLib} {block : Nat} {contents : Nat → UInt8}
  {memory : Memory} {view : Nat → UInt8}

/-- Descriptors that the host writes to `g_tls` attach the device. -/
theorem attached_writeUavs (inAddressSpace : block + 2 ^ 20 < 2 ^ 64)
    (tlsInAddressSpace : lib.gTls.toNat + sizeofVpuThreadLocalStorage ≤ 2 ^ 64)
    (apart : lib.gTls.toNat + sizeofVpuThreadLocalStorage ≤ block ∨
      block + 2 ^ 20 ≤ lib.gTls.toNat)
    (handles : ∀ uav, self.handles uav = lib.gTls + 8 + UInt64.ofNat uav.val * 16)
    {tls : VpuThreadLocalStorage}
    (resolved : ∀ uav binding, self.bindings uav = some binding →
      tls.uavs.get uav = ⟨UInt64.ofNat block + binding.address.offset, binding.elementSize⟩)
    (memory : Memory) :
    self.Attached lib block (VpuThreadLocalStorage.writeUavs lib.gTls.toNat tls memory).byte := by
  constructor
  · exact inAddressSpace
  · exact tlsInAddressSpace
  · exact apart
  · exact handles
  · intro uav binding bound
    rw [← resolved uav binding bound]
    exact VpuThreadLocalStorage.read_writeUavs lib.gTls.toNat tls memory uav

theorem Shows.load32_eq (shows : Shows block contents memory view) {target : Nat}
    (inStore : target + 4 ≤ 2 ^ 20) :
    load32 memory.byte (block + target) = load32 view target := by
  apply load32_congr
  intro k bound
  rw [Nat.add_assoc]
  exact shows.inside _ (by omega)

theorem Shows.store (shows : Shows block contents memory view) {target : Nat}
    (inStore : target + 4 ≤ 2 ^ 20) (value : UInt32) :
    Shows block contents (memory.store32 (block + target) value)
      ((Store.ofNat target 4 value.toNat).apply view) := by
  have shifted : memory.store32 (block + target) value =
      memory.store ((Store.ofNat target 4 value.toNat).shift block) := rfl
  constructor
  · intro k bound
    rw [shifted, Memory.byte_store, Store.apply_shift]
    simp only [Store.apply, shows.inside k bound]
  · intro address away
    rw [Memory.byte_store32_outside _ _ _ (by omega)]
    exact shows.outside address away

theorem register_spec {handle : DxTypesHandle} {uav : Fin 4}
    (found : self.register handle = some uav) : self.handles uav = handle := by
  unfold register at found
  simpa using List.find?_some found

/-- An access that is allowed has a binding behind its handle and lies in the store. -/
theorem locate_cases {handle : DxTypesHandle} {index offset : UInt32} {target : Nat}
    (located : self.locate handle index offset = some target) :
    ∃ uav binding, self.handles uav = handle ∧ self.bindings uav = some binding ∧
      0 < binding.elementSize.toInt ∧
      index.toNat * binding.elementSize.toInt.toNat < 2 ^ 32 ∧
      target = binding.address.offset.toNat + index.toNat * binding.elementSize.toInt.toNat
        + offset.toNat ∧ target + 4 ≤ 2 ^ 20 := by
  obtain ⟨uav, found, reached⟩ := Option.bind_eq_some_iff.mp located
  split at reached
  · rename_i reaches
    cases reached
    obtain ⟨binding, isBinding, positive, product, inside⟩ := reaches
    have bound : self.bindings uav = some binding := isBinding
    have denoted : (StoreHistory.mk self.bindings []).denoted ⟨uav, index, offset⟩ =
        binding.address.offset.toNat + index.toNat * binding.elementSize.toInt.toNat
          + offset.toNat := by
      simp only [StoreHistory.denoted, bound]
    refine ⟨uav, binding, register_spec found, bound, positive, product, denoted, ?_⟩
    rw [denoted]
    exact inside
  · cases reached

theorem Attached.toNat_handle (attached : self.Attached lib block contents) (uav : Fin 4) :
    (self.handles uav).toNat = lib.gTls.toNat + uavOffset uav.val := by
  have room := attached.tlsInAddressSpace
  have few := uav.isLt
  simp only [sizeofVpuThreadLocalStorage] at room
  rw [attached.handles, UInt64.toNat_add, UInt64.toNat_add, UInt64.toNat_mul,
    UInt64.toNat_ofNat']
  simp only [uavOffset, sizeofVpuResourceDescriptor, UInt64.reduceToNat]
  omega

/-- The descriptor behind a handle leads to the offset that the device locates. -/
theorem Attached.toNat_element (attached : self.Attached lib block contents)
    (shows : Shows block contents memory view) {handle : DxTypesHandle} {index offset : UInt32}
    {target : Nat} (located : self.locate handle index offset = some target) :
    ((VpuResourceDescriptor.read memory.byte handle.toNat).element index offset).toNat =
        block + target ∧ target + 4 ≤ 2 ^ 20 := by
  obtain ⟨uav, binding, rfl, bound, positive, product, rfl, inside⟩ := locate_cases located
  have space := attached.inAddressSpace
  have room := attached.tlsInAddressSpace
  have apart := attached.apart
  have few := uav.isLt
  have descriptor : VpuResourceDescriptor.read memory.byte (self.handles uav).toNat =
      ⟨UInt64.ofNat block + binding.address.offset, binding.elementSize⟩ := by
    rw [attached.toNat_handle, ← attached.descriptors uav binding bound]
    apply VpuResourceDescriptor.read_congr
    intro k inDescriptor
    apply shows.outside
    simp only [uavOffset, sizeofVpuResourceDescriptor, sizeofVpuThreadLocalStorage] at apart ⊢
    omega
  have pointer : (UInt64.ofNat block + binding.address.offset).toNat =
      block + binding.address.offset.toNat := by
    rw [UInt64.toNat_add, UInt64.toNat_ofNat']
    omega
  have size := toNat_toUInt32_of_pos positive
  rw [descriptor, @VpuResourceDescriptor.toNat_element
    ⟨UInt64.ofNat block + binding.address.offset, binding.elementSize⟩ _ size index offset product
    (by rw [pointer]; omega), pointer]
  omega

/-- The linked library answers every call that the device allows as the device does. -/
theorem Attached.simulates (attached : self.Attached lib block contents) {threadId : UInt32}
    (id : load32 contents lib.gTls.toNat = threadId) :
    lib.dxilHandler.Simulates (self.handler threadId) (Shows block contents) := by
  intro call memory view answer after shows answered
  cases call with
  | createHandle opcode resourceClass rangeId index nonUniform =>
    simp only [handler] at answered
    split at answered
    · rename_i allowed
      cases answered
      refine ⟨memory, ?_, shows⟩
      have few : index < kVpuMaxUAVs := UInt32.lt_iff_toNat_lt.mpr allowed.2
      have same : lib.gTls + 8 + index.toUInt64 * 16 = self.handles ⟨index.toNat, allowed.2⟩ := by
        rw [attached.handles]
        simp
      simp [VpuShaderLib.dxilHandler, DxilCall.thunk, Program.run, VpuShaderLib.handler,
        VpuShaderLib.dxOpCreateHandle, allowed.1, few, same]
    · cases answered
  | bufferLoadI32 opcode handle index offset =>
    obtain ⟨target, located, same⟩ := Option.map_eq_some_iff.mp answered
    cases same
    obtain ⟨address, inStore⟩ := attached.toNat_element shows located
    refine ⟨memory, ?_, shows⟩
    simp only [VpuShaderLib.dxilHandler, DxilCall.thunk, Program.run, VpuShaderLib.handler,
      VpuShaderLib.dxOpBufferLoadI32, dxOpBufferLoadI32, address, shows.load32_eq inStore,
      Option.bind_some]
  | bufferLoadF32 opcode handle index offset =>
    obtain ⟨target, located, same⟩ := Option.map_eq_some_iff.mp answered
    cases same
    obtain ⟨address, inStore⟩ := attached.toNat_element shows located
    refine ⟨memory, ?_, shows⟩
    simp only [VpuShaderLib.dxilHandler, DxilCall.thunk, Program.run, VpuShaderLib.handler,
      VpuShaderLib.dxOpBufferLoadF32, dxOpBufferLoadF32, address, shows.load32_eq inStore,
      Option.bind_some]
  | bufferStoreF32 opcode handle index offset v0 v1 v2 v3 mask =>
    simp only [handler] at answered
    split at answered
    · rename_i full
      obtain ⟨target, located, same⟩ := Option.map_eq_some_iff.mp answered
      cases same
      obtain ⟨address, inStore⟩ := attached.toNat_element shows located
      refine ⟨_, ?_, shows.store inStore v0⟩
      simp [VpuShaderLib.dxilHandler, DxilCall.thunk, Program.run, VpuShaderLib.handler,
        VpuShaderLib.dxOpBufferStoreF32, dxOpBufferStoreF32, full, address]
    · cases answered
  | bufferStoreI32 opcode handle index offset v0 v1 v2 v3 mask =>
    simp only [handler] at answered
    split at answered
    · rename_i full
      obtain ⟨target, located, same⟩ := Option.map_eq_some_iff.mp answered
      cases same
      obtain ⟨address, inStore⟩ := attached.toNat_element shows located
      refine ⟨_, ?_, shows.store inStore v0.toUInt32⟩
      simp [VpuShaderLib.dxilHandler, DxilCall.thunk, Program.run, VpuShaderLib.handler,
        VpuShaderLib.dxOpBufferStoreI32, dxOpBufferStoreI32, full, address]
    · cases answered
  | threadIdI32 opcode component =>
    simp only [handler] at answered
    split at answered
    · cases answered
      refine ⟨memory, ?_, shows⟩
      have apart := attached.apart
      have sameId : load32 memory.byte lib.gTls.toNat = threadId := by
        rw [← id]
        apply load32_congr
        intro k bound
        apply shows.outside
        simp only [sizeofVpuThreadLocalStorage] at apart
        omega
      simp only [VpuShaderLib.dxilHandler, DxilCall.thunk, Program.run, VpuShaderLib.handler,
        VpuShaderLib.dxOpThreadIdI32, sameId, Option.bind_some]
    · cases answered

/-- A linked shader whose accesses the device allows computes in the store what the device
computes, and writes nowhere else. -/
theorem Attached.run_link (attached : self.Attached lib block contents) {threadId : UInt32}
    (id : load32 contents lib.gTls.toNat = threadId) {shader : DxilShader}
    (shows : Shows block contents memory view) {after : Nat → UInt8}
    (ran : shader.run (self.handler threadId) view = some ((), after)) :
    ∃ final, shader.link.run lib.handler memory = some ((), final) ∧
      Shows block contents final after := by
  rw [DxilShader.run_link]
  exact (attached.simulates id).run shader shows ran

end Device

end VpuSim
