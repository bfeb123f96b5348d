import VpuSim.Sim.Main

/-!
# Executing the image

The loader and the descriptors change only the allocation of the image, so the store still
holds the data of the host when the first thread starts; the threads change only the store,
the id and the stack, so the code they run stays in place.
-/

set_option linter.dupNamespace false

namespace VpuSim

open ByteMemory

variable {machine : Machine} {image : Nat → UInt8} {state : SimState}

/-- The calls of the run may write here as they like. -/
def Machine.IsStack (machine : Machine) (address : Nat) : Prop :=
  machine.stackLimit ≤ address ∧ address < machine.stackPointer

/-- Where the allocations and the stack of the run lie. -/
structure Machine.Allocates (machine : Machine) (image : Nat → UInt8) : Prop where
  block : machine.block ≠ 0
  blockInAddressSpace : machine.block.toNat + 2 ^ 20 < 2 ^ 64
  imageBase : machine.imageBase ≠ 0
  imageInAddressSpace : machine.imageBase.toNat
    + (VpuImageHeader.read image 0).getImageSize.toNat < 2 ^ 64
  apart : machine.imageBase.toNat + (VpuImageHeader.read image 0).getImageSize.toNat ≤
      machine.block.toNat ∨
    machine.block.toNat + 2 ^ 20 ≤ machine.imageBase.toNat
  stackNotBlock : machine.stackPointer ≤ machine.block.toNat ∨
    machine.block.toNat + 2 ^ 20 ≤ machine.stackLimit
  stackNotImage : machine.stackPointer ≤ machine.imageBase.toNat ∨
    machine.imageBase.toNat + (VpuImageHeader.read image 0).getImageSize.toNat ≤
      machine.stackLimit

/-- An image that the loader relocates within its size, with room for a whole `g_tls`. -/
structure VpuImageHeader.Runnable (image : Nat → UInt8) : Prop where
  inside : KeepsInside image
  supported : ∀ relocation ∈ table image, relocation.Supported
  tls : sizeofVpuThreadLocalStorage ≤ (read image 0).tlsSize.toNat

/-- The library in the image that was loaded at `imageBase`. -/
def Machine.lib (machine : Machine) (image : Nat → UInt8) (windll : Bool) : VpuShaderLib where
  windll := windll
  gTls := machine.imageBase + (VpuImageHeader.read image 0).getTlsOffset

/-- The address is one of the code of the loaded image. -/
def Machine.IsCode (machine : Machine) (image : Nat → UInt8) (address : Nat) : Prop :=
  machine.imageBase.toNat ≤ address ∧
    address < machine.imageBase.toNat + (VpuImageHeader.read image 0).codeSize.toNat

/-- The code of the image as it is after relocation, at the addresses of the loaded image. -/
def Machine.relocatedCode (machine : Machine) (image : Nat → UInt8) (address : Nat) : UInt8 :=
  (VpuImageHeader.load image (.holding fun _ => 0)
    (VpuImageHeader.read image 0).getImageSize).2.byte (address - machine.imageBase.toNat)

/-- The code of the loaded image, with the stack for its calls. -/
def Machine.code (machine : Machine) (image : Nat → UInt8) : ShaderCode where
  IsCode := machine.IsCode image
  bytes := machine.relocatedCode image
  IsScratch := machine.IsStack

namespace VpuImageHeader.Runnable

theorem accepts (runnable : Runnable image) :
    VpuImageHeader.accepts image (read image 0).getImageSize = true :=
  accepts_iff.mpr ⟨UInt64.le_refl _, runnable.supported⟩

theorem tls_le (runnable : Runnable image) :
    (read image 0).getTlsOffset.toNat + sizeofVpuThreadLocalStorage ≤
      (read image 0).getImageSize.toNat :=
  (Nat.add_le_add_left runnable.tls _).trans (getTlsOffset_add_tlsSize_le runnable.inside.fits)

end VpuImageHeader.Runnable

section Prepared

variable (runnable : VpuImageHeader.Runnable image) (allocates : machine.Allocates image)

include runnable allocates

theorem toNat_gTls (windll : Bool) :
    (machine.lib image windll).gTls.toNat =
      machine.imageBase.toNat + (VpuImageHeader.read image 0).getTlsOffset.toNat := by
  have room := runnable.tls_le
  have space := allocates.imageInAddressSpace
  rw [Machine.lib, UInt64.toNat_add]
  omega

theorem lt_gTls_of_isCode (windll : Bool) {address : Nat}
    (isCode : machine.IsCode image address) :
    address < (machine.lib image windll).gTls.toNat := by
  have gTls := toNat_gTls runnable allocates windll
  have code := VpuImageHeader.codeSize_le_getTlsOffset runnable.inside.fits
  have finish := isCode.2
  omega

/-- The code lies in the image in front of `g_tls`, and the stack in neither allocation. -/
theorem apart_code (windll : Bool) :
    (machine.code image).Apart (machine.lib image windll) machine.block.toNat := by
  have gTls := toNat_gTls runnable allocates windll
  have room := runnable.tls_le
  have code := VpuImageHeader.codeSize_le_getTlsOffset runnable.inside.fits
  have apart := allocates.apart
  have notBlock := allocates.stackNotBlock
  have notImage := allocates.stackNotImage
  constructor
  · rintro address ⟨start, finish⟩
    exact ⟨by omega, by omega⟩
  · rintro address ⟨limit, pointer⟩ ⟨start, finish⟩
    omega
  · rintro address ⟨limit, pointer⟩
    omega
  · rintro address ⟨limit, pointer⟩
    omega

end Prepared

/-- The memory when the first thread starts: the image loaded, the descriptors set. -/
def Machine.prepared (machine : Machine) (image : Nat → UInt8) (state : SimState) : Memory :=
  VpuThreadLocalStorage.writeUavs
    (machine.imageBase + (VpuImageHeader.read image 0).getTlsOffset).toNat (hostTls state.sim)
    (VpuImageHeader.loadAt image state.memory machine.imageBase
      (VpuImageHeader.read image 0).getImageSize).2

section Prepared

variable (runnable : VpuImageHeader.Runnable image) (allocates : machine.Allocates image)

include runnable allocates

/-- Preparing the image changes nothing outside its allocation. -/
theorem byte_prepared_outside (state : SimState) {address : Nat}
    (outside : address < machine.imageBase.toNat ∨
      machine.imageBase.toNat + (VpuImageHeader.read image 0).getImageSize.toNat ≤ address) :
    (machine.prepared image state).byte address = state.memory.byte address := by
  have gTls : (machine.imageBase + (VpuImageHeader.read image 0).getTlsOffset).toNat = _ :=
    toNat_gTls runnable allocates false
  have room := runnable.tls_le
  rw [Machine.prepared, VpuThreadLocalStorage.byte_writeUavs_outside _ _ _ (by omega)]
  exact runnable.inside.byte_loadAt_outside outside

/-- The code is in place when the first thread starts. -/
theorem inPlace_prepared (state : SimState) :
    (machine.code image).InPlace (machine.prepared image state).byte := by
  intro address isCode
  have gTls : (machine.imageBase + (VpuImageHeader.read image 0).getTlsOffset).toNat = _ :=
    toNat_gTls runnable allocates false
  have beforeTls := lt_gTls_of_isCode runnable allocates false isCode
  have room := runnable.tls_le
  rw [toNat_gTls runnable allocates] at beforeTls
  obtain ⟨k, rfl⟩ := Nat.exists_eq_add_of_le isCode.1
  have inBuffer : k < (VpuImageHeader.read image 0).getImageSize.toNat := by omega
  rw [Machine.prepared, VpuThreadLocalStorage.byte_writeUavs_outside _ _ _ (by omega),
    VpuImageHeader.byte_loadAt]
  simp only [Machine.code, Machine.relocatedCode, Nat.add_sub_cancel_left]
  exact VpuImageHeader.byte_load_eq (UInt64.le_refl _) _ _ inBuffer

/-- The library of the loaded image finds the descriptors of the host's bindings. -/
theorem attached_prepared (windll : Bool) {data : Fin 3 → Fin 4 → UavElement}
    {contents : Nat → UInt8}
    (represents : state.Represents (hostHistory data) machine.block.toNat contents) :
    (hostDevice (machine.lib image windll).gTls).Attached (machine.lib image windll)
      machine.block.toNat (machine.prepared image state).byte := by
  have gTls := toNat_gTls runnable allocates windll
  have room := runnable.tls_le
  have space := allocates.imageInAddressSpace
  have apart := allocates.apart
  refine Device.attached_writeUavs allocates.blockInAddressSpace (by omega) (by omega)
    (fun _ => rfl) ?_ _
  intro uav binding bound
  have resource := represents.resources uav binding
    (by rw [bindings_hostHistory data (machine.lib image windll).gTls]; exact bound)
  have base : state.sim.globalStore.base = UInt64.ofNat machine.block.toNat := by
    rw [← represents.loaded.base, UInt64.ofNat_toNat]
  have descriptor : (hostTls state.sim).uavs.get uav = state.sim.getUaveResourceDescriptor uav :=
    Vector.getElem_ofFn ..
  rw [descriptor, VpuSim.getUaveResourceDescriptor, VpuContext.getUavResourceDescriptor,
    resource, base]

/-- The store still holds the data of the host. -/
theorem inside_prepared {data : Fin 3 → Fin 4 → UavElement} {contents : Nat → UInt8}
    (represents : state.Represents (hostHistory data) machine.block.toNat contents) :
    ∀ k < 2 ^ 20, (machine.prepared image state).byte (machine.block.toNat + k) =
      (hostHistory data).view (fun k => contents (machine.block.toNat + k)) k := by
  have apart := allocates.apart
  intro k bound
  rw [byte_prepared_outside runnable allocates state (by omega)]
  exact represents.inside k bound

end Prepared

/-- The host reads the elements of a buffer from where the store holds them. -/
theorem read_results {store : VpuStore} {block : Nat} (loaded : store.LoadedAt block)
    {context : VpuContext} {memory : Memory} {after : Nat → UInt8}
    (inside : ∀ k < 2 ^ 20, memory.byte (block + k) = after k) (index : Fin 3) :
    ((VpuSim.mk store context).read memory (uavAddress index)
        (UInt64.ofNat (4 * sizeofUavElement))).map
        (fun buf => UavElement.ofBytes fun k => buf.getD k 0) =
      some (UavElement.ofBytes fun k => after (index.val * 32 + k)) := by
  have few := index.isLt
  have offset : (uavAddress index).offset.toNat = index.val * 32 := by
    simp only [uavAddress, sizeofUavElement, UInt64.toNat_ofNat']
    omega
  have segment : (uavAddress index).segment = kVpuSegmentGlobal := rfl
  have count : (UInt64.ofNat (4 * sizeofUavElement)).toNat = 32 := rfl
  have inBounds : (uavAddress index).offset + UInt64.ofNat (4 * sizeofUavElement) ≤ store.size :=
    loaded.add_le_size (by omega)
  rw [VpuSim.read, if_pos segment, VpuStore.read, if_pos inBounds, Option.map_some,
    loaded.toNat_base_add (by omega), offset]
  congr 1
  apply UavElement.ofBytes_congr
  intro k bound
  have inList : k < (UInt64.ofNat (4 * sizeofUavElement)).toNat := bound
  rw [List.getD_eq_getElem?_getD, List.getElem?_map, List.getElem?_range inList,
    Option.map_some, Option.getD_some, Nat.add_assoc]
  simp only [sizeofUavElement] at bound
  exact inside _ (by omega)

/-- The call of the entry of the loaded image. -/
def Machine.shaderMain (machine : Machine) (image : Nat → UInt8) : Memory → Option Memory :=
  machine.call (machine.imageBase + (VpuImageHeader.read image 0).getEntryOffset)

/-- A call of the entry runs `shader` on the device of the host, as long as the code is in
place. -/
def Machine.Runs (machine : Machine) (image : Nat → UInt8) (windll : Bool)
    (shader : DxilShader) : Prop :=
  (hostDevice (machine.lib image windll).gTls).Executes (machine.lib image windll)
    machine.block.toNat (machine.code image) (machine.shaderMain image) shader

/-- A shader that the device allows on every thread is run on the data of the host, and
its results are read back. -/
theorem execute_eq (runnable : VpuImageHeader.Runnable image)
    (allocates : machine.Allocates image) {windll : Bool} {shader : DxilShader}
    (runs : machine.Runs image windll shader) {data : Fin 3 → Fin 4 → UavElement}
    {contents : Nat → UInt8}
    (represents : state.Represents (hostHistory data) machine.block.toNat contents)
    {after : Nat → UInt8}
    (ran : Transition.runThreads (fun threadId =>
        (hostDevice (machine.lib image windll).gTls).handler (dispatchedId threadId))
      (fun _ => shader) (List.range 4)
      ((hostHistory data).view fun k => contents (machine.block.toNat + k)) = some after) :
    ∃ final, machine.execute image state =
        some (.results (UavElement.ofBytes fun k => after (64 + k)) ⟨state.sim.unload, final⟩) ∧
      (∀ k < 2 ^ 20, final.byte (machine.block.toNat + k) = after k) ∧
      ∀ address, (machine.lib image windll).Spares machine.block.toNat address →
        ¬ machine.IsStack address →
        final.byte address = (machine.prepared image state).byte address := by
  obtain ⟨final, dispatched, inside, outside⟩ := runs.dispatchThreads
    (apart_code runnable allocates windll) (attached_prepared runnable allocates windll represents)
    (inPlace_prepared runnable allocates state) (inside_prepared runnable allocates represents) ran
  refine ⟨final, ?_, inside, outside⟩
  have loaded : VpuImageHeader.loadAt image state.memory machine.imageBase
      (VpuImageHeader.read image 0).getImageSize =
        (true, (VpuImageHeader.loadAt image state.memory machine.imageBase
          (VpuImageHeader.read image 0).getImageSize).2) := by
    rw [VpuImageHeader.loadAt_eq, runnable.accepts]
  have results := @read_results _ _ represents.loaded state.sim.context _ _ inside 2
  obtain ⟨buf, read, elements⟩ := Option.map_eq_some_iff.mp results
  rw [Machine.execute, loaded]
  refine (Option.bind_eq_some_iff.mpr ⟨final, dispatched, ?_⟩)
  rw [Option.map_eq_some_iff]
  exact ⟨buf, read, congrArg (Outcome.results · _) elements⟩

end VpuSim
