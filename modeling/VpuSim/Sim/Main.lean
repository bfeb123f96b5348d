import VpuSim.Compiler.Run
import VpuSim.Image.Placement
import VpuSim.Shader.Threads
import VpuSim.Sim.Elements

/-!
# The test program

`main` compiles the shader, sets up the simulator, loads the image into memory of its own,
calls it once for each thread and reads the results back. What the system and the machine
do is given by a `Machine`: where blocks are allocated, and what a call of code does.
-/

set_option linter.dupNamespace false

namespace VpuSim

open ByteMemory

/-- The environment of a run. The simulator and what `main` keeps in variables are values
here and lie at no address of the memory. -/
structure Machine where
  memory : Memory
  /-- what `malloc` returns for the store -/
  block : UInt64
  /-- what `VirtualAlloc` returns for the image -/
  imageBase : UInt64
  /-- the stack below the frame of `main`, from its limit up to the pointer -/
  stackLimit : Nat
  stackPointer : Nat
  /-- the call of the code at an address, `none` where it does not return -/
  call : UInt64 → Memory → Option Memory

inductive Outcome where
  /-- `failed to compile byte code` and exit code 1 -/
  | failedToCompile
  /-- `error loading binary` and exit code 1 -/
  | errorLoading (final : SimState)
  | results (uavResult : Fin 4 → UavElement) (final : SimState)

/-- The initial data of the three buffers. -/
def uavInitData (buffer : Fin 3) (index : Fin 4) : UavElement :=
  let data : Vector (Vector UavElement 4) 3 := #v[
    #v[⟨4, 0x40800000⟩, ⟨2, 0x40000000⟩, ⟨7, 0x40E00000⟩, ⟨10, 0x41200000⟩],
    #v[⟨2, 0x40000000⟩, ⟨8, 0x41000000⟩, ⟨3, 0x40400000⟩, ⟨2, 0x40000000⟩],
    #v[⟨0, 0⟩, ⟨0, 0⟩, ⟨0, 0⟩, ⟨0, 0⟩]]
  (data.get buffer).get index

def uavAddress (index : Fin 3) : VpuAddress where
  segment := kVpuSegmentGlobal
  offset := UInt64.ofNat (index.val * (4 * sizeofUavElement))

/-- The calls of the host before the image is loaded. -/
def hostEvents (data : Fin 3 → Fin 4 → UavElement) : List Event :=
  (List.finRange 3).map (fun i =>
    .write (uavAddress i) (UavElement.bytes (data i)) (UInt64.ofNat (4 * sizeofUavElement)))
  ++ (List.finRange 3).map fun i =>
    .setUav i.val (uavAddress i) (Int32.ofNat sizeofUavElement)

/-- The block that the host fills from its context; the id is set for each thread. -/
def hostTls (sim : VpuSim) : VpuThreadLocalStorage where
  id := 0
  uavs := .ofFn sim.getUaveResourceDescriptor

namespace Machine

variable (machine : Machine)

/-- `main` from `g_vpuSim.Load()` to the last `SetUav`. -/
def setUp (data : Fin 3 → Fin 4 → UavElement) : Option SimState :=
  (VpuSim.new.load machine.block).bind fun sim =>
    (SimState.run ⟨sim, machine.memory⟩ (hostEvents data)).map Prod.fst

/-- `main` from the allocation of the image on; `none` where a call does not return. The
result of `VirtualAlloc` is not checked, so this is what `main` does where the allocation is
not null and the loader keeps to it. -/
def execute (image : Nat → UInt8) (state : SimState) : Option Outcome :=
  let header := VpuImageHeader.read image 0
  match VpuImageHeader.loadAt image state.memory machine.imageBase header.getImageSize with
  | (false, memory) => some (.errorLoading { state with memory })
  | (true, memory) =>
    let tls := machine.imageBase + header.getTlsOffset
    let shaderMain := machine.call (machine.imageBase + header.getEntryOffset)
    let memory := VpuThreadLocalStorage.writeUavs tls.toNat (hostTls state.sim) memory
    (dispatchThreads shaderMain tls (List.range 4) memory).bind fun memory =>
      (state.sim.read memory (uavAddress 2) (UInt64.ofNat (4 * sizeofUavElement))).map fun buf =>
        .results (UavElement.ofBytes fun k => buf.getD k 0) ⟨state.sim.unload, memory⟩

end Machine

variable {Source Bitcode : Type}

/-- `main` with `data` as the initial data of its buffers; `none` where an assertion fails,
a call does not return or a blob is used that no run of the compiler has made. -/
def main (tools : Toolchain Source Bitcode) (workDir : WorkDir Bitcode) (disassembly : Source)
    (allocation : BlobAllocation) (machine : Machine)
    (data : Fin 3 → Fin 4 → UavElement) : Option Outcome := do
  let compiled ← vpuCompiler tools workDir disassembly allocation
  if compiled.returned then
    let state ← machine.setUp data
    let image ← compiled.outVpuImage
    machine.execute image.byte state
  else some .failedToCompile

section SetUp

variable {machine : Machine} (data : Fin 3 → Fin 4 → UavElement)

theorem hostEvents_eq : hostEvents data =
    [.write (uavAddress 0) (UavElement.bytes (data 0)) 32,
      .write (uavAddress 1) (UavElement.bytes (data 1)) 32,
      .write (uavAddress 2) (UavElement.bytes (data 2)) 32,
      .setUav 0 (uavAddress 0) 8, .setUav 1 (uavAddress 1) 8, .setUav 2 (uavAddress 2) 8] := rfl

/-- What the store holds and how the UAVs are bound when the shader starts. -/
def hostHistory : StoreHistory := StoreHistory.empty.recordAll (hostEvents data)

theorem permitsAll_hostEvents : StoreHistory.empty.PermitsAll (hostEvents data) := by
  rw [hostEvents_eq]
  refine ⟨⟨rfl, by decide⟩, ⟨rfl, by decide⟩, ⟨rfl, by decide⟩, ⟨by decide, rfl⟩,
    ⟨by decide, rfl⟩, ⟨by decide, rfl⟩, trivial⟩

theorem setUp_represents (allocated : machine.block ≠ 0)
    (space : machine.block.toNat + 2 ^ 20 < 2 ^ 64) :
    ∃ state, machine.setUp data = some state ∧
      state.Represents (hostHistory data) machine.block.toNat machine.memory.byte := by
  have loaded : VpuSim.new.load machine.block = some
      ⟨⟨kVpuSegmentGlobal, machine.block, VpuSim.kGlobalSegmentSize⟩,
        VpuContext.new.load ⟨kVpuSegmentGlobal, machine.block, VpuSim.kGlobalSegmentSize⟩⟩ := by
    rw [VpuSim.load, VpuStore.load, if_neg allocated]
    rfl
  obtain ⟨final, ran, represents⟩ := (represents_of_load loaded space machine.memory).run_expected
    (permitsAll_hostEvents data)
  refine ⟨final, ?_, represents⟩
  rw [Machine.setUp, loaded, Option.bind_some, ran]
  rfl

/-- The write of the host to a buffer. -/
def hostWrite (index : Fin 3) : Store :=
  ⟨index.val * 32, 32, UavElement.bytes (data index)⟩

theorem writes_hostHistory :
    (hostHistory data).writes = (List.finRange 3).map (hostWrite data) := rfl

theorem hostWrites_apart : ((List.finRange 3).map (hostWrite data)).Pairwise Store.Apart := by
  rw [List.pairwise_map]
  refine (List.nodup_finRange 3).imp ?_
  intro first second different
  apply Store.apart_of_le
  simp only [hostWrite]
  rcases Nat.lt_or_gt_of_ne (mt Fin.ext different) with before | after
  · omega
  · omega

/-- Every buffer starts with the data of the host. -/
theorem view_hostHistory (initial : Nat → UInt8) (index : Fin 3) {k : Nat} (bound : k < 32) :
    (hostHistory data).view initial (index.val * 32 + k) =
      UavElement.bytes (data index) k := by
  have covered : (hostWrite data index).Covers (index.val * 32 + k) :=
    ⟨Nat.le_add_right _ _, Nat.add_lt_add_left bound _⟩
  rw [StoreHistory.view_eq_replay, writes_hostHistory, replay_of_apart
    (hostWrites_apart data) (List.mem_map_of_mem (List.mem_finRange index)) covered]
  simp only [hostWrite, Nat.add_sub_cancel_left]

end SetUp

/-- The device that the host sets up, with `g_tls` at `gTls`. -/
def hostDevice (gTls : UInt64) : Device where
  bindings := fun uav =>
    if bound : uav.val < 3 then
      some ⟨uavAddress ⟨uav.val, bound⟩, Int32.ofNat sizeofUavElement⟩
    else none
  handles := fun uav => gTls + 8 + UInt64.ofNat uav.val * 16

theorem bindings_hostHistory (data : Fin 3 → Fin 4 → UavElement) (gTls : UInt64) :
    (hostHistory data).bindings = (hostDevice gTls).bindings := by
  funext uav
  match uav with
  | 0 => rfl
  | 1 => rfl
  | 2 => rfl
  | 3 => rfl

end VpuSim
