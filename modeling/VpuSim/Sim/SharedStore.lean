import VpuSim.Sim.Context
import VpuSim.Shader.Lib

/-!
# One store behind two views

The host addresses the global store by segment and offset, the device by pointer,
element index and byte offset. A `StoreHistory` knows neither: it lists what was
written at which store offset. Every run of the two interfaces shows its answers.
-/

namespace VpuSim

open ByteMemory

/-- An access of the device through the descriptor of a UAV. -/
structure DeviceAccess where
  uav : Fin 4
  index : UInt32
  offset : UInt32

inductive Event where
  | write (address : VpuAddress) (buf : Nat → UInt8) (count : UInt64)
  | read (address : VpuAddress) (count : UInt64)
  | setUav (index : Nat) (address : VpuAddress) (elementSize : Int32)
  | bufferStoreI32 (access : DeviceAccess) (value : Int32)
  | bufferStoreF32 (access : DeviceAccess) (value : UInt32)
  | bufferLoadI32 (access : DeviceAccess)
  | bufferLoadF32 (access : DeviceAccess)

inductive Output where
  | done
  | bytes (buf : List UInt8)
  | i32 (result : DxTypesResRet Int32)
  | f32 (result : DxTypesResRet UInt32)

structure SimState where
  sim : VpuSim
  memory : Memory

namespace SimState

def handle (state : SimState) (access : DeviceAccess) : VpuResourceDescriptor :=
  state.sim.getUaveResourceDescriptor access.uav

/-- One call from the host or the shader; `none` where an assertion fails. -/
def step (state : SimState) : Event → Option (SimState × Output)
  | .write address buf count => do
    let memory ← state.sim.write state.memory address buf count
    return ({ state with memory }, .done)
  | .read address count => do
    let buf ← state.sim.read state.memory address count
    return (state, .bytes buf)
  | .setUav index address elementSize => do
    let sim ← state.sim.setUav index address elementSize
    return ({ state with sim }, .done)
  | .bufferStoreI32 access value =>
    let memory := dxOpBufferStoreI32 state.memory (state.handle access) access.index
      access.offset value
    some ({ state with memory }, .done)
  | .bufferStoreF32 access value =>
    let memory := dxOpBufferStoreF32 state.memory (state.handle access) access.index
      access.offset value
    some ({ state with memory }, .done)
  | .bufferLoadI32 access =>
    some (state, .i32 (dxOpBufferLoadI32 state.memory (state.handle access) access.index
      access.offset))
  | .bufferLoadF32 access =>
    some (state, .f32 (dxOpBufferLoadF32 state.memory (state.handle access) access.index
      access.offset))

def run : SimState → List Event → Option (SimState × List Output)
  | state, [] => some (state, [])
  | state, event :: rest => do
    let (state, output) ← state.step event
    let (state, outputs) ← state.run rest
    return (state, output :: outputs)

theorem run_cons {state next final : SimState} {event : Event} {rest : List Event}
    {output : Output} {outputs : List Output}
    (stepped : state.step event = some (next, output))
    (ran : next.run rest = some (final, outputs)) :
    state.run (event :: rest) = some (final, output :: outputs) := by
  simp only [run, stepped, ran, Option.bind_eq_bind, Option.bind_some]
  rfl

end SimState

structure UavBinding where
  address : VpuAddress
  elementSize : Int32

/-- What has happened to the store: the last binding of each UAV and the writes at
store offsets, oldest first. -/
structure StoreHistory where
  bindings : Fin 4 → Option UavBinding
  writes : List Store

namespace StoreHistory

def empty : StoreHistory := ⟨fun _ => none, []⟩

/-- The byte most recently written at a store offset, or the one there at first. -/
def view (history : StoreHistory) (initial : Nat → UInt8) (offset : Nat) : UInt8 :=
  (mostRecent history.writes offset).getD (initial offset)

/-- The store offset of an access, 0 for a UAV that was never set. -/
def denoted (history : StoreHistory) (access : DeviceAccess) : Nat :=
  match history.bindings access.uav with
  | none => 0
  | some binding => binding.address.offset.toNat
      + access.index.toNat * binding.elementSize.toInt.toNat + access.offset.toNat

def recordWrite (history : StoreHistory) (store : Store) : StoreHistory :=
  { history with writes := history.writes ++ [store] }

def recordBinding (history : StoreHistory) (index : Nat) (binding : UavBinding) :
    StoreHistory :=
  { history with
    bindings := fun uav => if index = uav.val then some binding else history.bindings uav }

def record (history : StoreHistory) : Event → StoreHistory
  | .write address buf count =>
    history.recordWrite ⟨address.offset.toNat, count.toNat, buf⟩
  | .read .. => history
  | .setUav index address elementSize => history.recordBinding index ⟨address, elementSize⟩
  | .bufferStoreI32 access value =>
    history.recordWrite (.ofNat (history.denoted access) 4 value.toUInt32.toNat)
  | .bufferStoreF32 access value =>
    history.recordWrite (.ofNat (history.denoted access) 4 value.toNat)
  | .bufferLoadI32 _ => history
  | .bufferLoadF32 _ => history

/-- The answer to a call after this history. -/
def expected (history : StoreHistory) (initial : Nat → UInt8) : Event → Output
  | .read address count => .bytes ((List.range count.toNat).map fun k =>
      history.view initial (address.offset.toNat + k))
  | .bufferLoadI32 access =>
    .i32 ⟨.ofUInt32 (load32 (history.view initial) (history.denoted access)), 0, 0, 0, 0⟩
  | .bufferLoadF32 access =>
    .f32 ⟨load32 (history.view initial) (history.denoted access), 0, 0, 0, 0⟩
  | .write .. | .setUav .. | .bufferStoreI32 .. | .bufferStoreF32 .. => .done

/-- The UAV is set and the element lies in the store. -/
def Reaches (history : StoreHistory) (access : DeviceAccess) : Prop :=
  ∃ binding ∈ history.bindings access.uav, 0 < binding.elementSize.toInt ∧
    access.index.toNat * binding.elementSize.toInt.toNat < 2 ^ 32 ∧
    binding.address.offset.toNat + access.index.toNat * binding.elementSize.toInt.toNat
      + access.offset.toNat + 4 ≤ 2 ^ 20

/-- The calls that the two interfaces allow after this history. -/
def Permits (history : StoreHistory) : Event → Prop
  | .write address _ count | .read address count =>
    address.segment = kVpuSegmentGlobal ∧ address.offset.toNat + count.toNat ≤ 2 ^ 20
  | .setUav index address _ => index < 4 ∧ address.segment = kVpuSegmentGlobal
  | .bufferStoreI32 access _ | .bufferStoreF32 access _ | .bufferLoadI32 access
  | .bufferLoadF32 access => history.Reaches access

def PermitsAll : StoreHistory → List Event → Prop
  | _, [] => True
  | history, event :: rest => history.Permits event ∧ (history.record event).PermitsAll rest

instance (history : StoreHistory) (access : DeviceAccess) : Decidable (history.Reaches access) :=
  inferInstanceAs (Decidable (∃ binding ∈ history.bindings access.uav, _ ∧ _ ∧ _))

instance decidablePermits (history : StoreHistory) :
    (event : Event) → Decidable (history.Permits event)
  | .write .. | .read .. | .setUav .. => inferInstanceAs (Decidable (_ ∧ _))
  | .bufferStoreI32 access _ | .bufferStoreF32 access _ | .bufferLoadI32 access
  | .bufferLoadF32 access => inferInstanceAs (Decidable (history.Reaches access))

instance decidablePermitsAll :
    (history : StoreHistory) → (events : List Event) → Decidable (history.PermitsAll events)
  | _, [] => isTrue trivial
  | history, event :: rest =>
    have := decidablePermitsAll (history.record event) rest
    inferInstanceAs (Decidable (history.Permits event ∧ _))

def recordAll (history : StoreHistory) (events : List Event) : StoreHistory :=
  events.foldl record history

def expectedAll (initial : Nat → UInt8) : StoreHistory → List Event → List Output
  | _, [] => []
  | history, event :: rest =>
    history.expected initial event :: expectedAll initial (history.record event) rest

theorem view_eq_replay (history : StoreHistory) (initial : Nat → UInt8) :
    history.view initial = replay initial history.writes :=
  funext fun offset => (replay_eq_mostRecent initial history.writes offset).symm

theorem view_recordWrite (history : StoreHistory) (initial : Nat → UInt8) (store : Store) :
    (history.recordWrite store).view initial = store.apply (history.view initial) := by
  rw [view_eq_replay, view_eq_replay, recordWrite, replay_append, replay_cons, replay_nil]

end StoreHistory

/-- The state of the simulator after `history`, with its store at `block` of a
process memory that held `contents`. -/
structure SimState.Represents (state : SimState) (history : StoreHistory) (block : Nat)
    (contents : Nat → UInt8) : Prop where
  loaded : state.sim.globalStore.LoadedAt block
  context : state.sim.context.globalStore = some state.sim.globalStore
  resources : ∀ uav binding, history.bindings uav = some binding →
    state.sim.context.uavResources.get uav =
      ⟨state.sim.globalStore.base + binding.address.offset, binding.elementSize⟩
  inside : ∀ k < 2 ^ 20,
    state.memory.byte (block + k) = history.view (fun k => contents (block + k)) k
  outside : ∀ address, address < block ∨ block + 2 ^ 20 ≤ address →
    state.memory.byte address = contents address

namespace SimState.Represents

variable {state : SimState} {history : StoreHistory} {block : Nat} {contents : Nat → UInt8}

/-- A write inside the store is one of the history. -/
theorem store (represents : state.Represents history block contents) {written : Store}
    (lies : written.LiesIn 0 (2 ^ 20)) :
    SimState.Represents { state with memory := state.memory.store (written.shift block) }
      (history.recordWrite written) block contents := by
  constructor
  · exact represents.loaded
  · exact represents.context
  · exact represents.resources
  · intro k bound
    rw [Memory.byte_store, Store.apply_shift, StoreHistory.view_recordWrite]
    simp only [Store.apply, represents.inside k bound]
  · intro address away
    rw [Memory.byte_store_of_not_covers, represents.outside address away]
    rintro ⟨start, finish⟩
    have finishInside := lies.2
    simp only [Store.shift] at start finish
    omega

/-- The descriptor of a UAV leads to the denoted offset of the store. -/
theorem toNat_element (represents : state.Represents history block contents)
    {access : DeviceAccess} (reaches : history.Reaches access) :
    ((state.handle access).element access.index access.offset).toNat =
        block + history.denoted access ∧ history.denoted access + 4 ≤ 2 ^ 20 := by
  obtain ⟨binding, bound, positive, product, inside⟩ := reaches
  have descriptor : state.handle access =
      ⟨state.sim.globalStore.base + binding.address.offset, binding.elementSize⟩ := by
    rw [handle, VpuSim.getUaveResourceDescriptor, VpuContext.getUavResourceDescriptor,
      represents.resources access.uav binding bound]
  have pointer : (state.handle access).base.toNat = block + binding.address.offset.toNat := by
    rw [descriptor]
    exact represents.loaded.toNat_base_add (by omega)
  have size : (state.handle access).elementSize.toUInt32.toNat =
      binding.elementSize.toInt.toNat := by
    rw [descriptor]
    exact toNat_toUInt32_of_pos positive
  have space := represents.loaded.inAddressSpace
  simp only [StoreHistory.denoted, Option.mem_def.mp bound]
  refine ⟨?_, inside⟩
  rw [VpuResourceDescriptor.toNat_element size product (by omega), pointer]
  omega

theorem load32_eq (represents : state.Represents history block contents)
    {access : DeviceAccess} (reaches : history.Reaches access) :
    load32 state.memory.byte ((state.handle access).element access.index access.offset).toNat =
      load32 (history.view fun k => contents (block + k)) (history.denoted access) := by
  obtain ⟨address, inside⟩ := represents.toNat_element reaches
  rw [address]
  apply load32_congr
  intro k bound
  rw [Nat.add_assoc]
  exact represents.inside _ (by omega)

theorem step_store (represents : state.Represents history block contents)
    {access : DeviceAccess} (reaches : history.Reaches access) (value : UInt32) :
    SimState.Represents
      { state with
        memory := state.memory.store32
          ((state.handle access).element access.index access.offset).toNat value }
      (history.recordWrite (.ofNat (history.denoted access) 4 value.toNat)) block contents := by
  obtain ⟨address, inside⟩ := represents.toNat_element reaches
  have lies : (Store.ofNat (history.denoted access) 4 value.toNat).LiesIn 0 (2 ^ 20) :=
    ⟨Nat.zero_le _, (Nat.zero_add (2 ^ 20)).symm ▸ inside⟩
  rw [address]
  exact represents.store lies

theorem step_write (represents : state.Represents history block contents)
    {address : VpuAddress} {count : UInt64} (segment : address.segment = kVpuSegmentGlobal)
    (bounded : address.offset.toNat + count.toNat ≤ 2 ^ 20) (buf : Nat → UInt8) :
    ∃ memory, state.sim.write state.memory address buf count = some memory ∧
      SimState.Represents { state with memory }
        (history.recordWrite ⟨address.offset.toNat, count.toNat, buf⟩) block contents := by
  have inBounds := represents.loaded.add_le_size bounded
  have sameSegment : address.segment = state.sim.globalStore.segment := by
    rw [segment, represents.loaded.segment]
  have lies : (Store.mk address.offset.toNat count.toNat buf).LiesIn 0 (2 ^ 20) :=
    ⟨Nat.zero_le _, (Nat.zero_add (2 ^ 20)).symm ▸ bounded⟩
  refine ⟨_, ?_, represents.store lies⟩
  rw [VpuSim.write, if_pos segment, VpuStore.write, if_pos ⟨sameSegment, inBounds⟩,
    represents.loaded.toNat_base_add (by omega)]
  rfl

theorem step_read (represents : state.Represents history block contents)
    {address : VpuAddress} {count : UInt64} (segment : address.segment = kVpuSegmentGlobal)
    (bounded : address.offset.toNat + count.toNat ≤ 2 ^ 20) :
    state.sim.read state.memory address count = some ((List.range count.toNat).map fun k =>
      history.view (fun k => contents (block + k)) (address.offset.toNat + k)) := by
  have inBounds := represents.loaded.add_le_size bounded
  rw [VpuSim.read, if_pos segment, VpuStore.read, if_pos inBounds]
  congr 1
  apply List.map_congr_left
  intro k inRange
  have below := List.mem_range.mp inRange
  rw [represents.loaded.toNat_base_add (by omega), Nat.add_assoc]
  exact represents.inside _ (by omega)

theorem step_setUav (represents : state.Represents history block contents)
    {index : Nat} (bounded : index < 4) {address : VpuAddress}
    (segment : address.segment = kVpuSegmentGlobal) (elementSize : Int32) :
    ∃ sim, state.sim.setUav index address elementSize = some sim ∧
      SimState.Represents { state with sim }
        (history.recordBinding index ⟨address, elementSize⟩) block contents := by
  refine ⟨_, VpuSim.setUav_eq represents.context bounded segment elementSize, ?_⟩
  constructor
  · exact represents.loaded
  · exact represents.context
  · intro uav binding bound
    simp only [StoreHistory.recordBinding] at bound
    rw [VpuContext.get_set]
    split at bound
    · rename_i same
      cases bound
      rw [if_pos same]
    · rename_i different
      rw [if_neg different]
      exact represents.resources uav binding bound
  · exact represents.inside
  · exact represents.outside

/-- A permitted call is answered from the history and recorded in it. -/
theorem step_expected (represents : state.Represents history block contents) {event : Event}
    (permitted : history.Permits event) :
    ∃ next, state.step event =
        some (next, history.expected (fun k => contents (block + k)) event) ∧
      next.Represents (history.record event) block contents := by
  cases event with
  | write address buf count =>
    obtain ⟨memory, wrote, after⟩ := represents.step_write permitted.1 permitted.2 buf
    exact ⟨_, by rw [SimState.step, wrote]; rfl, after⟩
  | read address count =>
    exact ⟨state, by rw [SimState.step, represents.step_read permitted.1 permitted.2]; rfl,
      represents⟩
  | setUav index address elementSize =>
    obtain ⟨sim, set, after⟩ := represents.step_setUav permitted.1 permitted.2 elementSize
    exact ⟨_, by rw [SimState.step, set]; rfl, after⟩
  | bufferStoreI32 access value =>
    exact ⟨_, rfl, represents.step_store permitted value.toUInt32⟩
  | bufferStoreF32 access value =>
    exact ⟨_, rfl, represents.step_store permitted value⟩
  | bufferLoadI32 access =>
    refine ⟨state, ?_, represents⟩
    rw [SimState.step, dxOpBufferLoadI32, represents.load32_eq permitted]
    rfl
  | bufferLoadF32 access =>
    refine ⟨state, ?_, represents⟩
    rw [SimState.step, dxOpBufferLoadF32, represents.load32_eq permitted]
    rfl

theorem run_expected (represents : state.Represents history block contents)
    {events : List Event} (permitted : history.PermitsAll events) :
    ∃ final, state.run events = some (final,
        StoreHistory.expectedAll (fun k => contents (block + k)) history events) ∧
      final.Represents (history.recordAll events) block contents := by
  induction events generalizing state history with
  | nil => exact ⟨state, rfl, represents⟩
  | cons event rest ih =>
    obtain ⟨next, stepped, afterStep⟩ := represents.step_expected permitted.1
    obtain ⟨final, ran, afterRun⟩ := ih afterStep permitted.2
    exact ⟨final, SimState.run_cons stepped ran, afterRun⟩

end SimState.Represents

theorem represents_of_load {block : UInt64} {sim : VpuSim}
    (loaded : VpuSim.new.load block = some sim) (space : block.toNat + 2 ^ 20 < 2 ^ 64)
    (memory : Memory) :
    SimState.Represents ⟨sim, memory⟩ .empty block.toNat memory.byte := by
  simp only [VpuSim.load, VpuStore.load] at loaded
  split at loaded
  · cases loaded
  · cases loaded
    constructor
    · exact ⟨rfl, rfl, rfl, space⟩
    · rfl
    · exact fun _ _ impossible => nomatch impossible
    · exact fun _ _ => rfl
    · exact fun _ _ => rfl

/-- Whatever the host and the device do, every read of either shows what was written
last, the store holds exactly that, and nothing else changes. -/
theorem run_shows_mostRecent {block : UInt64} {sim : VpuSim}
    (loaded : VpuSim.new.load block = some sim) (space : block.toNat + 2 ^ 20 < 2 ^ 64)
    (memory : Memory) {events : List Event}
    (permitted : StoreHistory.empty.PermitsAll events) :
    let initial := fun k => memory.byte (block.toNat + k)
    ∃ final, SimState.run ⟨sim, memory⟩ events =
        some (final, StoreHistory.expectedAll initial .empty events) ∧
      (∀ k < 2 ^ 20, final.memory.byte (block.toNat + k) =
        (StoreHistory.empty.recordAll events).view initial k) ∧
      (∀ address, address < block.toNat ∨ block.toNat + 2 ^ 20 ≤ address →
        final.memory.byte address = memory.byte address) ∧
      ∀ handle index offset,
        (dxOpBufferLoadI32 final.memory handle index offset).v0.toUInt32 =
            (dxOpBufferLoadF32 final.memory handle index offset).v0 ∧
          ∀ value, dxOpBufferStoreI32 final.memory handle index offset value =
            dxOpBufferStoreF32 final.memory handle index offset value.toUInt32 := by
  obtain ⟨final, ran, represents⟩ := (represents_of_load loaded space memory).run_expected permitted
  exact ⟨final, ran, represents.inside, represents.outside, fun _ _ _ => ⟨rfl, fun _ => rfl⟩⟩

/-- A UAV of eight-byte elements at offset 16, rebound to offset 24 after its second
element was written from both sides. -/
def smallEvents : List Event :=
  [.setUav 3 ⟨kVpuSegmentGlobal, 16⟩ 8, .write ⟨kVpuSegmentGlobal, 26⟩ (fun _ => 0xAB) 4,
    .bufferStoreF32 ⟨Fin.last 3, 1, 0⟩ 0x40800000, .setUav 3 ⟨kVpuSegmentGlobal, 24⟩ 8,
    .bufferLoadI32 ⟨Fin.last 3, 0, 0⟩, .read ⟨kVpuSegmentGlobal, 24⟩ 6]

def smallSim : VpuSim :=
  ⟨⟨kVpuSegmentGlobal, 4096, 1024 * 1024⟩,
    VpuContext.new.load ⟨kVpuSegmentGlobal, 4096, 1024 * 1024⟩⟩

theorem run_shows_mostRecent_small :
    let initial := fun k => (Memory.holding fun _ => 0).byte ((4096 : UInt64).toNat + k)
    ∃ final, SimState.run ⟨smallSim, .holding fun _ => 0⟩ smallEvents =
        some (final, StoreHistory.expectedAll initial .empty smallEvents) ∧
      (∀ k < 2 ^ 20, final.memory.byte ((4096 : UInt64).toNat + k) =
        (StoreHistory.empty.recordAll smallEvents).view initial k) ∧
      (∀ address, address < (4096 : UInt64).toNat ∨ (4096 : UInt64).toNat + 2 ^ 20 ≤ address →
        final.memory.byte address = (Memory.holding fun _ => 0).byte address) ∧
      ∀ handle index offset,
        (dxOpBufferLoadI32 final.memory handle index offset).v0.toUInt32 =
            (dxOpBufferLoadF32 final.memory handle index offset).v0 ∧
          ∀ value, dxOpBufferStoreI32 final.memory handle index offset value =
            dxOpBufferStoreF32 final.memory handle index offset value.toUInt32 :=
  @run_shows_mostRecent 4096 smallSim (by rfl) (by decide) (.holding fun _ => 0) smallEvents
    (by decide)

end VpuSim
