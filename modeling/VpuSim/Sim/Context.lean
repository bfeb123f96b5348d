import VpuSim.Sim.Store
import VpuSim.Shader.ThreadLocal

/-!
# The simulator's context

Setting a UAV resolves its store address to a pointer once, and a descriptor is a
copy of what was resolved. The two assertions of the host interface and those of
the store are the only checks.
-/

set_option linter.dupNamespace false

namespace VpuSim

open ByteMemory

structure VpuUav where
  base : VpuAddress
  /-- `none` where the constructor leaves the member uninitialised -/
  elementSize : Option Int32
  deriving DecidableEq

namespace VpuUav

def new : VpuUav := ⟨.undefined, some 0⟩

/-- The constructor of `VpuBuffer` drops its second argument. -/
def ofBase (base : VpuAddress) (_elementSize : Int32) : VpuUav := ⟨base, none⟩

end VpuUav

structure VpuResource where
  base : UInt64
  elementSize : Int32
  deriving DecidableEq

structure VpuContext where
  uavs : Vector VpuUav 4
  uavResources : Vector VpuResource 4
  /-- the store that `m_globalStore` points at -/
  globalStore : Option VpuStore

namespace VpuContext

def new : VpuContext := ⟨Vector.replicate 4 .new, Vector.replicate 4 ⟨0, 0⟩, none⟩

def load (self : VpuContext) (globalStore : VpuStore) : VpuContext :=
  { self with globalStore := some globalStore }

def unload (self : VpuContext) : VpuContext := { self with globalStore := none }

def setUav (self : VpuContext) (index : Nat) (base : VpuAddress) (elementSize : Int32) :
    Option VpuContext :=
  if bound : index < 4 then
    if base.segment = kVpuSegmentGlobal then
      match self.globalStore with
      | none => none
      | some globalStore => some
        { self with
          uavs := self.uavs.set index (.ofBase base elementSize)
          uavResources :=
            self.uavResources.set index ⟨globalStore.base + base.offset, elementSize⟩ }
    else none
  else none

theorem setUav_eq {self : VpuContext} {globalStore : VpuStore}
    (attached : self.globalStore = some globalStore) {index : Nat} (bound : index < 4)
    {base : VpuAddress} (segment : base.segment = kVpuSegmentGlobal) (elementSize : Int32) :
    self.setUav index base elementSize = some
      { self with
        uavs := self.uavs.set index (.ofBase base elementSize)
        uavResources :=
          self.uavResources.set index ⟨globalStore.base + base.offset, elementSize⟩ } := by
  unfold setUav
  rw [dif_pos bound, if_pos segment, attached]

/-- Setting one UAV leaves the records of the others. -/
theorem get_set {α : Type} (records : Vector α 4) {index : Nat} (bound : index < 4)
    (record : α) (uav : Fin 4) :
    (records.set index record).get uav =
      if index = uav.val then record else records.get uav :=
  Vector.getElem_set ..

def getUavResourceDescriptor (self : VpuContext) (index : Fin 4) : VpuResourceDescriptor where
  base := (self.uavResources.get index).base
  elementSize := (self.uavResources.get index).elementSize

end VpuContext

structure VpuSim where
  globalStore : VpuStore
  context : VpuContext

namespace VpuSim

def kGlobalSegmentSize : UInt64 := 1024 * 1024

def new : VpuSim := ⟨.new kVpuSegmentGlobal, .new⟩

def load (self : VpuSim) (block : UInt64) : Option VpuSim := do
  let globalStore ← self.globalStore.load kGlobalSegmentSize block
  return { globalStore, context := self.context.load globalStore }

def unload (self : VpuSim) : VpuSim :=
  { context := self.context.unload, globalStore := self.globalStore.unload }

def write (self : VpuSim) (memory : Memory) (vpuAddress : VpuAddress) (buf : Nat → UInt8)
    (count : UInt64) : Option Memory :=
  if vpuAddress.segment = kVpuSegmentGlobal then
    self.globalStore.write memory vpuAddress buf count
  else none

def read (self : VpuSim) (memory : Memory) (vpuAddress : VpuAddress) (count : UInt64) :
    Option (List UInt8) :=
  if vpuAddress.segment = kVpuSegmentGlobal then self.globalStore.read memory vpuAddress count
  else none

def setUav (self : VpuSim) (index : Nat) (address : VpuAddress) (elementSize : Int32) :
    Option VpuSim := do
  let context ← self.context.setUav index address elementSize
  return { self with context }

theorem setUav_eq {self : VpuSim} {globalStore : VpuStore}
    (attached : self.context.globalStore = some globalStore) {index : Nat} (bound : index < 4)
    {address : VpuAddress} (segment : address.segment = kVpuSegmentGlobal)
    (elementSize : Int32) :
    self.setUav index address elementSize = some
      { self with
        context :=
          { self.context with
            uavs := self.context.uavs.set index (.ofBase address elementSize)
            uavResources := self.context.uavResources.set index
              ⟨globalStore.base + address.offset, elementSize⟩ } } := by
  rw [setUav, VpuContext.setUav_eq attached bound segment]
  rfl

def getUaveResourceDescriptor (self : VpuSim) (index : Fin 4) : VpuResourceDescriptor :=
  self.context.getUavResourceDescriptor index

end VpuSim

end VpuSim
