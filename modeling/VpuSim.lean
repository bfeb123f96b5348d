import VpuSim.Image.Safety
import VpuSim.Image.Order
import VpuSim.Image.Layout
import VpuSim.Object.Reuse
import VpuSim.Compiler.RoundTrip
import VpuSim.Compiler.Layout
import VpuSim.Compiler.Acceptance
import VpuSim.Compiler.Loadable
import VpuSim.Compiler.Run
import VpuSim.Sim.SharedStore
import VpuSim.Sim.Bounds
import VpuSim.Sim.Bindings
import VpuSim.Sim.Lifetime
import VpuSim.Shader.Dispatch
import VpuSim.Shader.Elements
import VpuSim.Shader.Binary
import VpuSim.Shader.Exports
import VpuSim.Shader.Loading
import VpuSim.Shader.SameProgram
import VpuSim.Shader.SameLayout
import VpuSim.Shader.Linked
import VpuSim.Shader.Native
import VpuSim.Shader.Reopen
import VpuSim.Shader.Scan
import VpuSim.Shader.BothPaths
import VpuSim.Compiler.Allocation
import VpuSim.Compiler.Directory
import VpuSim.Compiler.Format
import VpuSim.Sim.Heap
import VpuSim.Sim.Sums
import VpuSim.Sim.Exit
