import NesMachine.Text.Hex
import NesMachine.Text.Unicode
import NesMachine.Cpu.Status
import NesMachine.Cpu.State
import NesMachine.Cpu.Mode
import NesMachine.Cpu.Operation
import NesMachine.Cpu.Table
import NesMachine.Cpu.Disassembly
import NesMachine.Cpu.Operand
import NesMachine.Cpu.Execute
import NesMachine.Memory.Map
import NesMachine.Memory.Error
import NesMachine.Memory.Bus
import NesMachine.Cartridge.Header
import NesMachine.Cartridge.Image
import NesMachine.Cartridge.Loader
import NesMachine.Cartridge.Builder
import NesMachine.Console
import NesMachine.Proofs.Fetch
import NesMachine.Proofs.MemoryMap
import NesMachine.Proofs.Write
import NesMachine.Proofs.Read
import NesMachine.Proofs.StepFailure
import NesMachine.Proofs.ProgramCounter
import NesMachine.Proofs.Footprint
import NesMachine.Proofs.StackRoundTrip
import NesMachine.Proofs.DataOperations
import NesMachine.Proofs.Install
import NesMachine.Proofs.Nrom
import NesMachine.Proofs.ImageLayout
import NesMachine.Proofs.ResetPhase
import NesMachine.Proofs.Ranges
import NesMachine.Proofs.AssemblyText
import NesMachine.Proofs.FrameBudget
import NesMachine.Proofs.SegmentSplit
import NesMachine.Log.Pattern.Tree
import NesMachine.Log.Pattern.Parse
import NesMachine.Log.Pattern.Nesting
import NesMachine.Log.Pattern.RangeSet
import NesMachine.Log.Pattern.Meaning
import NesMachine.Log.Pattern.Render
import NesMachine.Log.Pattern
import NesMachine.Log.Filter
import NesMachine.Cli.Options
import NesMachine.Cli.Report
import NesMachine.Main
