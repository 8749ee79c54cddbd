import DebugBridge.Decimal.Shortest
import DebugBridge.Decimal.Read
import DebugBridge.Text.Blank
import DebugBridge.Text.Numeral
import DebugBridge.Text.Printable
import DebugBridge.Text.Quoted
import DebugBridge.Text.Base64
import DebugBridge.Value.Double
import DebugBridge.Value.Basic
import DebugBridge.Value.Render
import DebugBridge.Value.Arith
import DebugBridge.Value.Access
import DebugBridge.Value.Format
import DebugBridge.Value.Encoding
import DebugBridge.Fault
import DebugBridge.Signature
import DebugBridge.Link
import DebugBridge.MemoryMap
import DebugBridge.TargetState
import DebugBridge.Injection
import DebugBridge.Gdb.ProcMappings
import DebugBridge.Gdb
import DebugBridge.Radare
import DebugBridge.Ida
import DebugBridge.Script
import DebugBridge.Session
import DebugBridge.Package
import DebugBridge.Request
import DebugBridge.Proofs.Stepping
import DebugBridge.Proofs.Machine
import DebugBridge.Proofs.Injection
import DebugBridge.Proofs.Gdb.Page
import DebugBridge.Proofs.Gdb.Server
import DebugBridge.Proofs.Gdb.Injection
import DebugBridge.Proofs.Text.ReadBack
import DebugBridge.Proofs.Text.Base64Decode
import DebugBridge.Proofs.Radare.Session
import DebugBridge.Proofs.Ida.Debugger
import DebugBridge.Proofs.Ida.Injection
import DebugBridge.Proofs.Gdb.Faults
import DebugBridge.Proofs.Gdb.Mappings
import DebugBridge.Proofs.Radare.Store
import DebugBridge.Proofs.Radare.Injection
import DebugBridge.Proofs.Ida.Faults
import DebugBridge.Proofs.Gdb.Words
import DebugBridge.Proofs.Radare.Registers
import DebugBridge.Proofs.Radare.Breakpoints
import DebugBridge.Proofs.Radare.Mappings
import DebugBridge.Proofs.Ida.Marking
