import ComputeHost.Device.Unreliable
import ComputeHost.Host.Call
import ComputeHost.Host.Preset
import ComputeHost.Logging
import ComputeHost.Performance
import ComputeHost.Proofs.Host.Ledger
import ComputeHost.Proofs.Host.Runnable
import ComputeHost.Proofs.Host.Stranding
import ComputeHost.Proofs.Host.Agreement
import ComputeHost.Proofs.Device.Service
import ComputeHost.Proofs.Host.Service
import ComputeHost.Proofs.Host.Discipline
import ComputeHost.Proofs.Host.Course
import ComputeHost.Proofs.Host.Geometry
import ComputeHost.Proofs.Host.LaunchLog
import ComputeHost.Proofs.Device.Operation
import ComputeHost.Proofs.Device.Fleet
import ComputeHost.Proofs.Arena.Face
import ComputeHost.Proofs.Arena.Tidy
import ComputeHost.Proofs.Arena.Refinement
import ComputeHost.Proofs.Arena.Generation
import ComputeHost.Proofs.Arena.Owner
import ComputeHost.Proofs.Host.Integrity
import ComputeHost.Proofs.Host.Tending
import ComputeHost.Proofs.Host.Filing
import ComputeHost.Proofs.Host.Session
import ComputeHost.Proofs.Host.Attachment
import ComputeHost.Proofs.Host.Tracing
import ComputeHost.Proofs.Host.Atomicity
import ComputeHost.Proofs.Host.Leftover
import ComputeHost.Proofs.Device.Orderly
import ComputeHost.Proofs.Device.Migrated
import ComputeHost.Proofs.Json.RoundTrip
import ComputeHost.Proofs.Module.Declarations
import ComputeHost.Proofs.Module.RoundTrip
import ComputeHost.Proofs.Host.Binding
import ComputeHost.Proofs.Host.Commitment
import ComputeHost.Proofs.Host.Scalars
import ComputeHost.Proofs.Host.Precedence
import ComputeHost.Proofs.Host.Normalization
import ComputeHost.Proofs.Host.Reordering
import ComputeHost.Proofs.Device.Unloading
import ComputeHost.Proofs.Host.GroupCounts
import ComputeHost.Proofs.Device.Access
import ComputeHost.Proofs.Device.Accounting
import ComputeHost.Proofs.Module.Violations
import ComputeHost.Proofs.Host.Binaries
import ComputeHost.Proofs.Diagnostics
import ComputeHost.Proofs.Host.Finding
import ComputeHost.Proofs.Host.KernelNames
import ComputeHost.Proofs.Host.Placement
