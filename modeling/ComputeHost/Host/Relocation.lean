/-
**Migrating a device of a host.**

After the memory of one device has moved to another, the buffers are pointed at their new places. A
buffer that was on both devices keeps the place it had on the target, and the copy made for it is
given back.
-/

import ComputeHost.Host.Basic
import ComputeHost.Host.Migration

namespace ComputeHost

/-- The buffer after its allocation on `source` moved to `target`, and the copy that it does not
need. -/
def Buffer.relocated (buffer : Buffer) (source target : DeviceHandle) (moved : AddressMap) :
    Buffer × Option Address :=
  match buffer.addressOn? source with
  | none => (buffer, none)
  | some old =>
    let places := buffer.places.eraseP fun place => place.1 == source
    match moved.lookup old with
    | none => ({ buffer with places }, none)
    | some new =>
      if (places.lookup target).isSome then ({ buffer with places }, some new)
      else ({ buffer with places := places ++ [(target, new)] }, none)

namespace Host

variable {δ : Type} [DeviceDriver δ]

/-- Frees memory of a device, one address after the other; what cannot be freed stays. -/
def freeEach : List Address → DeviceAction δ Unit
  | [] => pure ()
  | address :: rest => fun device =>
    match DeviceDriver.free address device with
    | .ok () device | .error _ device => freeEach rest device

/-- Points the buffers at their new places and frees the copies that are not needed. -/
def relocateBuffers (source target : DeviceHandle) (moved : AddressMap) : HostAction δ Unit := do
  let copies := (← get).registry.buffers.objects.filterMap fun buffer =>
    (buffer.relocated source target moved).2
  register fun registry =>
    ((), { registry with
      buffers := registry.buffers.map fun buffer => (buffer.relocated source target moved).1 })
  if !copies.isEmpty then attempt (onDevice target .device (freeEach copies))

/-- Moves memory between two devices; both keep what was done to them when it fails. -/
def migratePair (source target : DeviceHandle) (modules : List KernelModule) :
    HostAction δ AddressMap := fun host =>
  match host.registry.devices.getPair? source target with
  | none => .error (.invalidHandle .device) host
  | some (leaving, entering) =>
    match Migration.migrate modules ⟨leaving.backend, entering.backend⟩ with
    | .ok moved pair =>
      .ok moved ((host.setBackend source pair.source).setBackend target pair.target)
    | .error error pair =>
      .error error ((host.setBackend source pair.source).setBackend target pair.target)

/-- Checks the devices of a migration. -/
def checkMigration (source target : DeviceHandle) (host : Host δ) : Except HostError Unit := do
  discard (host.registry.devices.checked source)
  discard (host.registry.devices.checked target)
  if source = target then throw (.invalidValue "cannot migrate a device onto itself")

/-- Moves all memory of one device to another. Before the devices are listed there is nothing to
move. -/
def migrateDevice (source target : DeviceHandle) : HostAction δ AddressMap := do
  let host ← get
  if !host.isEnumerated then return []
  check (checkMigration source target)
  let moved ← migratePair source target (host.modules.loadedOn source)
  relocateBuffers source target moved
  return moved

end Host

end ComputeHost
