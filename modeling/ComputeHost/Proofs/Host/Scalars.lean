/-
**Scalars on their way to a device.**

The binder goes by the bytes of an argument and the buffers that are live, not by the type of the
parameter. So a scalar arrives as it was set, except where its eight bytes happen to be the handle
of a buffer that is live at the launch: then the address of the buffer arrives in its place.

* `parameterBlock?` — the block of a kernel on a queue.
* `Delivers` — a launch that succeeds, by the record it leaves on the device.
* `delivers_of_launched` — the record has the block, in the layout that the module declares.
* `Widens` — what making buffers leaves as it is; `widens_createBuffers` for any number of them.
* `Run.scalars_arrive` — **what arrives of scalars**, and what more buffers change about it.
-/

import ComputeHost.Proofs.Host.Binding
import ComputeHost.Proofs.Host.LaunchLog

namespace ComputeHost.Host

open ComputeHost.Action

variable {host before middle after : Host SimulatedDevice} {history : List Exchange}
  {queue : QueueHandle} {kernel : KernelHandle} {range : LaunchRange} {waits : WaitList}

/-- The block that the arguments of the kernel make on the device of the queue. -/
def parameterBlock? (queue : QueueHandle) (kernel : KernelHandle) (host : Host SimulatedDevice) :
    Option Block := do
  let signature ← declared? queue kernel host
  let line ← host.registry.queues.get? queue
  let made ← host.registry.kernels.get? kernel
  let device ← host.registry.devices.get? line.device
  ((host.binding line.device device.name).block signature made).toOption

theorem parameterBlock?_eq_some {block : Block} :
    parameterBlock? queue kernel host = some block ↔
      ∃ signature line made device, declared? queue kernel host = some signature ∧
        host.registry.queues.get? queue = some line ∧
        host.registry.kernels.get? kernel = some made ∧
        host.registry.devices.get? line.device = some device ∧
        (host.binding line.device device.name).block signature made =
          .ok block := by
  have had : ∀ outcome : Except HostError Block, outcome.toOption = some block ↔
      outcome = .ok block := by
    intro outcome
    cases outcome <;> simp [Except.toOption]
  unfold parameterBlock?
  simp only [Option.bind_eq_bind, Option.bind_eq_some_iff, had, exists_and_left]

/-- The launch succeeds, and leaves the record on the device of the queue. -/
structure Delivers (queue : QueueHandle) (kernel : KernelHandle) (range : LaunchRange)
    (waits : WaitList) (host : Host SimulatedDevice) (record : LaunchRecord) : Prop where
  succeeds : ∃ answer, (step (.enqueueKernel queue kernel range waits) host).1 = .ok answer
  recorded : ∃ line one other, host.registry.queues.get? queue = some line ∧
    host.backend? line.device = some one ∧
    (step (.enqueueKernel queue kernel range waits) host).2.backend? line.device = some other ∧
    other.probe.launches = one.probe.launches ++ [record]

/-- What a launch that succeeds delivers. -/
theorem delivers_of_launched {answer : Answer}
    (done : (step (.enqueueKernel queue kernel range waits) host).1 = .ok answer) :
    ∃ signature line made device record, Delivers queue kernel range waits host record ∧
      declared? queue kernel host = some signature ∧
      host.registry.queues.get? queue = some line ∧
      host.registry.kernels.get? kernel = some made ∧
      host.registry.devices.get? line.device = some device ∧
      (host.binding line.device device.name).block signature made =
        .ok record.parameters := by
  have service := step_service host (.enqueueKernel queue kernel range waits)
  have succeeds : ∃ answer, (step (.enqueueKernel queue kernel range waits) host).1 = .ok answer :=
    ⟨answer, done⟩
  generalize result_is : (step (.enqueueKernel queue kernel range waits) host).1 = result at service
  generalize after_is : (step (.enqueueKernel queue kernel range waits) host).2 = after at service
  cases service with
  | served plain serves => cases plain
  | failed serves => rw [result_is] at done; cases done
  | @launched _ _ _ _ line geometry request context middle one changed recorders passes asked there
      serves found ran =>
    have queued := (checkLaunch_eq_ok passes).1
    obtain ⟨noted, program, build, module, signature, device, parameters, changes, owner, first,
      registered, known, live, bound, rfl⟩ := launchRequest_eq_ok asked
    -- the kernel differs from the one before by its geometry, which nothing here depends on
    unfold withChanged at changes
    simp only [Arena.get?_modify, if_true] at changes
    obtain ⟨made, held, rfl⟩ := Option.map_eq_some_iff.mp changes
    have owner : host.registry.programs.get? made.program = some program := owner
    have built : moduleFor? queue kernel host = some module := by
      rw [moduleFor?_eq queued held owner, first, Option.bind_some]
      exact registered
    have declares : declared? queue kernel host = some signature :=
      (declared?_eq held built).trans known
    obtain ⟨before, stood, served⟩ := serves.each.some_of found
    have there : (middle.setBackend line.device changed).backend? line.device = some changed := by
      rw [backend?_setBackend, if_pos rfl, found]
      rfl
    have launches := ran.launches
    rw [served.launches] at launches
    refine ⟨signature, line, made, device, _, ⟨succeeds, line, before, changed, queued, stood, ?_,
      launches⟩, declares, queued, held, live, bound⟩
    rw [after_is]
    exact there

/-! ### Making buffers -/

/-- Buffers were made; every other one, and all that a block depends on, is as it was. -/
structure Widens (before after : Host SimulatedDevice) : Prop where
  queues : after.registry.queues = before.registry.queues
  kernels : after.registry.kernels = before.registry.kernels
  programs : after.registry.programs = before.registry.programs
  modules : after.modules = before.modules
  settings : after.settings = before.settings
  devices : ∀ handle, (after.registry.devices.get? handle).isSome =
    (before.registry.devices.get? handle).isSome
  buffers : ∀ handle buffer, before.registry.buffers.get? handle = some buffer →
    after.registry.buffers.get? handle = some buffer

theorem Widens.refl (host : Host SimulatedDevice) : host.Widens host :=
  ⟨rfl, rfl, rfl, rfl, rfl, fun _ => rfl, fun _ _ => id⟩

theorem Widens.trans (first : before.Widens middle) (second : middle.Widens after) :
    before.Widens after where
  queues := second.queues.trans first.queues
  kernels := second.kernels.trans first.kernels
  programs := second.programs.trans first.programs
  modules := second.modules.trans first.modules
  settings := second.settings.trans first.settings
  devices handle := (second.devices handle).trans (first.devices handle)
  buffers handle buffer live := second.buffers handle buffer (first.buffers handle buffer live)

theorem isSome_backend? (host : Host SimulatedDevice) (handle : DeviceHandle) :
    (host.backend? handle).isSome = (host.registry.devices.get? handle).isSome := by
  unfold backend?
  exact Option.isSome_map

theorem Widens.of_across {relation : SimulatedDevice → SimulatedDevice → Prop}
    (across : Across relation before after) : before.Widens after := by
  have devices : ∀ handle, (after.registry.devices.get? handle).isSome =
      (before.registry.devices.get? handle).isSome := by
    intro handle
    rw [← isSome_backend?, ← isSome_backend?, across.each.isSome_eq]
  obtain ⟨listed, rfl⟩ := across.rest
  exact ⟨rfl, rfl, rfl, rfl, rfl, devices, fun _ _ => id⟩

/-- Making a buffer, whether or not there is room for it. -/
theorem widens_createBuffer (regular : host.Regular) (context : ContextHandle)
    (request : BufferRequest) : host.Widens (step (.createBuffer context request) host).2 := by
  rcases createBuffer_run regular context request with
    ⟨error, after, failed, across, -⟩ |
      ⟨entry, initial, places, middle, -, -, -, across, -, -, made⟩
  · rw [step_of_error (map_of_error failed)]
    exact .of_across across
  · have packed : middle.registry.buffers.Packed := by
      obtain ⟨_, rfl⟩ := across.rest
      exact regular.packed.buffers
    rw [step_of_ok (map_of_ok made)]
    refine (Widens.of_across across).trans
      ⟨rfl, rfl, rfl, rfl, rfl, fun _ => rfl, fun handle buffer live => ?_⟩
    exact (packed.get?_insert _ handle).trans (by rw [live]; rfl)

/-- The calls that make buffers. -/
def createBuffers (requests : List (ContextHandle × BufferRequest)) : List Call :=
  requests.map fun request => .createBuffer request.1 request.2

/-- **Making any number of buffers.** -/
theorem widens_createBuffers (regular : host.Regular)
    (requests : List (ContextHandle × BufferRequest)) :
    host.Widens (run (createBuffers requests) host).2 := by
  induction requests generalizing host with
  | nil => exact .refl host
  | cons request rest ih =>
    have kept := (step_transition regular (.createBuffer request.1 request.2)).regular regular
    exact (widens_createBuffer regular request.1 request.2).trans (ih kept)

/-- The buffers that were made change the block of a kernel only where its arguments name them. -/
theorem Widens.parameterBlock?_eq (widens : before.Widens after)
    (known : ∀ made (handle : BufferHandle), before.registry.kernels.get? kernel = some made →
      some handle.toBytes ∈ made.arguments → after.registry.buffers.contains handle = true →
        before.registry.buffers.contains handle = true) :
    parameterBlock? queue kernel after = parameterBlock? queue kernel before := by
  have declares : declared? queue kernel after = declared? queue kernel before := by
    unfold declared? moduleFor?
    rw [widens.queues, widens.kernels, widens.programs, widens.modules]
  have names : ∀ made (device : DeviceHandle) (one other : String) (argument : Bytes) buffer,
      before.registry.kernels.get? kernel = some made → some argument ∈ made.arguments →
      ((after.binding device other).Names argument buffer ↔
        (before.binding device one).Names argument buffer) := by
    intro made device one other argument buffer held given
    constructor
    · rintro ⟨handle, rfl, live⟩
      have contained : after.registry.buffers.contains handle = true :=
        Option.isSome_iff_exists.mpr ⟨buffer, live⟩
      have earlier := known made handle held given contained
      obtain ⟨found, there⟩ := Option.isSome_iff_exists.mp earlier
      have same := (widens.buffers handle found there).symm.trans live
      cases same
      exact ⟨handle, rfl, there⟩
    · rintro ⟨handle, rfl, live⟩
      exact ⟨handle, rfl, widens.buffers handle buffer live⟩
  have memory : ∀ (device : DeviceHandle) (one other : String),
      (after.binding device other).hostMemory = (before.binding device one).hostMemory :=
    fun _ _ _ => congrArg Settings.hostMemory widens.settings
  refine Option.ext fun block => ?_
  rw [parameterBlock?_eq_some, parameterBlock?_eq_some, declares, widens.queues, widens.kernels]
  constructor
  · rintro ⟨signature, line, made, other, known, queued, held, stands, bound⟩
    have alive := widens.devices line.device
    rw [stands, Option.isSome_some] at alive
    obtain ⟨one, there⟩ := Option.isSome_iff_exists.mp alive.symm
    exact ⟨signature, line, made, one, known, queued, held, there,
      Binding.block_congr (by rfl) (memory line.device one.name other.name).symm
        (fun argument buffer given =>
          (names made line.device one.name other.name argument buffer held given).symm) bound⟩
  · rintro ⟨signature, line, made, one, known, queued, held, there, bound⟩
    have alive := widens.devices line.device
    rw [there, Option.isSome_some] at alive
    obtain ⟨other, stands⟩ := Option.isSome_iff_exists.mp alive
    exact ⟨signature, line, made, other, known, queued, held, stands,
      Binding.block_congr (by rfl) (memory line.device one.name other.name)
        (fun argument buffer given =>
          names made line.device one.name other.name argument buffer held given) bound⟩

/-- **Scalars arrive as they were last set**, except where their bytes are the handle of a live
buffer: then the address of the buffer arrives. Making buffers leaves the block of a kernel as it is
unless an argument is the handle of one of them. -/
theorem Run.scalars_arrive (run : Run history host) :
    (∀ queue kernel range waits answer,
      (step (.enqueueKernel queue kernel range waits) host).1 = .ok answer →
      ∃ signature line record, declared? queue kernel host = some signature ∧
        host.registry.queues.get? queue = some line ∧
        Delivers queue kernel range waits host record ∧
        parameterBlock? queue kernel host = some record.parameters ∧
        ∀ index parameter type offset value, signature.parameters[index]? = some parameter →
          parameter.type = .scalar type →
          (ParameterLayout.ofSignature signature).offsets[index]? = some offset →
          lastSet kernel index history = some value →
          ((∀ handle : BufferHandle, value = handle.toBytes →
              host.registry.buffers.get? handle = none) →
            record.parameters.bytes.slice offset type.size = value) ∧
          ∀ (handle : BufferHandle) buffer, value = handle.toBytes →
            host.registry.buffers.get? handle = some buffer →
            ∃ address, buffer.addressOn? line.device = some address ∧
              record.parameters.bytes.slice offset type.size = address.toBytes) ∧
    ∀ requests queue kernel,
      (∀ made (handle : BufferHandle), host.registry.kernels.get? kernel = some made →
        some handle.toBytes ∈ made.arguments →
        (Host.run (createBuffers requests) host).2.registry.buffers.contains handle = true →
          host.registry.buffers.contains handle = true) →
      parameterBlock? queue kernel (Host.run (createBuffers requests) host).2 =
        parameterBlock? queue kernel host := by
  refine ⟨fun queue kernel range waits answer done => ?_, fun requests queue kernel known =>
    (widens_createBuffers run.regular requests).parameterBlock?_eq known⟩
  obtain ⟨signature, line, made, device, record, delivers, known, queued, held, live, bound⟩ :=
    delivers_of_launched done
  refine ⟨signature, line, record, known, queued, delivers,
    parameterBlock?_eq_some.mpr ⟨signature, line, made, device, known, queued, held, live, bound⟩,
    fun index parameter type offset value there scalar starts set => ?_⟩
  have given : made.arguments[index]? = some (some value) := by
    obtain ⟨all, -⟩ := Binding.block_eq_ok.mp bound
    obtain ⟨within, -⟩ := List.getElem?_eq_some_iff.mp there
    have slots : made.boundCount ≤ made.arguments.length := List.countP_le_length
    rw [run.recalls.set kernel made held index (by omega), set]
  have fits := ((Binding.block_assembled bound).slot there starts given).2
  have size : parameter.size = type.size := by rw [Parameter.size, scalar, ParameterType.size]
  rw [size] at fits
  refine ⟨fun dead => fits.eq_of_dead ?_, fun handle buffer named lives =>
    fits.placed ⟨handle, named, lives⟩⟩
  rintro buffer ⟨handle, named, lives⟩
  exact absurd ((dead handle named).symm.trans lives) nofun

/-- A kernel with one scalar of eight bytes, which is set to a value. -/
def passing (value : Bytes) : List Call :=
  [.platformIds, .createContext [⟨0, 1⟩] false, .createQueue ⟨0, 1⟩ ⟨0, 1⟩ ⟨0⟩,
    .createProgram ⟨0, 1⟩ ["\x7b\"kernels\":[\x7b\"name\":\"k\",\"params\":[\x7b\"type\":" ++
      "\x7b\"kind\":\"scalar\",\"type\":\"u64\"\x7d\x7d]\x7d]\x7d"],
    .buildProgram ⟨0, 1⟩ none none false, .createKernel ⟨0, 1⟩ "k", .setArgument ⟨0, 1⟩ 0 value]

/-- The host for two accelerators after the value is set. -/
def passed (value : Bytes) : Host SimulatedDevice := (run (passing value) (twin 64 64)).2

/-- Two buffers of four bytes; the second of them gets the handle `1v1`. -/
def twoBuffers : List (ContextHandle × BufferRequest) :=
  [(⟨0, 1⟩, ⟨.readWrite, 4, none⟩), (⟨0, 1⟩, ⟨.readWrite, 4, none⟩)]

/-- The host with the two buffers. -/
def joined (value : Bytes) : Host SimulatedDevice :=
  (run (createBuffers twoBuffers) (passed value)).2

/-- Seven arrives as seven, and two buffers more change nothing about it. -/
theorem scalars_arrive_passing :
    ∃ record, Delivers ⟨0, 1⟩ ⟨0, 1⟩ (.ofGlobal [2]) {} (passed [7, 0, 0, 0, 0, 0, 0, 0]) record ∧
      record.parameters.bytes.slice 0 8 = [7, 0, 0, 0, 0, 0, 0, 0] ∧
      parameterBlock? ⟨0, 1⟩ ⟨0, 1⟩ (joined [7, 0, 0, 0, 0, 0, 0, 0]) =
        some record.parameters := by
  obtain ⟨arrives, stays⟩ :=
    Run.scalars_arrive (run_twin 64 64 (passing [7, 0, 0, 0, 0, 0, 0, 0]))
  have passes : (step (.enqueueKernel ⟨0, 1⟩ ⟨0, 1⟩ (.ofGlobal [2]) {})
      (passed [7, 0, 0, 0, 0, 0, 0, 0])).1.isOk = true := by decide +kernel
  have shape : (declared? ⟨0, 1⟩ ⟨0, 1⟩ (passed [7, 0, 0, 0, 0, 0, 0, 0])).map
      KernelSignature.parameters = some [⟨"", .scalar .u64⟩] := by decide +kernel
  have set : lastSet ⟨0, 1⟩ 0 (record (passing [7, 0, 0, 0, 0, 0, 0, 0]) (twin 64 64)) =
      some [7, 0, 0, 0, 0, 0, 0, 0] := by decide +kernel
  have arguments : ((passed [7, 0, 0, 0, 0, 0, 0, 0]).registry.kernels.get? ⟨0, 1⟩).map
      Kernel.arguments = some [some [7, 0, 0, 0, 0, 0, 0, 0]] := by decide +kernel
  have named : ∀ handle : BufferHandle, [7, 0, 0, 0, 0, 0, 0, 0] = handle.toBytes →
      handle = ⟨7, 0⟩ := by
    intro handle same
    rw [← Binding.ofBits_ofLittleEndian_toBytes handle, ← same]
    decide
  have absent : (joined [7, 0, 0, 0, 0, 0, 0, 0]).registry.buffers.contains ⟨7, 0⟩ = false := by
    decide +kernel
  obtain ⟨answer, done⟩ := except_eq_ok_of_isOk passes
  obtain ⟨signature, line, record, known, -, delivers, block, scalars⟩ :=
    arrives ⟨0, 1⟩ ⟨0, 1⟩ (.ofGlobal [2]) {} answer done
  have known : declared? ⟨0, 1⟩ ⟨0, 1⟩ (passed [7, 0, 0, 0, 0, 0, 0, 0]) = some signature := known
  rw [known, Option.map_some, Option.some.injEq] at shape
  have start : (ParameterLayout.ofSignature signature).offsets[0]? = some 0 := by
    rw [ParameterLayout.ofSignature, shape]
    rfl
  have dead : ∀ handle : BufferHandle, [7, 0, 0, 0, 0, 0, 0, 0] = handle.toBytes →
      (passed [7, 0, 0, 0, 0, 0, 0, 0]).registry.buffers.get? handle = none := by
    intro handle same
    rw [named handle same]
    exact Option.isNone_iff_eq_none.mp (by decide +kernel)
  have arrived := (scalars 0 _ .u64 0 _ (by rw [shape]; rfl) rfl start set).1 dead
  refine ⟨record, delivers, arrived, (stays twoBuffers ⟨0, 1⟩ ⟨0, 1⟩ ?_).trans block⟩
  intro made handle found given contained
  have held : (passed [7, 0, 0, 0, 0, 0, 0, 0]).registry.kernels.get? ⟨0, 1⟩ = some made := found
  rw [held, Option.map_some, Option.some.injEq] at arguments
  rw [arguments, List.mem_singleton, Option.some.injEq] at given
  rw [named handle given.symm] at contained
  exact absurd (absent.symm.trans contained) nofun

/-- The handle `1v1` does not arrive as it is once there is a buffer of that handle, although the
parameter is a scalar. -/
theorem not_always_verbatim :
    (¬ ∀ history host queue kernel range waits signature record index parameter type offset value,
      Run history host → declared? queue kernel host = some signature →
      Delivers queue kernel range waits host record →
      signature.parameters[index]? = some parameter → parameter.type = .scalar type →
      (ParameterLayout.ofSignature signature).offsets[index]? = some offset →
      lastSet kernel index history = some value → value.length = type.size →
      record.parameters.bytes.slice offset type.size = value) ∧
    ¬ ∀ history host requests queue kernel signature, Run history host →
      declared? queue kernel host = some signature →
      (∀ parameter ∈ signature.parameters, ∃ type, parameter.type = .scalar type) →
      parameterBlock? queue kernel (Host.run (createBuffers requests) host).2 =
        parameterBlock? queue kernel host := by
  have reached := run_twin 64 64 (passing [1, 0, 0, 0, 1, 0, 0, 0])
  have joins := reached.calls (createBuffers twoBuffers)
  have block_there : (parameterBlock? ⟨0, 1⟩ ⟨0, 1⟩ (joined [1, 0, 0, 0, 1, 0, 0, 0])).map
      Block.bytes = some [0, 1, 0, 0, 1, 0, 0, 0] := by decide +kernel
  constructor
  · intro verbatim
    have passes : (step (.enqueueKernel ⟨0, 1⟩ ⟨0, 1⟩ (.ofGlobal [2]) {})
        (joined [1, 0, 0, 0, 1, 0, 0, 0])).1.isOk = true := by decide +kernel
    have shape : (declared? ⟨0, 1⟩ ⟨0, 1⟩ (joined [1, 0, 0, 0, 1, 0, 0, 0])).map
        KernelSignature.parameters = some [⟨"", .scalar .u64⟩] := by decide +kernel
    have set : lastSet ⟨0, 1⟩ 0 (record (createBuffers twoBuffers) (passed [1, 0, 0, 0, 1, 0, 0, 0])
        ++ record (passing [1, 0, 0, 0, 1, 0, 0, 0]) (twin 64 64)) =
          some [1, 0, 0, 0, 1, 0, 0, 0] := by decide +kernel
    obtain ⟨answer, done⟩ := except_eq_ok_of_isOk passes
    obtain ⟨signature, line, made, device, record, delivers, known, queued, held, live, bound⟩ :=
      delivers_of_launched done
    have block := parameterBlock?_eq_some.mpr
      ⟨signature, line, made, device, known, queued, held, live, bound⟩
    rw [block, Option.map_some, Option.some.injEq] at block_there
    rw [known, Option.map_some, Option.some.injEq] at shape
    have start : (ParameterLayout.ofSignature signature).offsets[0]? = some 0 := by
      rw [ParameterLayout.ofSignature, shape]
      rfl
    have arrived := verbatim _ _ ⟨0, 1⟩ ⟨0, 1⟩ (.ofGlobal [2]) {} signature record 0 _ .u64 0 _
      joins known delivers (by rw [shape]; rfl) rfl start set rfl
    rw [block_there] at arrived
    exact absurd arrived (by decide)
  · intro unchanged
    have block_here : (parameterBlock? ⟨0, 1⟩ ⟨0, 1⟩ (passed [1, 0, 0, 0, 1, 0, 0, 0])).map
        Block.bytes = some [1, 0, 0, 0, 1, 0, 0, 0] := by decide +kernel
    have shape : (declared? ⟨0, 1⟩ ⟨0, 1⟩ (passed [1, 0, 0, 0, 1, 0, 0, 0])).map
        KernelSignature.parameters = some [⟨"", .scalar .u64⟩] := by decide +kernel
    obtain ⟨signature, known, parameters⟩ := Option.map_eq_some_iff.mp shape
    have scalar : ∀ parameter ∈ signature.parameters, ∃ type, parameter.type = .scalar type := by
      intro parameter among
      rw [parameters, List.mem_singleton] at among
      exact ⟨.u64, by rw [among]⟩
    have same : parameterBlock? ⟨0, 1⟩ ⟨0, 1⟩ (joined [1, 0, 0, 0, 1, 0, 0, 0]) =
        parameterBlock? ⟨0, 1⟩ ⟨0, 1⟩ (passed [1, 0, 0, 0, 1, 0, 0, 0]) :=
      unchanged _ _ twoBuffers ⟨0, 1⟩ ⟨0, 1⟩ signature reached known scalar
    rw [same, block_here] at block_there
    exact absurd block_there (by decide)

end ComputeHost.Host
