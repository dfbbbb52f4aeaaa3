/-
**Binding arguments to parameters.**

An argument fits its parameter in two ways (`Fits`): it is the handle of a live buffer that is on
the device, and stands for an address, or it names no live buffer, is as long as declared and stands
for itself. In all other cases it has one error (`Misfits`).

* `bindArgument_eq_ok`, `bindArgument_eq_error` — binding one argument decides which.
* `bindArguments_eq_ok`, `bindArguments_eq_error` — all arguments are bound, or the first that does
  not fit gives its error.
* `writeArguments?` — the arguments written into a block of zeros as they are bound, where every
  range and every length is checked.
* `writeArguments?_eq` — no check fails, and the block is the one that is put together from pieces:
  an argument touches nothing in front of its slot.
* `block_assembles` — **what becomes of a kernel's arguments**, for all signatures whose block can
  be had.
-/

import ComputeHost.Proofs.Host.Layout

namespace ComputeHost

/-- The sizes and alignments of parameters. -/
def Parameter.shapes (parameters : List Parameter) : List (Nat × Nat) :=
  parameters.map fun parameter => (parameter.size, parameter.alignment)

theorem Parameter.map_fst_shapes (parameters : List Parameter) :
    (shapes parameters).map Prod.fst = parameters.map Parameter.size := by
  unfold shapes
  rw [List.map_map]
  rfl

namespace Binding

variable {binding : Binding} {index : Nat} {parameter : Parameter} {argument piece : Bytes}
  {buffer : Buffer} {address : Address} {error : HostError}

/-- The argument is the handle of a live buffer. -/
def Names (binding : Binding) (argument : Bytes) (buffer : Buffer) : Prop :=
  ∃ handle : BufferHandle, argument = handle.toBytes ∧ binding.buffers.get? handle = some buffer

/-- The argument fits the parameter, and so stands for bytes of the block. -/
inductive Fits (binding : Binding) (parameter : Parameter) (argument : Bytes) : Bytes → Prop
  /-- The handle of a live buffer stands for the address on the device. -/
  | reference {buffer : Buffer} {address : Address} (live : binding.Names argument buffer)
      (wide : parameter.size = 8) (placed : buffer.addressOn? binding.device = some address) :
      Fits binding parameter argument address.toBytes
  /-- All other bytes stand for themselves. -/
  | value (dead : ∀ buffer, ¬ binding.Names argument buffer)
      (whole : argument.length = parameter.size) : Fits binding parameter argument argument

/-- The argument does not fit the parameter of the given index, with the error that tells so. -/
inductive Misfits (binding : Binding) (index : Nat) (parameter : Parameter) (argument : Bytes) :
    HostError → Prop
  /-- The parameter is no address. -/
  | narrow {buffer : Buffer} (live : binding.Names argument buffer) (other : parameter.size ≠ 8) :
      Misfits binding index parameter argument (.argSize index parameter.size 8)
  /-- The buffer is not on the device. -/
  | absent {buffer : Buffer} (live : binding.Names argument buffer) (wide : parameter.size = 8)
      (placeless : buffer.addressOn? binding.device = none) :
      Misfits binding index parameter argument
        (.memAllocation binding.deviceName
          ("argument " ++ toString index ++ " has no allocation on this device"))
  /-- The bytes are too few or too many. -/
  | unequal (dead : ∀ buffer, ¬ binding.Names argument buffer)
      (other : argument.length ≠ parameter.size) :
      Misfits binding index parameter argument (.argSize index parameter.size argument.length)

/-! ### One argument -/

/-- Eight bytes are the handle that is read from them. -/
theorem toBytes_ofBits_ofLittleEndian (wide : argument.length = 8) :
    (Handle.ofBits (UInt64.ofNat (Bytes.ofLittleEndian argument)) : BufferHandle).toBytes =
      argument := by
  have small : Bytes.ofLittleEndian argument < UInt64.size := by
    have bound := Bytes.ofLittleEndian_lt_limit argument
    rw [wide] at bound
    exact bound
  rw [Handle.toBytes, Handle.toBits_ofBits, UInt64.toNat_ofNat', Nat.mod_eq_of_lt small, ← wide]
  exact Bytes.littleEndian_ofLittleEndian argument

theorem ofBits_ofLittleEndian_toBytes (handle : BufferHandle) :
    (Handle.ofBits (UInt64.ofNat (Bytes.ofLittleEndian handle.toBytes)) : BufferHandle) =
      handle := by
  have small : handle.toBits.toNat < Bytes.limit 8 := handle.toBits.toNat_lt
  rw [Handle.toBytes, Bytes.ofLittleEndian_littleEndian small, UInt64.ofNat_toNat,
    Handle.ofBits_toBits]

theorem referenced?_eq_some :
    binding.referenced? argument = some buffer ↔ binding.Names argument buffer := by
  unfold referenced?
  constructor
  · intro found
    split at found
    · rename_i wide
      exact ⟨_, (toBytes_ofBits_ofLittleEndian wide).symm, found⟩
    · cases found
  · rintro ⟨handle, rfl, live⟩
    rw [if_pos handle.toBytes_length, ofBits_ofLittleEndian_toBytes, live]

theorem referenced?_eq_none :
    binding.referenced? argument = none ↔ ∀ buffer, ¬ binding.Names argument buffer := by
  simp only [Option.eq_none_iff_forall_ne_some, ne_eq, referenced?_eq_some]

theorem Fits.bindArgument_eq (fits : binding.Fits parameter argument piece) :
    binding.bindArgument index parameter (some argument) = .ok piece := by
  cases fits with
  | reference live wide placed =>
    simp only [bindArgument, referenced?_eq_some.mpr live, Address.width, wide, placed, ne_eq,
      not_true_eq_false, if_false]
  | value dead whole =>
    simp only [bindArgument, referenced?_eq_none.mpr dead, whole, ne_eq, not_true_eq_false,
      if_false]

theorem Misfits.bindArgument_eq (misfits : binding.Misfits index parameter argument error) :
    binding.bindArgument index parameter (some argument) = .error error := by
  cases misfits with
  | narrow live other =>
    simp only [bindArgument, referenced?_eq_some.mpr live, Address.width, other, ne_eq,
      not_false_eq_true, if_true]
  | absent live wide placeless =>
    simp only [bindArgument, referenced?_eq_some.mpr live, Address.width, wide, placeless, ne_eq,
      not_true_eq_false, if_false]
  | unequal dead other =>
    simp only [bindArgument, referenced?_eq_none.mpr dead, other, ne_eq, not_false_eq_true,
      if_true]

/-- An argument fits or has an error. -/
theorem fits_or_misfits (binding : Binding) (index : Nat) (parameter : Parameter)
    (argument : Bytes) :
    (∃ piece, binding.Fits parameter argument piece) ∨
      ∃ error, binding.Misfits index parameter argument error := by
  by_cases named : ∃ buffer, binding.Names argument buffer
  · obtain ⟨buffer, live⟩ := named
    by_cases wide : parameter.size = 8
    · cases place : buffer.addressOn? binding.device with
      | some address => exact .inl ⟨_, .reference live wide place⟩
      | none => exact .inr ⟨_, .absent live wide place⟩
    · exact .inr ⟨_, .narrow live wide⟩
  · have dead := not_exists.mp named
    by_cases whole : argument.length = parameter.size
    · exact .inl ⟨_, .value dead whole⟩
    · exact .inr ⟨_, .unequal dead whole⟩

theorem bindArgument_eq_ok :
    binding.bindArgument index parameter (some argument) = .ok piece ↔
      binding.Fits parameter argument piece := by
  refine ⟨fun bound => ?_, Fits.bindArgument_eq⟩
  rcases binding.fits_or_misfits index parameter argument with ⟨found, fits⟩ | ⟨error, misfits⟩
  · cases bound.symm.trans fits.bindArgument_eq
    exact fits
  · cases bound.symm.trans misfits.bindArgument_eq

theorem bindArgument_eq_error :
    binding.bindArgument index parameter (some argument) = .error error ↔
      binding.Misfits index parameter argument error := by
  refine ⟨fun failed => ?_, Misfits.bindArgument_eq⟩
  rcases binding.fits_or_misfits index parameter argument with ⟨piece, fits⟩ | ⟨found, misfits⟩
  · cases failed.symm.trans fits.bindArgument_eq
  · cases failed.symm.trans misfits.bindArgument_eq
    exact misfits

/-- What an argument stands for is as long as its parameter. -/
theorem Fits.length (fits : binding.Fits parameter argument piece) :
    piece.length = parameter.size := by
  cases fits with
  | reference live wide placed => rw [Address.toBytes_length, wide, Address.width]
  | value dead whole => exact whole

/-- Bytes that name no live buffer stand for themselves. -/
theorem Fits.eq_of_dead (fits : binding.Fits parameter argument piece)
    (dead : ∀ buffer, ¬ binding.Names argument buffer) : piece = argument := by
  cases fits with
  | reference live wide placed => exact absurd live (dead _)
  | value dead whole => rfl

/-- The handle of a live buffer stands for its address. -/
theorem Fits.placed (fits : binding.Fits parameter argument piece)
    (live : binding.Names argument buffer) :
    ∃ address, buffer.addressOn? binding.device = some address ∧ piece = address.toBytes := by
  cases fits with
  | reference other wide placed =>
    have same := (referenced?_eq_some.mpr live).symm.trans (referenced?_eq_some.mpr other)
    cases same
    exact ⟨_, placed, rfl⟩
  | value dead whole => exact absurd live (dead buffer)

theorem Fits.congr {other : Binding} (device : other.device = binding.device)
    (same : ∀ buffer, other.Names argument buffer ↔ binding.Names argument buffer)
    (fits : binding.Fits parameter argument piece) : other.Fits parameter argument piece := by
  cases fits with
  | reference live wide placed => exact .reference ((same _).mpr live) wide (device ▸ placed)
  | value dead whole =>
    exact .value (fun buffer named => dead buffer ((same buffer).mp named)) whole

theorem length_of_bindArgument {given : Option Bytes}
    (bound : binding.bindArgument index parameter given = .ok piece) :
    piece.length = parameter.size := by
  cases given with
  | none => cases bound
  | some argument => exact (bindArgument_eq_ok.mp bound).length

/-! ### All arguments -/

section Arguments

variable {position : Nat} {parameters rest : List Parameter} {arguments : List (Option Bytes)}
  {pieces : List Bytes} {done : Bytes}

theorem bindArguments_cons (binding : Binding) (index : Nat) (parameter : Parameter)
    (rest : List Parameter) (arguments : List (Option Bytes)) :
    binding.bindArguments index (parameter :: rest) arguments =
      (binding.bindArgument index parameter (arguments.head?.getD none)).bind fun piece =>
        (binding.bindArguments (index + 1) rest arguments.tail).map (piece :: ·) := by
  rw [bindArguments]
  cases binding.bindArgument index parameter (arguments.head?.getD none) with
  | error => rfl
  | ok piece => cases binding.bindArguments (index + 1) rest arguments.tail <;> rfl

/-- The pieces of bound arguments are as long as the parameters. -/
theorem lengths_of_bindArguments
    (bound : binding.bindArguments index parameters arguments = .ok pieces) :
    pieces.map List.length = (Parameter.shapes parameters).map Prod.fst := by
  rw [Parameter.map_fst_shapes]
  induction parameters generalizing index arguments pieces with
  | nil =>
    cases bound
    rfl
  | cons parameter rest ih =>
    rw [bindArguments_cons] at bound
    cases first : binding.bindArgument index parameter (arguments.head?.getD none) with
    | error => rw [first] at bound; cases bound
    | ok piece =>
      cases others : binding.bindArguments (index + 1) rest arguments.tail with
      | error => rw [first, others] at bound; cases bound
      | ok found =>
        rw [first, others] at bound
        cases bound
        rw [List.map_cons, List.map_cons, length_of_bindArgument first, ih others]

theorem bindArguments_cons_eq_ok :
    binding.bindArguments index (parameter :: rest) arguments = .ok pieces ↔
      ∃ piece others, pieces = piece :: others ∧
        binding.bindArgument index parameter (arguments[0]?.getD none) = .ok piece ∧
        binding.bindArguments (index + 1) rest arguments.tail = .ok others := by
  rw [bindArguments_cons, List.head?_eq_getElem?]
  cases binding.bindArgument index parameter (arguments[0]?.getD none) with
  | error => simp [Except.bind]
  | ok piece =>
    cases binding.bindArguments (index + 1) rest arguments.tail with
    | error => simp [Except.bind, Except.map]
    | ok others => simp [Except.bind, Except.map, eq_comm]

theorem bindArguments_cons_eq_error :
    binding.bindArguments index (parameter :: rest) arguments = .error error ↔
      binding.bindArgument index parameter (arguments[0]?.getD none) = .error error ∨
        (∃ piece, binding.bindArgument index parameter (arguments[0]?.getD none) = .ok piece) ∧
          binding.bindArguments (index + 1) rest arguments.tail = .error error := by
  rw [bindArguments_cons, List.head?_eq_getElem?]
  cases binding.bindArgument index parameter (arguments[0]?.getD none) with
  | error => simp [Except.bind]
  | ok piece =>
    cases binding.bindArguments (index + 1) rest arguments.tail with
    | error => simp [Except.bind, Except.map]
    | ok others => simp [Except.bind, Except.map]

/-- The arguments behind the first one are counted on. -/
theorem bindArgument_succ (binding : Binding) (index place : Nat) (parameter : Parameter)
    (arguments : List (Option Bytes)) :
    binding.bindArgument (index + (place + 1)) parameter (arguments[place + 1]?.getD none) =
      binding.bindArgument (index + 1 + place) parameter (arguments.tail[place]?.getD none) := by
  rw [List.getElem?_tail, ← Nat.add_assoc, Nat.add_right_comm]

/-- **All arguments are bound when each of them is**, each to its own piece. -/
theorem bindArguments_eq_ok :
    binding.bindArguments index parameters arguments = .ok pieces ↔
      pieces.length = parameters.length ∧
        ∀ place parameter piece, parameters[place]? = some parameter →
          pieces[place]? = some piece →
            binding.bindArgument (index + place) parameter (arguments[place]?.getD none) =
              .ok piece := by
  induction parameters generalizing index arguments pieces with
  | nil =>
    rw [bindArguments, Except.ok.injEq, List.length_nil, List.length_eq_zero_iff, eq_comm]
    refine ⟨fun empty => ⟨empty, fun place other piece there => ?_⟩, And.left⟩
    cases there
  | cons parameter rest ih =>
    rw [bindArguments_cons_eq_ok]
    constructor
    · rintro ⟨piece, others, rfl, first, later⟩
      obtain ⟨long, each⟩ := ih.mp later
      refine ⟨by rw [List.length_cons, List.length_cons, long], ?_⟩
      rintro (_ | place) other found there held
      · cases there
        cases held
        exact first
      · rw [bindArgument_succ]
        exact each place other found there held
    · rintro ⟨long, each⟩
      obtain ⟨piece, others, rfl⟩ := List.exists_cons_of_length_eq_add_one long
      refine ⟨piece, others, rfl, each 0 parameter piece rfl rfl, ih.mpr ⟨by simpa using long, ?_⟩⟩
      intro place other found there held
      rw [← bindArgument_succ]
      exact each (place + 1) other found there held

/-- **Arguments fail with the error of the first of them that fails.** -/
theorem bindArguments_eq_error :
    binding.bindArguments index parameters arguments = .error error ↔
      ∃ place parameter, parameters[place]? = some parameter ∧
        binding.bindArgument (index + place) parameter (arguments[place]?.getD none) =
          .error error ∧
        ∀ earlier other, earlier < place → parameters[earlier]? = some other →
          ∃ piece, binding.bindArgument (index + earlier) other (arguments[earlier]?.getD none) =
            .ok piece := by
  induction parameters generalizing index arguments with
  | nil => simp [bindArguments]
  | cons parameter rest ih =>
    rw [bindArguments_cons_eq_error]
    constructor
    · rintro (failed | ⟨⟨piece, first⟩, later⟩)
      · exact ⟨0, parameter, rfl, failed, fun _ _ before => absurd before (Nat.not_lt_zero _)⟩
      · obtain ⟨place, other, there, failed, passed⟩ := ih.mp later
        refine ⟨place + 1, other, there, (bindArgument_succ ..).trans failed, ?_⟩
        rintro (_ | earlier) another before held
        · cases held
          exact ⟨piece, first⟩
        · rw [bindArgument_succ]
          exact passed earlier another (Nat.lt_of_succ_lt_succ before) held
    · rintro ⟨_ | place, other, there, failed, passed⟩
      · cases there
        exact .inl failed
      · refine .inr ⟨passed 0 parameter (Nat.succ_pos _) rfl, ih.mpr ⟨place, other, there,
          (bindArgument_succ ..).symm.trans failed, fun earlier another before held => ?_⟩⟩
        rw [← bindArgument_succ]
        exact passed (earlier + 1) another (Nat.succ_lt_succ before) held

/-- Binds the arguments one after the other and writes each into the slot of its parameter, which
starts at the given offset. Gives nothing where a slot leaves the bytes, or where what is written is
not as long as its slot. -/
def writeArguments? (binding : Binding) :
    (index : Nat) → List (Parameter × Nat) → List (Option Bytes) → Bytes →
      Option (Except HostError Bytes)
  | _, [], _, bytes => some (.ok bytes)
  | index, (parameter, offset) :: rest, arguments, bytes =>
    if offset + parameter.size ≤ bytes.length then
      match binding.bindArgument index parameter (arguments.head?.getD none) with
      | .error error => some (.error error)
      | .ok piece =>
        if piece.length = parameter.size then
          writeArguments? binding (index + 1) rest arguments.tail (bytes.splice offset piece)
        else none
    else none

open ParameterLayout in
/-- **No range leaves the block and no copy is of another length**: writing the arguments gives the
block that is put together from their pieces, or the error of the arguments. -/
theorem writeArguments?_eq (written : done.length = position) :
    binding.writeArguments? index
        (parameters.zip (layFrom position (Parameter.shapes parameters)).offsets) arguments
        (done ++ Bytes.zeros ((layFrom position (Parameter.shapes parameters)).size - position)) =
      some ((binding.bindArguments index parameters arguments).map fun pieces =>
        done ++ (assemble position
          ((layFrom position (Parameter.shapes parameters)).offsets.zip pieces)).bytes) := by
  induction parameters generalizing index position arguments done with
  | nil => simp [Parameter.shapes, layFrom, bindArguments, writeArguments?, assemble, Except.map]
  | cons parameter rest ih =>
    have first := le_roundUp position parameter.alignment
    have last : roundUp position parameter.alignment + parameter.size ≤
        (layFrom (roundUp position parameter.alignment + parameter.size)
          (Parameter.shapes rest)).size := le_size
    have fits : roundUp position parameter.alignment + parameter.size ≤
        (done ++ Bytes.zeros ((layFrom (roundUp position parameter.alignment + parameter.size)
          (Parameter.shapes rest)).size - position)).length := by
      rw [List.length_append, Bytes.zeros_length]
      omega
    rw [Parameter.shapes, List.map_cons, ← Parameter.shapes, offsets_cons, size_cons,
      List.zip_cons_cons, writeArguments?, if_pos fits, bindArguments_cons]
    cases bound : binding.bindArgument index parameter (arguments.head?.getD none) with
    | error => rfl
    | ok piece =>
      have long := length_of_bindArgument bound
      -- what is written so far ends where the next slot may start
      have reached : (done ++ Bytes.zeros (roundUp position parameter.alignment - position) ++
          piece).length = roundUp position parameter.alignment + parameter.size := by
        simp only [List.length_append, Bytes.zeros_length]
        omega
      simp only
      rw [if_pos long, Bytes.splice_zeros (by omega) (by omega), written, long,
        Nat.add_sub_of_le (by omega), ih reached]
      cases binding.bindArguments (index + 1) rest arguments.tail with
      | error => rfl
      | ok others =>
        simp only [Except.map, Except.bind, List.zip_cons_cons, bytes_assemble_cons, long,
          List.append_assoc]

end Arguments

/-! ### The block -/

section Block

variable {signature : KernelSignature} {kernel : Kernel} {block : Block}

/-- The block of a kernel holds each argument in the slot of its parameter and nothing else. -/
structure Assembled (binding : Binding) (signature : KernelSignature) (kernel : Kernel)
    (block : Block) : Prop where
  size : block.bytes.length = (ParameterLayout.ofSignature signature).size
  /-- The slots are in the block, and hold what the arguments stand for. -/
  slot : ∀ {index offset : Nat} {parameter : Parameter} {argument : Bytes},
    signature.parameters[index]? = some parameter →
      (ParameterLayout.ofSignature signature).offsets[index]? = some offset →
        kernel.arguments[index]? = some (some argument) →
          offset + parameter.size ≤ block.bytes.length ∧
            binding.Fits parameter argument (block.bytes.slice offset parameter.size)
  /-- What is in no slot is zero. -/
  padding : ∀ {place : Nat}, place < block.bytes.length →
    (∀ (index offset : Nat) (parameter : Parameter),
      (ParameterLayout.ofSignature signature).offsets[index]? = some offset →
        signature.parameters[index]? = some parameter →
          place < offset ∨ offset + parameter.size ≤ place) →
    block.bytes[place]? = some 0

/-- All arguments that are set fit their parameters. -/
def AllFit (binding : Binding) (signature : KernelSignature) (kernel : Kernel) : Prop :=
  ∀ (index : Nat) (parameter : Parameter) (argument : Bytes),
    signature.parameters[index]? = some parameter →
      kernel.arguments[index]? = some (some argument) →
        ∃ piece, binding.Fits parameter argument piece

/-- The first argument that does not fit its parameter has the error. -/
def FirstMisfit (binding : Binding) (signature : KernelSignature) (kernel : Kernel)
    (error : HostError) : Prop :=
  ∃ index parameter argument, signature.parameters[index]? = some parameter ∧
    kernel.arguments[index]? = some (some argument) ∧
    binding.Misfits index parameter argument error ∧
    ∀ earlier other given, earlier < index → signature.parameters[earlier]? = some other →
      kernel.arguments[earlier]? = some (some given) → ∃ piece, binding.Fits other given piece

/-- All arguments are set when as many are set as there are slots. -/
theorem boundCount_eq (slots : kernel.arguments.length = signature.parameters.length) :
    kernel.boundCount = signature.parameters.length ↔ none ∉ kernel.arguments := by
  rw [← slots, Kernel.boundCount, List.countP_eq_length]
  refine ⟨fun set missing => (nomatch set none missing), fun set argument member => ?_⟩
  cases argument with
  | none => exact absurd member set
  | some => rfl

theorem block_of_count (other : kernel.boundCount ≠ signature.parameters.length) :
    binding.block signature kernel =
      .error (.kernelArgs kernel.boundCount signature.parameters.length) := by
  simp only [block, if_pos other]
  rfl

theorem block_of_refusal {reason : String} (all : kernel.boundCount = signature.parameters.length)
    (refused : blockRefusal? binding.hostMemory (ParameterLayout.ofSignature signature).size =
      some reason) :
    binding.block signature kernel = .error (.memAllocation "host" reason) := by
  simp only [block, all, refused, ne_eq, not_true_eq_false, if_false]
  rfl

theorem block_of_room (all : kernel.boundCount = signature.parameters.length)
    (room : blockRefusal? binding.hostMemory (ParameterLayout.ofSignature signature).size = none) :
    binding.block signature kernel =
      (binding.bindArguments 0 signature.parameters kernel.arguments).map fun pieces =>
        assemble 0 ((ParameterLayout.ofSignature signature).offsets.zip pieces) := by
  simp only [block, all, room, ne_eq, not_true_eq_false, if_false]
  cases binding.bindArguments 0 signature.parameters kernel.arguments <;> rfl

/-- What a block that is had is made of. -/
theorem block_eq_ok :
    binding.block signature kernel = .ok block ↔
      kernel.boundCount = signature.parameters.length ∧
      blockRefusal? binding.hostMemory (ParameterLayout.ofSignature signature).size = none ∧
      ∃ pieces, binding.bindArguments 0 signature.parameters kernel.arguments = .ok pieces ∧
        assemble 0 ((ParameterLayout.ofSignature signature).offsets.zip pieces) = block := by
  by_cases all : kernel.boundCount = signature.parameters.length
  · cases room : blockRefusal? binding.hostMemory (ParameterLayout.ofSignature signature).size with
    | some reason => simp [block_of_refusal all room]
    | none =>
      rw [block_of_room all room]
      cases binding.bindArguments 0 signature.parameters kernel.arguments <;> simp [all, Except.map]
  · simp [block_of_count all, all]

/-- A binding that knows the same of every argument binds the same block. -/
theorem block_congr {other : Binding} (device : other.device = binding.device)
    (memory : other.hostMemory = binding.hostMemory)
    (same : ∀ argument buffer, some argument ∈ kernel.arguments →
      (other.Names argument buffer ↔ binding.Names argument buffer))
    (made : binding.block signature kernel = .ok block) :
    other.block signature kernel = .ok block := by
  obtain ⟨all, room, pieces, bound, assembled⟩ := block_eq_ok.mp made
  obtain ⟨count, each⟩ := bindArguments_eq_ok.mp bound
  refine block_eq_ok.mpr
    ⟨all, memory ▸ room, pieces, bindArguments_eq_ok.mpr ⟨count, ?_⟩, assembled⟩
  intro place parameter piece there held
  have bound := each place parameter piece there held
  cases given : kernel.arguments[place]? with
  | none => rw [given] at bound; cases bound
  | some set =>
    rw [given] at bound
    cases set with
    | none => cases bound
    | some argument =>
      have fits := bindArgument_eq_ok.mp bound
      exact (fits.congr device fun buffer =>
        same argument buffer (List.mem_of_getElem? given)).bindArgument_eq

theorem block_eq_error_of_room (all : kernel.boundCount = signature.parameters.length)
    (room : blockRefusal? binding.hostMemory (ParameterLayout.ofSignature signature).size = none) :
    binding.block signature kernel = .error error ↔
      binding.bindArguments 0 signature.parameters kernel.arguments = .error error := by
  rw [block_of_room all room]
  cases binding.bindArguments 0 signature.parameters kernel.arguments <;> simp [Except.map]

/-- Where all arguments are set, each parameter has one. -/
theorem argument_of_set (slots : kernel.arguments.length = signature.parameters.length)
    (set : none ∉ kernel.arguments) (there : signature.parameters[index]? = some parameter) :
    ∃ argument, kernel.arguments[index]? = some (some argument) := by
  obtain ⟨within, -⟩ := List.getElem?_eq_some_iff.mp there
  have found := List.getElem?_eq_getElem (slots.symm ▸ within)
  cases given : kernel.arguments[index] with
  | none => exact absurd (given ▸ List.getElem_mem _) set
  | some argument => exact ⟨argument, found.trans (congrArg some given)⟩

theorem block_eq_error (slots : kernel.arguments.length = signature.parameters.length)
    (room : blockRefusal? binding.hostMemory (ParameterLayout.ofSignature signature).size = none)
    (set : none ∉ kernel.arguments) :
    binding.block signature kernel = .error error ↔
      binding.FirstMisfit signature kernel error := by
  rw [block_eq_error_of_room ((boundCount_eq slots).mpr set) room, bindArguments_eq_error]
  constructor
  · rintro ⟨index, parameter, there, failed, passed⟩
    obtain ⟨argument, given⟩ := argument_of_set slots set there
    rw [given, Nat.zero_add] at failed
    refine ⟨index, parameter, argument, there, given, bindArgument_eq_error.mp failed, ?_⟩
    intro earlier other value before held set
    obtain ⟨piece, bound⟩ := passed earlier other before held
    rw [set] at bound
    exact ⟨piece, bindArgument_eq_ok.mp bound⟩
  · rintro ⟨index, parameter, argument, there, given, misfits, passed⟩
    refine ⟨index, parameter, there, ?_, fun earlier other before held => ?_⟩
    · rw [given, Nat.zero_add]
      exact misfits.bindArgument_eq
    · obtain ⟨value, held'⟩ := argument_of_set slots set held
      obtain ⟨piece, fits⟩ := passed earlier other value before held held'
      exact ⟨piece, by rw [held']; exact fits.bindArgument_eq⟩

open ParameterLayout in
/-- A block that is had is laid out as declared. -/
theorem block_assembled (made : binding.block signature kernel = .ok block) :
    binding.Assembled signature kernel block := by
  obtain ⟨-, -, pieces, bound, rfl⟩ := block_eq_ok.mp made
  have lengths := lengths_of_bindArguments bound
  obtain ⟨count, each⟩ := bindArguments_eq_ok.mp bound
  have size : (assemble 0 ((layFrom 0 (Parameter.shapes signature.parameters)).offsets.zip
      pieces)).bytes.length = (layFrom 0 (Parameter.shapes signature.parameters)).size := by
    rw [← length_assemble lengths, Nat.zero_add]
  refine { size, slot := ?_, padding := ?_ }
  · intro index offset parameter argument there starts given
    obtain ⟨within, -⟩ := List.getElem?_eq_some_iff.mp there
    have held := List.getElem?_eq_getElem (count.symm ▸ within)
    have fits := each index parameter _ there held
    rw [given] at fits
    have fits := bindArgument_eq_ok.mp fits
    have shape : (Parameter.shapes signature.parameters)[index]? =
        some (parameter.size, parameter.alignment) := by
      rw [Parameter.shapes, List.getElem?_map, there]
      rfl
    refine ⟨?_, ?_⟩
    · exact size ▸ offset_add_le_size starts shape
    · have inSlot := slice_assemble lengths starts held
      rw [fits.length] at inSlot
      exact inSlot.symm ▸ fits
  · intro place within outside
    refine zero_assemble lengths (Nat.zero_le place) (size ▸ within) ?_
    intro index offset shape starts there
    rw [List.getElem?_map, Option.map_eq_some_iff] at there
    obtain ⟨parameter, there, rfl⟩ := there
    exact outside index offset parameter starts there

theorem exists_block_iff (slots : kernel.arguments.length = signature.parameters.length)
    (room : blockRefusal? binding.hostMemory (ParameterLayout.ofSignature signature).size = none)
    (set : none ∉ kernel.arguments) :
    (∃ block, binding.block signature kernel = .ok block) ↔ binding.AllFit signature kernel := by
  constructor
  · rintro ⟨block, made⟩ index parameter argument there given
    obtain ⟨within, -⟩ := List.getElem?_eq_some_iff.mp there
    have slot : index < (ParameterLayout.ofSignature signature).offsets.length := by
      rw [ParameterLayout.ofSignature, ParameterLayout.compute, ParameterLayout.layFrom_length,
        List.length_map]
      exact within
    exact ⟨_, ((block_assembled made).slot there (List.getElem?_eq_getElem slot)
      given).2⟩
  · intro fit
    cases made : binding.block signature kernel with
    | ok block => exact ⟨block, rfl⟩
    | error error =>
      obtain ⟨index, parameter, argument, there, given, misfits, -⟩ :=
        (block_eq_error slots room set).mp made
      obtain ⟨piece, fits⟩ := fit index parameter argument there given
      cases fits.bindArgument_eq.symm.trans misfits.bindArgument_eq

/-- **What becomes of a kernel's arguments.** Without all of them there is no block; with all there
is one when they all fit, and the error is otherwise that of the first that does not. The block is
written without leaving a range, and is laid out as declared. -/
theorem block_assembles (slots : kernel.arguments.length = signature.parameters.length)
    (room : blockRefusal? binding.hostMemory (ParameterLayout.ofSignature signature).size = none) :
    ((∃ bound declared, binding.block signature kernel = .error (.kernelArgs bound declared)) ↔
      none ∈ kernel.arguments) ∧
    (none ∉ kernel.arguments →
      ((∃ block, binding.block signature kernel = .ok block) ↔ binding.AllFit signature kernel) ∧
      (∀ error, binding.block signature kernel = .error error ↔
        binding.FirstMisfit signature kernel error) ∧
      binding.writeArguments? 0
          (signature.parameters.zip (ParameterLayout.ofSignature signature).offsets)
          kernel.arguments (Bytes.zeros (ParameterLayout.ofSignature signature).size) =
        some ((binding.block signature kernel).map Block.bytes)) ∧
    ∀ block, binding.block signature kernel = .ok block →
      binding.Assembled signature kernel block := by
  refine ⟨⟨?_, fun missing => ?_⟩, fun set => ⟨exists_block_iff slots room set,
    fun error => block_eq_error slots room set, ?_⟩, fun block => block_assembled⟩
  · rintro ⟨bound, declared, failed⟩
    by_contra set
    obtain ⟨_, _, _, _, _, misfits, _⟩ := (block_eq_error slots room set).mp failed
    cases misfits
  · exact ⟨_, _, block_of_count (mt (boundCount_eq slots).mp (not_not.mpr missing))⟩
  · have empty : ([] : Bytes).length = 0 := rfl
    rw [block_of_room ((boundCount_eq slots).mpr set) room]
    refine (writeArguments?_eq empty).trans ?_
    cases binding.bindArguments 0 signature.parameters kernel.arguments <;> rfl

/-- One live buffer, with an address on the device, and memory for a block of sixteen bytes. -/
def oneBuffer : Binding :=
  ⟨(Arena.empty.insert ⟨⟨0, 1⟩, 64, .readWrite, [(⟨0, 1⟩, ⟨4096⟩)]⟩).2, ⟨0, 1⟩, "device", 17⟩

/-- A scalar and an address, with four bytes between them. -/
def scaling : KernelSignature :=
  ⟨"scale", [⟨"factor", .scalar .u32⟩, ⟨"data", .devicePtr⟩]⟩

/-- The arguments are a number and the handle of the buffer. -/
def scalingKernel : Kernel :=
  ⟨⟨0, 1⟩, ⟨0, 1⟩, "scale", [some [7, 0, 0, 0], some [0, 0, 0, 0, 1, 0, 0, 0]], none⟩

theorem block_assembles_scaling :
    scalingKernel.arguments.length = scaling.parameters.length ∧
    blockRefusal? oneBuffer.hostMemory (ParameterLayout.ofSignature scaling).size = none ∧
    ∃ block, oneBuffer.block scaling scalingKernel = .ok block ∧
      oneBuffer.Assembled scaling scalingKernel block ∧
      block.bytes = [7, 0, 0, 0, 0, 0, 0, 0, 0, 16, 0, 0, 0, 0, 0, 0] := by
  have slots : scalingKernel.arguments.length = scaling.parameters.length := rfl
  have room : blockRefusal? oneBuffer.hostMemory (ParameterLayout.ofSignature scaling).size =
      none := by decide
  refine ⟨slots, room, _, rfl, (block_assembles slots room).2.2 _ rfl, ?_⟩
  decide

end Block

end Binding

end ComputeHost
