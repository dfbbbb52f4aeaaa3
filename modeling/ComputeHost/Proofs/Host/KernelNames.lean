/-
**The names of the kernels of a program.**

A built program gives the names of its kernels as one text, with semicolons in between. A name may
be any text, so a semicolon may also be part of one. Splitting gives the names back exactly where
none of them has a semicolon; then the text tells the list of names.

* `pieces_intercalate_iff` — when a joined list is read back.
* `Offers` — a program that stands by its module, and the names of its kernels.
* `Run.names_read_back` — what such a program answers, after every run.
* `not_always_read_back` — a program whose kernel cannot be read off its answer.
-/

import ComputeHost.Proofs.Host.Runnable
import ComputeHost.Proofs.Host.Session

namespace ComputeHost

namespace Text

variable {chars piece : List Char} {mark : Char} {names : List String}

/-- No piece has the mark at which the text was split. -/
theorem not_mem_of_mem_splitOn (among : piece ∈ chars.splitOn mark) : mark ∉ piece := by
  induction chars generalizing piece with
  | nil =>
    rw [List.splitOn_nil, List.mem_singleton] at among
    subst among
    exact List.not_mem_nil
  | cons first rest ih =>
    rw [List.splitOn_cons_eq_if_modifyHead] at among
    split at among
    · rcases List.mem_cons.mp among with rfl | later
      · exact List.not_mem_nil
      · exact ih later
    · rename_i differ
      obtain ⟨front, others, split⟩ := List.exists_cons_of_ne_nil (List.splitOn_ne_nil mark rest)
      rw [split, List.modifyHead_cons] at among
      rw [split] at ih
      rcases List.mem_cons.mp among with rfl | later
      · refine fun inside => (List.mem_cons.mp inside).elim (fun same => ?_) (ih List.mem_cons_self)
        exact differ (by simp [same])
      · exact ih (List.mem_cons_of_mem _ later)

/-- The pieces of a text between semicolons. -/
def pieces (text : String) : List String := (text.split ';').toList.map String.Slice.copy

theorem pieces_eq (text : String) :
    pieces text = (text.toList.splitOn ';').map String.ofList := String.toList_split_char

/-- **A joined list is read back** exactly where no member has a semicolon. -/
theorem pieces_intercalate_iff (nonempty : names ≠ []) :
    pieces (";".intercalate names) = names ↔ ∀ name ∈ names, ';' ∉ name.toList := by
  constructor
  · intro same name among
    rw [← same, pieces_eq] at among
    obtain ⟨piece, cut, rfl⟩ := List.mem_map.mp among
    rw [String.toList_ofList]
    exact not_mem_of_mem_splitOn cut
  · intro plain
    exact (String.toList_split_intercalate plain).trans (if_neg nonempty)

end Text

namespace Host

open ComputeHost.Action

variable {host : Host SimulatedDevice} {history : List Exchange} {handle : ProgramHandle}
  {names : List String}

/-- The program was built, the module of the build was not unregistered since, and these are the
names of the kernels in its text, in order. -/
structure Offers (history : List Exchange) (host : Host SimulatedDevice) (handle : ProgramHandle)
    (names : List String) : Prop where
  built : isBuilt history handle = true
  declared : ∃ program builds build module, host.registry.programs.get? handle = some program ∧
    program.builds = some builds ∧ build ∈ builds ∧
    isWithdrawn history handle build.module = false ∧
    KernelModule.parse build.module program.source = .ok module ∧
    module.kernels.map KernelSignature.name = names

/-- A program that offers kernels has one module for all of its builds, and that is registered. -/
theorem Offers.module (offers : Offers history host handle names) (run : Run history host) :
    ∃ program builds module, host.registry.programs.get? handle = some program ∧
      program.builds = some builds ∧ builds ≠ [] ∧
      (∀ build ∈ builds, host.modules.module? build.module = some module) ∧
      module.kernels.map KernelSignature.name = names := by
  obtain ⟨program, builds, build, module, there, done, member, stays, read, same⟩ := offers.declared
  obtain ⟨one_module, entry, registered, read', -⟩ :=
    run.standing.of_builds there done member stays
  obtain rfl := Except.ok.inj (read.symm.trans read')
  refine ⟨program, builds, entry.module, there, done, List.ne_nil_of_mem member,
    fun other among => ?_, same⟩
  unfold ModuleTable.module?
  rw [one_module other among, registered]
  rfl

/-- **What a program answers about its kernels.** -/
theorem Offers.answers (offers : Offers history host handle names) (run : Run history host) :
    (step (.programInfo handle .kernelNames) host).1 =
        .ok (.info (.text (";".intercalate names))) ∧
      (step (.programInfo handle .numKernels) host).1 =
        .ok (.info (.size (UInt64.ofNat names.length))) ∧
      ∀ name ∈ names, ∃ made : KernelHandle,
        (step (.createKernel handle name) host).1 = .ok (.handle made) := by
  obtain ⟨program, builds, module, there, done, nonempty, modules, rfl⟩ := offers.module run
  obtain ⟨context, within⟩ := Arena.contains_iff.mp
    (run.session.upheld.intact.programs.live_of_get? there)
  have found := programModule_of_builds done nonempty modules
  have named := Arena.checked_eq_ok_iff.mpr there
  have owned := Arena.checked_eq_ok_iff.mpr within
  have answered : ∀ {query value}, askProgram handle query host = .ok value →
      (step (.programInfo handle query) host).1 = .ok (.info value) := by
    intro query value asked
    rw [step_of_look rfl, asked]
    rfl
  refine ⟨answered ?_, answered ?_, fun name among => ?_⟩
  · unfold askProgram
    rw [except_bind_of_ok named, except_bind_of_ok owned]
    exact except_bind_of_ok found
  · unfold askProgram
    rw [except_bind_of_ok named, except_bind_of_ok owned, List.length_map]
    exact except_bind_of_ok found
  · obtain ⟨kernel, declared, rfl⟩ := List.mem_map.mp among
    refine createKernel_of_builds there done nonempty modules ?_
    exact List.find?_isSome.mpr ⟨kernel, declared, beq_self_eq_true kernel.name⟩

/-- **The names of kernels are read back.** After every run, a program that was built and whose
module was not unregistered since gives one text for the names of its kernels and their number, and
makes a kernel of each name. Splitting the text at semicolons gives the names in order exactly where
none of them has a semicolon. So two such programs with different names do not give the same
text. -/
theorem Run.names_read_back (run : Run history host) :
    (∀ handle names, Offers history host handle names → names ≠ [] →
      ∃ text, (step (.programInfo handle .kernelNames) host).1 = .ok (.info (.text text)) ∧
        (step (.programInfo handle .numKernels) host).1 =
          .ok (.info (.size (UInt64.ofNat names.length))) ∧
        (Text.pieces text = names ↔ ∀ name ∈ names, ';' ∉ name.toList) ∧
        ((∀ name ∈ names, ';' ∉ name.toList) → ∀ piece ∈ Text.pieces text,
          ∃ made : KernelHandle,
            (step (.createKernel handle piece) host).1 = .ok (.handle made))) ∧
    ∀ first second names others, Offers history host first names →
      Offers history host second others → names ≠ [] → others ≠ [] →
      (∀ name ∈ names, ';' ∉ name.toList) → (∀ name ∈ others, ';' ∉ name.toList) →
      names ≠ others →
        (step (.programInfo first .kernelNames) host).1 ≠
          (step (.programInfo second .kernelNames) host).1 := by
  constructor
  · intro handle names offers nonempty
    obtain ⟨told, counted, makes⟩ := offers.answers run
    have reads := Text.pieces_intercalate_iff nonempty
    refine ⟨_, told, counted, reads, fun plain piece among => makes piece ?_⟩
    rwa [reads.mpr plain] at among
  · intro first second names others offers offers' nonempty nonempty' plain plain' differ same
    rw [(offers.answers run).1, (offers'.answers run).1, Except.ok.injEq, Answer.info.injEq,
      InfoValue.text.injEq] at same
    have pieces := congrArg Text.pieces same
    rw [(Text.pieces_intercalate_iff nonempty).mpr plain,
      (Text.pieces_intercalate_iff nonempty').mpr plain'] at pieces
    exact differ pieces

/-- The text of a module with kernels of the given names, without parameters. -/
def kernelsText (names : List String) : String :=
  "\x7b\"kernels\":[" ++
    ",".intercalate (names.map fun name => "\x7b\"name\":\"" ++ name ++ "\"\x7d") ++ "]\x7d"

/-- A program with kernels of these names is built, and another one. -/
def composing (first second : List String) : List Call :=
  [.platformIds, .createContext [⟨0, 1⟩] false, .createProgram ⟨0, 1⟩ [kernelsText first],
    .createProgram ⟨0, 1⟩ [kernelsText second], .buildProgram ⟨0, 1⟩ none none false,
    .buildProgram ⟨1, 1⟩ none none false]

/-- What a program offers, by the text that it was made of. -/
theorem offers_of_program? {context : ContextHandle} {source : String} {build : Build}
    (built : isBuilt history handle = true)
    (known : host.program? handle = some (context, source, some [build]))
    (stays : isWithdrawn history handle build.module = false)
    (read : (KernelModule.parse build.module source).toOption.map
      (fun module => module.kernels.map KernelSignature.name) = some names) :
    Offers history host handle names := by
  obtain ⟨program, there, face⟩ := Option.map_eq_some_iff.mp known
  obtain ⟨module, parsed, same⟩ := Option.map_eq_some_iff.mp read
  simp only [programFace, Prod.mk.injEq] at face
  obtain ⟨-, rfl, done⟩ := face
  refine ⟨built, program, _, build, module, there, done, List.mem_singleton_self build, stays, ?_,
    same⟩
  cases outcome : KernelModule.parse build.module program.source with
  | ok found =>
    rw [outcome] at parsed
    cases parsed
    rfl
  | error cause =>
    rw [outcome] at parsed
    cases parsed

/-- A kernel without a name is told by the semicolon in front of it, and can be made. -/
theorem names_read_back_nameless :
    Offers (record (composing ["a", ""] ["a"]) (twin 64 64))
      (run (composing ["a", ""] ["a"]) (twin 64 64)).2 ⟨0, 1⟩ ["a", ""] ∧
    (∃ made : KernelHandle, (step (.createKernel ⟨0, 1⟩ "")
      (run (composing ["a", ""] ["a"]) (twin 64 64)).2).1 = .ok (.handle made)) ∧
    (step (.programInfo ⟨0, 1⟩ .kernelNames)
        (run (composing ["a", ""] ["a"]) (twin 64 64)).2).1 ≠
      (step (.programInfo ⟨1, 1⟩ .kernelNames)
        (run (composing ["a", ""] ["a"]) (twin 64 64)).2).1 := by
  have known : (run (composing ["a", ""] ["a"]) (twin 64 64)).2.program? ⟨0, 1⟩ =
      some (⟨0, 1⟩, kernelsText ["a", ""],
        some [.ofText "program0" (kernelsText ["a", ""]) ⟨0, 1⟩]) := by decide +kernel
  have offers : Offers (record (composing ["a", ""] ["a"]) (twin 64 64))
      (run (composing ["a", ""] ["a"]) (twin 64 64)).2 ⟨0, 1⟩ ["a", ""] :=
    offers_of_program? (by decide +kernel) known (by decide +kernel) (by decide +kernel)
  have known' : (run (composing ["a", ""] ["a"]) (twin 64 64)).2.program? ⟨1, 1⟩ =
      some (⟨0, 1⟩, kernelsText ["a"],
        some [.ofText "program1" (kernelsText ["a"]) ⟨0, 1⟩]) := by decide +kernel
  have offers' : Offers (record (composing ["a", ""] ["a"]) (twin 64 64))
      (run (composing ["a", ""] ["a"]) (twin 64 64)).2 ⟨1, 1⟩ ["a"] :=
    offers_of_program? (by decide +kernel) known' (by decide +kernel) (by decide +kernel)
  obtain ⟨reads, differs⟩ := Run.names_read_back (run_twin 64 64 (composing ["a", ""] ["a"]))
  obtain ⟨text, -, -, same, makes⟩ := reads ⟨0, 1⟩ _ offers (by decide)
  refine ⟨offers, makes (by decide) "" ?_, differs _ _ _ _ offers offers' (by decide) (by decide)
    (by decide) (by decide) (by decide)⟩
  rw [same.mpr (by decide)]
  decide

/-- **The names are not always read back**: a name may have a semicolon itself, and the names go
with the module when it is unregistered. -/
theorem not_always_read_back :
    (¬ ∀ (history : List Exchange) (host : Host SimulatedDevice) (handle : ProgramHandle)
        (names : List String), Run history host → Offers history host handle names → names ≠ [] →
      ∃ text, (step (.programInfo handle .kernelNames) host).1 = .ok (.info (.text text)) ∧
        Text.pieces text = names ∧ ∀ piece ∈ Text.pieces text, ∃ made : KernelHandle,
          (step (.createKernel handle piece) host).1 = .ok (.handle made)) ∧
    isBuilt (record (composing ["a"] ["a"] ++ [.unregisterModule "program0"]) (twin 64 64))
      ⟨0, 1⟩ = true ∧
    (step (.programInfo ⟨0, 1⟩ .kernelNames)
      (run (composing ["a"] ["a"] ++ [.unregisterModule "program0"]) (twin 64 64)).2).1 =
        .error .programNotBuilt := by
  refine ⟨fun claim => ?_, by decide +kernel, ?_⟩
  · have known : (run (composing ["a;b"] ["a"]) (twin 64 64)).2.program? ⟨0, 1⟩ =
        some (⟨0, 1⟩, kernelsText ["a;b"],
          some [.ofText "program0" (kernelsText ["a;b"]) ⟨0, 1⟩]) := by decide +kernel
    have offers : Offers (record (composing ["a;b"] ["a"]) (twin 64 64))
        (run (composing ["a;b"] ["a"]) (twin 64 64)).2 ⟨0, 1⟩ ["a;b"] :=
      offers_of_program? (by decide +kernel) known (by decide +kernel) (by decide +kernel)
    have run := run_twin 64 64 (composing ["a;b"] ["a"])
    obtain ⟨text, told, same, -⟩ := claim _ _ ⟨0, 1⟩ _ run offers (by decide)
    rw [(offers.answers run).1] at told
    cases told
    have plain := (Text.pieces_intercalate_iff (by decide)).mp same
    exact absurd (plain "a;b" List.mem_cons_self) (by decide)
  · have gone : askProgram ⟨0, 1⟩ .kernelNames (run (composing ["a"] ["a"] ++
        [.unregisterModule "program0"]) (twin 64 64)).2 = .error .programNotBuilt := by
      decide +kernel
    rw [step_of_look rfl, gone]
    rfl

end Host

end ComputeHost
