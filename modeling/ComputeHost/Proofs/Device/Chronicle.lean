/-
**Histories of a heap.**

A heap is asked for one thing after the other. Its history holds the requests and what they gave,
the last one in front. It tells which blocks were made, which of them still stand, and what was
written into each since it was made; nothing else is needed to say what a heap holds.

* `serve_eq_error` — a request that fails leaves the heap as it was.
* `ask_effect` — what a request can do to a heap.
* `stands_cons` — the blocks that stand after one more request.
* `Run.recounts` — what is live in a heap is what its history tells.
-/

import ComputeHost.Proofs.Action
import ComputeHost.Proofs.Device.Memory

namespace ComputeHost.Heap

open ComputeHost.Action

variable {heap after : Heap} {address : Address} {base capacity size offset length position : Nat}
  {residency : Residency} {content : Content}

/-! ### Requests -/

/-- What can be asked of a heap. -/
inductive Request
  | allocate (size : Nat) (residency : Residency)
  | free (address : Address)
  | write (address : Address) (offset : Nat) (data : Block)
  | read (address : Address) (offset length : Nat)
  | hostView (address : Address)
  | clear

/-- What a request gives when it succeeds. -/
inductive Reply
  | nothing
  | fresh (address : Address)
  | range (data : Block)
  | view (contents : Option Block)

/-- Carries out a request. -/
def serve : Request → HeapAction Reply
  | .allocate size residency => .fresh <$> allocate size residency
  | .free address => (fun _ => .nothing) <$> free address
  | .write address offset data => (fun _ => .nothing) <$> write address offset data
  | .read address offset length => .range <$> read address offset length
  | .hostView address => fun heap => .ok (.view (heap.hostView address)) heap
  | .clear => fun heap => .ok .nothing heap.clear

/-- What a request gives, and the heap after it. -/
def ask (heap : Heap) (request : Request) : Except DeviceError Reply × Heap :=
  match serve request heap with
  | .ok reply after => (.ok reply, after)
  | .error cause after => (.error cause, after)

/-- What a request can do to a heap, by what it gives. -/
inductive Effect (heap : Heap) : Request → Except DeviceError Reply → Heap → Prop
  | failed {request : Request} {cause : DeviceError} : Effect heap request (.error cause) heap
  | made {size : Nat} {residency : Residency} {fresh : Address} {after : Heap}
      (done : allocate size residency heap = .ok fresh after) :
      Effect heap (.allocate size residency) (.ok (.fresh fresh)) after
  | freed {address : Address} {after : Heap} (done : free address heap = .ok () after) :
      Effect heap (.free address) (.ok .nothing) after
  | wrote {address : Address} {offset : Nat} {data : Block} {after : Heap}
      (done : write address offset data heap = .ok () after) :
      Effect heap (.write address offset data) (.ok .nothing) after
  | range {address : Address} {offset length : Nat} {data : Block} :
      Effect heap (.read address offset length) (.ok (.range data)) heap
  | view {address : Address} {contents : Option Block} :
      Effect heap (.hostView address) (.ok (.view contents)) heap
  | cleared : Effect heap .clear (.ok .nothing) heap.clear

theorem serve_effect {request : Request} {reply : Reply}
    (served : serve request heap = .ok reply after) :
    Effect heap request (.ok reply) after := by
  cases request with
  | allocate size residency =>
    obtain ⟨fresh, done, rfl⟩ := map_eq_ok_iff.mp served
    exact .made done
  | free address =>
    obtain ⟨_, done, rfl⟩ := map_eq_ok_iff.mp served
    exact .freed done
  | write address offset data =>
    obtain ⟨_, done, rfl⟩ := map_eq_ok_iff.mp served
    exact .wrote done
  | read address offset length =>
    obtain ⟨data, done, rfl⟩ := map_eq_ok_iff.mp served
    obtain ⟨rfl, _⟩ := read_eq_ok done
    exact .range
  | hostView address =>
    cases served
    exact .view
  | clear =>
    cases served
    exact .cleared

/-- A request that fails leaves the heap as it was. -/
theorem serve_eq_error {request : Request} {cause : DeviceError}
    (failed : serve request heap = .error cause after) : after = heap := by
  cases request with
  | allocate size residency =>
    exact (allocate_eq_error_iff.mp (map_eq_error_iff.mp failed)).2.2
  | free address => exact free_eq_error (map_eq_error_iff.mp failed)
  | write address offset data => exact write_eq_error (map_eq_error_iff.mp failed)
  | read address offset length => exact read_eq_error (map_eq_error_iff.mp failed)
  | hostView address => cases failed
  | clear => cases failed

/-- **Every request does one of the things listed.** -/
theorem ask_effect (heap : Heap) (request : Request) :
    Effect heap request (heap.ask request).1 (heap.ask request).2 := by
  unfold ask
  cases served : serve request heap with
  | ok reply after => exact serve_effect served
  | error cause after =>
    obtain rfl := serve_eq_error served
    exact .failed

/-! ### Histories -/

/-- A request and what it gave. -/
structure Exchange where
  request : Request
  reply : Except DeviceError Reply

namespace Exchange

/-- The block that was made, with its size and residency. -/
def made? : Exchange → Option (Address × Nat × Residency)
  | ⟨.allocate size residency, .ok (.fresh address)⟩ => some (address, size, residency)
  | _ => none

/-- Whether a block at the address was given back. -/
def ends (address : Address) : Exchange → Bool
  | ⟨.free other, .ok _⟩ => other = address
  | ⟨.clear, .ok _⟩ => true
  | _ => false

/-- The byte that was written at a position of the block at an address. -/
def byteAt? (address : Address) (position : Nat) : Exchange → Option UInt8
  | ⟨.write other offset data, .ok _⟩ =>
    if other = address ∧ offset ≤ position then data.bytes[position - offset]? else none
  | _ => none

/-- An exchange that made no block, gave none back and wrote nothing. -/
structure Idle (exchange : Exchange) : Prop where
  made : exchange.made? = none
  ends : ∀ address, exchange.ends address = false
  bytes : ∀ address position, exchange.byteAt? address position = none

theorem idle_error (request : Request) (cause : DeviceError) : Idle ⟨request, .error cause⟩ := by
  cases request <;> exact ⟨rfl, fun _ => rfl, fun _ _ => rfl⟩

theorem idle_read (address : Address) (offset length : Nat)
    (reply : Except DeviceError Reply) : Idle ⟨.read address offset length, reply⟩ := by
  cases reply <;> exact ⟨rfl, fun _ => rfl, fun _ _ => rfl⟩

theorem idle_hostView (address : Address) (reply : Except DeviceError Reply) :
    Idle ⟨.hostView address, reply⟩ := by
  cases reply <;> exact ⟨rfl, fun _ => rfl, fun _ _ => rfl⟩

end Exchange

/-- The heaps that can be reached, with the requests so far and what they gave, the last in
front. -/
inductive Run (base capacity : Nat) : List Exchange → Heap → Prop
  | start : Run base capacity [] (start base capacity)
  | ask {history : List Exchange} {heap : Heap} (run : Run base capacity history heap)
      (request : Request) :
      Run base capacity (⟨request, (heap.ask request).1⟩ :: history) (heap.ask request).2

/-- The heap after requests one after the other. -/
def askAll (requests : List Request) (heap : Heap) : Heap :=
  requests.foldl (fun heap request => (heap.ask request).2) heap

/-- The requests of a list with what they give, the last in front. -/
def record : List Request → Heap → List Exchange
  | [], _ => []
  | request :: rest, heap => record rest (heap.ask request).2 ++ [⟨request, (heap.ask request).1⟩]

/-- A list of requests continues a run. -/
theorem Run.requests {history : List Exchange} (run : Run base capacity history heap)
    (requests : List Request) :
    Run base capacity (record requests heap ++ history) (askAll requests heap) := by
  induction requests generalizing history heap with
  | nil => exact run
  | cons request rest ih =>
    have later := ih (run.ask request)
    rw [record, List.append_assoc]
    exact later

/-- The requests that a new heap is given make a run. -/
theorem run_record (base capacity : Nat) (requests : List Request) :
    Run base capacity (record requests (start base capacity))
      (askAll requests (start base capacity)) := by
  have run : Run base capacity [] (start base capacity) := .start
  have later := run.requests requests
  rwa [List.append_nil] at later

/-! ### Blocks that stand -/

/-- A block was made at an address and not given back since. What happened since is a list of its
own, the last in front. -/
structure Stands (history : List Exchange) (address : Address) (size : Nat)
    (residency : Residency) (since : List Exchange) : Prop where
  made : ∃ exchange earlier, history = since ++ exchange :: earlier ∧
    exchange.made? = some (address, size, residency)
  kept : ∀ exchange ∈ since, exchange.ends address = false

/-- **The blocks that stand after one more exchange** are the one that it made and those that stood
and that it did not give back. -/
theorem stands_cons {exchange : Exchange} {history since : List Exchange} :
    Stands (exchange :: history) address size residency since ↔
      (since = [] ∧ exchange.made? = some (address, size, residency)) ∨
      ∃ rest, since = exchange :: rest ∧ exchange.ends address = false ∧
        Stands history address size residency rest := by
  constructor
  · rintro ⟨⟨first, earlier, whole, made⟩, kept⟩
    cases since with
    | nil =>
      cases whole
      exact .inl ⟨rfl, made⟩
    | cons last rest =>
      cases whole
      obtain ⟨stays, kept⟩ := List.forall_mem_cons.mp kept
      exact .inr ⟨rest, rfl, stays, ⟨first, earlier, rfl, made⟩, kept⟩
  · rintro (⟨rfl, made⟩ | ⟨rest, rfl, stays, ⟨first, earlier, rfl, made⟩, kept⟩)
    · exact ⟨⟨exchange, history, rfl, made⟩, List.forall_mem_nil _⟩
    · exact ⟨⟨first, earlier, rfl, made⟩, List.forall_mem_cons.mpr ⟨stays, kept⟩⟩

theorem not_stands_nil {since : List Exchange} : ¬ Stands [] address size residency since := by
  rintro ⟨⟨first, earlier, whole, _⟩, _⟩
  exact List.append_ne_nil_of_right_ne_nil _ (List.cons_ne_nil _ _) whole.symm

/-! ### What was written -/

/-- The byte that was last written at a position of the block at an address, or zero. -/
def lastByte (since : List Exchange) (address : Address) (position : Nat) : UInt8 :=
  (since.findSome? fun exchange => exchange.byteAt? address position).getD 0

/-- The bytes that were last written at so many positions of a block, from `offset` on. -/
def lastBytes (since : List Exchange) (address : Address) (offset length : Nat) : Bytes :=
  (List.range' offset length).map (lastByte since address)

@[simp] theorem lastBytes_length (since : List Exchange) (address : Address)
    (offset length : Nat) : (lastBytes since address offset length).length = length := by
  simp [lastBytes]

/-- A part of a block holds what was last written there. -/
theorem slice_lastBytes (since : List Exchange) (address : Address)
    (within : offset + length ≤ size) :
    (lastBytes since address 0 size).slice offset length =
      lastBytes since address offset length := by
  refine List.ext_getElem ?_ fun index first second => ?_
  · simp [Bytes.slice]
    omega
  · simp [Bytes.slice, lastBytes]

/-- A new block holds zeros. -/
theorem lastBytes_nil (address : Address) (size : Nat) :
    lastBytes [] address 0 size = Bytes.zeros size := by
  refine List.ext_getElem (by simp) fun index first second => ?_
  simp [lastBytes, lastByte, Bytes.zeros]

theorem lastBytes_cons_of_none {exchange : Exchange} (since : List Exchange)
    (silent : ∀ position, exchange.byteAt? address position = none) :
    lastBytes (exchange :: since) address offset length =
      lastBytes since address offset length := by
  refine List.map_congr_left fun position _ => ?_
  unfold lastByte
  rw [List.findSome?_cons, silent]

theorem getElem?_lastBytes (since : List Exchange) (address : Address) (size index : Nat) :
    (lastBytes since address 0 size)[index]? =
      if index < size then some (lastByte since address index) else none := by
  unfold lastBytes
  rw [List.getElem?_map]
  split
  · rename_i bound
    rw [List.getElem?_range' bound]
    simp
  · rename_i beyond
    rw [List.getElem?_eq_none (by simpa using beyond), Option.map_none]

/-- Overwritten bytes are those of the data where it lies, and the old ones elsewhere. -/
theorem getElem?_splice {bytes data : Bytes} (within : offset + data.length ≤ bytes.length)
    (index : Nat) :
    (bytes.splice offset data)[index]? =
      if offset ≤ index ∧ index < offset + data.length then data[index - offset]?
      else bytes[index]? := by
  unfold Bytes.splice
  rw [List.append_assoc, List.getElem?_append, List.getElem?_append, List.length_take,
    Nat.min_eq_left (by omega), List.getElem?_take, List.getElem?_drop]
  by_cases before : index < offset
  · rw [if_pos before, if_pos before, if_neg (by omega)]
  · rw [if_neg before]
    by_cases inside : index - offset < data.length
    · rw [if_pos inside, if_pos (by omega)]
    · rw [if_neg inside, if_neg (by omega)]
      congr 1
      omega

/-- A write replaces its part of a block. -/
theorem lastBytes_cons_write (since : List Exchange) {data : Block} {reply : Reply}
    (within : offset + data.size ≤ size) :
    lastBytes (⟨.write address offset data, .ok reply⟩ :: since) address 0 size =
      (lastBytes since address 0 size).splice offset data.bytes := by
  refine List.ext_getElem? fun index => ?_
  rw [getElem?_splice (by simpa using within), getElem?_lastBytes, getElem?_lastBytes]
  have written : Exchange.byteAt? address index ⟨.write address offset data, .ok reply⟩ =
      if offset ≤ index then data.bytes[index - offset]? else none := by
    simp [Exchange.byteAt?]
  unfold lastByte
  rw [List.findSome?_cons, written]
  by_cases here : offset ≤ index ∧ index < offset + data.bytes.length
  · have inside : index - offset < data.bytes.length := by omega
    rw [Block.bytes_length] at here
    rw [if_pos (by omega), if_pos here.1, Block.bytes_length, if_pos here,
      List.getElem?_eq_getElem inside]
    rfl
  · have silent : (if offset ≤ index then data.bytes[index - offset]? else none) = none := by
      split
      · exact List.getElem?_eq_none (by omega)
      · rfl
    rw [silent, if_neg here]

/-! ### What a heap holds -/

/-- What is live in a heap is what its history tells: the blocks that stand, with the bytes last
written into them. -/
structure Recounts (history : List Exchange) (heap : Heap) : Prop where
  ordered : heap.Ordered
  stands : ∀ address size residency since, Stands history address size residency since →
    heap.content? address = some ⟨residency, lastBytes since address 0 size⟩
  live : ∀ address content, heap.content? address = some content →
    ∃ size since, Stands history address size content.residency since

variable {history : List Exchange}

/-- What the history tells of an address: nothing is live there exactly if no block stands there. -/
theorem Recounts.content?_eq_none_iff (recounts : Recounts history heap) :
    heap.content? address = none ↔
      ∀ size residency since, ¬ Stands history address size residency since := by
  refine ⟨fun absent size residency since stands => ?_, fun dead => ?_⟩
  · rw [recounts.stands address size residency since stands] at absent
    cases absent
  · cases held : heap.content? address with
    | none => rfl
    | some content =>
      obtain ⟨size, since, stands⟩ := recounts.live address content held
      exact absurd stands (dead size _ since)

theorem Recounts.content?_eq_some_iff (recounts : Recounts history heap) {residency : Residency}
    {contents : Bytes} :
    heap.content? address = some ⟨residency, contents⟩ ↔
      ∃ size since, Stands history address size residency since ∧
        contents = lastBytes since address 0 size := by
  refine ⟨fun held => ?_, ?_⟩
  · obtain ⟨size, since, stands⟩ := recounts.live address _ held
    rw [recounts.stands address size _ since stands] at held
    cases held
    exact ⟨size, since, stands, rfl⟩
  · rintro ⟨size, since, stands, rfl⟩
    exact recounts.stands address size residency since stands

/-- Exchanges that change nothing leave what is told. -/
theorem Recounts.idle (recounts : Recounts history heap) {exchange : Exchange}
    (idle : exchange.Idle) : Recounts (exchange :: history) heap := by
  refine ⟨recounts.ordered, fun address size residency since stands => ?_,
    fun address content held => ?_⟩
  · rcases stands_cons.mp stands with ⟨_, made⟩ | ⟨rest, rfl, _, stood⟩
    · rw [idle.made] at made
      cases made
    · rw [lastBytes_cons_of_none rest (idle.bytes address)]
      exact recounts.stands address size residency rest stood
  · obtain ⟨size, since, stood⟩ := recounts.live address content held
    exact ⟨size, exchange :: since,
      stands_cons.mpr (.inr ⟨since, rfl, idle.ends address, stood⟩)⟩

theorem Recounts.made (recounts : Recounts history heap) {fresh : Address}
    (done : allocate size residency heap = .ok fresh after) :
    Recounts (⟨.allocate size residency, .ok (.fresh fresh)⟩ :: history) after := by
  have view := recounts.ordered.content?_allocate done
  refine ⟨recounts.ordered.allocate done, fun address length kind since stands => ?_,
    fun address content held => ?_⟩
  · rw [view]
    rcases stands_cons.mp stands with ⟨rfl, made⟩ | ⟨rest, rfl, _, stood⟩
    · cases made
      rw [if_pos rfl, lastBytes_nil]
    · have old := recounts.stands address length kind rest stood
      have other : address ≠ fresh := by
        rintro rfl
        rw [recounts.ordered.content?_of_next_le (next_le_fresh done)] at old
        cases old
      rw [if_neg other, lastBytes_cons_of_none rest fun _ => rfl]
      exact old
  · rw [view] at held
    split at held
    · rename_i here
      cases held
      exact ⟨size, [], stands_cons.mpr (.inl ⟨rfl, by rw [here]; rfl⟩)⟩
    · obtain ⟨length, since, stood⟩ := recounts.live address content held
      exact ⟨length, _ :: since, stands_cons.mpr (.inr ⟨since, rfl, rfl, stood⟩)⟩

theorem Recounts.freed (recounts : Recounts history heap)
    (done : free address heap = .ok () after) :
    Recounts (⟨.free address, .ok .nothing⟩ :: history) after := by
  have view := content?_free done
  have ends : ∀ place,
      Exchange.ends place ⟨.free address, .ok .nothing⟩ = decide (address = place) := fun _ => rfl
  refine ⟨recounts.ordered.free done, fun place size residency since stands => ?_,
    fun place content held => ?_⟩
  · rcases stands_cons.mp stands with ⟨_, made⟩ | ⟨rest, rfl, stays, stood⟩
    · cases made
    · rw [ends, decide_eq_false_iff_not] at stays
      rw [view, if_neg (Ne.symm stays), lastBytes_cons_of_none rest fun _ => rfl]
      exact recounts.stands place size residency rest stood
  · rw [view] at held
    split at held
    · cases held
    · rename_i other
      obtain ⟨size, since, stood⟩ := recounts.live place content held
      refine ⟨size, _ :: since, stands_cons.mpr (.inr ⟨since, rfl, ?_, stood⟩)⟩
      rw [ends, decide_eq_false (Ne.symm other)]

theorem Recounts.wrote (recounts : Recounts history heap) {data : Block}
    (done : write address offset data heap = .ok () after) :
    Recounts (⟨.write address offset data, .ok .nothing⟩ :: history) after := by
  obtain ⟨content, found, within, view⟩ := content?_write done
  refine ⟨recounts.ordered.write done, fun place size residency since stands => ?_,
    fun place held there => ?_⟩
  · rcases stands_cons.mp stands with ⟨_, made⟩ | ⟨rest, rfl, _, stood⟩
    · cases made
    · have old := recounts.stands place size residency rest stood
      rw [view]
      by_cases here : place = address
      · subst here
        rw [found] at old
        cases old
        rw [if_pos rfl, lastBytes_cons_write rest (by simpa using within)]
      · have silent : ∀ position, Exchange.byteAt? place position
            ⟨.write address offset data, .ok .nothing⟩ = none :=
          fun _ => if_neg fun both => here both.1.symm
        rw [if_neg here, lastBytes_cons_of_none rest silent]
        exact old
  · rw [view] at there
    have lives : ∃ before, heap.content? place = some before ∧
        before.residency = held.residency := by
      split at there
      · rename_i here
        cases there
        exact ⟨content, here ▸ found, rfl⟩
      · exact ⟨held, there, rfl⟩
    obtain ⟨before, there, same⟩ := lives
    obtain ⟨size, since, stood⟩ := recounts.live place before there
    exact ⟨size, _ :: since, stands_cons.mpr (.inr ⟨since, rfl, rfl, same ▸ stood⟩)⟩

theorem content?_clear (heap : Heap) (address : Address) : heap.clear.content? address = none := rfl

theorem Recounts.cleared (history : List Exchange) (heap : Heap) :
    Recounts (⟨.clear, .ok .nothing⟩ :: history) heap.clear := by
  refine ⟨.of_nil rfl rfl, fun address size residency since stands => ?_,
    fun address content held => ?_⟩
  · rcases stands_cons.mp stands with ⟨_, made⟩ | ⟨rest, _, stays, _⟩
    · cases made
    · cases stays
  · rw [content?_clear] at held
    cases held

/-- What one request does is told by one more exchange. -/
theorem Recounts.effect {request : Request} {reply : Except DeviceError Reply}
    (recounts : Recounts history heap) (effect : Effect heap request reply after) :
    Recounts (⟨request, reply⟩ :: history) after := by
  cases effect with
  | failed => exact recounts.idle (Exchange.idle_error _ _)
  | made done => exact recounts.made done
  | freed done => exact recounts.freed done
  | wrote done => exact recounts.wrote done
  | range => exact recounts.idle (Exchange.idle_read _ _ _ _)
  | view => exact recounts.idle (Exchange.idle_hostView _ _)
  | cleared => exact .cleared history heap

/-- **What is live in a heap is what its history tells.** -/
theorem Run.recounts (run : Run base capacity history heap) : Recounts history heap := by
  induction run with
  | start =>
    exact ⟨.start base capacity, fun _ _ _ _ stands => absurd stands not_stands_nil,
      fun _ _ held => nomatch held⟩
  | ask _ request recounts => exact recounts.effect (ask_effect _ request)

end ComputeHost.Heap
