/-
**Reading what was written.**

The tokens of a value take a reading from where a value must come to where the value has come
(`Reads`), whatever is open around it. So a document is read as the value that it was written from.

* `reads_tokens` — the tokens of every value do so.
* `ofText?_compact` — a plain value is read back from its document.
-/

import ComputeHost.Json.Reading
import ComputeHost.Proofs.Json.Scanning

namespace ComputeHost.Json

open Reading

/-- The tokens are read as the value. -/
def Reads (tokens : List Token) (item : Json) : Prop :=
  ∀ (frames : List Frame) (rest : List Token),
    (tokens ++ rest).foldlM step? (.value frames) = rest.foldlM step? (supply item frames)

/-- Values after a separator, one after the other. -/
theorem intercalate_cons {α β : Type} (separator : β) (first : α) (rest : List α)
    (part : α → List β) :
    [separator].intercalate ((first :: rest).map part) =
      part first ++ rest.flatMap fun next => separator :: part next := by
  induction rest generalizing first with
  | nil => simp
  | cons next more ih =>
    have tail := ih next
    simp only [List.map_cons] at tail ⊢
    rw [List.intercalate_cons_cons, tail]
    simp

/-- The tokens of a value start with one, and not with the end of an array. -/
theorem tokens_eq_cons (item : Json) :
    ∃ token rest, tokens item = token :: rest ∧ token ≠ .closeArray := by
  cases item <;> exact ⟨_, _, rfl, nofun⟩

/-- The first item of an array is read as any value. -/
theorem step?_arrayStart {token : Token} (other : token ≠ .closeArray) (frames : List Frame) :
    step? (.arrayStart frames) token = step? (.value (.array [] :: frames)) token := by
  cases token <;> first | rfl | exact absurd rfl other

/-- The items of an array after the first. -/
theorem reads_items {items : List Json} (each : ∀ item ∈ items, Reads (tokens item) item)
    (before : List Json) (frames : List Frame) (rest : List Token) :
    (items.flatMap (fun item => .comma :: tokens item) ++ .closeArray :: rest).foldlM step?
        (.arrayNext before frames) =
      rest.foldlM step? (supply (.array (before.reverse ++ items)) frames) := by
  induction items generalizing before with
  | nil =>
    rw [List.append_nil]
    rfl
  | cons item more ih =>
    obtain ⟨first, later⟩ := List.forall_mem_cons.mp each
    rw [List.flatMap_cons, List.append_assoc, List.cons_append]
    show (tokens item ++ _).foldlM step? (.value (.array before :: frames)) = _
    rw [first]
    show List.foldlM step? (.arrayNext (item :: before) frames) _ = _
    rw [ih later, List.reverse_cons, List.append_assoc]
    rfl

theorem reads_array {items : List Json} (each : ∀ item ∈ items, Reads (tokens item) item) :
    Reads (tokens (.array items)) (.array items) := by
  intro frames rest
  rw [tokens, itemTokens_eq, List.cons_append, List.cons_append, List.append_assoc]
  show List.foldlM step? (.arrayStart frames) _ = _
  cases items with
  | nil => rfl
  | cons item more =>
    obtain ⟨first, later⟩ := List.forall_mem_cons.mp each
    have read := first (.array [] :: frames)
      (more.flatMap (fun item => .comma :: tokens item) ++ .closeArray :: rest)
    rw [intercalate_cons, List.append_assoc]
    obtain ⟨token, others, same, other⟩ := tokens_eq_cons item
    rw [same] at read ⊢
    rw [List.cons_append, List.foldlM_cons, ← step?_arrayStart other] at read
    rw [List.cons_append, List.foldlM_cons]
    exact read.trans (reads_items later [item] frames rest)

/-- The members of an object after the first. -/
theorem reads_members {members : List (Option String × Json)}
    (each : ∀ member ∈ members, Reads (tokens member.2) member.2)
    (before : List (Option String × Json)) (frames : List Frame) (rest : List Token) :
    (members.flatMap (fun member => .comma :: memberToken member) ++ .closeObject :: rest).foldlM
        step? (.objectNext before frames) =
      rest.foldlM step? (supply (.object (before.reverse ++ members)) frames) := by
  induction members generalizing before with
  | nil =>
    rw [List.append_nil]
    rfl
  | cons member more ih =>
    obtain ⟨first, later⟩ := List.forall_mem_cons.mp each
    rw [List.flatMap_cons, List.append_assoc, List.cons_append]
    show (tokens member.2 ++ _).foldlM step? (.value (.object before member.1 :: frames)) = _
    rw [first]
    show List.foldlM step? (.objectNext (member :: before) frames) _ = _
    rw [ih later, List.reverse_cons, List.append_assoc]
    rfl

theorem reads_object {members : List (Option String × Json)}
    (each : ∀ member ∈ members, Reads (tokens member.2) member.2) :
    Reads (tokens (.object members)) (.object members) := by
  intro frames rest
  rw [tokens, memberTokens_eq, List.cons_append, List.cons_append, List.append_assoc]
  show List.foldlM step? (.objectStart frames) _ = _
  cases members with
  | nil => rfl
  | cons member more =>
    obtain ⟨first, later⟩ := List.forall_mem_cons.mp each
    rw [intercalate_cons, List.append_assoc]
    show (tokens member.2 ++ _).foldlM step? (.value (.object [] member.1 :: frames)) = _
    rw [first]
    exact reads_members later [member] frames rest

/-- **The tokens of a value** are read as the value. -/
theorem Plain.reads {value : Json} (plain : Plain value) : Reads (tokens value) value := by
  induction plain with
  | null | bool | number | text => exact fun frames rest => rfl
  | array _ ih => exact reads_array ih
  | object _ _ ih => exact reads_object ih

theorem ofTokens?_tokens {value : Json} (plain : Plain value) :
    ofTokens? (tokens value) = some value := by
  have read := plain.reads [] []
  rw [List.append_nil] at read
  unfold ofTokens?
  rw [read]
  rfl

/-- **A document** is read as the value that it was written from. -/
theorem ofText?_compact {value : Json} (plain : Plain value) :
    ofText? (compact value) = some value := by
  unfold ofText?
  rw [tokens?_compact plain, Option.bind_some, ofTokens?_tokens plain]

end ComputeHost.Json
