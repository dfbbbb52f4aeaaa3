/-
**Actions one after the other.**

An action gives a result and a state, or an error and a state. Two in sequence are taken apart by
what the first one did (`bind_eq_error_iff`), and put together the same way (`bind_of_ok`,
`bind_of_error`). Checks, which have no state, are taken apart by `except_bind_eq_ok_iff`.
-/

namespace ComputeHost.Action

variable {ε σ α β : Type} {first : EStateM ε σ α} {rest : α → EStateM ε σ β}
  {state middle after : σ} {value : α} {result : β} {cause : ε}

theorem bind_of_ok (done : first state = .ok value middle) :
    (first >>= rest) state = rest value middle := by
  show EStateM.bind first rest state = _
  unfold EStateM.bind
  rw [done]

theorem bind_of_error (failed : first state = .error cause after) :
    (first >>= rest) state = .error cause after := by
  show EStateM.bind first rest state = _
  unfold EStateM.bind
  rw [failed]

/-- A sequence fails where its first part does, or where the second part does after the first. -/
theorem bind_eq_error_iff :
    (first >>= rest) state = .error cause after ↔
      first state = .error cause after ∨
        ∃ value middle, first state = .ok value middle ∧
          rest value middle = .error cause after := by
  constructor
  · intro failed
    cases outcome : first state with
    | ok value middle =>
      rw [bind_of_ok outcome] at failed
      exact .inr ⟨value, middle, rfl, failed⟩
    | error cause middle =>
      rw [bind_of_error outcome] at failed
      cases failed
      exact .inl rfl
  · rintro (failed | ⟨value, middle, done, failed⟩)
    · exact bind_of_error failed
    · rw [bind_of_ok done]
      exact failed

/-- The state after an action, whatever it gives. -/
def final : EStateM.Result ε σ α → σ
  | .ok _ after => after
  | .error _ after => after

/-- The action leads from a state to a state in the relation. -/
def Within (relation : σ → σ → Prop) (action : EStateM ε σ α) : Prop :=
  ∀ state, relation state (final (action state))

/-- Actions within a transitive relation stay within it in sequence. -/
theorem Within.bind {relation : σ → σ → Prop}
    (transitive : ∀ one two three, relation one two → relation two three → relation one three)
    (begins : Within relation first) (goes : ∀ value, Within relation (rest value)) :
    Within relation (first >>= rest) := by
  intro state
  have step := begins state
  cases outcome : first state with
  | ok value middle =>
    rw [bind_of_ok outcome]
    rw [outcome] at step
    exact transitive _ _ _ step (goes value middle)
  | error cause after =>
    rw [bind_of_error outcome]
    rw [outcome] at step
    exact step

theorem map_of_ok {give : α → β} (done : first state = .ok value after) :
    (give <$> first) state = .ok (give value) after := by
  show EStateM.map give first state = _
  unfold EStateM.map
  rw [done]

theorem map_of_error {give : α → β} (failed : first state = .error cause after) :
    (give <$> first) state = .error cause after := by
  show EStateM.map give first state = _
  unfold EStateM.map
  rw [failed]

theorem map_eq_ok_iff {give : α → β} :
    (give <$> first) state = .ok result after ↔
      ∃ value, first state = .ok value after ∧ give value = result := by
  cases outcome : first state with
  | ok value middle =>
    rw [map_of_ok outcome]
    constructor
    · intro done
      cases done
      exact ⟨value, rfl, rfl⟩
    · rintro ⟨_, same, rfl⟩
      cases same
      rfl
  | error cause middle =>
    rw [map_of_error outcome]
    exact ⟨nofun, nofun⟩

theorem map_eq_error_iff {give : α → β} :
    (give <$> first) state = .error cause after ↔ first state = .error cause after := by
  cases outcome : first state with
  | ok value middle =>
    rw [map_of_ok outcome]
    exact ⟨nofun, nofun⟩
  | error cause middle =>
    rw [map_of_error outcome]
    exact ⟨fun same => by cases same; rfl, fun same => by cases same; rfl⟩

/-- What is given at the end does not matter for the state. -/
theorem final_map (give : α → β) : final ((give <$> first) state) = final (first state) := by
  cases outcome : first state with
  | ok value after => rw [map_of_ok outcome, final, final]
  | error cause after => rw [map_of_error outcome, final, final]

theorem Within.map {relation : σ → σ → Prop} {give : α → β} (within : Within relation first) :
    Within relation (give <$> first) := by
  intro state
  rw [final_map]
  exact within state

/-- Checks in sequence give a value if each does. -/
theorem except_bind_eq_ok_iff {check : Except ε α} {next : α → Except ε β} :
    (check >>= next) = .ok result ↔ ∃ value, check = .ok value ∧ next value = .ok result := by
  cases check with
  | ok value =>
    refine ⟨fun done => ⟨value, rfl, done⟩, ?_⟩
    rintro ⟨_, same, done⟩
    cases same
    exact done
  | error cause =>
    refine ⟨nofun, ?_⟩
    rintro ⟨_, same, _⟩
    cases same

/-- After a check that gives a value, what follows goes on with it. -/
theorem except_bind_of_ok {check : Except ε α} {next : α → Except ε β}
    (passes : check = .ok value) : (check >>= next) = next value := by
  rw [passes]
  rfl

theorem except_eq_ok_of_isOk {check : Except ε α} (passes : check.isOk = true) :
    ∃ value, check = .ok value := by
  cases check with
  | ok value => exact ⟨value, rfl⟩
  | error cause => cases passes

/-- A list of checks fails where one of them does. -/
theorem except_mapM_eq_error {check : α → Except ε β} {items : List α}
    (fails : items.mapM check = .error cause) : ∃ item ∈ items, check item = .error cause := by
  induction items with
  | nil => cases fails
  | cons item rest ih =>
    rw [List.mapM_cons] at fails
    cases here : check item with
    | error other =>
      rw [here] at fails
      cases fails
      exact ⟨item, List.mem_cons_self, here⟩
    | ok value =>
      rw [except_bind_of_ok here] at fails
      cases others : rest.mapM check with
      | error other =>
        rw [others] at fails
        cases fails
        obtain ⟨later, member, there⟩ := ih others
        exact ⟨later, List.mem_cons_of_mem _ member, there⟩
      | ok values =>
        rw [except_bind_of_ok others] at fails
        cases fails

/-- The values of a list of checks that pass are those of the checks. -/
theorem except_mapM_eq_ok {check : α → Except ε β} {items : List α} {values : List β}
    (passes : items.mapM check = .ok values) :
    (∀ value ∈ values, ∃ item ∈ items, check item = .ok value) ∧
      ∀ item ∈ items, ∃ value ∈ values, check item = .ok value := by
  induction items generalizing values with
  | nil =>
    cases passes
    exact ⟨List.forall_mem_nil _, List.forall_mem_nil _⟩
  | cons item rest ih =>
    rw [List.mapM_cons, except_bind_eq_ok_iff] at passes
    obtain ⟨first, here, passes⟩ := passes
    obtain ⟨later, others, same⟩ := except_bind_eq_ok_iff.mp passes
    cases same
    obtain ⟨given, asked⟩ := ih others
    constructor
    · refine List.forall_mem_cons.mpr ⟨⟨item, List.mem_cons_self, here⟩, fun value member => ?_⟩
      obtain ⟨other, among, there⟩ := given value member
      exact ⟨other, List.mem_cons_of_mem _ among, there⟩
    · refine List.forall_mem_cons.mpr ⟨⟨first, List.mem_cons_self, here⟩, fun other among => ?_⟩
      obtain ⟨value, member, there⟩ := asked other among
      exact ⟨value, List.mem_cons_of_mem _ member, there⟩

/-- The values of checks that pass, one for each. -/
theorem except_mapM_eq_filterMap {check : α → Except ε β} {items : List α} {values : List β}
    (passes : items.mapM check = .ok values) :
    values = items.filterMap fun item => (check item).toOption := by
  induction items generalizing values with
  | nil =>
    cases passes
    rfl
  | cons item rest ih =>
    rw [List.mapM_cons, except_bind_eq_ok_iff] at passes
    obtain ⟨value, here, passes⟩ := passes
    obtain ⟨later, passed, same⟩ := except_bind_eq_ok_iff.mp passes
    cases same
    rw [List.filterMap_cons, here, ← ih passed]
    rfl

/-- Checks that pass in one order pass in any other, with the same values. -/
theorem except_mapM_perm {check : α → Except ε β} {items others : List α} {values : List β}
    (perm : items.Perm others) (passes : items.mapM check = .ok values) :
    ∃ reordered, others.mapM check = .ok reordered ∧ values.Perm reordered := by
  cases outcome : others.mapM check with
  | error cause =>
    obtain ⟨item, member, fails⟩ := except_mapM_eq_error outcome
    obtain ⟨value, _, holds⟩ := (except_mapM_eq_ok passes).2 item (perm.mem_iff.mpr member)
    cases fails.symm.trans holds
  | ok reordered =>
    refine ⟨reordered, rfl, ?_⟩
    rw [except_mapM_eq_filterMap passes, except_mapM_eq_filterMap outcome]
    exact perm.filterMap _

/-- A check whose value is dropped passes if it gives one. -/
theorem discard_eq_ok_iff {check : Except ε α} {done : PUnit} :
    discard check = .ok done ↔ ∃ value, check = .ok value := by
  cases check with
  | ok value => exact ⟨fun _ => ⟨value, rfl⟩, fun _ => rfl⟩
  | error cause => exact ⟨nofun, nofun⟩

/-- A refusal is passed where its condition does not hold. -/
theorem refuse_eq_ok_iff {condition : Prop} [Decidable condition] {next : PUnit → Except ε β} :
    (if condition then (throw cause : Except ε PUnit) >>= next else next ⟨⟩) = .ok result ↔
      ¬ condition ∧ next ⟨⟩ = .ok result := by
  by_cases holds : condition
  · rw [if_pos holds]
    exact ⟨nofun, fun ⟨fails, _⟩ => absurd holds fails⟩
  · rw [if_neg holds]
    exact ⟨fun done => ⟨holds, done⟩, fun ⟨_, done⟩ => done⟩

end ComputeHost.Action
