/-! Steps, taken apart. Every layer of the project is a step on a state that may
fail; what a composed step did is what its parts did in order. What each part
keeps, whether it succeeds or fails, the composed step keeps, and where each part
does the same on two states, so does the composed step. -/
namespace DelegateClasses.Steps

variable {ε σ α β γ : Type}

theorem bind_eq_ok {work : EStateM ε σ α} {next : α → EStateM ε σ β} {state final : σ}
    {result : β} (ran : (work >>= next) state = .ok result final) :
    ∃ value middle, work state = .ok value middle ∧ next value middle = .ok result final := by
  simp only [bind, EStateM.bind] at ran
  split at ran
  · next value middle first => exact ⟨value, middle, first, ran⟩
  · cases ran

theorem except_bind_eq_ok {work : Except ε α} {next : α → Except ε β} {result : β}
    (ran : (work >>= next) = .ok result) : ∃ value, work = .ok value ∧ next value = .ok result := by
  cases work with
  | error failure => cases ran
  | ok value => exact ⟨value, rfl, ran⟩

theorem except_bind_of_ok {work : Except ε α} {next : α → Except ε β} {value : α}
    (ran : work = .ok value) : (work >>= next) = next value := by
  rw [ran]
  rfl

/-- Where a loop fails there is a first value at which it fails. -/
theorem foldlM_eq_error {step : σ → α → Except ε σ} {values : List α} {first : σ}
    {failure : ε} (failed : values.foldlM step first = .error failure) :
    ∃ front value rest state, values = front ++ value :: rest ∧
      front.foldlM step first = .ok state ∧ step state value = .error failure := by
  induction values generalizing first with
  | nil => cases failed
  | cons value values ih =>
    rw [List.foldlM_cons] at failed
    cases stepped : step first value with
    | error reason =>
      rw [stepped] at failed
      cases failed
      exact ⟨[], value, values, first, rfl, rfl, stepped⟩
    | ok next =>
      rw [stepped] at failed
      obtain ⟨front, last, rest, state, rfl, reached, stopped⟩ := ih failed
      refine ⟨value :: front, last, rest, state, rfl, ?_, stopped⟩
      rw [List.foldlM_cons, stepped]
      exact reached

/-- A loop gives a result for each value if it does so for every one. -/
theorem mapM_ok {check : α → Except ε β} {holds : β → Prop} {values : List α}
    (each : ∀ value ∈ values, ∃ result, check value = .ok result ∧ holds result) :
    ∃ results, values.mapM check = .ok results ∧ ∀ result ∈ results, holds result := by
  induction values with
  | nil => exact ⟨[], rfl, fun _ none => (by cases none)⟩
  | cons value values ih =>
    obtain ⟨first, passes, held⟩ := each value List.mem_cons_self
    obtain ⟨others, ran, all⟩ := ih fun other member => each other (List.mem_cons_of_mem _ member)
    refine ⟨first :: others, ?_, fun result member => ?_⟩
    · rw [List.mapM_cons, passes]
      change (values.mapM check >>= _) = _
      rw [ran]
      rfl
    · rcases List.mem_cons.1 member with rfl | later
      · exact held
      · exact all result later

/-- Each result of a loop is that of one of the values. -/
theorem mapM_eq_ok {check : α → Except ε β} {values : List α} {results : List β}
    (ran : values.mapM check = .ok results) :
    ∀ result ∈ results, ∃ value ∈ values, check value = .ok result := by
  induction values generalizing results with
  | nil =>
    cases ran
    intro result member
    cases member
  | cons value values ih =>
    rw [List.mapM_cons] at ran
    obtain ⟨first, passes, rest⟩ := except_bind_eq_ok ran
    obtain ⟨others, more, last⟩ := except_bind_eq_ok rest
    cases last
    intro result member
    rcases List.mem_cons.1 member with rfl | later
    · exact ⟨value, List.mem_cons_self, passes⟩
    · obtain ⟨other, among, also⟩ := ih more result later
      exact ⟨other, List.mem_cons_of_mem _ among, also⟩

/-- Each value of a loop that ends has a result. -/
theorem mapM_eq_ok_of_mem {check : α → Except ε β} {values : List α} {results : List β}
    (ran : values.mapM check = .ok results) :
    ∀ value ∈ values, ∃ result ∈ results, check value = .ok result := by
  induction values generalizing results with
  | nil =>
    intro value member
    cases member
  | cons first values ih =>
    rw [List.mapM_cons] at ran
    obtain ⟨result, passes, rest⟩ := except_bind_eq_ok ran
    obtain ⟨others, more, last⟩ := except_bind_eq_ok rest
    cases last
    intro value member
    rcases List.mem_cons.1 member with rfl | later
    · exact ⟨result, List.mem_cons_self, passes⟩
    · obtain ⟨other, among, also⟩ := ih more value later
      exact ⟨other, List.mem_cons_of_mem _ among, also⟩

theorem get_bind {next : σ → EStateM ε σ α} {state : σ} : (get >>= next) state = next state state :=
  rfl

theorem modify_run {change : σ → σ} {state : σ} :
    (modify change : EStateM ε σ PUnit) state = .ok ⟨⟩ (change state) :=
  rfl

theorem bind_of_ok {work : EStateM ε σ α} {next : α → EStateM ε σ β} {state middle : σ}
    {value : α} (ran : work state = .ok value middle) :
    (work >>= next) state = next value middle := by
  simp only [bind, EStateM.bind, ran]

theorem bind_of_error {work : EStateM ε σ α} {next : α → EStateM ε σ β} {state middle : σ}
    {failure : ε} (ran : work state = .error failure middle) :
    (work >>= next) state = .error failure middle := by
  simp only [bind, EStateM.bind, ran]

/-- Loops over values with the same keys do the same, if the key decides what is done. -/
theorem mapM_eq_of_keys {key : α → γ} {act : α → EStateM ε σ β} {values others : List α}
    (decided : ∀ value other, key value = key other → act value = act other)
    (same : values.map key = others.map key) : values.mapM act = others.mapM act := by
  induction values generalizing others with
  | nil =>
    rw [List.map_nil, eq_comm, List.map_eq_nil_iff] at same
    rw [same]
  | cons value values ih =>
    cases others with
    | nil => cases same
    | cons other others =>
      obtain ⟨first, rest⟩ := List.cons.inj same
      rw [List.mapM_cons, List.mapM_cons, decided value other first, ih rest]

/-- A loop that succeeds leaves what its rounds leave, one after the other. The
state is described by what was collected so far; a round adds to it. -/
theorem forM_collects {act : α → EStateM ε σ PUnit} {values : List α}
    (holds : List γ → σ → Prop) (taken : α → List γ) (done : List γ)
    (round : ∀ value ∈ values, ∀ done state after, holds done state →
      act value state = .ok ⟨⟩ after → holds (done ++ taken value) after)
    {state final : σ} (start : holds done state) (ran : values.forM act state = .ok ⟨⟩ final) :
    holds (done ++ values.flatMap taken) final := by
  induction values generalizing done state with
  | nil =>
    cases ran
    simpa using start
  | cons value values ih =>
    change (act value >>= fun _ => values.forM act) state = _ at ran
    obtain ⟨⟨⟩, middle, first, rest⟩ := bind_eq_ok ran
    have left := round value (by simp) done state middle start first
    have all := ih (done ++ taken value)
      (fun other member => round other (List.mem_cons_of_mem _ member)) left rest
    rwa [List.append_assoc] at all

/-! ## What a step keeps also when it fails -/

/-- The state that a step leaves, whether it succeeds or fails. -/
def left : EStateM.Result ε σ α → σ
  | .ok _ state => state
  | .error _ state => state

/-- The failure of a step, if it fails. -/
def failure? : EStateM.Result ε σ α → Option ε
  | .ok _ _ => none
  | .error failure _ => some failure

/-- What a step answers, if it succeeds. -/
def value? : EStateM.Result ε σ α → Option α
  | .ok value _ => some value
  | .error _ _ => none

theorem eq_ok_of_value? {result : EStateM.Result ε σ α} {value : α}
    (answer : value? result = some value) : result = .ok value (left result) := by
  cases result with
  | ok value state =>
    cases answer
    rfl
  | error failure state => cases answer

/-- The step keeps a property of the state, whether it succeeds or fails. -/
def Preserves (holds : σ → Prop) (work : EStateM ε σ α) : Prop :=
  ∀ state, holds state → holds (left (work state))

/-- What a step leaves does not depend on whether its answer is used. -/
theorem left_discard (work : EStateM ε σ α) (state : σ) :
    left ((discard work : EStateM ε σ PUnit) state) = left (work state) := by
  cases ran : work state with
  | ok value after => exact congrArg left (bind_of_ok ran)
  | error failure after => exact congrArg left (bind_of_error ran)

variable {holds : σ → Prop}

theorem preserves_return (value : α) : Preserves holds (return value : EStateM ε σ α) :=
  fun _ held => held

theorem preserves_throw (failure : ε) : Preserves holds (throw failure : EStateM ε σ α) :=
  fun _ held => held

/-- A step that is followed by others leaves what they keep. -/
theorem left_bind {work : EStateM ε σ α} {next : α → EStateM ε σ β} {state : σ}
    (first : holds (left (work state))) (rest : ∀ value, Preserves holds (next value)) :
    holds (left ((work >>= next) state)) := by
  simp only [bind, EStateM.bind]
  split
  · next value middle ran =>
    rw [ran] at first
    exact rest value middle first
  · next failure middle ran =>
    rw [ran] at first
    exact first

theorem preserves_bind {work : EStateM ε σ α} {next : α → EStateM ε σ β}
    (first : Preserves holds work) (rest : ∀ value, Preserves holds (next value)) :
    Preserves holds (work >>= next) :=
  fun state held => left_bind (first state held) rest

theorem preserves_get {next : σ → EStateM ε σ α} (rest : ∀ state, Preserves holds (next state)) :
    Preserves holds (get >>= next) :=
  fun state held => rest state state held

theorem preserves_ite {condition : Prop} [Decidable condition] {work other : EStateM ε σ α}
    (yes : Preserves holds work) (no : Preserves holds other) :
    Preserves holds (if condition then work else other) := by
  split
  · exact yes
  · exact no

theorem preserves_forM {act : α → EStateM ε σ PUnit} (each : ∀ value, Preserves holds (act value))
    (values : List α) : Preserves holds (values.forM act) := by
  induction values with
  | nil => exact preserves_return _
  | cons value values ih => exact preserves_bind (each value) fun _ => ih

theorem preserves_mapM {act : α → EStateM ε σ β} (each : ∀ value, Preserves holds (act value))
    (values : List α) : Preserves holds (values.mapM act) := by
  induction values with
  | nil => exact preserves_return _
  | cons value values ih =>
    rw [List.mapM_cons]
    exact preserves_bind (each value) fun _ => preserves_bind ih fun _ => preserves_return _

/-! ## Two runs side by side -/

/-- Two endings with the same value and related states, or with failures that agree
and related states. -/
inductive Alike (related : σ → σ → Prop) (agree : ε → ε → Prop) :
    EStateM.Result ε σ α → EStateM.Result ε σ α → Prop where
  | ok {state other : σ} (value : α) (still : related state other) :
      Alike related agree (.ok value state) (.ok value other)
  | error {state other : σ} {failure counterpart : ε} (same : agree failure counterpart)
      (still : related state other) :
      Alike related agree (.error failure state) (.error counterpart other)

theorem Alike.left {related : σ → σ → Prop} {agree : ε → ε → Prop}
    {result counterpart : EStateM.Result ε σ α} (alike : Alike related agree result counterpart) :
    related (Steps.left result) (Steps.left counterpart) := by
  cases alike with
  | ok value still => exact still
  | error same still => exact still

/-- Both steps fail, with failures that agree, or both succeed. -/
theorem Alike.failure? {related : σ → σ → Prop} {agree : ε → ε → Prop}
    {result counterpart : EStateM.Result ε σ α} (alike : Alike related agree result counterpart) :
    Option.Rel agree (Steps.failure? result) (Steps.failure? counterpart) := by
  cases alike with
  | ok value still => exact .none
  | error same still => exact .some same

theorem failure_of_rel {agree : ε → ε → Prop} {failure? : Option ε} {counterpart : ε}
    (both : Option.Rel agree failure? (some counterpart)) :
    ∃ failure, failure? = some failure ∧ agree failure counterpart := by
  cases both with
  | some same => exact ⟨_, rfl, same⟩

/-- From related states the steps end alike. -/
def Agrees (related : σ → σ → Prop) (agree : ε → ε → Prop) (work twin : EStateM ε σ α) : Prop :=
  ∀ state other, related state other → Alike related agree (work state) (twin other)

/-- Both failures are the same one, which is allowed. -/
def Both (allowed : ε → Prop) (failure counterpart : ε) : Prop :=
  failure = counterpart ∧ allowed failure

variable {related : σ → σ → Prop} {agree : ε → ε → Prop}

theorem agrees_return (value : α) :
    Agrees related agree (return value : EStateM ε σ α) (return value) :=
  fun _ _ still => .ok value still

theorem agrees_throw {failure : ε} (same : agree failure failure) :
    Agrees related agree (throw failure : EStateM ε σ α) (throw failure) :=
  fun _ _ still => .error same still

/-- Steps that are followed by others end alike if the first ones do. The states may be
related in a looser way from then on. -/
theorem alike_then {looser : σ → σ → Prop} {work twin : EStateM ε σ α}
    {next follower : α → EStateM ε σ β} {state other : σ}
    (loosen : ∀ state other, related state other → looser state other)
    (first : Alike related agree (work state) (twin other))
    (rest : ∀ value state other, related state other →
      Alike looser agree (next value state) (follower value other)) :
    Alike looser agree ((work >>= next) state) ((twin >>= follower) other) := by
  simp only [bind, EStateM.bind]
  revert first
  generalize work state = ended
  generalize twin other = matched
  rintro (⟨value, still⟩ | ⟨same, still⟩)
  · exact rest value _ _ still
  · exact .error same (loosen _ _ still)

theorem alike_bind {work twin : EStateM ε σ α} {next follower : α → EStateM ε σ β}
    {state other : σ} (first : Alike related agree (work state) (twin other))
    (rest : ∀ value, Agrees related agree (next value) (follower value)) :
    Alike related agree ((work >>= next) state) ((twin >>= follower) other) :=
  alike_then (fun _ _ still => still) first rest

theorem agrees_bind {work twin : EStateM ε σ α} {next follower : α → EStateM ε σ β}
    (first : Agrees related agree work twin)
    (rest : ∀ value, Agrees related agree (next value) (follower value)) :
    Agrees related agree (work >>= next) (twin >>= follower) :=
  fun state other still => alike_bind (first state other still) rest

theorem agrees_get {next follower : σ → EStateM ε σ α}
    (rest : ∀ state other, related state other →
      Alike related agree (next state state) (follower other other)) :
    Agrees related agree (get >>= next) (get >>= follower) :=
  rest

theorem agrees_ite {condition : Prop} [Decidable condition] {work twin last lastTwin : EStateM ε σ α}
    (yes : Agrees related agree work twin) (no : Agrees related agree last lastTwin) :
    Agrees related agree (if condition then work else last)
      (if condition then twin else lastTwin) := by
  split
  · exact yes
  · exact no

theorem agrees_forM {act twin : α → EStateM ε σ PUnit}
    (each : ∀ value, Agrees related agree (act value) (twin value)) (values : List α) :
    Agrees related agree (values.forM act) (values.forM twin) := by
  induction values with
  | nil => exact agrees_return _
  | cons value values ih => exact agrees_bind (each value) fun _ => ih

theorem agrees_mapM {act twin : α → EStateM ε σ β}
    (each : ∀ value, Agrees related agree (act value) (twin value)) (values : List α) :
    Agrees related agree (values.mapM act) (values.mapM twin) := by
  induction values with
  | nil => exact agrees_return _
  | cons value values ih =>
    rw [List.mapM_cons, List.mapM_cons]
    exact agrees_bind (each value) fun _ => agrees_bind ih fun _ => agrees_return _

/-- Both states are the same one, which has a property. -/
def Same (holds : σ → Prop) (state other : σ) : Prop :=
  state = other ∧ holds state

theorem agrees_same {work : EStateM ε σ α}
    (each : ∀ state, holds state → Alike (Same holds) agree (work state) (work state)) :
    Agrees (Same holds) agree work work := by
  rintro state _ ⟨rfl, held⟩
  exact each state held

theorem agrees_same_get {next : σ → EStateM ε σ α}
    (rest : ∀ state, Agrees (Same holds) agree (next state) (next state)) :
    Agrees (Same holds) agree (get >>= next) (get >>= next) :=
  agrees_same fun state held => rest state state state ⟨rfl, held⟩

theorem left_of_alike {result : EStateM.Result ε σ α}
    (alike : Alike (Same holds) agree result result) : holds (left result) := by
  cases alike with
  | ok value still => exact still.2
  | error same still => exact still.2

theorem preserves_of_agrees {work : EStateM ε σ α} (agrees : Agrees (Same holds) agree work work) :
    Preserves holds work :=
  fun state held => left_of_alike (agrees state state ⟨rfl, held⟩)

end DelegateClasses.Steps
