import Mathlib.Order.Defs.Unbundled

/-! Computations that change a state and may fail, where a failure keeps the
changes made before it. What such a computation does to the state is stated by a
preorder: every outcome is reached from the start by steps that it allows. -/

namespace OcneProvider.Effects.Stateful

variable {ε σ α β : Type}

abbrev Changing (ε σ : Type) := ExceptT ε (StateM σ)

def outcome (program : Changing ε σ α) (s : σ) : Except ε α × σ :=
  program.run.run s

variable {δ : Type} (change : σ → σ) (s : σ)

@[simp] theorem outcome_pure (a : α) : outcome (pure a : Changing ε σ α) s = (.ok a, s) := rfl

@[simp] theorem outcome_get : outcome (get : Changing ε σ σ) s = (.ok s, s) := rfl

@[simp] theorem outcome_modify : outcome (modify change : Changing ε σ PUnit) s = (.ok ⟨⟩, change s) := rfl

@[simp] theorem outcome_except (answer : Except ε α) :
    outcome (ExceptT.mk (pure answer) : Changing ε σ α) s = (answer, s) := rfl

@[simp] theorem outcome_bind (program : Changing ε σ α) (next : α → Changing ε σ β) :
    outcome (program >>= next) s =
      match outcome program s with
      | (.ok a, reached) => outcome (next a) reached
      | (.error error, reached) => (.error error, reached) := by
  simp only [outcome, ExceptT.run_bind, StateT.run_bind]
  rcases program.run.run s with ⟨_ | _, _⟩ <;> rfl

/-- What a failed part changed stays changed. -/
def attempt {δ : Type} (part : Changing ε σ α) : Changing δ σ (Except ε α) :=
  ExceptT.lift part.run

@[simp] theorem outcome_attempt (part : Changing ε σ α) :
    outcome (attempt part : Changing δ σ (Except ε α)) s = (.ok (outcome part s).1, (outcome part s).2) := rfl

/-- Every run of the program moves the state along the relation. -/
def Moves (R : σ → σ → Prop) (program : Changing ε σ α) : Prop :=
  ∀ s, R s (outcome program s).2

variable {R : σ → σ → Prop}

theorem Moves.modify (step : ∀ s, R s (change s)) : Moves R (modify change : Changing ε σ PUnit) :=
  step

@[simp] theorem outcome_adapt (change : ε → δ) (program : Changing ε σ α) :
    outcome (ExceptT.adapt change program : Changing δ σ α) s =
      ((outcome program s).1.mapError change, (outcome program s).2) :=
  rfl

theorem Moves.adapt (change : ε → δ) {program : Changing ε σ α} (moves : Moves R program) :
    Moves R (ExceptT.adapt change program : Changing δ σ α) := by
  intro s
  exact moves s

theorem Moves.attempt {part : Changing ε σ α} (moves : Moves R part) :
    Moves R (attempt part : Changing δ σ (Except ε α)) :=
  moves

theorem Moves.ite {condition : Prop} [Decidable condition] {first second : Changing ε σ α}
    (holds : condition → Moves R first) (fails : ¬ condition → Moves R second) :
    Moves R (if condition then first else second) := by
  split
  next held => exact holds held
  next failed => exact fails failed

section Preorder

variable [IsPreorder σ R]

theorem Moves.pure (a : α) : Moves R (Pure.pure a : Changing ε σ α) :=
  fun s => refl_of R s

theorem Moves.throw (error : ε) : Moves R (throw error : Changing ε σ α) :=
  fun s => refl_of R s

theorem Moves.get : Moves R (get : Changing ε σ σ) :=
  fun s => refl_of R s

theorem Moves.except (answer : Except ε α) : Moves R (ExceptT.mk (Pure.pure answer) : Changing ε σ α) :=
  fun s => refl_of R s

theorem Moves.bind {program : Changing ε σ α} {next : α → Changing ε σ β} (first : Moves R program)
    (later : ∀ a, Moves R (next a)) : Moves R (program >>= next) := by
  intro s
  have moved := first s
  rw [outcome_bind]
  cases done : outcome program s with
  | mk answer reached =>
    rw [done] at moved
    cases answer with
    | ok a => exact trans_of R moved (later a reached)
    | error error => exact moved

theorem Moves.except_bind {answer : Except ε α} {next : α → Changing ε σ β}
    (later : ∀ a, answer = .ok a → Moves R (next a)) : Moves R (ExceptT.mk (Pure.pure answer) >>= next) := by
  intro s
  cases answer with
  | ok a => exact later a rfl s
  | error error => exact refl_of R s

theorem Moves.forM {items : List β} {body : β → Changing ε σ PUnit} (each : ∀ item ∈ items, Moves R (body item)) :
    Moves R (items.forM body) := by
  induction items with
  | nil => exact Moves.pure PUnit.unit
  | cons first rest ih =>
    obtain ⟨here, later⟩ := List.forall_mem_cons.mp each
    exact Moves.bind here fun _ => ih later

end Preorder

section Ensures

variable {pre : σ → Prop} {post : α → σ → Prop}

/-- From a state that meets `pre`, unless it fails, `post` holds of the value and the state reached. -/
def Ensures (pre : σ → Prop) (program : Changing ε σ α) (post : α → σ → Prop) : Prop :=
  ∀ s, pre s → ∀ value reached, outcome program s = (.ok value, reached) → post value reached

theorem Ensures.pure {value : α} (holds : ∀ s, pre s → post value s) :
    Ensures pre (Pure.pure value : Changing ε σ α) post := by
  rintro s start _ _ ⟨⟩
  exact holds s start

theorem Ensures.get : Ensures pre (get : Changing ε σ σ) fun _ => pre := by
  rintro s start _ _ ⟨⟩
  exact start

theorem Ensures.throw (error : ε) : Ensures pre (throw error : Changing ε σ α) post := by
  rintro s start _ _ ⟨⟩

theorem Ensures.modify {change : σ → σ} {post : PUnit → σ → Prop} (holds : ∀ s, pre s → post ⟨⟩ (change s)) :
    Ensures pre (modify change : Changing ε σ PUnit) post := by
  rintro s start _ _ ⟨⟩
  exact holds s start

theorem Ensures.bind {middle : α → σ → Prop} {post : β → σ → Prop} {program : Changing ε σ α}
    {next : α → Changing ε σ β} (first : Ensures pre program middle)
    (later : ∀ value, Ensures (middle value) (next value) post) : Ensures pre (program >>= next) post := by
  intro s start value reached finished
  rw [outcome_bind] at finished
  cases done : outcome program s with
  | mk answer between =>
    rw [done] at finished
    cases answer with
    | error error => cases finished
    | ok gave => exact later gave between (first s start gave between done) value reached finished

/-- An invariant of a loop that depends on what was gone through. -/
theorem Ensures.forM {keep : List β → σ → Prop} {items : List β} {body : β → Changing ε σ PUnit}
    (each : ∀ before, ∀ item ∈ items, Ensures (keep before) (body item) fun _ => keep (before ++ [item])) :
    Ensures (keep []) (items.forM body) fun _ => keep items := by
  suffices held : ∀ before, Ensures (keep before) (items.forM body) fun _ => keep (before ++ items) from held []
  induction items with
  | nil =>
    intro before
    rw [List.append_nil]
    exact Ensures.pure fun s start => start
  | cons first rest ih =>
    intro before
    have later := ih (fun before item mem => each before item (List.mem_cons_of_mem _ mem)) (before ++ [first])
    rw [List.append_assoc] at later
    exact Ensures.bind (each before first List.mem_cons_self) fun _ => later

theorem Ensures.except_bind {post : β → σ → Prop} {answer : Except ε α} {next : α → Changing ε σ β}
    (later : ∀ value, answer = .ok value → Ensures pre (next value) post) :
    Ensures pre (ExceptT.mk (Pure.pure answer) >>= next) post := by
  intro s start value reached done
  cases answer with
  | error error => cases done
  | ok gave => exact later gave rfl s start value reached done

theorem Ensures.adapt_bind {post : β → σ → Prop} {change : δ → ε} {answer : Except δ α}
    {next : α → Changing ε σ β} (later : ∀ value, answer = .ok value → Ensures pre (next value) post) :
    Ensures pre (ExceptT.adapt change (ExceptT.mk (Pure.pure answer)) >>= next) post := by
  intro s start value reached done
  cases answer with
  | error error => cases done
  | ok gave => exact later gave rfl s start value reached done

theorem Ensures.adapt {change : ε → δ} {program : Changing ε σ α} (ensures : Ensures pre program post) :
    Ensures pre (ExceptT.adapt change program : Changing δ σ α) post := by
  intro s start value reached finished
  rw [outcome_adapt] at finished
  cases done : outcome program s with
  | mk answer between =>
    rw [done] at finished
    cases answer with
    | error error => cases finished
    | ok gave =>
      obtain ⟨⟨⟩, rfl⟩ := Prod.mk.inj finished
      exact ensures s start _ _ done

theorem Moves.ensures [IsPreorder σ R] {program : Changing ε σ α} (moves : Moves R program) {start : σ} :
    Ensures (R start) program fun _ => R start := by
  intro s before value reached done
  have moved := moves s
  rw [done] at moved
  exact trans_of R before moved

theorem Ensures.assuming {fact : Prop} {program : Changing ε σ α} (valid : fact → Ensures pre program post) :
    Ensures (fun s => fact ∧ pre s) program post :=
  fun s start => valid start.1 s start.2

theorem Ensures.ite {condition : Prop} [Decidable condition] {first second : Changing ε σ α}
    (holds : condition → Ensures pre first post) (fails : ¬ condition → Ensures pre second post) :
    Ensures pre (if condition then first else second) post := by
  split
  next held => exact holds held
  next failed => exact fails failed

end Ensures

end OcneProvider.Effects.Stateful
