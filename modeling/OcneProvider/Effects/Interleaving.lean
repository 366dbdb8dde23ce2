import OcneProvider.Effects.Fallible

/-! Tasks that run side by side: each is a program whose calls act on one shared
state, and the calls of different tasks come in any order. What every state of such
a system keeps follows from what each task relies on and what its calls do to the
others. -/

namespace OcneProvider.Effects.Interleaving
open Program Relation

variable {S : Signature} {σ κ ο α : Type}

structure Task (S : Signature) (κ α : Type) where
  label : κ
  rest : Prog S α

structure System (S : Signature) (σ κ α : Type) where
  state : σ
  tasks : List (Task S κ α)

/-- The tasks, what the state records of their start and return, and other events. -/
structure Workers (S : Signature) (σ κ ο α : Type) where
  env : Env S σ
  program : κ → Prog S α
  start : κ → σ → Option σ
  finish : κ → α → σ → σ
  happen : ο → σ → Option σ

/-- What always holds, what a task relies on, and what holds from its return on. -/
structure Terms (σ κ α : Type) where
  good : σ → Prop
  rely : κ → σ → σ → Prop
  settled : κ → α → σ → Prop

namespace Workers

variable (workers : Workers S σ κ ο α)

def settle (label : κ) (rest : Prog S α) (s : σ) : σ :=
  match rest with
  | .done value => workers.finish label value s
  | .call _ _ => s

inductive Step : System S σ κ α → System S σ κ α → Prop where
  | happen {event : ο} {s t : σ} {tasks : List (Task S κ α)} (may : workers.happen event s = some t) :
      Step ⟨s, tasks⟩ ⟨t, tasks⟩
  | start {label : κ} {s t : σ} {tasks : List (Task S κ α)} (may : workers.start label s = some t) :
      Step ⟨s, tasks⟩ ⟨workers.settle label (workers.program label) t, tasks ++ [⟨label, workers.program label⟩]⟩
  | call {index : Nat} {label : κ} {request : S.Call} {next : S.Answer request → Prog S α}
      {answer : S.Answer request} {s t : σ} {tasks : List (Task S κ α)}
      (task : tasks[index]? = some ⟨label, .call request next⟩) (allowed : workers.env s request answer t) :
      Step ⟨s, tasks⟩ ⟨workers.settle label (next answer) t, tasks.set index ⟨label, next answer⟩⟩

theorem run_last {label : κ} {program : Prog S α} {value : α} {s t : σ} {trace : List (Event S σ)}
    (tasks : List (Task S κ α)) (run : Run workers.env program s trace (.done value) t) :
    ReflTransGen workers.Step ⟨workers.settle label program s, tasks ++ [⟨label, program⟩]⟩
      ⟨workers.finish label value t, tasks ++ [⟨label, .done value⟩]⟩ := by
  induction program generalizing s trace with
  | done other =>
    cases run
    exact .refl
  | call request next ih =>
    cases run with
    | @step _ _ _ u _ answer trace _ allowed later =>
      let task : Task S κ α := ⟨label, .call request next⟩
      have called : workers.Step ⟨s, tasks ++ [task]⟩
          ⟨workers.settle label (next answer) u, (tasks ++ [task]).set tasks.length ⟨label, next answer⟩⟩ := .call List.getElem?_concat_length allowed
      rw [List.set_append_right _ _ (Nat.le_refl _), Nat.sub_self, List.set_cons_zero] at called
      exact .head called (ih answer later)

/-- The systems that come about from a state without tasks. -/
def Reached (s : σ) : System S σ κ α → Prop :=
  ReflTransGen workers.Step ⟨s, []⟩

theorem reached_complete {label : κ} {value : α} {s t u v : σ} {tasks : List (Task S κ α)}
    {trace : List (Event S σ)} (reached : workers.Reached s ⟨t, tasks⟩) (started : workers.start label t = some u)
    (run : Run workers.env (workers.program label) u trace (.done value) v) :
    workers.Reached s ⟨workers.finish label value v, tasks ++ [⟨label, .done value⟩]⟩ :=
  (reached.tail (.start started)).trans (workers.run_last tasks run)

end Workers

namespace Terms

variable (terms : Terms σ κ α)

/-- A change that keeps what holds at any time and what every task relies on. -/
def Kept (s t : σ) : Prop :=
  terms.good t ∧ ∀ label, terms.rely label s t

/-- The environment as a task finds it: the others act before each of its calls. -/
def among (env : Env S σ) (label : κ) : Env S σ :=
  fun s request answer u => ∃ t, terms.rely label s t ∧ terms.good t ∧ env t request answer u

/-- A call that keeps the terms whatever the others do before it. -/
def Polite (env : Env S σ) (label : κ) (s : σ) (request : S.Call) : Prop :=
  ∀ t answer u, terms.rely label s t → terms.good t → env t request answer u → terms.Kept t u

/-- Its calls are polite, and its return keeps and settles what it should. -/
def Owes (workers : Workers S σ κ ο α) (label : κ) (rest : Prog S α) (s : σ) : Prop :=
  rest.wp (terms.among workers.env label) (terms.Polite workers.env label)
    (fun value t => terms.good t → terms.Kept t (workers.finish label value t) ∧
      terms.settled label value (workers.finish label value t)) s

structure Honoured (workers : Workers S σ κ ο α) : Prop where
  refl : ∀ label s, terms.good s → terms.rely label s s
  trans : ∀ label s t u, terms.rely label s t → terms.rely label t u → terms.rely label s u
  stable : ∀ label value s t, terms.settled label value s → terms.rely label s t → terms.settled label value t
  happen : ∀ event s t, terms.good s → workers.happen event s = some t → terms.Kept s t
  start : ∀ label s t, terms.good s → workers.start label s = some t →
    terms.Kept s t ∧ terms.Owes workers label (workers.program label) t

variable {terms} {workers : Workers S σ κ ο α}

theorem perform_intro (workers : Workers S σ κ ο α) {label : κ} {request : S.Call} {post : S.Answer request → σ → Prop} {s : σ}
    (held : ∀ t answer u, terms.rely label s t → terms.good t → workers.env t request answer u →
      terms.Kept t u ∧ post answer u) :
    (Prog.perform request).wp (terms.among workers.env label) (terms.Polite workers.env label) post s := by
  refine (wp_perform _ _ _).mpr ⟨fun t answer u later good made => (held t answer u later good made).1, ?_⟩
  rintro answer u ⟨t, later, good, made⟩
  exact (held t answer u later good made).2

/-- What holds of a task in a state: it has settled, or it owes the rest. -/
def Holds (terms : Terms σ κ α) (workers : Workers S σ κ ο α) (task : Task S κ α) (s : σ) : Prop :=
  match task.rest with
  | .done value => terms.settled task.label value s
  | .call _ _ => terms.Owes workers task.label task.rest s

variable (honoured : terms.Honoured workers)
include honoured

theorem Honoured.holds_rely {task : Task S κ α} {s t : σ}
    (holds : terms.Holds workers task s) (later : terms.rely task.label s t) : terms.Holds workers task t := by
  obtain ⟨label, rest⟩ := task
  cases rest with
  | done value => exact honoured.stable label value s t holds later
  | call request next =>
    refine ⟨fun u answer v further good made =>
      holds.1 u answer v (honoured.trans label s t u later further) good made, ?_⟩
    rintro answer v ⟨u, further, good, made⟩
    exact holds.2 answer v ⟨u, honoured.trans label s t u later further, good, made⟩

theorem Honoured.kept_trans {s t u : σ} (first : terms.Kept s t) (second : terms.Kept t u) : terms.Kept s u :=
  ⟨second.1, fun label => honoured.trans label s t u (first.2 label) (second.2 label)⟩

/-- A task that owes the rest still does when its return has been recorded. -/
theorem Honoured.settle {label : κ} {rest : Prog S α} {s t : σ}
    (kept : terms.Kept s t) (owes : terms.Owes workers label rest t) : terms.Kept s (workers.settle label rest t) ∧
      terms.Holds workers ⟨label, rest⟩ (workers.settle label rest t) := by
  cases rest with
  | done value => exact ⟨honoured.kept_trans kept (owes kept.1).1, (owes kept.1).2⟩
  | call request next => exact ⟨kept, owes⟩

/-- What a system keeps at every step. -/
def Runs (terms : Terms σ κ α) (workers : Workers S σ κ ο α) (system : System S σ κ α) : Prop :=
  terms.good system.state ∧ ∀ task ∈ system.tasks, terms.Holds workers task system.state

theorem Honoured.step {system later : System S σ κ α}
    (runs : terms.Runs workers system) (step : workers.Step system later) :
    terms.Runs workers later ∧ terms.Kept system.state later.state := by
  obtain ⟨good, holds⟩ := runs
  -- the tasks that did not move keep what they have, as the step is one they rely on
  have others : ∀ {t}, terms.Kept system.state t → ∀ task ∈ system.tasks, terms.Holds workers task t :=
    fun kept task mem => honoured.holds_rely (holds task mem) (kept.2 task.label)
  cases step with
  | happen may =>
    have kept := honoured.happen _ _ _ good may
    exact ⟨⟨kept.1, others kept⟩, kept⟩
  | start may =>
    obtain ⟨kept, owes⟩ := honoured.start _ _ _ good may
    obtain ⟨kept, settled⟩ := honoured.settle kept owes
    refine ⟨⟨kept.1, fun task mem => ?_⟩, kept⟩
    rcases List.mem_append.mp mem with mem | mem
    · exact others kept task mem
    · rw [List.mem_singleton.mp mem]
      exact settled
  | @call index label request next answer s t tasks task allowed =>
    have owes : terms.Owes workers label (.call request next) s := holds _ (List.mem_of_getElem? task)
    have stays := honoured.refl label s good
    obtain ⟨kept, settled⟩ := honoured.settle (owes.1 s answer t stays good allowed)
      (owes.2 answer t ⟨s, stays, good, allowed⟩)
    refine ⟨⟨kept.1, fun task mem => ?_⟩, kept⟩
    rcases List.mem_or_eq_of_mem_set mem with mem | same
    · exact others kept task mem
    · rw [same]
      exact settled

theorem Honoured.steps {system later : System S σ κ α}
    (runs : terms.Runs workers system) (steps : ReflTransGen workers.Step system later) :
    terms.Runs workers later ∧ terms.Kept system.state later.state := by
  induction steps with
  | refl => exact ⟨runs, runs.1, fun label => honoured.refl label _ runs.1⟩
  | tail _ step ih =>
    obtain ⟨runs, kept⟩ := honoured.step ih.1 step
    exact ⟨runs, honoured.kept_trans ih.2 kept⟩

/-- The state is good and every task keeps its terms. -/
theorem Honoured.reached {s : σ} {system : System S σ κ α}
    (good : terms.good s) (reached : workers.Reached s system) : terms.Runs workers system :=
  (honoured.steps ⟨good, by simp⟩ reached).1

end Terms

section Play

inductive Move (κ ο : Type) where
  | happen (event : ο)
  | start (label : κ)
  | call (index : Nat)

variable (workers : Workers S σ κ ο α) (handle : σ → (request : S.Call) → S.Answer request × σ)

def move (system : System S σ κ α) : Move κ ο → Option (System S σ κ α)
  | .happen event => (workers.happen event system.state).map fun t => ⟨t, system.tasks⟩
  | .start label => (workers.start label system.state).map fun t =>
      ⟨workers.settle label (workers.program label) t, system.tasks ++ [⟨label, workers.program label⟩]⟩
  | .call index =>
    match system.tasks[index]? with
    | some ⟨label, .call request next⟩ =>
      let answered := handle system.state request
      some ⟨workers.settle label (next answered.1) answered.2, system.tasks.set index ⟨label, next answered.1⟩⟩
    | _ => none

def play (moves : List (Move κ ο)) (system : System S σ κ α) : Option (System S σ κ α) :=
  moves.foldlM (move workers handle) system

variable {workers handle}

theorem step_of_move (answered : ∀ s request, workers.env s request (handle s request).1 (handle s request).2)
    {system later : System S σ κ α} {next : Move κ ο} (moved : move workers handle system next = some later) :
    workers.Step system later := by
  cases next with
  | happen event =>
    obtain ⟨t, may, rfl⟩ := Option.map_eq_some_iff.mp moved
    exact .happen may
  | start label =>
    obtain ⟨t, may, rfl⟩ := Option.map_eq_some_iff.mp moved
    exact .start may
  | call index =>
    unfold move at moved
    dsimp only at moved
    split at moved
    next label request next task =>
      cases moved
      exact .call task (answered _ _)
    next => cases moved

theorem reached_of_play (answered : ∀ s request, workers.env s request (handle s request).1 (handle s request).2)
    {moves : List (Move κ ο)} {system later : System S σ κ α}
    (played : play workers handle moves system = some later) : ReflTransGen workers.Step system later := by
  induction moves generalizing system with
  | nil =>
    cases played
    exact .refl
  | cons first moves ih =>
    obtain ⟨between, moved, played⟩ := Option.bind_eq_some_iff.mp played
    exact .head (step_of_move answered moved) (ih played)

def Task.returns (accepted : α → Bool) (task : Task S κ α) : Bool :=
  match task.rest with
  | .done value => accepted value
  | .call _ _ => false

theorem Task.returns_eq_true {accepted : α → Bool} {task : Task S κ α} :
    task.returns accepted = true ↔ ∃ value, task.rest = .done value ∧ accepted value = true := by
  unfold Task.returns
  cases task.rest <;> simp

variable (workers handle) in
theorem exists_reached
    (answered : ∀ s request, workers.env s request (handle s request).1 (handle s request).2)
    (moves : List (Move κ ο)) (s : σ) (wanted : System S σ κ α → Bool)
    (played : (play workers handle moves ⟨s, []⟩).any wanted = true) :
    ∃ system, workers.Reached s system ∧ wanted system = true := by
  cases ends : play workers handle moves ⟨s, []⟩ with
  | none => simp [ends] at played
  | some system => exact ⟨system, reached_of_play answered ends, by simpa [ends] using played⟩

end Play

end OcneProvider.Effects.Interleaving
