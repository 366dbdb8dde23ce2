import Mathlib.Logic.Relation

/-! Programs that act on their surroundings only through calls, the runs of such
programs against an environment, and rules for what every run keeps. A run may
stop at any call, so whatever is proved of runs also holds when a program is cut
off halfway. -/

namespace OcneProvider.Effects.Program

open List

/-- The calls a program may issue, with the type of the answer to each. -/
structure Signature where
  Call : Type
  Answer : Call → Type

inductive Prog (S : Signature) (α : Type) where
  | done (value : α)
  | call (request : S.Call) (next : S.Answer request → Prog S α)

/-- The answers an environment may give, and the state it is in then. -/
abbrev Env (S : Signature) (σ : Type) := σ → (request : S.Call) → S.Answer request → σ → Prop

structure Event (S : Signature) (σ : Type) where
  before : σ
  request : S.Call
  answer : S.Answer request
  after : σ

variable {S : Signature} {α β σ γ ε : Type}

namespace Prog

protected def bind : Prog S α → (α → Prog S β) → Prog S β
  | done value, next => next value
  | call request rest, next => call request fun answer => (rest answer).bind next

instance : Monad (Prog S) where
  pure := done
  bind := Prog.bind

def perform (request : S.Call) : Prog S (S.Answer request) :=
  call request done

theorem bind_done (program : Prog S α) : program.bind done = program := by
  induction program with
  | done value => rfl
  | call request rest ih => simp only [Prog.bind, ih]

theorem bind_assoc (program : Prog S α) (first : α → Prog S β) (second : β → Prog S γ) :
    (program.bind first).bind second = program.bind fun value => (first value).bind second := by
  induction program with
  | done value => rfl
  | call request rest ih => simp only [Prog.bind, ih]

instance : LawfulMonad (Prog S) :=
  LawfulMonad.mk' (Prog S) (fun program => bind_done program) (fun _ _ => rfl) bind_assoc

/-- Only allowed calls are issued, and `post` holds of the value returned. -/
def Within (allowed : S.Call → Prop) (post : α → Prop) : Prog S α → Prop
  | done value => post value
  | call request next => allowed request ∧ ∀ answer, (next answer).Within allowed post

/-- Every call is permitted by `issue`, and the value returned meets `post` in the last state. -/
def wp (env : Env S σ) (issue : σ → S.Call → Prop) (post : α → σ → Prop) : Prog S α → σ → Prop
  | done value, s => post value s
  | call request next, s => issue s request ∧
      ∀ answer t, env s request answer t → (next answer).wp env issue post t

def exec (handle : σ → (request : S.Call) → S.Answer request × σ) : Prog S α → σ → α × σ
  | done value, s => (value, s)
  | call request next, s =>
      (next (handle s request).1).exec handle (handle s request).2

def trace (handle : σ → (request : S.Call) → S.Answer request × σ) : Prog S α → σ → List (Event S σ)
  | done _, _ => []
  | call request next, s => ⟨s, request, (handle s request).1, (handle s request).2⟩ ::
      (next (handle s request).1).trace handle (handle s request).2

end Prog

/-- A run that may be unfinished, with the program that is left. -/
inductive Run (env : Env S σ) : Prog S α → σ → List (Event S σ) → Prog S α → σ → Prop where
  | here (program : Prog S α) (s : σ) : Run env program s [] program s
  | step {request : S.Call} {next : S.Answer request → Prog S α} {s t u : σ}
      {answer : S.Answer request} {trace : List (Event S σ)} {rest : Prog S α}
      (allowed : env s request answer t) (later : Run env (next answer) t trace rest u) :
      Run env (.call request next) s (⟨s, request, answer, t⟩ :: trace) rest u

theorem Run.mono {env wider : Env S σ} {program rest : Prog S α} {s t : σ} {trace : List (Event S σ)}
    (run : Run env program s trace rest t)
    (wide : ∀ s request answer t, env s request answer t → wider s request answer t) :
    Run wider program s trace rest t := by
  induction run with
  | here program s => exact .here program s
  | step allowed later ih => exact .step (wide _ _ _ _ allowed) ih

section Rules

variable {env : Env S σ} {issue : σ → S.Call → Prop}

@[simp] theorem wp_pure (value : α) (post : α → σ → Prop) (s : σ) :
    (pure value : Prog S α).wp env issue post s ↔ post value s := Iff.rfl

@[simp] theorem wp_perform (request : S.Call) (post : S.Answer request → σ → Prop) (s : σ) :
    (Prog.perform request).wp env issue post s ↔
      issue s request ∧ ∀ answer t, env s request answer t → post answer t := Iff.rfl

@[simp] theorem wp_bind {program : Prog S α} {next : α → Prog S β} {post : β → σ → Prop} {s : σ} :
    (program >>= next).wp env issue post s ↔
      program.wp env issue (fun value t => (next value).wp env issue post t) s := by
  change (program.bind next).wp env issue post s ↔ _
  induction program generalizing s with
  | done value => rfl
  | call request rest ih => simp only [Prog.bind, Prog.wp, ih]

theorem wp_mono {program : Prog S α} {post post' : α → σ → Prop} {s : σ} (valid : program.wp env issue post s)
    (implies : ∀ value t, post value t → post' value t) : program.wp env issue post' s := by
  induction program generalizing s with
  | done value => exact implies value s valid
  | call request rest ih => exact ⟨valid.1, fun answer t allowed => ih answer (valid.2 answer t allowed)⟩

theorem wp_narrow {narrow : Env S σ} {program : Prog S α} {post : α → σ → Prop} {s : σ}
    (valid : program.wp env issue post s)
    (fewer : ∀ s request answer t, narrow s request answer t → env s request answer t) :
    program.wp narrow issue post s := by
  induction program generalizing s with
  | done value => exact valid
  | call request rest ih =>
    exact ⟨valid.1, fun answer t allowed => ih answer (valid.2 answer t (fewer s request answer t allowed))⟩

/-- A loop by an invariant on the items it has gone through. -/
theorem wp_foldlM {items : List α} {body : β → α → Prog S β} (keep : List α → β → σ → Prop)
    (kept : ∀ before item after state s, items = before ++ item :: after → keep before state s →
      (body state item).wp env issue (keep (before ++ [item])) s) {state : β} {s : σ} (start : keep [] state s) :
    (items.foldlM body state).wp env issue (keep items) s := by
  induction items generalizing keep state s with
  | nil => exact start
  | cons item rest ih =>
    rw [foldlM_cons, wp_bind]
    refine wp_mono (kept [] item rest state s rfl start) fun next t held => ?_
    exact ih (fun before => keep (item :: before)) (fun before other after state s split =>
      kept (item :: before) other after state s (congrArg (item :: ·) split)) held

/-- The calls of a run meet `issue`, and what is left still meets its precondition. -/
theorem wp_run {program rest : Prog S α} {post : α → σ → Prop} {s t : σ} {trace : List (Event S σ)}
    (run : Run env program s trace rest t) (valid : program.wp env issue post s) :
    rest.wp env issue post t ∧ ∀ event ∈ trace, issue event.before event.request := by
  induction run with
  | here program s => exact ⟨valid, by simp⟩
  | step allowed later ih =>
    obtain ⟨left, earlier⟩ := ih (valid.2 _ _ allowed)
    refine ⟨left, fun event mem => ?_⟩
    rcases mem_cons.mp mem with rfl | mem
    · exact valid.1
    · exact earlier event mem

theorem wp_done {program : Prog S α} {post : α → σ → Prop} {s t : σ} {value : α}
    {trace : List (Event S σ)} (run : Run env program s trace (.done value) t)
    (valid : program.wp env issue post s) : post value t :=
  (wp_run run valid).1

/-- What every call that is issued keeps, holds at every moment of a run. -/
theorem wp_keeps (keep : σ → Prop) {program rest : Prog S α} {post : α → σ → Prop} {s t : σ}
    {trace : List (Event S σ)} (run : Run env program s trace rest t) (valid : program.wp env issue post s)
    (kept : ∀ t request answer u, issue t request → env t request answer u → keep t → keep u)
    (start : keep s) : keep t := by
  induction run with
  | here program s => exact start
  | step allowed later ih =>
    exact ih (valid.2 _ _ allowed) (kept _ _ _ _ valid.1 allowed start)

theorem Run.of_map {program : Prog S α} {change : α → β} {s t : σ} {trace : List (Event S σ)} {result : β}
    (run : Run env (program >>= fun value => pure (change value)) s trace (.done result) t) :
    ∃ value, Run env program s trace (.done value) t ∧ result = change value := by
  induction program generalizing s trace with
  | done value =>
    cases run
    exact ⟨value, .here _ _, rfl⟩
  | call request next ih =>
    cases run with
    | step allowed later =>
      obtain ⟨value, run, same⟩ := ih _ later
      exact ⟨value, .step allowed run, same⟩

theorem exists_finished_run {program : Prog S α} {post : α → σ → Prop} {s : σ} (valid : program.wp env issue post s)
    (answered : ∀ t request, issue t request → ∃ answer u, env t request answer u) :
    ∃ trace value t, Run env program s trace (.done value) t ∧ post value t := by
  induction program generalizing s with
  | done value => exact ⟨[], value, s, .here _ _, valid⟩
  | call request rest ih =>
    obtain ⟨answer, next, allowed⟩ := answered s request valid.1
    obtain ⟨trace, value, t, run, held⟩ := ih answer (valid.2 answer next allowed)
    exact ⟨_, value, t, .step allowed run, held⟩

/-- A program keeps what each of the calls it is limited to keeps. -/
theorem Prog.Within.wp {allowed : S.Call → Prop} {program : Prog S α} {post : α → Prop} {keep : σ → Prop}
    (within : program.Within allowed post) (issued : ∀ t request, allowed request → keep t → issue t request)
    (kept : ∀ t request answer u, allowed request → env t request answer u → keep t → keep u)
    {s : σ} (start : keep s) : program.wp env issue (fun value t => post value ∧ keep t) s := by
  induction program generalizing s with
  | done value => exact ⟨within, start⟩
  | call request rest ih =>
    refine ⟨issued s request within.1 start, fun answer t reached => ?_⟩
    exact ih answer (within.2 answer) (kept s request answer t within.1 reached start)

end Rules

section Once

variable {env : Env S σ} {keep : σ → σ → Prop} {loud : S.Call → Bool}
variable {program rest : Prog S α} {s t : σ} {trace : List (Event S σ)}

/-- A run of which every call keeps something, keeps it as a whole. -/
theorem Run.keeps (run : Run env program s trace rest t) (refl : ∀ s, keep s s)
    (trans : ∀ s t u, keep s t → keep t u → keep s u)
    (quiet : ∀ event ∈ trace, env event.before event.request event.answer event.after →
      keep event.before event.after) : keep s t := by
  induction run with
  | here program s => exact refl s
  | step allowed later ih =>
    exact trans _ _ _ (quiet _ (.head _) allowed) (ih fun event mem => quiet event (.tail _ mem))

/-- With at most one call that does not keep something, it is kept up to that call, and from then on. -/
theorem Run.keeps_but_once (run : Run env program s trace rest t) (refl : ∀ s, keep s s)
    (trans : ∀ s t u, keep s t → keep t u → keep s u)
    (quiet : ∀ event ∈ trace, loud event.request = false → env event.before event.request event.answer event.after →
      keep event.before event.after) (once : (trace.countP fun event => loud event.request) ≤ 1) :
    (trace.filter fun event => loud event.request) = [] ∧ keep s t ∨
      ∃ event ∈ trace, (trace.filter fun event => loud event.request) = [event] ∧ keep s event.before ∧
        env event.before event.request event.answer event.after ∧ keep event.after t := by
  induction run with
  | here program s => exact .inl ⟨rfl, refl s⟩
  | @step request next s t u answer trace rest allowed later ih =>
    cases volume : loud request with
    | false =>
      have kept := quiet _ (.head _) volume allowed
      rw [countP_cons_of_neg (by simp [volume])] at once
      rw [filter_cons_of_neg (by simp [volume])]
      rcases ih (fun event mem => quiet event (.tail _ mem)) once with ⟨none, held⟩ | ⟨event, mem, only, held, more⟩
      · exact .inl ⟨none, trans _ _ _ kept held⟩
      · exact .inr ⟨event, .tail _ mem, only, trans _ _ _ kept held, more⟩
    | true =>
      rw [countP_cons_of_pos (by simp [volume])] at once
      have silent : (trace.countP fun event => loud event.request) = 0 := by omega
      rw [countP_eq_zero] at silent
      have later := later.keeps refl trans fun event mem =>
        quiet event (.tail _ mem) (by simpa using silent event mem)
      refine .inr ⟨_, .head _, ?_, refl s, allowed, later⟩
      rw [filter_cons_of_pos (by simp [volume]), filter_eq_nil_iff.mpr silent]

end Once

section Tracking

variable {step : γ → (request : S.Call) → S.Answer request → γ}

/-- Any answer, with a state that only records calls and answers. -/
def tracking (step : γ → (request : S.Call) → S.Answer request → γ) : Env S γ :=
  fun record request answer next => next = step record request answer

def follow (step : γ → (request : S.Call) → S.Answer request → γ) (record : γ) (trace : List (Event S σ)) : γ :=
  trace.foldl (fun record event => step record event.request event.answer) record

/-- What a program does whatever the answers, it does in every environment, with a relation to the record that
permitted calls keep. -/
theorem tracking_run {env : Env S σ} {permit : γ → S.Call → Prop} (keep : σ → γ → Prop)
    {program rest : Prog S α} {post : α → γ → Prop} {s t : σ} {record : γ} {trace : List (Event S σ)}
    (run : Run env program s trace rest t) (valid : program.wp (tracking step) permit post record)
    (kept : ∀ s record request answer t, permit record request → env s request answer t → keep s record →
      keep t (step record request answer)) (start : keep s record) :
    keep t (follow step record trace) ∧ rest.wp (tracking step) permit post (follow step record trace) ∧
      ∀ event ∈ trace, ∃ record, permit record event.request ∧ keep event.before record ∧
        env event.before event.request event.answer event.after := by
  induction run generalizing record with
  | here program s => exact ⟨start, valid, by simp⟩
  | @step request next s t u answer trace rest allowed later ih =>
    obtain ⟨held, left, events⟩ := ih (valid.2 answer _ rfl) (kept _ _ _ _ _ valid.1 allowed start)
    refine ⟨held, left, fun event mem => ?_⟩
    rcases mem_cons.mp mem with rfl | mem
    · exact ⟨record, valid.1, start, allowed⟩
    · exact events event mem

end Tracking

section Within

variable {allowed : S.Call → Prop}

@[simp] theorem within_pure (value : α) (post : α → Prop) :
    (pure value : Prog S α).Within allowed post ↔ post value := Iff.rfl

@[simp] theorem within_bind (program : Prog S α) (next : α → Prog S β) (post : β → Prop) :
    (program >>= next).Within allowed post ↔
      program.Within allowed fun value => (next value).Within allowed post := by
  change (program.bind next).Within allowed post ↔ _
  induction program with
  | done value => rfl
  | call request rest ih => simp only [Prog.bind, Prog.Within, ih]

theorem within_mono {program : Prog S α} {post post' : α → Prop} (within : program.Within allowed post)
    (implies : ∀ value, post value → post' value) : program.Within allowed post' := by
  induction program with
  | done value => exact implies value within
  | call request rest ih => exact ⟨within.1, fun answer => ih answer (within.2 answer)⟩

theorem within_widen {program : Prog S α} {wider : S.Call → Prop} {post : α → Prop}
    (within : program.Within allowed post) (wide : ∀ request, allowed request → wider request) :
    program.Within wider post := by
  induction program with
  | done value => exact within
  | call request rest ih => exact ⟨wide request within.1, fun answer => ih answer (within.2 answer)⟩

theorem within_of_forall (any : ∀ request, allowed request) (program : Prog S α) : program.Within allowed fun _ => True := by
  induction program with
  | done value => trivial
  | call request rest ih => exact ⟨any request, ih⟩

theorem Prog.Within.events {env : Env S σ} {program rest : Prog S α} {post : α → Prop} {s t : σ}
    {trace : List (Event S σ)} (within : program.Within allowed post) (run : Run env program s trace rest t) :
    ∀ event ∈ trace, allowed event.request := by
  induction run with
  | here program s => simp
  | step taken later ih =>
    intro event mem
    rcases mem_cons.mp mem with rfl | mem
    · exact within.1
    · exact ih (within.2 _) event mem

theorem within_foldlM {items : List α} {body : β → α → Prog S β} (keep : β → Prop)
    (kept : ∀ state item, keep state → (body state item).Within allowed keep) {state : β} (start : keep state) :
    (items.foldlM body state).Within allowed keep := by
  induction items generalizing state with
  | nil => exact start
  | cons item rest ih =>
    rw [foldlM_cons, within_bind]
    exact within_mono (kept state item start) fun next held => ih held

end Within

section Exec

variable (handle : σ → (request : S.Call) → S.Answer request × σ)

/-- Evaluation is a finished run if the environment may answer as `handle` does. -/
theorem exec_run_of {env : Env S σ} (issued : S.Call → Prop) (program : Prog S α) (s : σ)
    (answered : ∀ s request, issued request → env s request (handle s request).1 (handle s request).2)
    (within : ∀ event ∈ program.trace handle s, issued event.request) :
    Run env program s (program.trace handle s) (.done (program.exec handle s).1) (program.exec handle s).2 := by
  induction program generalizing s with
  | done value => exact .here _ _
  | call request rest ih =>
    exact .step (answered s request (within _ (.head _))) (ih _ _ fun event mem => within event (.tail _ mem))

theorem exec_run {env : Env S σ} (program : Prog S α) (s : σ)
    (answered : ∀ s request, env s request (handle s request).1 (handle s request).2) :
    Run env program s (program.trace handle s) (.done (program.exec handle s).1) (program.exec handle s).2 :=
  exec_run_of handle (fun _ => True) program s (fun s request _ => answered s request) fun _ _ => trivial

end Exec

end OcneProvider.Effects.Program
