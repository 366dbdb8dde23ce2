import OcneProvider.Effects.Program

/-! Programs that may fail: the first failure ends the program, unless the
program asks for the outcome of a part of itself and goes on. -/

namespace OcneProvider.Effects.Fallible
open Program

abbrev Try (S : Signature) (ε : Type) := ExceptT ε (Prog S)

variable {S : Signature} {α β σ ε δ : Type}

/-- Runs a part to its end and returns its outcome, failed or not. -/
def attempt (part : Try S ε α) : Try S δ (Except ε α) :=
  ExceptT.lift part.run

def adaptError (change : ε → δ) (part : Try S ε α) : Try S δ α :=
  ExceptT.mk do
    match ← part.run with
    | .ok value => return .ok value
    | .error error => return .error (change error)

def outcome (ok : α → σ → Prop) (fail : ε → σ → Prop) : Except ε α → σ → Prop
  | .ok value, s => ok value s
  | .error error, s => fail error s

def wpE (env : Env S σ) (issue : σ → S.Call → Prop) (ok : α → σ → Prop) (fail : ε → σ → Prop)
    (part : Try S ε α) (s : σ) : Prop :=
  part.run.wp env issue (outcome ok fail) s

section Rules

variable {env : Env S σ} {issue : σ → S.Call → Prop} {fail : ε → σ → Prop} {s : σ}

theorem wp_congr {program : Prog S α} {post post' : α → σ → Prop} (same : ∀ value t, post value t ↔ post' value t) :
    program.wp env issue post s ↔ program.wp env issue post' s :=
  ⟨fun valid => wp_mono valid fun value t => (same value t).mp,
    fun valid => wp_mono valid fun value t => (same value t).mpr⟩

@[simp] theorem wpE_pure {value : α} {ok : α → σ → Prop} :
    wpE env issue ok fail (pure value : Try S ε α) s ↔ ok value s := Iff.rfl

@[simp] theorem wpE_throw (error : ε) (ok : α → σ → Prop) :
    wpE env issue ok fail (throw error : Try S ε α) s ↔ fail error s := Iff.rfl

@[simp] theorem wpE_mk (program : Prog S (Except ε α)) (ok : α → σ → Prop) :
    wpE env issue ok fail (ExceptT.mk program) s ↔ program.wp env issue (outcome ok fail) s := Iff.rfl

@[simp] theorem wpE_lift (program : Prog S α) (ok : α → σ → Prop) :
    wpE env issue ok fail (ExceptT.lift program : Try S ε α) s ↔ program.wp env issue ok s := by
  change Prog.wp env issue (outcome ok fail) (program >>= fun value => pure (.ok value)) s ↔ _
  rw [wp_bind]
  rfl

@[simp] theorem wpE_bind {part : Try S ε α} {next : α → Try S ε β} {ok : β → σ → Prop} :
    wpE env issue ok fail (part >>= next) s ↔
      wpE env issue (fun value t => wpE env issue ok fail (next value) t) fail part s := by
  unfold wpE
  rw [ExceptT.run_bind, wp_bind]
  apply wp_congr
  intro result t
  cases result <;> rfl

theorem wp_outcomes (part : Try S ε α) (post : Except ε α → σ → Prop) : part.run.wp env issue post s ↔
      wpE env issue (fun value => post (.ok value)) (fun error => post (.error error)) part s := by
  apply wp_congr
  intro result t
  cases result <;> rfl

@[simp] theorem wpE_attempt {part : Try S δ α} {ok : Except δ α → σ → Prop} : wpE env issue ok fail (attempt part) s ↔
      wpE env issue (fun value => ok (.ok value)) (fun error => ok (.error error)) part s :=
  (wpE_lift part.run ok).trans (wp_outcomes part ok)

@[simp] theorem wpE_adaptError {change : δ → ε} {part : Try S δ α} {ok : α → σ → Prop} :
    wpE env issue ok fail (adaptError change part) s ↔
      wpE env issue ok (fun error t => fail (change error) t) part s := by
  unfold wpE adaptError
  rw [ExceptT.run_mk, wp_bind]
  apply wp_congr
  intro result t
  cases result <;> rfl

theorem adaptError_lift_run (change : δ → ε) (program : Prog S α) (finish : α → Except δ β) :
    (adaptError change (ExceptT.lift program >>= fun value => ExceptT.mk (pure (finish value)))).run =
      program >>= fun value => pure ((finish value).mapError change) := by
  induction program with
  | done value =>
    change (adaptError change (ExceptT.mk (pure (finish value)))).run = pure _
    unfold adaptError
    cases finish value <;> rfl
  | call request next ih => exact congrArg (Prog.call request) (funext ih)

theorem wpE_mono {part : Try S ε α} {ok ok' : α → σ → Prop} {fail' : ε → σ → Prop}
    (valid : wpE env issue ok fail part s) (onOk : ∀ value t, ok value t → ok' value t)
    (onFail : ∀ error t, fail error t → fail' error t) : wpE env issue ok' fail' part s := by
  refine wp_mono valid fun result t held => ?_
  cases result with
  | ok value => exact onOk value t held
  | error error => exact onFail error t held

theorem wpE_then {part : Try S ε α} {ok ok' : α → σ → Prop} (valid : wpE env issue ok (fun _ _ => False) part s)
    (onOk : ∀ value t, ok value t → ok' value t) : wpE env issue ok' fail part s :=
  wpE_mono valid onOk fun _ _ => False.elim

theorem wpE_foldlM {items : List α} {body : β → α → Try S ε β} (keep : List α → β → σ → Prop)
    (kept : ∀ before item after state s, items = before ++ item :: after → keep before state s →
      wpE env issue (keep (before ++ [item])) fail (body state item) s)
    {state : β} (start : keep [] state s) : wpE env issue (keep items) fail (items.foldlM body state) s := by
  induction items generalizing keep state s with
  | nil => exact start
  | cons item rest ih =>
    rw [List.foldlM_cons, wpE_bind]
    refine wpE_mono (kept [] item rest state s rfl start) (fun next t held => ?_) fun _ _ failed => failed
    exact ih (fun before => keep (item :: before)) (fun before other after state s split =>
      kept (item :: before) other after state s (congrArg (item :: ·) split)) held

end Rules

section Within

variable {allowed : S.Call → Prop}

/-- Only allowed calls are issued, and `post` holds of a value returned. -/
def WithinE (allowed : S.Call → Prop) (post : α → Prop) (part : Try S ε α) : Prop :=
  part.run.Within allowed fun result => ∀ value, result = .ok value → post value

@[simp] theorem withinE_pure {value : α} {post : α → Prop} :
    WithinE allowed post (pure value : Try S ε α) ↔ post value := by
  change (∀ other, (Except.ok value : Except ε α) = .ok other → post other) ↔ _
  simp

@[simp] theorem withinE_throw (error : ε) (post : α → Prop) : WithinE allowed post (throw error : Try S ε α) := by
  change ∀ other, (Except.error error : Except ε α) = .ok other → post other
  simp

@[simp] theorem withinE_mk (program : Prog S (Except ε α)) (post : α → Prop) :
    WithinE allowed post (ExceptT.mk program) ↔
      program.Within allowed fun result => ∀ value, result = .ok value → post value := Iff.rfl

theorem within_congr {program : Prog S α} {post post' : α → Prop} (same : ∀ value, post value ↔ post' value) :
    program.Within allowed post ↔ program.Within allowed post' :=
  ⟨fun within => within_mono within fun value => (same value).mp,
    fun within => within_mono within fun value => (same value).mpr⟩

variable {part : Try S ε α} {post : α → Prop}

@[simp] theorem withinE_lift (program : Prog S α) :
    WithinE allowed post (ExceptT.lift program : Try S ε α) ↔ program.Within allowed post := by
  change Prog.Within allowed (fun result => ∀ value, result = Except.ok value → post value)
    (program >>= fun value => pure (Except.ok value)) ↔ _
  rw [within_bind]
  apply within_congr
  simp

@[simp] theorem withinE_bind {next : α → Try S ε β} {post : β → Prop} :
    WithinE allowed post (part >>= next) ↔ WithinE allowed (fun value => WithinE allowed post (next value)) part := by
  unfold WithinE
  rw [ExceptT.run_bind, within_bind]
  apply within_congr
  intro result
  cases result <;> simp

@[simp] theorem withinE_map (change : α → β) (post : β → Prop) :
    WithinE allowed post (change <$> part) ↔ WithinE allowed (fun value => post (change value)) part := by
  rw [← bind_pure_comp, withinE_bind]
  simp

@[simp] theorem withinE_attempt {part : Try S δ α} {post : Except δ α → Prop} :
    WithinE allowed post (attempt part : Try S ε (Except δ α)) ↔ part.run.Within allowed post :=
  withinE_lift part.run

@[simp] theorem withinE_adaptError {change : δ → ε} {part : Try S δ α} :
    WithinE allowed post (adaptError change part) ↔ WithinE allowed post part := by
  unfold WithinE adaptError
  rw [ExceptT.run_mk, within_bind]
  apply within_congr
  intro result
  cases result <;> simp

theorem WithinE.mono {post post' : α → Prop} (within : WithinE allowed post part)
    (implies : ∀ value, post value → post' value) : WithinE allowed post' part :=
  within_mono within fun _ held value same => implies value (held value same)

theorem WithinE.run (within : WithinE allowed post part)
    {after : Except ε α → Prop} (onOk : ∀ value, post value → after (.ok value))
    (onError : ∀ error, after (.error error)) : part.run.Within allowed after := by
  refine within_mono within fun result held => ?_
  cases result with
  | ok value => exact onOk value (held value rfl)
  | error error => exact onError error

theorem withinE_foldlM {items : List α} {body : β → α → Try S ε β} (keep : β → Prop)
    (kept : ∀ state item, keep state → WithinE allowed keep (body state item)) {state : β} (start : keep state) :
    WithinE allowed keep (items.foldlM body state) := by
  induction items generalizing state with
  | nil => simpa using start
  | cons item rest ih =>
    rw [List.foldlM_cons, withinE_bind]
    exact (kept state item start).mono fun next held => ih held

theorem WithinE.tracking (within : WithinE allowed post part)
    {step : σ → (request : S.Call) → S.Answer request → σ} {permit : σ → S.Call → Prop} {record : σ}
    {ok : α → σ → Prop} {fail : ε → σ → Prop} (permitted : ∀ request, allowed request → permit record request)
    (same : ∀ request answer, allowed request → step record request answer = record)
    (onOk : ∀ value, post value → ok value record) (onFail : ∀ error, fail error record) :
    wpE (Program.tracking step) permit ok fail part record := by
  have kept : part.run.wp (Program.tracking step) permit
      (fun result other => (∀ value, result = .ok value → post value) ∧ other = record) record := by
    refine Prog.Within.wp within (fun _ request may here => here ▸ permitted request may) ?_ rfl
    intro other request answer next may reached here
    rw [reached, here, same request answer may]
  refine wp_mono kept ?_
  rintro result other ⟨held, rfl⟩
  cases result with
  | ok value => exact onOk value (held value rfl)
  | error error => exact onFail error

end Within

/-- It takes effect if it succeeds, and may do so if it fails. -/
def Writes {ε α : Type} (mayFail : Prop) (answer : Except ε α) (unchanged changed : Prop) : Prop :=
  match answer with
  | .ok _ => changed
  | .error _ => mayFail ∧ (unchanged ∨ changed)

/-- A call that reports something changes nothing. -/
def Reads {ε α : Type} (mayFail : Prop) (answer : Except ε α) (unchanged : Prop) (report : α → Prop) : Prop :=
  unchanged ∧ match answer with
  | .ok value => report value
  | .error _ => mayFail

theorem Reads.mono {may must : Prop} {answer : Except ε α} {unchanged : Prop} {report : α → Prop}
    (weaker : must → may) (reads : Reads must answer unchanged report) : Reads may answer unchanged report := by
  cases answer with
  | ok value => exact reads
  | error error => exact ⟨reads.1, weaker reads.2⟩

theorem Writes.mono {may must : Prop} {answer : Except ε α} {unchanged changed : Prop}
    (weaker : must → may) (writes : Writes must answer unchanged changed) : Writes may answer unchanged changed := by
  cases answer with
  | ok value => exact writes
  | error error => exact ⟨weaker writes.1, writes.2⟩

section Answers

variable {ε σ α : Type} {mayFail : Prop} {s : σ} {ok : α → σ → Prop} {fail : ε → σ → Prop}

theorem forall_reads {report : α → Prop} :
    (∀ answer next, Reads mayFail answer (next = s) report → outcome ok fail answer next) ↔
      (∀ value, report value → ok value s) ∧ (mayFail → ∀ error, fail error s) := by
  constructor
  · intro valid
    exact ⟨fun value reported => valid (.ok value) s ⟨rfl, reported⟩,
      fun failing error => valid (.error error) s ⟨rfl, failing⟩⟩
  · rintro ⟨onOk, onFail⟩ answer next ⟨rfl, reported⟩
    cases answer with
    | ok value => exact onOk value reported
    | error error => exact onFail reported error

theorem forall_writes {ok : Unit → σ → Prop} {changed : σ → Prop} :
    (∀ answer next, Writes mayFail answer (next = s) (changed next) → outcome ok fail answer next) ↔
      (∀ next, changed next → ok () next) ∧
      (mayFail → ∀ error, fail error s ∧ ∀ next, changed next → fail error next) := by
  constructor
  · intro valid
    exact ⟨fun next done => valid (.ok ()) next done, fun failing error =>
      ⟨valid (.error error) s ⟨failing, .inl rfl⟩,
        fun next done => valid (.error error) next ⟨failing, .inr done⟩⟩⟩
  · rintro ⟨onOk, onFail⟩ answer next happened
    cases answer with
    | ok value => exact onOk next happened
    | error error =>
      obtain ⟨failing, rfl | done⟩ := happened
      · exact (onFail failing error).1
      · exact (onFail failing error).2 next done

end Answers

theorem bind_eq_ok {part : Except ε α} {next : α → Except ε β} {result : β} :
    (part >>= next) = .ok result ↔ ∃ value, part = .ok value ∧ next value = .ok result := by
  cases part <;> simp [bind, Except.bind]

@[simp] theorem mapError_ok (change : ε → δ) (value : α) : (Except.ok value).mapError change = .ok value := rfl

@[simp] theorem mapError_error (change : ε → δ) (error : ε) :
    (Except.error error : Except ε α).mapError change = .error (change error) := rfl

theorem mapError_eq_ok {change : ε → δ} {part : Except ε α} {value : α} :
    part.mapError change = .ok value ↔ part = .ok value := by
  cases part <;> simp

theorem mapM_eq_ok {part : α → Except ε β} {items : List α} {values : List β} :
    items.mapM part = .ok values ↔ items.map part = values.map .ok := by
  induction items generalizing values with
  | nil => cases values <;> simp [pure, Except.pure]
  | cons item rest ih =>
    rw [List.mapM_cons, bind_eq_ok]
    cases values <;> simp [bind_eq_ok, ih, pure, Except.pure]

end OcneProvider.Effects.Fallible
