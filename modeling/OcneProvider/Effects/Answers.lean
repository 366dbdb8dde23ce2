import OcneProvider.Effects.Fallible

/-! The value of a program when every call is answered as given. -/

namespace OcneProvider.Effects.Answers
open Program Fallible

variable {S : Signature} {α β ε δ : Type} (given : (request : S.Call) → S.Answer request)

def value : Prog S α → α
  | .done returned => returned
  | .call request next => value (next (given request))

variable (returned : α) (program : Prog S α)

@[simp] theorem value_pure : value given (pure returned : Prog S α) = returned := rfl

@[simp] theorem value_perform (request : S.Call) : value given (Prog.perform request) = given request := rfl

@[simp] theorem value_bind (next : α → Prog S β) :
    value given (program >>= next) = value given (next (value given program)) := by
  induction program with
  | done returned => rfl
  | call request rest ih => exact ih (given request)

def result (part : Try S ε α) : Except ε α := value given part.run

@[simp] theorem result_pure : result given (pure returned : Try S ε α) = .ok returned := rfl

@[simp] theorem result_throw (error : ε) : result given (throw error : Try S ε α) = .error error := rfl

@[simp] theorem result_mk (program : Prog S (Except ε α)) : result given (ExceptT.mk program) = value given program := rfl

@[simp] theorem result_bind (part : Try S ε α) (next : α → Try S ε β) :
    result given (part >>= next) = result given part >>= fun returned => result given (next returned) := by
  unfold result
  rw [ExceptT.run_bind, value_bind]
  cases value given part.run <;> rfl

@[simp] theorem result_lift : result given (ExceptT.lift program : Try S ε α) = .ok (value given program) :=
  value_bind given program _

@[simp] theorem result_attempt (part : Try S δ α) :
    result given (attempt part : Try S ε (Except δ α)) = .ok (result given part) :=
  result_lift given part.run

@[simp] theorem result_adaptError (change : δ → ε) (part : Try S δ α) :
    result given (adaptError change part) = (result given part).mapError change := by
  unfold result adaptError
  rw [ExceptT.run_mk, value_bind]
  cases value given part.run <;> rfl

theorem result_foldlM (step : β → α → Try S ε β) (items : List α) (start : β) :
    result given (items.foldlM step start) = items.foldlM (fun reached item => result given (step reached item)) start := by
  induction items generalizing start with
  | nil => rfl
  | cons item rest ih =>
    rw [List.foldlM_cons, List.foldlM_cons, result_bind]
    congr 1
    funext reached
    exact ih reached

end OcneProvider.Effects.Answers
