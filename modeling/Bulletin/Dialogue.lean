/-!
Programs that put questions to their surroundings and go on with the answers.

`run` answers each question from a state, `record` keeps what was asked and answered, and `expand`
puts a program in the place of each question.
-/

namespace Bulletin

inductive Dialogue (Question : Type) (Answer : Question → Type) (α : Type) where
  | done (a : α)
  | ask (q : Question) (next : Answer q → Dialogue Question Answer α)

namespace Dialogue

variable {Question Question' : Type} {Answer : Question → Type} {Answer' : Question' → Type}
variable {α β σ : Type}

def bind :
    Dialogue Question Answer α → (α → Dialogue Question Answer β) → Dialogue Question Answer β
  | .done a, f => f a
  | .ask q next, f => .ask q fun r => (next r).bind f

instance : Monad (Dialogue Question Answer) where
  pure := .done
  bind := bind

def question (q : Question) : Dialogue Question Answer (Answer q) := .ask q .done

def run (step : (q : Question) → σ → Answer q × σ) : Dialogue Question Answer α → σ → α × σ
  | .done a, s => (a, s)
  | .ask q next, s => let (r, s) := step q s; (next r).run step s

def record (step : (q : Question) → σ → Answer q × σ) :
    Dialogue Question Answer α → σ → List ((q : Question) × Answer q)
  | .done _, _ => []
  | .ask q next, s =>
    let (r, s) := step q s
    ⟨q, r⟩ :: (next r).record step s

def expand (f : (q : Question) → Dialogue Question' Answer' (Answer q)) :
    Dialogue Question Answer α → Dialogue Question' Answer' α
  | .done a => .done a
  | .ask q next => (f q).bind fun r => (next r).expand f

theorem run_bind (step : (q : Question) → σ → Answer q × σ) (d : Dialogue Question Answer α)
    (f : α → Dialogue Question Answer β) (s : σ) :
    (d.bind f).run step s = (f (d.run step s).1).run step (d.run step s).2 := by
  induction d generalizing s with
  | done a => rfl
  | ask q next ih => exact ih _ _

end Dialogue

end Bulletin
