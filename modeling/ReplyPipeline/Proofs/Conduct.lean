import ReplyPipeline.Pipeline.Request

/-!
# Conduct of programs

What a program has asked and been answered is its history. A code of conduct sums a history up in
a standing and says what may be asked in each standing. A program keeps a code when it asks nothing
else, whatever it is answered; `Code.binds_bind` takes the proof of that apart along the program.
Nothing is said here about what the surroundings do with a request.
-/
namespace ReplyPipeline

/-- A request and the answer to it. -/
structure Exchange where
  request : PipelineRequest
  answer : request.Answer

/-- Requests and their answers, the latest first. -/
abbrev History := List Exchange

/-- What is kept in mind of a history, and what may be asked after it. -/
structure Code (σ : Type) where
  after : σ → Exchange → σ
  allows : σ → PipelineRequest → Prop

namespace Code

variable {σ α β : Type} (c : Code σ)

/-- The standing after a history that began in a given one. -/
def standing (start : σ) (past : History) : σ := past.foldr (fun x s => c.after s x) start

/-- Every request of a history was allowed when it was made. -/
def Kept (start : σ) : History → Prop
  | [] => True
  | x :: past => c.allows (c.standing start past) x.request ∧ Kept start past

/-- A program asks only what is allowed, and its result fits the standing in which it ends. -/
def Binds (ends : σ → α → Prop) : σ → Action α → Prop
  | s, .done a => ends s a
  | s, .call r next => c.allows s r ∧ ∀ a, Binds ends (c.after s ⟨r, a⟩) (next a)

variable {c}

@[simp] theorem standing_nil (start : σ) : c.standing start [] = start := rfl

@[simp] theorem standing_cons (start : σ) (x : Exchange) (past : History) :
    c.standing start (x :: past) = c.after (c.standing start past) x := rfl

/-- A program in two parts keeps the code when the first part does and leads to standings in which
the second part does. -/
theorem binds_bind {ends : σ → β → Prop} (p : Action α) (f : α → Action β) (s : σ) :
    c.Binds ends s (p.bind f) ↔ c.Binds (fun s a => c.Binds ends s (f a)) s p := by
  induction p generalizing s with
  | done a => exact Iff.rfl
  | call r next ih => exact and_congr_right fun _ => forall_congr' fun a => ih a _

theorem Binds.mono {ends ends' : σ → α → Prop} (h : ∀ s a, ends s a → ends' s a) {s : σ}
    {p : Action α} (hp : c.Binds ends s p) : c.Binds ends' s p := by
  induction p generalizing s with
  | done a => exact h s a hp
  | call r next ih => exact ⟨hp.1, fun a => ih a (hp.2 a)⟩

end Code
end ReplyPipeline
