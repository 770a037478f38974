import ChainWatch.Log

/-!
# Outcomes

* `Outcome` : what an operation leaves behind, answers and logs.
-/

namespace ChainWatch

/-- What an operation leaves behind, what it answers, and what it has logged. -/
structure Outcome (σ α : Type) where
  state : σ
  answer : α
  log : Log := []

end ChainWatch
