/-!
A value behind a lock. Whoever breaks down while holding the lock leaves it poisoned for good, and
from then on the lock hands its value out under a warning only. The value is still there, and those
who know that it is whole wherever a holder may break down take it from under the warning.
-/
namespace FirstSeen.Aggregate

structure Warning (σ : Type) where
  value : σ

structure Guarded (σ : Type) where
  value : σ
  poisoned : Bool

namespace Guarded

variable {σ : Type}

def new (value : σ) : Guarded σ := ⟨value, false⟩

def enter (g : Guarded σ) : Except (Warning σ) σ :=
  if g.poisoned then .error ⟨g.value⟩ else .ok g.value

def recover (g : Guarded σ) : σ :=
  match g.enter with
  | .ok value => value
  | .error warning => warning.value

def write (g : Guarded σ) (value : σ) : Guarded σ := { g with value }

def poison (g : Guarded σ) : Guarded σ := { g with poisoned := true }

@[simp]
theorem recover_eq_value (g : Guarded σ) : g.recover = g.value := by
  obtain ⟨value, poisoned⟩ := g
  cases poisoned <;> rfl

end Guarded

end FirstSeen.Aggregate
