import Mathlib.Logic.Relation

/-!
# Reachable states of a step relation

Reachability is `Relation.ReflTransGen` of the step relation. An invariant that holds
initially and is kept by every step holds in every reachable state; a run of a step function
over a list of labels is a path of the relation, which is how concrete traces of a model are
replayed.
-/

namespace Reach

variable {σ ℓ : Type*}

theorem invariant {step : σ → σ → Prop} {I : σ → Prop} {a b : σ} (h₀ : I a)
    (hstep : ∀ x y, I x → step x y → I y) (h : Relation.ReflTransGen step a b) : I b := by
  induction h with
  | refl => exact h₀
  | tail _ hxy ih => exact hstep _ _ ih hxy

def run (next : σ → ℓ → Option σ) : σ → List ℓ → Option σ
  | s, [] => some s
  | s, l :: ls => (next s l).bind (run next · ls)

theorem reflTransGen_of_run {step : σ → σ → Prop} {next : σ → ℓ → Option σ}
    (hstep : ∀ s l s', next s l = some s' → step s s') :
    ∀ {s s' : σ} {ls : List ℓ}, run next s ls = some s' → Relation.ReflTransGen step s s'
  | s, s', [], h => by
      simp only [run, Option.some.injEq] at h
      subst h
      exact Relation.ReflTransGen.refl
  | s, s', l :: ls, h => by
      simp only [run] at h
      cases hs : next s l with
      | none => simp [hs] at h
      | some t =>
          rw [hs, Option.bind_some] at h
          exact Relation.ReflTransGen.head (hstep s l t hs) (reflTransGen_of_run hstep h)

end Reach
