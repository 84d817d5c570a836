import Mathlib.Data.List.Range
import Mathlib.Order.Basic

/-!
# First-fit search for a run of free positions

The usual one-pass search for `n` consecutive free positions keeps the start of the
current run of free positions and its length, restarts after every used position, and
stops with the start as soon as the run is `n` long. `runScan_spec` says that, started on
a free prefix shorter than `n`, it finds the least start of a free run of length `n` that
ends inside the scanned range, or reports that there is none.
-/

namespace FirstFit

variable (used : Nat → Bool) (n : Nat)

def FreeRun (s : Nat) : Prop := ∀ p, s ≤ p → p < s + n → used p = false

def IsFirstFit (lo hi s : Nat) : Prop :=
  lo ≤ s ∧ s + n ≤ hi ∧ FreeRun used n s ∧ ∀ t, lo ≤ t → t < s → ¬ FreeRun used n t

def NoFit (lo hi : Nat) : Prop := ∀ s, lo ≤ s → s + n ≤ hi → ¬ FreeRun used n s

def FitResult (lo hi : Nat) : Option Nat → Prop
  | some s => IsFirstFit used n lo hi s
  | none => NoFit used n lo hi

inductive ScanState where
  | scanning (start len : Nat)
  | found (start : Nat)
  deriving Repr, DecidableEq

def scanStep : ScanState → Nat → ScanState
  | .found s, _ => .found s
  | .scanning start len, p =>
      if used p then .scanning (p + 1) 0
      else if len + 1 = n then .found start
      else .scanning start (len + 1)

def ScanState.result : ScanState → Option Nat
  | .found s => some s
  | .scanning _ _ => none

def runScan (ps : List Nat) (start len : Nat) : Option Nat :=
  (ps.foldl (scanStep used n) (.scanning start len)).result

variable {used n}

@[simp] theorem foldl_scanStep_found (ps : List Nat) (s : Nat) :
    ps.foldl (scanStep used n) (.found s) = .found s := by
  induction ps with
  | nil => rfl
  | cons p ps ih => exact ih

theorem runScan_cons (p : Nat) (ps : List Nat) (start len : Nat) :
    runScan used n (p :: ps) start len =
      if used p then runScan used n ps (p + 1) 0
      else if len + 1 = n then some start
      else runScan used n ps start (len + 1) := by
  unfold runScan
  rw [List.foldl_cons]
  by_cases hp : used p = true
  · simp [scanStep, hp]
  · by_cases hdone : len + 1 = n
    · simp [scanStep, hp, hdone, ScanState.result]
    · simp [scanStep, hp, hdone]

theorem not_freeRun_of_used {start len p t : Nat} (hpos : start + len = p) (hlen : len < n)
    (hp : used p = true) (ht : start ≤ t) (htp : t ≤ p) : ¬ FreeRun used n t := by
  intro hrun
  have := hrun p htp (by omega)
  simp_all

theorem runScan_spec (hn : 0 < n) (k : Nat) :
    ∀ {p start len : Nat}, start + len = p → len < n →
      (∀ q, start ≤ q → q < p → used q = false) →
      FitResult used n start (p + k) (runScan used n (List.range' p k) start len) := by
  induction k with
  | zero =>
      intro p start len hpos hlen _ s hs hsn _
      omega
  | succ k ih =>
      intro p start len hpos hlen hfree
      rw [List.range'_succ, runScan_cons]
      by_cases hp : used p = true
      · -- a used position restarts the run just after it
        rw [if_pos hp]
        have hrest := @ih (p + 1) (p + 1) 0 rfl hn (by omega)
        have hcontains : ∀ t, start ≤ t → t ≤ p → ¬ FreeRun used n t :=
          fun t ht htp => not_freeRun_of_used hpos hlen hp ht htp
        cases hr : runScan used n (List.range' (p + 1) k) (p + 1) 0 with
        | none =>
            rw [hr] at hrest
            intro s hs hsn hrun
            by_cases hsp : s ≤ p
            · exact hcontains s hs hsp hrun
            · exact hrest s (by omega) (by omega) hrun
        | some s =>
            rw [hr] at hrest
            obtain ⟨hlo, hhi, hrun, hleast⟩ := hrest
            refine ⟨by omega, by omega, hrun, fun t ht hts => ?_⟩
            by_cases htp : t ≤ p
            · exact hcontains t ht htp
            · exact hleast t (by omega) hts
      · rw [if_neg hp]
        have hp' : used p = false := by simpa using hp
        have hfree' : ∀ q, start ≤ q → q < p + 1 → used q = false := by
          intro q hq hqp
          rcases Nat.lt_succ_iff_lt_or_eq.mp hqp with hlt | rfl
          · exact hfree q hq hlt
          · exact hp'
        by_cases hdone : len + 1 = n
        · -- the run `[start, p]` is long enough
          rw [if_pos hdone]
          exact ⟨le_refl _, by omega, fun q hq hqn => hfree' q hq (by omega),
            fun t ht hts => by omega⟩
        · rw [if_neg hdone]
          have hrest := @ih (p + 1) start (len + 1) (by omega) (by omega) hfree'
          rwa [show p + 1 + k = p + (k + 1) by omega] at hrest

theorem runScan_skip {q : Nat} (k : Nat) :
    ∀ {p start len : Nat}, p < q → q ≤ p + k → (∀ r, p ≤ r → r < q → used r = true) →
      runScan used n (List.range' p k) start len =
        runScan used n (List.range' q (p + k - q)) q 0 := by
  induction k with
  | zero => intro p start len hpq hqk _; omega
  | succ k ih =>
      intro p start len hpq hqk hused
      rw [List.range'_succ, runScan_cons, if_pos (hused p le_rfl hpq)]
      by_cases hq : p + 1 = q
      · subst hq
        congr 2
        omega
      · rw [ih (by omega) (by omega) (fun r hr hrq => hused r (by omega) hrq)]
        congr 2
        omega

theorem fitResult_zero_of_used_below (hn : 0 < n) {lo hi : Nat} {r : Option Nat}
    (hused : ∀ p < lo, used p = true) (h : FitResult used n lo hi r) : FitResult used n 0 hi r := by
  have hbelow : ∀ t < lo, ¬ FreeRun used n t := by
    intro t ht hrun
    have := hrun t le_rfl (by omega)
    simp_all
  cases r with
  | none =>
      intro s _ hsn hrun
      by_cases hs : s < lo
      · exact hbelow s hs hrun
      · exact h s (by omega) hsn hrun
  | some s =>
      obtain ⟨hlo, hhi, hrun, hleast⟩ := h
      refine ⟨Nat.zero_le _, hhi, hrun, fun t _ hts => ?_⟩
      by_cases ht : t < lo
      · exact hbelow t ht
      · exact hleast t (by omega) hts

end FirstFit

namespace FirstFit

variable {used : Nat → Bool} {n : Nat}

theorem freeRun_one_iff {s : Nat} : FreeRun used 1 s ↔ used s = false :=
  ⟨fun hrun => hrun s le_rfl (Nat.lt_succ_self s),
    fun hfree p hsp hps => by rwa [Nat.le_antisymm (Nat.le_of_lt_succ hps) hsp]⟩

theorem fitResult_unique {lo hi : Nat} {r r' : Option Nat} (h : FitResult used n lo hi r)
    (h' : FitResult used n lo hi r') : r = r' := by
  cases r with
  | none =>
      cases r' with
      | none => rfl
      | some s' =>
          obtain ⟨hlo, hhi, hrun, -⟩ := h'
          exact absurd hrun (h s' hlo hhi)
  | some s =>
      obtain ⟨hlo, hhi, hrun, hleast⟩ := h
      cases r' with
      | none => exact absurd hrun (h' s hlo hhi)
      | some s' =>
          obtain ⟨hlo', hhi', hrun', hleast'⟩ := h'
          rcases Nat.lt_trichotomy s s' with hlt | rfl | hgt
          · exact absurd hrun (hleast' s hlo hlt)
          · rfl
          · exact absurd hrun' (hleast s' hlo' hgt)

end FirstFit
