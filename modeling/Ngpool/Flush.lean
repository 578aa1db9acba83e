import Ngpool.Job

/-!
# Flushing Stale Jobs

`SetFlush` decides, from the value the previous accepted job left, whether a new job is stale
(dropped) and whether miners must drop their work for it (`cleanJobs`). The value is an
`interface{}`, and `SetFlush` compares heights only when it holds a `map[string]int64`, where a
missing currency reads as `0`. Any other value takes the default branch: the job is kept and
its heights map is returned.

On a main-height bump `SetFlush` returns the job's `int64` height rather than its heights map.
The job after a bump therefore meets a value that is not a map and is accepted whatever its
height, and a job whose main height is below the one just recorded gets through.

## Main results

* `setFlush_cases`: the four outcomes of one call, with their guards.
* `setFlush_heights_spec`: on a map, only the main height drops a job; a kept job is flagged
  `cleanJobs` when the main height or that of a flushing aux chain rose.
* `flushRun_accepts_after_bump`: after a main-height bump the next job is kept, whatever its
  height, and the value becomes its heights map.
-/

namespace Ngpool

/-- The `interface{}` value threaded between `SetFlush` calls: the three kinds it returns. -/
inductive FlushState
  /-- A `map[string]int64` of heights per currency code. -/
  | heights (m : String → Option Int)
  /-- An `int64`. -/
  | int64 (v : Int)
  /-- `nil`. -/
  | nil

/-- A Go map read: the zero value for a missing key. -/
def heightAt (m : String → Option Int) (code : String) : Int := (m code).getD 0

namespace Job

/-- Whether some aux chain that flushes (`FlushAux`) is above the height `prev` records. -/
def auxBump (j : Job) (prev : String → Option Int) : Bool :=
  j.auxChains.any fun aux =>
    aux.currencyConfig.flushAux && decide (heightAt prev aux.currencyConfig.code < aux.height)

/-- `SetFlush`: whether the job is dropped, the value for the next call, and the job with
`cleanJobs` as the call leaves it. -/
def setFlush (j : Job) : FlushState → Bool × FlushState × Job
  | .heights prev =>
    if heightAt prev j.currencyConfig.code < j.height then
      (false, .int64 j.height, { j with cleanJobs := true })
    else if j.height < heightAt prev j.currencyConfig.code then (true, .nil, j)
    else if j.auxBump prev then (false, .heights j.heights, { j with cleanJobs := true })
    else (false, .heights j.heights, j)
  | _ => (false, .heights j.heights, j)

/-- **One call of `SetFlush`.** A main-height bump over a map returns the `int64` height; a
lower main height drops the job; otherwise, and whenever the value is not a map, the job is kept
with its heights map, flushing only on a bump of the main chain or a flushing aux chain. -/
theorem setFlush_cases (j : Job) (s : FlushState) :
    (∃ prev, s = .heights prev ∧ heightAt prev j.currencyConfig.code < j.height ∧
      j.setFlush s = (false, .int64 j.height, { j with cleanJobs := true })) ∨
    (∃ prev, s = .heights prev ∧ j.height < heightAt prev j.currencyConfig.code ∧
      j.setFlush s = (true, .nil, j)) ∨
    (∃ prev, s = .heights prev ∧ heightAt prev j.currencyConfig.code = j.height ∧
      j.setFlush s = (false, .heights j.heights, { j with cleanJobs := j.cleanJobs || j.auxBump prev })) ∨
    ((∀ prev, s ≠ .heights prev) ∧ j.setFlush s = (false, .heights j.heights, j)) := by
  cases s with
  | heights prev =>
    simp only [setFlush]
    split
    · exact .inl ⟨prev, rfl, ‹_›, rfl⟩
    split
    · exact .inr (.inl ⟨prev, rfl, ‹_›, rfl⟩)
    refine .inr (.inr (.inl ⟨prev, rfl, by omega, ?_⟩))
    split <;> simp_all
  | int64 v => exact .inr (.inr (.inr ⟨fun _ => nofun, rfl⟩))
  | nil => exact .inr (.inr (.inr ⟨fun _ => nofun, rfl⟩))

/-- A job is dropped exactly when the value is a map recording a higher main height. -/
theorem setFlush_drop_iff (j : Job) (s : FlushState) :
    (j.setFlush s).1 = true ↔ ∃ prev, s = .heights prev ∧ j.height < heightAt prev j.currencyConfig.code := by
  rcases setFlush_cases j s with ⟨p, rfl, h, e⟩ | ⟨p, rfl, h, e⟩ | ⟨p, rfl, h, e⟩ | ⟨hs, e⟩ <;>
    simp_all
  all_goals omega

/-- **`SetFlush` on a map of heights.** The job is dropped exactly when its main height is below
the recorded one: an aux chain below its recorded height does not drop it. A kept job's
`cleanJobs` is afterwards true exactly when it was before, or the main height rose, or the
height of an aux chain with `FlushAux` rose. -/
theorem setFlush_heights_spec (j : Job) (prev : String → Option Int) :
    ((j.setFlush (.heights prev)).1 = true ↔ j.height < heightAt prev j.currencyConfig.code) ∧
    ((j.setFlush (.heights prev)).1 = false →
      ((j.setFlush (.heights prev)).2.2.cleanJobs = true ↔
        j.cleanJobs = true ∨ heightAt prev j.currencyConfig.code < j.height ∨
        ∃ aux ∈ j.auxChains, aux.currencyConfig.flushAux = true ∧
          heightAt prev aux.currencyConfig.code < aux.height)) := by
  refine ⟨by simpa using setFlush_drop_iff j (.heights prev), fun hkeep => ?_⟩
  rcases setFlush_cases j (.heights prev) with
    ⟨_, ⟨⟩, h, e⟩ | ⟨_, ⟨⟩, -, e⟩ | ⟨_, ⟨⟩, h, e⟩ | ⟨hs, -⟩
  · simp [e, h]
  · simp [e] at hkeep
  · simp [e, auxBump, h]
  · exact absurd rfl (hs prev)

/-- A BTC job at the recorded height 100 whose NMC aux chain fell from 50 to 49 is kept. -/
example :
    ({ (default : Job) with
        height := 100, currencyConfig := { (default : ChainConfig) with code := "BTC" },
        auxChains := [{ (default : AuxChainJob) with
          height := 49, currencyConfig := { (default : ChainConfig) with code := "NMC" } }] }
      |>.setFlush (.heights fun c => if c = "BTC" then some 100 else if c = "NMC" then some 50
        else none)).1 = false := by
  decide

end Job

/-! ### Threading the value through a run -/

/-- The value after offering `j`: the previous one when `j` is dropped, else what `SetFlush`
returned. -/
def flushStep (s : FlushState) (j : Job) : FlushState :=
  if (j.setFlush s).1 then s else (j.setFlush s).2.1

/-- The value after offering the jobs in order. -/
def flushRun (s : FlushState) (js : List Job) : FlushState := js.foldl flushStep s

@[simp] theorem flushRun_nil (s : FlushState) : flushRun s [] = s := rfl

@[simp] theorem flushRun_append (s : FlushState) (js ks : List Job) :
    flushRun s (js ++ ks) = flushRun (flushRun s js) ks := List.foldl_append _ _ _ _

@[simp] theorem flushRun_cons (s : FlushState) (j : Job) (js : List Job) :
    flushRun s (j :: js) = flushRun (flushStep s j) js := rfl

/-- **A job after a main-height bump is never dropped.** If the value after `pre` is a map and
`j₁` raises its main height, the value becomes `j₁`'s `int64` height, `j₂` is kept whatever its
height, and the value after it is `j₂`'s heights map. -/
theorem flushRun_accepts_after_bump (s : FlushState) (pre : List Job) (prev : String → Option Int)
    (j₁ j₂ : Job) (hprev : flushRun s pre = .heights prev)
    (hbump : heightAt prev j₁.currencyConfig.code < j₁.height) :
    flushRun s (pre ++ [j₁]) = .int64 j₁.height ∧
    (j₂.setFlush (flushRun s (pre ++ [j₁]))).1 = false ∧
    flushRun s (pre ++ [j₁, j₂]) = .heights j₂.heights := by
  have h₁ : flushRun s (pre ++ [j₁]) = .int64 j₁.height := by
    simp [hprev, flushStep, Job.setFlush, hbump]
  have h₂ : pre ++ [j₁, j₂] = (pre ++ [j₁]) ++ [j₂] := by simp
  refine ⟨h₁, by rw [h₁]; rfl, ?_⟩
  rw [h₂, flushRun_append, h₁]
  rfl

/-- A job of currency `BTC` at main height `h`, its heights map recording only `BTC`. -/
def btcJob (h : Int) : Job :=
  { (default : Job) with
    height := h
    currencyConfig := { (default : ChainConfig) with code := "BTC" }
    heights := fun c => if c = "BTC" then some h else none }

/-- From `{BTC: 99}`, a job at height 100 leaves the `int64` 100, and a job at height 50 that
follows it is kept, with `{BTC: 50}` as the new value. -/
theorem flushRun_stale_job_kept :
    flushRun (.heights (btcJob 99).heights) [btcJob 100] = .int64 100 ∧
    ((btcJob 50).setFlush (.int64 100)).1 = false ∧
    flushRun (.heights (btcJob 99).heights) [btcJob 100, btcJob 50] = .heights (btcJob 50).heights :=
  flushRun_accepts_after_bump _ [] _ (btcJob 100) (btcJob 50) rfl (by decide)

end Ngpool
