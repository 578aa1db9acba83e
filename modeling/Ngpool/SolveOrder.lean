import Ngpool.Solve

/-!
# The Verifier on Reordered Aux Chains

The job builder lists a job's aux chains in the order it met their templates, the random order
of a Go map, so two runs on the same templates build jobs that may differ in that order alone.
`CheckSolves` walks the chains in order to fill its map of block solves, a later chain
overwriting an earlier one of the same currency code; everything else it computes (the coinbase,
the header, the proof-of-work digest, the share verdict) reads only the main chain job and the
algorithm.

## Main results

* `insertSolves_perm`: the solve map at a code only one entry has does not depend on the order
  of the entries.
* `Job.checkSolves_perm`: two jobs with the same main chain job and algorithm and the same aux
  chains in any order get the same error, or the same share verdict, the same chain codes in
  another order, the same solved codes, and the same block solve at every code only one chain
  has.
-/

namespace Ngpool

section Insert

variable {α : Type} (code : α → String) (meets : α → Prop) [DecidablePred meets]
  (mk : α → BlockSolve)

/-- One entry of the solve loop, seen at the code `c` alone. -/
def solveAt (c : String) (o : Option BlockSolve) (a : α) : Option BlockSolve :=
  if meets a ∧ code a = c then some (mk a) else o

variable {code meets mk}

/-- The solve map at `c` is the loop run on the value at `c` alone. -/
theorem insertSolves_apply (l : List α) (ret : String → Option BlockSolve) (c : String) :
    insertSolves code meets mk l ret c = l.foldl (solveAt code meets mk c) (ret c) := by
  induction l generalizing ret with
  | nil => rfl
  | cons a l ih =>
    rw [insertSolves, List.foldl_cons, ← insertSolves, ih, List.foldl_cons]
    congr 1
    by_cases ha : meets a
    · by_cases hc : code a = c
      · subst hc
        simp [solveAt, ha]
      · simp [solveAt, ha, hc, Function.update_noteq (Ne.symm hc)]
    · simp [solveAt, ha]

/-- Two entries of a list in which only one entry has the code `c` are the same entry if both
have it. -/
theorem eq_of_code_eq {l : List α} {c : String} (hc : (l.map code).count c ≤ 1) {x y : α}
    (hx : x ∈ l) (hy : y ∈ l) (hxc : code x = c) (hyc : code y = c) : x = y := by
  have hlen : (l.filter fun a => code a == c).length ≤ 1 := by
    rwa [List.count, List.countP_map, List.countP_eq_length_filter] at hc
  have hfx : x ∈ l.filter fun a => code a == c := List.mem_filter.mpr ⟨hx, by simpa using hxc⟩
  have hfy : y ∈ l.filter fun a => code a == c := List.mem_filter.mpr ⟨hy, by simpa using hyc⟩
  generalize l.filter (fun a => code a == c) = f at hlen hfx hfy
  rcases f with _ | ⟨a, _ | ⟨b, f⟩⟩
  · cases hfx
  · rw [List.mem_singleton.mp hfx, List.mem_singleton.mp hfy]
  · simp at hlen

/-- **Reordering the entries** keeps the solve map at every code only one entry has. -/
theorem insertSolves_perm {l l' : List α} (hp : l.Perm l') {c : String}
    (hc : (l.map code).count c ≤ 1) (ret : String → Option BlockSolve) :
    insertSolves code meets mk l' ret c = insertSolves code meets mk l ret c := by
  rw [insertSolves_apply, insertSolves_apply]
  refine (hp.foldl_eq' (fun x hx y hy o => ?_) _).symm
  by_cases hxy : code x = c ∧ code y = c
  · rw [eq_of_code_eq hc hx hy hxy.1 hxy.2]
  · rcases not_and_or.mp hxy with h | h <;> simp [solveAt, h]

end Insert

/-- Two verdicts of `CheckSolves` alike up to the order of the chains: the same error, or the
same share verdict, the same chain codes in another order, the same solved codes, and the same
block solve at every code only one chain has. -/
def VerdictsAlike : Except Exit SolveResult → Except Exit SolveResult → Prop
  | .error e, .error e' => e' = e
  | .ok (ret, valid, cs), .ok (ret', valid', cs') =>
    valid' = valid ∧ cs'.Perm cs ∧ (∀ c, (ret' c).isSome = (ret c).isSome) ∧
      ∀ c, cs.count c ≤ 1 → ret' c = ret c
  | _, _ => False

/-- Verdicts computed from the same fallible prefix are alike when their continuations are. -/
theorem VerdictsAlike.bind {β : Type} (x : Except Exit β) {f f' : β → Except Exit SolveResult}
    (h : ∀ b, VerdictsAlike (f b) (f' b)) : VerdictsAlike (x >>= f) (x >>= f') := by
  cases x with
  | error e => exact (rfl : e = e)
  | ok b => exact h b

namespace Job

variable {j j' : Job}

/-- **The verifier body** on two jobs alike up to the order of their aux chains. -/
theorem collectSolves_perm (hmain : j'.toMainChainJob = j.toMainChainJob) (halgo : j'.algo = j.algo)
    (haux : j'.auxChains.Perm j.auxChains) (coinbase coinbaseHash header headerHsh : Bytes)
    (shareTarget : Option Int) :
    VerdictsAlike (j.collectSolves coinbase coinbaseHash header headerHsh shareTarget)
      (j'.collectSolves coinbase coinbaseHash header headerHsh shareTarget) := by
  rw [collectSolves_eq, collectSolves_eq]
  refine VerdictsAlike.bind _ fun hashObj => ?_
  have hent : (j'.solveEntries coinbase coinbaseHash header headerHsh (hashToBig hashObj)).Perm
      (j.solveEntries coinbase coinbaseHash header headerHsh (hashToBig hashObj)) := by
    obtain ⟨m', h', a', g'⟩ := j'
    obtain ⟨m, h, a, g⟩ := j
    obtain rfl : m' = m := hmain
    obtain rfl : g' = g := halgo
    exact (haux.map _).cons _
  have hcodes : (j'.chains.map (·.code)).Perm (j.chains.map (·.code)) := by
    rw [← map_fst_solveEntries j' coinbase coinbaseHash header headerHsh (hashToBig hashObj),
      ← map_fst_solveEntries j coinbase coinbaseHash header headerHsh (hashToBig hashObj),
      List.map_map, List.map_map]
    exact hent.map _
  refine ⟨rfl, hcodes, fun c => ?_, fun c hc => insertSolves_perm hent.symm ?_ _⟩
  · rw [Bool.eq_iff_iff, insertSolves_isSome, insertSolves_isSome]
    simp only [hent.mem_iff]
  · rwa [← map_fst_solveEntries j coinbase coinbaseHash header headerHsh (hashToBig hashObj),
      List.map_map] at hc

/-- **The order of the aux chains does not change a verdict.** Two jobs with the same main chain
job and algorithm and the same aux chains in any order check every submission alike: the same
error, or the same share verdict, the same chain codes in another order, the same solved codes,
and the same block solve at every code only one chain has. -/
theorem checkSolves_perm (hmain : j'.toMainChainJob = j.toMainChainJob) (halgo : j'.algo = j.algo)
    (haux : j'.auxChains.Perm j.auxChains) (reg : Registry) (solve : SolveData)
    (shareTarget : Option Int) :
    VerdictsAlike (j.checkSolves reg solve shareTarget) (j'.checkSolves reg solve shareTarget) := by
  obtain ⟨m, h', a', g⟩ := j'
  obtain ⟨m₀, h, a, g₀⟩ := j
  obtain rfl : m = m₀ := hmain
  obtain rfl : g = g₀ := halgo
  cases solve with
  | extranonceSolve s =>
    simp only [checkSolves, checkExtranonceSolve]
    exact VerdictsAlike.bind _ fun _ =>
      @collectSolves_perm ⟨m, h, a, g⟩ ⟨m, h', a', g⟩ rfl rfl haux _ _ _ _ _
  | solutionSolve s =>
    cases halgo : reg.algoConfig "sha256d" with
    | none =>
      simp only [checkSolves, checkSolSolve, halgo]
      exact (rfl : nilDereferencePanic = nilDereferencePanic)
    | some algo =>
      simp only [checkSolves, checkSolSolve, halgo]
      exact VerdictsAlike.bind _ fun _ =>
        @collectSolves_perm ⟨m, h, a, g⟩ ⟨m, h', a', g⟩ rfl rfl haux _ _ _ _ _
  | unrecognized => exact (rfl : Exit.error "Unrecognized solve data" = _)

end Job

/-- `constDigestJob` with two aux chains, `NMC` and `SYS`. -/
def twoAuxJob : Job :=
  { constDigestJob with
    auxChains := [{ (default : AuxChainJob) with
        currencyConfig := { (default : ChainConfig) with code := "NMC" } },
      { (default : AuxChainJob) with
        currencyConfig := { (default : ChainConfig) with code := "SYS" } }] }

/-- `twoAuxJob` with its aux chains in the other order. -/
def twoAuxJobSwapped : Job := { twoAuxJob with auxChains := twoAuxJob.auxChains.reverse }

theorem Job.checkSolves_perm_twoAux :
    twoAuxJobSwapped.toMainChainJob = twoAuxJob.toMainChainJob ∧
      twoAuxJobSwapped.algo = twoAuxJob.algo ∧
      twoAuxJobSwapped.auxChains.Perm twoAuxJob.auxChains ∧
      VerdictsAlike (twoAuxJob.checkSolves default (.extranonceSolve default) (some 0))
        (twoAuxJobSwapped.checkSolves default (.extranonceSolve default) (some 0)) :=
  ⟨rfl, rfl, List.reverse_perm _,
    @Job.checkSolves_perm twoAuxJob twoAuxJobSwapped rfl rfl (List.reverse_perm _) _ _ _⟩

end Ngpool
