import Ngpool.NewJob

/-!
# Solve Verification

`CheckSolves` checks a miner's submission against a job. The two submission shapes share one
verifier body (`collectSolves`) after each has built its header and proof-of-work digest:

* an `ExtranonceSolve` (classic Stratum) completes the coinbase with the miner's extranonces and
  hashes `GetBlockHeader(nonce, coinbaseHash)` with the job's algorithm — the header carries the
  job's own `time`, not the submitted `nTime`;
* a `SolutionSolve` (Equihash) uses an 8-byte zero extranonce and hashes the Equihash header,
  which does carry the submitted `nTime`, with the registry's `sha256d`.

The shared body reads the digest as the integer `h = HashToBig(digest)`, marks a valid share when
`h ≥ shareTarget` (the comparison the source comments call opposite to the block one), and
records a `BlockSolve` for every chain — main first, then the aux chains in order, in a Go map
keyed by currency code — whose network target `h` meets.

## Main results

* `getKey_of_same_header`: what equal headers say about the duplicate-share keys.
* `checkSolves_solved_chains`: the solved chains are exactly those whose target `h` meets.
* `checkSolves_validShare`: a share is valid exactly when `h ≥ shareTarget`.
-/

namespace Ngpool

/-- `SolutionSolve`. -/
structure SolutionSolve where
  nonce2 : Bytes
  nTime : Bytes
  nonce1 : Bytes
  solution : Bytes
  deriving Inhabited

/-- `(SolutionSolve).GetKey`; a Go string converted from bytes is those bytes. -/
def SolutionSolve.getKey (m : SolutionSolve) : Bytes := m.nonce2 ++ m.solution ++ m.nTime

/-- `ExtranonceSolve`. -/
structure ExtranonceSolve where
  nonce : Bytes
  nTime : Bytes
  extraNonce2 : Bytes
  extraNonce1 : Bytes
  deriving Inhabited

/-- `(ExtranonceSolve).GetKey`. -/
def ExtranonceSolve.getKey (m : ExtranonceSolve) : Bytes :=
  m.extraNonce2 ++ m.extraNonce1 ++ m.nTime ++ m.nonce

/-- The dynamic type of the value `CheckSolves` receives. -/
inductive SolveData
  | extranonceSolve (s : ExtranonceSolve)
  | solutionSolve (s : SolutionSolve)
  | unrecognized

/-- What `CheckSolves` returns: the block solves by currency code, the share verdict and the
codes of all chains checked. -/
abbrev SolveResult := (String → Option BlockSolve) × Bool × List String

/-- The `sha256d` algorithm: the proof of work of a header is its `sha256d`. -/
def sha256dAlgo : Algo := ⟨"sha256d", fun header => .ok (sha256d header)⟩

/-- A job with no aux chain and main target `0` whose algorithm hashes every header to
`01 01 … 01`. -/
def constDigestJob : Job :=
  { (default : Job) with algo := ⟨"const", fun _ => .ok (List.replicate 32 1)⟩ }

/-- `constDigestJob` as main chain `BTC` at target `0`, with two aux chains: `NMC` at the target
`h₂` of the digest `02 … 02`, and `SYS` at the target `h₁` of the digest `01 … 01`. -/
def splitJob : Job :=
  { constDigestJob with
    currencyConfig := { (default : ChainConfig) with code := "BTC" }
    auxChains := [
      { (default : AuxChainJob) with
        target := hashToBig (List.replicate 32 2)
        currencyConfig := { (default : ChainConfig) with code := "NMC" } },
      { (default : AuxChainJob) with
        target := hashToBig (List.replicate 32 1)
        currencyConfig := { (default : ChainConfig) with code := "SYS" } }] }

/-- A registry whose `sha256d` hashes every header to `02 … 02`. -/
def twoDigestRegistry : Registry where
  currencyConfig _ := none
  algoConfig n := if n = "sha256d" then some ⟨"sha256d", fun _ => .ok (List.replicate 32 2)⟩
    else none

/-! ### The headers -/

namespace Job

variable (j : Job)

/-- The coinbase of the Equihash paths: `coinbase1`, an 8-byte zero extranonce, `coinbase2`. -/
def zcashCoinbase : Bytes := j.coinbase1 ++ List.replicate 8 0 ++ j.coinbase2

/-- The header `checkSolSolve` builds (lines 244–276): the hasher is reset after the coinbase
hash, then walks the merkle branch. -/
def solSolveHeader (solveData : SolutionSolve) : Bytes :=
  let hasher := Hasher.new.write j.zcashCoinbase
  let rootHash := (merkleWalk hasher.reset hasher.sum j.merkleBranch).2
  j.version ++ j.prevBlockHash ++ rootHash ++ List.replicate 32 0 ++ solveData.nTime ++ j.bits ++
    solveData.nonce1 ++ solveData.nonce2 ++ solveData.solution

/-- The coinbase of a classic submission: `coinbase1 || extraNonce1 || extraNonce2 || coinbase2`. -/
def extranonceCoinbase (solveData : ExtranonceSolve) : Bytes :=
  j.coinbase1 ++ solveData.extraNonce1 ++ solveData.extraNonce2 ++ j.coinbase2

/-- The header `checkExtranonceSolve` builds (lines 339–349). -/
def extranonceHeader (solveData : ExtranonceSolve) : Bytes :=
  j.getBlockHeader solveData.nonce (Hasher.new.write (j.extranonceCoinbase solveData)).sum

/-- The header of a classic submission does not read its `nTime`. -/
@[simp] theorem extranonceHeader_nTime (solveData : ExtranonceSolve) (nTime : Bytes) :
    j.extranonceHeader { solveData with nTime } = j.extranonceHeader solveData := rfl

/-! ### The shared verifier body -/

/-- The block solve of the main chain. -/
def mainSolve (coinbase coinbaseHash header : Bytes) (bigHsh : Nat) : BlockSolve where
  data := j.getBlock header coinbase
  coinbaseHash := coinbaseHash
  subsidyAddress := j.currencyConfig.blockSubsidyAddress
  powalgo := j.algo.name
  subsidy := j.subsidy
  height := j.height
  powhash := bigHsh
  target := j.target

/-- The block solve of an aux chain (no `powalgo`: Go leaves it empty). -/
def auxSolve (mj : AuxChainJob) (coinbase headerHsh header : Bytes) (bigHsh : Nat) :
    BlockSolve where
  data := mj.getBlock coinbase headerHsh j.merkleBranch header
  subsidy := mj.subsidy
  height := mj.height
  coinbaseHash := mj.coinbaseHash
  subsidyAddress := mj.currencyConfig.blockSubsidyAddress
  powalgo := ""
  powhash := bigHsh
  target := mj.target

/-- Lines 281–321 (and 354–394), shared by both checks once the digest is known. -/
def collectSolves (coinbase coinbaseHash header headerHsh : Bytes) (shareTarget : Option Int) :
    Except Exit SolveResult := do
  let hashObj ← (newHash headerHsh).mapError Exit.error
  let bigHsh := hashToBig hashObj
  let validShare := match shareTarget with
    | some t => decide (t ≤ bigHsh)
    | none => false
  let currencies := j.currencyConfig.code :: j.auxChains.map (·.currencyConfig.code)
  let ret : String → Option BlockSolve :=
    if (bigHsh : Int) ≤ j.target then
      Function.update (fun _ => none) j.currencyConfig.code
        (some (j.mainSolve coinbase coinbaseHash header bigHsh))
    else fun _ => none
  let ret := j.auxChains.foldl (fun (ret : String → Option BlockSolve) mj =>
    if (bigHsh : Int) ≤ mj.target then
      Function.update ret mj.currencyConfig.code (some (j.auxSolve mj coinbase headerHsh header bigHsh))
    else ret) ret
  pure (ret, validShare, currencies)

/-- `checkSolSolve`: the PoW hash is the registry's `sha256d`, whatever the job's algorithm. -/
def checkSolSolve (reg : Registry) (solveData : SolutionSolve) (shareTarget : Option Int) :
    Except Exit SolveResult := do
  let coinbase := j.zcashCoinbase
  let coinbaseHash := (Hasher.new.write coinbase).sum
  let header := j.solSolveHeader solveData
  let some algo := reg.algoConfig "sha256d" | throw nilDereferencePanic
  let headerHsh ← (algo.powHash header).mapError Exit.error
  j.collectSolves coinbase coinbaseHash header headerHsh shareTarget

/-- `checkExtranonceSolve`: the PoW hash is the job's algorithm. -/
def checkExtranonceSolve (solveData : ExtranonceSolve) (shareTarget : Option Int) :
    Except Exit SolveResult := do
  let coinbase := j.extranonceCoinbase solveData
  let coinbaseHash := (Hasher.new.write coinbase).sum
  let header := j.getBlockHeader solveData.nonce coinbaseHash
  let headerHsh ← (j.algo.powHash header).mapError Exit.error
  j.collectSolves coinbase coinbaseHash header headerHsh shareTarget

/-- `CheckSolves`. -/
def checkSolves (reg : Registry) : SolveData → Option Int → Except Exit SolveResult
  | .extranonceSolve v, shareTarget => j.checkExtranonceSolve v shareTarget
  | .solutionSolve v, shareTarget => j.checkSolSolve reg v shareTarget
  | .unrecognized, _ => .error (.error "Unrecognized solve data")

/-- The proof-of-work digest each variant computes of the header it builds. -/
def powDigest (reg : Registry) : SolveData → Except Exit Bytes
  | .extranonceSolve v => (j.algo.powHash (j.extranonceHeader v)).mapError Exit.error
  | .solutionSolve v => match reg.algoConfig "sha256d" with
    | some algo => (algo.powHash (j.solSolveHeader v)).mapError Exit.error
    | none => .error nilDereferencePanic
  | .unrecognized => .error (.error "Unrecognized solve data")

/-! ### What the verifier body returns -/

/-- A chain as a block solve records it: code, height, subsidy and network target. -/
structure ChainRecord where
  code : String
  height : Int
  subsidy : Int
  target : Int

/-- The chains of the job, main first, then the aux chains in order. -/
def chains : List ChainRecord :=
  ⟨j.currencyConfig.code, j.height, j.subsidy, j.target⟩ ::
    j.auxChains.map fun mj => ⟨mj.currencyConfig.code, mj.height, mj.subsidy, mj.target⟩

end Job

section Insert

variable {α : Type} (code : α → String) (meets : α → Prop) [DecidablePred meets]
  (mk : α → BlockSolve)

/-- The map the solve loop builds: `ret[code(a)] = mk a` for each `a` that meets its target, a
later entry overwriting an earlier one of the same code. -/
def insertSolves (l : List α) (ret : String → Option BlockSolve) : String → Option BlockSolve :=
  l.foldl (fun r a => if meets a then Function.update r (code a) (some (mk a)) else r) ret

variable {code meets mk}

theorem insertSolves_isSome (l : List α) (ret : String → Option BlockSolve) (c : String) :
    (insertSolves code meets mk l ret c).isSome ↔ (ret c).isSome ∨ ∃ a ∈ l, code a = c ∧ meets a := by
  induction l generalizing ret with
  | nil => simp [insertSolves]
  | cons a l ih =>
    rw [insertSolves, List.foldl_cons, ← insertSolves, ih]
    by_cases ha : meets a
    · by_cases hc : code a = c
      · subst hc
        simp [ha]
      · simp [ha, Function.update_noteq (Ne.symm hc), hc]
    · simp [ha]

theorem insertSolves_some {l : List α} {ret : String → Option BlockSolve} {c : String}
    {b : BlockSolve} (h : insertSolves code meets mk l ret c = some b) :
    ret c = some b ∨ ∃ a ∈ l, code a = c ∧ meets a ∧ b = mk a := by
  induction l generalizing ret with
  | nil => exact .inl h
  | cons a l ih =>
    rw [insertSolves, List.foldl_cons, ← insertSolves] at h
    rcases ih h with h | ⟨x, hx, hxc, hxm, rfl⟩
    · by_cases ha : meets a
      · by_cases hc : code a = c
        · subst hc
          simp only [ha, if_true, Function.update_same, Option.some.injEq] at h
          exact .inr ⟨a, List.mem_cons_self _ _, rfl, ha, h.symm⟩
        · simp only [ha, if_true, Function.update_noteq (Ne.symm hc)] at h
          exact .inl h
      · simp only [ha, if_false] at h
        exact .inl h
    · exact .inr ⟨x, List.mem_cons_of_mem _ hx, hxc, hxm, rfl⟩

end Insert

namespace Job

variable (j : Job)

/-- Every chain of the job with the block solve it would receive, main first. -/
def solveEntries (coinbase coinbaseHash header headerHsh : Bytes) (bigHsh : Nat) :
    List (ChainRecord × BlockSolve) :=
  (⟨j.currencyConfig.code, j.height, j.subsidy, j.target⟩,
      j.mainSolve coinbase coinbaseHash header bigHsh) ::
    j.auxChains.map fun mj => (⟨mj.currencyConfig.code, mj.height, mj.subsidy, mj.target⟩,
      j.auxSolve mj coinbase headerHsh header bigHsh)

@[simp] theorem map_fst_solveEntries (coinbase coinbaseHash header headerHsh : Bytes)
    (bigHsh : Nat) :
    (j.solveEntries coinbase coinbaseHash header headerHsh bigHsh).map Prod.fst = j.chains := by
  simp [solveEntries, chains]

/-- Each block solve carries the hash and its chain's height, subsidy and target. -/
theorem solveEntries_record {coinbase coinbaseHash header headerHsh : Bytes} {bigHsh : Nat}
    {e : ChainRecord × BlockSolve} (he : e ∈ j.solveEntries coinbase coinbaseHash header headerHsh bigHsh) :
    e.2.powhash = bigHsh ∧ e.2.height = e.1.height ∧ e.2.subsidy = e.1.subsidy ∧
      e.2.target = e.1.target := by
  simp only [solveEntries, List.mem_cons, List.mem_map] at he
  rcases he with rfl | ⟨mj, -, rfl⟩ <;> exact ⟨rfl, rfl, rfl, rfl⟩

/-- The verifier body is the insertion loop over all chains of the job, main first. -/
theorem collectSolves_eq (coinbase coinbaseHash header headerHsh : Bytes)
    (shareTarget : Option Int) :
    j.collectSolves coinbase coinbaseHash header headerHsh shareTarget =
      (newHash headerHsh).mapError Exit.error >>= fun hashObj =>
        pure (insertSolves (·.1.code) (fun e => (hashToBig hashObj : Int) ≤ e.1.target) (·.2)
          (j.solveEntries coinbase coinbaseHash header headerHsh (hashToBig hashObj)) fun _ => none,
          (match shareTarget with
            | some t => decide (t ≤ hashToBig hashObj)
            | none => false),
          j.chains.map (·.code)) := by
  simp only [collectSolves, solveEntries, insertSolves, List.foldl_cons, List.foldl_map, chains,
    List.map_cons, List.map_map]
  rfl

theorem newHash_eq_ok {b b' : Bytes} (h : newHash b = .ok b') : b' = b := by
  unfold newHash at h
  split at h <;> cases h
  rfl

/-- **The verifier body**: the solved chains are those whose target the hash meets, each solve
records the hash and its chain, the share is valid when the hash reaches the share target, and
every chain's code is listed. -/
theorem collectSolves_spec {coinbase coinbaseHash header headerHsh : Bytes}
    {shareTarget : Option Int} {ret : String → Option BlockSolve} {valid : Bool}
    {cs : List String}
    (h : j.collectSolves coinbase coinbaseHash header headerHsh shareTarget = .ok (ret, valid, cs)) :
    (∀ c, (ret c).isSome ↔ ∃ r ∈ j.chains, r.code = c ∧ (hashToBig headerHsh : Int) ≤ r.target) ∧
    (∀ c b, ret c = some b → b.powhash = hashToBig headerHsh ∧ ∃ r ∈ j.chains, r.code = c ∧
      (hashToBig headerHsh : Int) ≤ r.target ∧ b.height = r.height ∧ b.subsidy = r.subsidy ∧
      b.target = r.target) ∧
    (valid = true ↔ ∃ t, shareTarget = some t ∧ t ≤ hashToBig headerHsh) ∧
    cs = j.chains.map (·.code) := by
  rw [collectSolves_eq] at h
  obtain ⟨hashObj, hnh, hpure⟩ := bind_eq_ok.mp h
  obtain rfl := newHash_eq_ok (mapError_eq_ok.mp hnh)
  obtain ⟨rfl, rfl, rfl⟩ : _ ∧ _ ∧ _ := by simpa [pure, Except.pure] using hpure
  refine ⟨fun c => ?_, fun c b hb => ?_, ?_, rfl⟩
  · rw [insertSolves_isSome, Option.isSome_none, Bool.false_eq_true, false_or,
      ← map_fst_solveEntries j coinbase coinbaseHash header hashObj (hashToBig hashObj)]
    constructor
    · rintro ⟨e, he, hP⟩
      exact ⟨e.1, List.mem_map_of_mem _ he, hP⟩
    · rintro ⟨r, hr, hP⟩
      obtain ⟨e, he, rfl⟩ := List.mem_map.mp hr
      exact ⟨e, he, hP⟩
  · rcases insertSolves_some hb with hb | ⟨e, he, rfl, hmeets, rfl⟩
    · cases hb
    · obtain ⟨h1, h2, h3, h4⟩ := j.solveEntries_record he
      refine ⟨h1, e.1, ?_, rfl, hmeets, h2, h3, h4⟩
      rw [← map_fst_solveEntries j coinbase coinbaseHash header hashObj (hashToBig hashObj)]
      exact List.mem_map_of_mem _ he
  · cases shareTarget <;> simp

/-- A 32-byte digest always gets the shared body past `NewHash`. -/
theorem collectSolves_isOk (coinbase coinbaseHash header headerHsh : Bytes) (t : Option Int)
    (h : headerHsh.length = 32) :
    ∃ r, j.collectSolves coinbase coinbaseHash header headerHsh t = .ok r := by
  rw [collectSolves_eq]
  simp [newHash, h, bind, Except.bind, pure, Except.pure, Except.mapError]

/-- With the `sha256d` algorithm a classic check reaches the shared body with the `sha256d` of
its header. -/
theorem checkSolves_extranonce_sha256d (hj : j.algo = sha256dAlgo) (reg : Registry)
    (s : ExtranonceSolve) (t : Option Int) :
    j.checkSolves reg (.extranonceSolve s) t =
      j.collectSolves (j.extranonceCoinbase s) (sha256d (j.extranonceCoinbase s))
        (j.extranonceHeader s) (sha256d (j.extranonceHeader s)) t := by
  simp only [checkSolves, checkExtranonceSolve, hj, sha256dAlgo, Except.mapError, bind,
    Except.bind, Hasher.sum_eq, Hasher.write_buf, Hasher.new_buf, List.nil_append]
  rfl

theorem powDigest_extranonce_sha256d (hj : j.algo = sha256dAlgo) (reg : Registry)
    (s : ExtranonceSolve) :
    j.powDigest reg (.extranonceSolve s) = .ok (sha256d (j.extranonceHeader s)) := by
  simp only [powDigest, hj, sha256dAlgo, Except.mapError]

/-- **Inversion of `CheckSolves`**: a successful check computed the digest `powDigest` of its
variant's header and passed it to the shared body. -/
theorem checkSolves_ok {reg : Registry} {solve : SolveData} {shareTarget : Option Int}
    {r : SolveResult} (h : j.checkSolves reg solve shareTarget = .ok r) :
    ∃ coinbase coinbaseHash header digest, j.powDigest reg solve = .ok digest ∧
      j.collectSolves coinbase coinbaseHash header digest shareTarget = .ok r := by
  cases solve with
  | extranonceSolve v =>
    obtain ⟨d, hd, hc⟩ := bind_eq_ok.mp h
    exact ⟨_, _, _, d, hd, hc⟩
  | solutionSolve v =>
    simp only [checkSolves, checkSolSolve, powDigest] at h ⊢
    cases halgo : reg.algoConfig "sha256d" with
    | none => simp [halgo] at h
    | some algo =>
      simp only [halgo] at h ⊢
      obtain ⟨d, hd, hc⟩ := bind_eq_ok.mp h
      exact ⟨_, _, _, d, hd, hc⟩
  | unrecognized => cases h

/-! ### Solved chains and valid shares -/

/-- **The solved chains.** When `CheckSolves` succeeds with PoW integer `h` (the `HashToBig`
of the digest its variant computes), the returned map has a solve exactly for the codes of the
chains — main or aux — whose target `h` meets; each solve carries `h` and the height, subsidy
and target of such a chain; and the chain list is the main code followed by the aux codes in
order. -/
theorem checkSolves_solved_chains (reg : Registry) (solve : SolveData) (shareTarget : Option Int)
    {ret : String → Option BlockSolve} {valid : Bool} {cs : List String}
    (h : j.checkSolves reg solve shareTarget = .ok (ret, valid, cs)) :
    ∃ digest, j.powDigest reg solve = .ok digest ∧
      (∀ c, (ret c).isSome ↔ ∃ r ∈ j.chains, r.code = c ∧ (hashToBig digest : Int) ≤ r.target) ∧
      (∀ c b, ret c = some b → b.powhash = hashToBig digest ∧ ∃ r ∈ j.chains, r.code = c ∧
        (hashToBig digest : Int) ≤ r.target ∧ b.height = r.height ∧ b.subsidy = r.subsidy ∧
        b.target = r.target) ∧
      cs = j.chains.map (·.code) := by
  obtain ⟨_, _, _, digest, hd, hc⟩ := j.checkSolves_ok h
  obtain ⟨h1, h2, -, h4⟩ := j.collectSolves_spec hc
  exact ⟨digest, hd, h1, h2, h4⟩

/-- The solved-chains theorem at `splitJob`, through both variants. A classic submission hashes to
`h₁` with the job's algorithm and solves `NMC` and `SYS`; an Equihash one hashes to `h₂ > h₁`
with the registry's `sha256d` and solves `NMC` only; neither solves `BTC`. -/
theorem checkSolves_solved_chains_split :
    (∃ ret valid cs, splitJob.checkSolves twoDigestRegistry (.extranonceSolve default) none =
      .ok (ret, valid, cs) ∧ ret "BTC" = none ∧ (ret "NMC").isSome ∧ (ret "SYS").isSome) ∧
    (∃ ret valid cs, splitJob.checkSolves twoDigestRegistry (.solutionSolve default) none =
      .ok (ret, valid, cs) ∧ ret "BTC" = none ∧ (ret "NMC").isSome ∧ ret "SYS" = none) := by
  constructor
  · obtain ⟨ret, valid, cs, h⟩ : ∃ ret valid cs, splitJob.checkSolves twoDigestRegistry
        (.extranonceSolve default) none = .ok (ret, valid, cs) := ⟨_, _, _, rfl⟩
    obtain ⟨digest, hd, hsolved, -⟩ := checkSolves_solved_chains splitJob twoDigestRegistry _ _ h
    obtain rfl : List.replicate 32 1 = digest := Except.ok.inj hd
    exact ⟨ret, valid, cs, h, Option.not_isSome_iff_eq_none.mp ((hsolved "BTC").not.mpr (by decide)),
      (hsolved "NMC").mpr (by decide), (hsolved "SYS").mpr (by decide)⟩
  · obtain ⟨ret, valid, cs, h⟩ : ∃ ret valid cs, splitJob.checkSolves twoDigestRegistry
        (.solutionSolve default) none = .ok (ret, valid, cs) := ⟨_, _, _, rfl⟩
    obtain ⟨digest, hd, hsolved, -⟩ := checkSolves_solved_chains splitJob twoDigestRegistry _ _ h
    obtain rfl : List.replicate 32 2 = digest := Except.ok.inj hd
    exact ⟨ret, valid, cs, h, Option.not_isSome_iff_eq_none.mp ((hsolved "BTC").not.mpr (by decide)),
      (hsolved "NMC").mpr (by decide),
      Option.not_isSome_iff_eq_none.mp ((hsolved "SYS").not.mpr (by decide))⟩

/-- **The share verdict.** When `CheckSolves` succeeds with PoW integer `h`, the share is valid
exactly when a share target `t` is given and `h ≥ t` — the comparison opposite to the block
targets'. -/
theorem checkSolves_validShare (reg : Registry) (solve : SolveData) (shareTarget : Option Int)
    {ret : String → Option BlockSolve} {valid : Bool} {cs : List String}
    (h : j.checkSolves reg solve shareTarget = .ok (ret, valid, cs)) :
    ∃ digest, j.powDigest reg solve = .ok digest ∧
      (valid = true ↔ ∃ t, shareTarget = some t ∧ t ≤ hashToBig digest) := by
  obtain ⟨_, _, _, digest, hd, hc⟩ := j.checkSolves_ok h
  exact ⟨digest, hd, (j.collectSolves_spec hc).2.2.1⟩

/-- The share verdict at `splitJob` with the share target `h₁ + 1`, strictly between the two
hashes: the classic submission (`h₁`) is no share, the Equihash one (`h₂`) is. -/
theorem checkSolves_validShare_between :
    (∃ r, splitJob.checkSolves twoDigestRegistry (.extranonceSolve default)
      (some (hashToBig (List.replicate 32 1) + 1)) = .ok r ∧ r.2.1 = false) ∧
    (∃ r, splitJob.checkSolves twoDigestRegistry (.solutionSolve default)
      (some (hashToBig (List.replicate 32 1) + 1)) = .ok r ∧ r.2.1 = true) := by
  constructor
  · obtain ⟨ret, valid, cs, h⟩ : ∃ ret valid cs, splitJob.checkSolves twoDigestRegistry
        (.extranonceSolve default) (some (hashToBig (List.replicate 32 1) + 1)) =
        .ok (ret, valid, cs) := ⟨_, _, _, rfl⟩
    obtain ⟨digest, hd, hvalid⟩ := checkSolves_validShare splitJob twoDigestRegistry _ _ h
    obtain rfl : List.replicate 32 1 = digest := Except.ok.inj hd
    simp only [Option.some.injEq, exists_eq_left'] at hvalid
    exact ⟨_, h, Bool.eq_false_iff.mpr fun hv => absurd (hvalid.mp hv) (by decide)⟩
  · obtain ⟨ret, valid, cs, h⟩ : ∃ ret valid cs, splitJob.checkSolves twoDigestRegistry
        (.solutionSolve default) (some (hashToBig (List.replicate 32 1) + 1)) =
        .ok (ret, valid, cs) := ⟨_, _, _, rfl⟩
    obtain ⟨digest, hd, hvalid⟩ := checkSolves_validShare splitJob twoDigestRegistry _ _ h
    obtain rfl : List.replicate 32 2 = digest := Except.ok.inj hd
    simp only [Option.some.injEq, exists_eq_left'] at hvalid
    exact ⟨_, h, hvalid.mpr (by decide)⟩

set_option maxRecDepth 4000 in
/-- A share target no harder than the network target does not make every block solve a valid
share: with target `2^256` on both sides, every `sha256d` hash solves the main chain and none
is a share. -/
theorem checkSolves_block_solve_not_share :
    ¬ ∀ (reg : Registry) (j : Job) (solve : SolveData) (t : Int) (r : SolveResult)
        (digest : Bytes), j.target ≤ t → j.checkSolves reg solve (some t) = .ok r →
        j.powDigest reg solve = .ok digest → (hashToBig digest : Int) ≤ t → r.2.1 = true := by
  intro h
  let j : Job := { (default : Job) with target := 2 ^ 256, algo := sha256dAlgo }
  have hj : j.algo = sha256dAlgo := rfl
  let header := j.extranonceHeader default
  obtain ⟨r, hr⟩ := j.collectSolves_isOk (j.extranonceCoinbase default)
    (sha256d (j.extranonceCoinbase default)) header _ (some (2 ^ 256)) (length_sha256d header)
  have hlt := hashToBig_sha256d_lt header
  have hvalid := (j.collectSolves_spec hr).2.2.1
  rw [← j.checkSolves_extranonce_sha256d hj default] at hr
  obtain ⟨t, ht, hle⟩ := hvalid.mp (h default j (.extranonceSolve default) _ r _ le_rfl hr
    (j.powDigest_extranonce_sha256d hj default default) hlt.le)
  cases ht
  exact absurd hle (not_le.mpr hlt)

/-! ### Duplicate-share keys -/

theorem SolutionSolve.getKey_eq {s s' : SolutionSolve} (h2 : s.nonce2 = s'.nonce2)
    (hs : s.solution = s'.solution) (ht : s.nTime = s'.nTime) : s.getKey = s'.getKey := by
  simp only [SolutionSolve.getKey, h2, hs, ht]

/-- With fields of equal lengths, classic keys are equal exactly when all four fields are. -/
theorem ExtranonceSolve.getKey_eq_iff {s s' : ExtranonceSolve}
    (h1 : s.extraNonce1.length = s'.extraNonce1.length)
    (ht : s.nTime.length = s'.nTime.length) (hn : s.nonce.length = s'.nonce.length) :
    s.getKey = s'.getKey ↔ s.extraNonce2 = s'.extraNonce2 ∧ s.extraNonce1 = s'.extraNonce1 ∧
      s.nTime = s'.nTime ∧ s.nonce = s'.nonce := by
  constructor
  · intro h
    obtain ⟨h, hnonce⟩ := List.append_inj' h hn
    obtain ⟨h, htime⟩ := List.append_inj' h ht
    obtain ⟨hen2, hen1⟩ := List.append_inj' h h1
    exact ⟨hen2, hen1, htime, hnonce⟩
  · rintro ⟨h2, h1, ht, hn⟩
    simp only [ExtranonceSolve.getKey, h2, h1, ht, hn]

/-- **What a repeated header says about the duplicate-share key.** An Equihash header fixes
every field of the key. A classic header fixes the nonce but not `nTime`, which it never reads:
two classic solves with the same header have the same key exactly when their extranonces and
`nTime` agree. -/
theorem getKey_of_same_header :
    (∀ s s' : SolutionSolve, s.nTime.length = s'.nTime.length →
      s.nonce1.length = s'.nonce1.length → s.nonce2.length = s'.nonce2.length →
      s.solution.length = s'.solution.length →
      j.solSolveHeader s = j.solSolveHeader s' → s.getKey = s'.getKey) ∧
    (∀ s s' : ExtranonceSolve, s.nonce.length = s'.nonce.length →
      s.nTime.length = s'.nTime.length → s.extraNonce1.length = s'.extraNonce1.length →
      s.extraNonce2.length = s'.extraNonce2.length →
      j.extranonceHeader s = j.extranonceHeader s' →
      (s.getKey = s'.getKey ↔ s.extraNonce1 = s'.extraNonce1 ∧ s.extraNonce2 = s'.extraNonce2 ∧
        s.nTime = s'.nTime)) ∧
    ∀ (s : ExtranonceSolve) (nTime : Bytes), j.extranonceHeader { s with nTime } = j.extranonceHeader s := by
  refine ⟨fun s s' ht h1 h2 hs h => ?_, fun s s' hn ht h1 _ h => ?_, j.extranonceHeader_nTime⟩
  · obtain ⟨h, hsol⟩ := List.append_inj' h hs
    obtain ⟨h, hn2⟩ := List.append_inj' h h2
    obtain ⟨h, -⟩ := List.append_inj' h h1
    obtain ⟨h, -⟩ := List.append_inj' h rfl
    exact SolutionSolve.getKey_eq hn2 hsol (List.append_inj' h ht).2
  · have hnonce : s.nonce = s'.nonce := (List.append_inj' h hn).2
    rw [ExtranonceSolve.getKey_eq_iff h1 ht hn]
    simp only [hnonce, and_true]
    tauto

end Job

/-- Two classic solves differing only in `nTime` get the same header and different keys. -/
theorem extranonce_same_header_new_key :
    ¬ ∀ (j : Job) (s s' : ExtranonceSolve), s.nonce.length = s'.nonce.length →
      s.nTime.length = s'.nTime.length → s.extraNonce1.length = s'.extraNonce1.length →
      s.extraNonce2.length = s'.extraNonce2.length →
      j.extranonceHeader s = j.extranonceHeader s' → s.getKey = s'.getKey := by
  intro h
  let s : ExtranonceSolve := ⟨[0, 0, 0, 0], [0, 0, 0, 0], [0, 0, 0, 0], [0, 0, 0, 0]⟩
  have := h default s { s with nTime := [0, 0, 0, 1] } rfl rfl rfl rfl
    (Job.extranonceHeader_nTime _ _ _).symm
  exact absurd this (by decide)

end Ngpool