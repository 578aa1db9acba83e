import Ngpool.MerkleLoop

/-!
# Building a Job from Templates

`NewJobFromTemplates` turns one main template and any number of aux templates into a `Job`:
the template loop (lines 36–73) parses each template and builds its chain job, recording
heights by currency code; the packing loop (`Ngpool.MerkleLoop`) places the aux header hashes;
each aux chain receives its blockchain merkle branch; and the merge-mining blob is spliced into
the main coinbase.

Go ranges over the template map in a random order; the model takes the templates as a list in
iteration order, so every result below holds for every order.

The loop's body is split as the source's is: what an entry builds from its own template
(`templateChainJob`: decode, currency lookup, dispatch on the template type), and what the
loop then writes into the job (`TemplateLoopState.add`).

## Main results

* `newJobFromTemplates_duplicate_chainID`: once the templates are parsed and a main chain is
  set, two aux chain IDs congruent modulo `2^31` are not rejected: the packing loop runs a
  colliding pass at every table size up to `2^31`, and the builder returns neither a job nor
  an error.
* `newJobFromTemplates_ok`: a built job's fields come from successful `NewMainChainJob` and
  `NewAuxChainJob` calls.
-/

namespace Ngpool

/-- `TemplateKey`. -/
structure TemplateKey where
  currency : String
  templateType : String

/-- The registries of package `service` the job builder reads. -/
structure Registry where
  /-- `service.CurrencyConfig`. -/
  currencyConfig : String → Option ChainConfig
  /-- `service.AlgoConfig`. -/
  algoConfig : String → Option Algo
  deriving Inhabited

/-- `string(b)` as `%v` prints it: each byte as one character. -/
def goString (b : Bytes) : String := ⟨b.map fun x => Char.ofNat x.toNat⟩

/-- What the template loop threads: the job's heights and aux chains so far, and the main chain
job with its template once it is set (`mainJobSet`, `mainJobTemplate`). -/
structure TemplateLoopState where
  heights : String → Option Int
  auxChains : List AuxChainJob
  main : Option (MainChainJob × BlockTemplate)

/-- The state before the first template: `heights: map[string]int64{}`. -/
def TemplateLoopState.init : TemplateLoopState := ⟨fun _ => none, [], none⟩

/-- What one template entry builds: an aux chain job, or a main chain job with its template,
with the currency config the registry gave it. -/
inductive ChainJob
  | aux (config : ChainConfig) (job : AuxChainJob)
  | main (config : ChainConfig) (job : MainChainJob) (tmpl : BlockTemplate)

/-- The loop's writes for one chain job: its height under its currency code, and the aux chain
appended or the main chain job set with its template. -/
def TemplateLoopState.add (st : TemplateLoopState) : ChainJob → TemplateLoopState
  | .aux config job => { st with
      heights := Function.update st.heights config.code (some job.height),
      auxChains := st.auxChains ++ [job] }
  | .main config job tmpl => { st with
      heights := Function.update st.heights config.code (some job.height),
      main := some (job, tmpl) }

section Builder

variable (lib : TemplateLib) (reg : Registry) (algo : Algo)

/-- The template loop's body on one entry (lines 37–68) up to its writes: decode the template,
look up its currency config, and build its aux or main chain job. `mainJobSet` says whether a
main template came before; a second one is refused before its job is built. -/
def templateChainJob (mainJobSet : Bool) : TemplateKey × Bytes → Except Exit ChainJob
  | (tmplKey, tmplRaw) => do
    let tmpl ← (lib.unmarshal tmplRaw).mapError fun e =>
      .error ("Unable to deserialize template: " ++ goString tmplRaw ++ ": " ++ e)
    let some chainConfig := reg.currencyConfig tmplKey.currency
      | throw (.error ("No currency config for " ++ tmplKey.currency))
    if tmplKey.templateType = "getblocktemplate_aux" then
      let auxChainJob ← newAuxChainJob lib tmpl chainConfig algo
      pure (.aux chainConfig auxChainJob)
    else if tmplKey.templateType = "getblocktemplate" then
      if mainJobSet then throw (.error "You can only have one base currency template")
      let mainChainJob ← newMainChainJob lib tmpl chainConfig algo
      pure (.main chainConfig mainChainJob tmpl)
    else throw (.error ("Unrecognized TemplateType " ++ tmplKey.templateType))

/-- One iteration of the template loop: the entry's chain job written into the state. -/
def templateStep (st : TemplateLoopState) (entry : TemplateKey × Bytes) :
    Except Exit TemplateLoopState :=
  st.add <$> templateChainJob lib reg algo st.main.isSome entry

/-- The template loop. -/
def templateLoop (templates : List (TemplateKey × Bytes)) : Except Exit TemplateLoopState :=
  templates.foldlM (templateStep lib reg algo) TemplateLoopState.init

/-- The merge-mining blob `mmCoinbase` (lines 105–126): the marker `fa be 'm' 'm'`, the
commitment — the reversed merkle root of the table, or the reversed header hash of a lone aux
chain — and the size and nonce as little-endian words. Empty without aux chains. -/
def mmCoinbase (auxChains : List AuxChainJob) (merkleSize merkleNonce : Nat)
    (merkleBase : List (Option Bytes)) : Bytes :=
  if auxChains.length > 0 then
    let merkleRoot :=
      if auxChains.length > 1 then (lib.blockchainMerkleRoot merkleBase).reverse
      else (auxChains.headD default).headerHash.reverse
    [0xfa, 0xbe, 0x6d, 0x6d] ++ merkleRoot ++ putUint32 (merkleSize % 2 ^ 32) ++
      putUint32 merkleNonce
  else []

/-- Lines 99–134, after packing: each aux chain gets its branch and mask, and the coinbase is
split around the merge-mining blob. -/
def assembleJob (st : TemplateLoopState) (mainJob : MainChainJob) (mainJobTemplate : BlockTemplate)
    (merkleSize : Nat) (merkleBase : List (Option Bytes)) : Except Exit Job := do
  let auxChains := st.auxChains.map fun mj =>
    let (branch, mask) := lib.auxMerkleBranch merkleBase mj.headerHash
    { mj with blockchainMerkleBranch := branch, blockchainMerkleMask := mask }
  let blob := mmCoinbase lib auxChains merkleSize 0 merkleBase
  let (coinbase1, coinbase2) ← wrap "Unable to create coinbase"
    (lib.createCoinbaseSplit mainJobTemplate mainJob.currencyConfig blob)
  pure { toMainChainJob := { mainJob with coinbase1, coinbase2 }, heights := st.heights,
         auxChains, algo }

/-- `NewJobFromTemplates`; `none` only if the packing loop ran out of passes, which it never
does (`merkleLoop_of_distinct`, `merkleLoop_of_not_distinct`). -/
def newJobFromTemplates (templates : List (TemplateKey × Bytes)) : Option (Except Exit Job) :=
  match templateLoop lib reg algo templates with
  | .error e => some (.error e)
  | .ok st =>
    match st.main with
    | none => some (.error (.error "Must have a main chain template"))
    | some (mainJob, mainJobTemplate) =>
      (merkleLoop 0 st.auxChains 33 1).map fun r =>
        r.bind fun (merkleSize, merkleBase) =>
          assembleJob lib algo st mainJob mainJobTemplate merkleSize merkleBase

/-- The builder after a successful template loop with a main chain: the packing loop's outcome
decides. -/
theorem newJobFromTemplates_of_main {templates : List (TemplateKey × Bytes)}
    {st : TemplateLoopState} {mainJob : MainChainJob} {tmpl : BlockTemplate}
    (hloop : templateLoop lib reg algo templates = .ok st) (hmain : st.main = some (mainJob, tmpl)) :
    newJobFromTemplates lib reg algo templates =
      (merkleLoop 0 st.auxChains 33 1).map fun r =>
        r.bind fun (merkleSize, merkleBase) =>
          assembleJob lib algo st mainJob tmpl merkleSize merkleBase := by
  rw [newJobFromTemplates, hloop]
  simp only [hmain]

/-- **Duplicate chain IDs are not rejected.** Once the template loop has succeeded with a main
chain, two aux chains whose `uint32` chain IDs agree modulo `2^31` (a repeated chain ID, which
nothing checks, unlike the zero one `NewAuxChainJob` refuses) make every pass of the packing loop
collide: the loop runs the pass at every table size `2^k` up to `2^31`, each on its fresh table
of `2^k` entries, and the builder returns neither a job nor an error. What ends the Go loop is
outside the model, whose tables cost nothing: the process runs out of memory, or, if every
table up to `2^31` entries fits, evaluates `slot % 0` at the size `2^32`. -/
theorem newJobFromTemplates_duplicate_chainID {templates : List (TemplateKey × Bytes)}
    {st : TemplateLoopState} {mainJob : MainChainJob} {tmpl : BlockTemplate}
    (hloop : templateLoop lib reg algo templates = .ok st) (hmain : st.main = some (mainJob, tmpl))
    (hdup : ¬ IdsDistinct st.auxChains) :
    (∀ k ≤ 31, merkleLoop 0 st.auxChains 33 1 = merkleLoop 0 st.auxChains (33 - k) (2 ^ k) ∧
      fillSlots 0 (2 ^ k) st.auxChains (List.replicate (2 ^ k) none) = .collision) ∧
    ∀ r, newJobFromTemplates lib reg algo templates = some r →
      (∀ job, r ≠ .ok job) ∧ ∀ e, r = .error e → ¬ e.IsError := by
  have hnone : ∀ k ≤ 31, ¬ SlotsDistinct 0 st.auxChains k :=
    fun _ hk => not_slotsDistinct_of_not_idsDistinct 0 hdup hk
  refine ⟨fun k hk => ⟨merkleLoop_passes hnone k (by omega), ?_⟩, fun r hr => ?_⟩
  · rw [fillSlots_replicate (Nat.two_pow_pos k) (Nat.pow_lt_pow_right (by norm_num) (by omega))]
    exact if_neg (hnone k hk)
  · rw [newJobFromTemplates_of_main lib reg algo hloop hmain, merkleLoop_of_not_distinct 0 hdup]
      at hr
    cases hr
    exact ⟨fun _ => nofun, fun _ he => by cases he; exact id⟩

/-! ### What a built job holds -/

/-- What the template loop keeps: its main job and every aux job come from successful
`NewMainChainJob` and `NewAuxChainJob` calls on some template. -/
def TemplateLoopState.Built (st : TemplateLoopState) : Prop :=
  (∀ mainJob tmpl, st.main = some (mainJob, tmpl) →
    ∃ config, newMainChainJob lib tmpl config algo = .ok mainJob) ∧
  ∀ aux ∈ st.auxChains, ∃ tmpl config, newAuxChainJob lib tmpl config algo = .ok aux

/-- A chain job built by a successful `NewAuxChainJob` or `NewMainChainJob` call with its
config. -/
def ChainJob.Built : ChainJob → Prop
  | .aux config job => ∃ tmpl, newAuxChainJob lib tmpl config algo = .ok job
  | .main config job tmpl => newMainChainJob lib tmpl config algo = .ok job

/-- What an entry builds comes from a successful chain-job constructor. -/
theorem templateChainJob_built {mainJobSet : Bool} {entry : TemplateKey × Bytes} {k : ChainJob}
    (h : templateChainJob lib reg algo mainJobSet entry = .ok k) : k.Built lib algo := by
  obtain ⟨key, raw⟩ := entry
  obtain ⟨tmpl, -, h⟩ := bind_eq_ok.mp h
  split at h
  · split_ifs at h
    · obtain ⟨aux, haux, h⟩ := bind_eq_ok.mp h
      cases h
      exact ⟨tmpl, haux⟩
    · obtain ⟨_, h, -⟩ := bind_eq_ok.mp h
      cases h
    · obtain ⟨_, -, h⟩ := bind_eq_ok.mp h
      obtain ⟨mainJob, hmain, h⟩ := bind_eq_ok.mp h
      cases h
      exact hmain
  · cases h

/-- One iteration of the template loop keeps the state built. -/
theorem TemplateLoopState.Built.step {st st' : TemplateLoopState} (hb : st.Built lib algo)
    {entry : TemplateKey × Bytes} (h : templateStep lib reg algo st entry = .ok st') :
    st'.Built lib algo := by
  obtain ⟨k, hk, rfl⟩ := map_eq_ok.mp h
  have hkb := templateChainJob_built lib reg algo hk
  cases k with
  | aux config job =>
    refine ⟨hb.1, fun a ha => ?_⟩
    rcases List.mem_append.mp ha with ha | ha
    · exact hb.2 a ha
    · obtain ⟨tmpl, hkb⟩ := hkb
      exact ⟨tmpl, config, (List.mem_singleton.mp ha) ▸ hkb⟩
  | main config job tmpl =>
    refine ⟨fun m t ht => ?_, hb.2⟩
    cases ht
    exact ⟨config, hkb⟩

/-- Every successful template loop ends in a built state. -/
theorem templateLoop_built {templates : List (TemplateKey × Bytes)} {st : TemplateLoopState}
    (h : templateLoop lib reg algo templates = .ok st) : st.Built lib algo := by
  unfold templateLoop at h
  suffices ∀ (ts : List (TemplateKey × Bytes)) (s : TemplateLoopState), s.Built lib algo →
      ts.foldlM (templateStep lib reg algo) s = .ok st → st.Built lib algo from
    this templates _ ⟨fun _ _ h => Option.noConfusion h, fun _ h => absurd h (List.not_mem_nil _)⟩ h
  intro ts
  induction ts with
  | nil => intro s hs h; cases h; exact hs
  | cons t ts ih =>
    intro s hs h
    obtain ⟨s', hs', h⟩ := bind_eq_ok.mp h
    exact ih s' (hs.step lib reg algo hs') h

/-- A job the builder returns: its main-chain fields are those of a successful `NewMainChainJob`,
and its aux chains those of successful `NewAuxChainJob` calls, up to their blockchain branch. -/
theorem newJobFromTemplates_ok {templates : List (TemplateKey × Bytes)} {job : Job}
    (h : newJobFromTemplates lib reg algo templates = some (.ok job)) :
    (∃ mainJob tmpl config, newMainChainJob lib tmpl config algo = .ok mainJob ∧
      job.version = mainJob.version ∧ job.time = mainJob.time ∧
      job.prevBlockHash = mainJob.prevBlockHash ∧ job.bits = mainJob.bits ∧
      job.merkleBranch = mainJob.merkleBranch) ∧
    ∀ aux ∈ job.auxChains, ∃ tmpl config aux', newAuxChainJob lib tmpl config algo = .ok aux' ∧
      aux.blockHeader = aux'.blockHeader := by
  unfold newJobFromTemplates at h
  split at h
  · cases h
  · rename_i st hloop
    have hb := templateLoop_built lib reg algo hloop
    split at h
    · cases h
    · rename_i mainJob tmpl hmain
      obtain ⟨r, -, hr⟩ := Option.map_eq_some'.mp h
      obtain ⟨⟨size, base⟩, -, hr⟩ := bind_eq_ok.mp hr
      obtain ⟨_, -, hr⟩ := bind_eq_ok.mp hr
      cases hr
      obtain ⟨config, hconfig⟩ := hb.1 _ _ hmain
      refine ⟨⟨mainJob, tmpl, config, hconfig, rfl, rfl, rfl, rfl, rfl⟩, fun aux ha => ?_⟩
      obtain ⟨aux', ha', rfl⟩ := List.mem_map.mp ha
      obtain ⟨t, c, ht⟩ := hb.2 aux' ha'
      exact ⟨t, c, aux', ht, rfl⟩

end Builder

/-- A template library whose every template decodes to `tmpl` and whose helpers all succeed. -/
def constLib (tmpl : BlockTemplate) : TemplateLib where
  unmarshal _ := .ok tmpl
  getTarget _ := .ok 0
  merkleBranch _ := []
  merkleRoot _ h := h
  createCoinbase _ _ _ := .ok []
  createCoinbaseSplit _ _ _ := .ok ([], [])
  auxMerkleBranch _ _ := ([], 0)
  blockchainMerkleRoot _ := []

/-- A registry that knows every currency code. -/
def openRegistry : Registry where
  currencyConfig code := some { (default : ChainConfig) with code }
  algoConfig _ := none

/-- A template reporting chain ID `1`. -/
def chainIdOneTemplate : BlockTemplate where
  version := 1
  curTime := 0
  previousBlockhash := ""
  bits := ""
  height := 1
  coinbaseValue := 0
  transactions := []
  chainID := 1

/-- A main template and two aux templates whose daemons both report chain ID `1`. -/
def duplicateChainIdTemplates : List (TemplateKey × Bytes) :=
  [(⟨"BTC", "getblocktemplate"⟩, []), (⟨"NMC", "getblocktemplate_aux"⟩, []),
    (⟨"SYS", "getblocktemplate_aux"⟩, [])]

/-- The duplicate-ID theorem at a main template and two aux templates reporting chain ID `1`:
the loop runs a colliding pass at every size up to `2^31`, and no job or error comes back. -/
theorem newJobFromTemplates_duplicate_chainID_twoAux :
    ∃ st mainJob tmpl,
      templateLoop (constLib chainIdOneTemplate) openRegistry default duplicateChainIdTemplates =
        .ok st ∧ st.main = some (mainJob, tmpl) ∧ ¬ IdsDistinct st.auxChains ∧
      (∀ k ≤ 31, merkleLoop 0 st.auxChains 33 1 = merkleLoop 0 st.auxChains (33 - k) (2 ^ k) ∧
        fillSlots 0 (2 ^ k) st.auxChains (List.replicate (2 ^ k) none) = .collision) ∧
      ∀ r, newJobFromTemplates (constLib chainIdOneTemplate) openRegistry default
          duplicateChainIdTemplates = some r →
        (∀ job, r ≠ .ok job) ∧ ∀ e, r = .error e → ¬ e.IsError := by
  obtain ⟨st, hloop, mainJob, tmpl, hmain, hdup⟩ : ∃ st,
      templateLoop (constLib chainIdOneTemplate) openRegistry default duplicateChainIdTemplates =
        .ok st ∧ ∃ mainJob tmpl, st.main = some (mainJob, tmpl) ∧ ¬ IdsDistinct st.auxChains :=
    ⟨_, rfl, _, _, rfl, by decide⟩
  exact ⟨st, mainJob, tmpl, hloop, hmain, hdup,
    newJobFromTemplates_duplicate_chainID _ _ _ hloop hmain hdup⟩

end Ngpool
