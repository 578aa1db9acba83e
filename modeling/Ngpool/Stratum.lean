import Ngpool.Solve

/-!
# Stratum Parameters

The job's parameters for the three Stratum shapes: `GetStratumParams` for `mining.notify`,
`GetZCashStratumParams` for Equihash miners and `GetStratum2Params` for JSON-RPC 2 miners. They
send header fields as hex text; an Equihash miner also receives the merkle root, which it places
in the header it solves, and the verifier `checkSolSolve` recomputes that root on its own.

`GetZCashStratumParams` hashes the coinbase and then walks the merkle branch with the same
hasher, without resetting it in between, while `checkSolSolve` resets it. With an empty branch
the two roots are the coinbase hash; with a non-empty one the announced root starts from
`sha256d (coinbase ++ coinbaseHash ++ b₀)` and the verifier's from
`sha256d (coinbaseHash ++ b₀)`.

`GetStratum2Params` sends the first 76 bytes of the header, sliced as `header[:76]` from the
slice `GetBlockHeader`'s `bytes.Buffer` returns. Nothing checks the header's length: the job
builder stores whatever the previous hash and the bits decode to, so the header has
`44 + |prevBlockHash| + |bits|` bytes, and the slice reads past it, or past its capacity.

## Main results

* `zcashParams_header`: every field of an Equihash header is the hex-decoded parameter, except
  that the announced root equals the verifier's only when the branch is empty; otherwise the two
  first merkle steps hash different byte strings.
* `newJobFromTemplates_header`: the field lengths of every job the builder returns, the length
  of its header, and exactly when `GetStratum2Params` panics.
-/

namespace Ngpool

/-- The values of `GetStratumParams` after the job ID the Stratum server adds, in order. -/
structure StratumParams where
  prevBlockHash : String
  coinbase1 : String
  coinbase2 : String
  merkleBranch : List String
  version : String
  bits : String
  time : String
  cleanJobs : Bool

/-- The seven values of `GetZCashStratumParams`, in order. -/
structure ZCashStratumParams where
  version : String
  prevBlockHash : String
  merkleRoot : String
  reserved : String
  time : String
  bits : String
  cleanJobs : Bool

/-- `GetBlockHeader` on its `bytes.Buffer`: the bytes written, with the capacity of the slice
it returns. -/
def MainChainJob.headerBuffer (j : MainChainJob) (nonce coinbaseHash : Bytes) : GoBuffer :=
  let rootHash := (merkleWalk Hasher.new coinbaseHash j.merkleBranch).2
  [j.version, j.prevBlockHash, rootHash, j.time, j.bits, nonce].foldl GoBuffer.write GoBuffer.empty

theorem MainChainJob.headerBuffer_bytes (j : MainChainJob) (nonce coinbaseHash : Bytes) :
    (j.headerBuffer nonce coinbaseHash).bytes = j.getBlockHeader nonce coinbaseHash := by
  simp only [headerBuffer, GoBuffer.foldl_write_bytes]
  simp [getBlockHeader, GoBuffer.empty]

/-- The header of a 32-byte coinbase hash has its fields' lengths and 32 bytes of root. -/
theorem MainChainJob.length_getBlockHeader (j : MainChainJob) (nonce : Bytes) {coinbaseHash : Bytes}
    (h : coinbaseHash.length = 32) :
    (j.getBlockHeader nonce coinbaseHash).length = j.version.length + j.prevBlockHash.length + 32 +
      j.time.length + j.bits.length + nonce.length := by
  simp [getBlockHeader, length_merkleRootFrom h]
  omega

/-- A header whose first field, the version, is a small non-empty write stays in the buffer's
first allocation or grows past twice its size. -/
theorem MainChainJob.headerBuffer_sized (j : MainChainJob) (nonce coinbaseHash : Bytes)
    (h0 : 0 < j.version.length) (h : j.version.length ≤ smallBufferSize) :
    (j.headerBuffer nonce coinbaseHash).Sized :=
  (GoBuffer.sized_empty_write h0 h).foldl _

/-- The Equihash job of the failing input: empty coinbase halves, so that the coinbase is the
8-byte zero extranonce, and a merkle branch of one all-zero step. -/
def zeroBranchJob : Job := { (default : Job) with merkleBranch := [List.replicate 32 0] }

namespace Job

variable (j : Job)

/-- `GetStratumParams`. -/
def getStratumParams : StratumParams where
  prevBlockHash := encodeToString j.prevBlockHash
  coinbase1 := encodeToString j.coinbase1
  coinbase2 := encodeToString j.coinbase2
  merkleBranch := j.merkleBranch.map encodeToString
  version := encodeToString j.version
  bits := encodeToString j.bits
  time := encodeToString j.time
  cleanJobs := j.cleanJobs

/-- The root `GetZCashStratumParams` announces: the coinbase hasher walks the branch without
being reset first. -/
def zcashAnnouncedRoot : Bytes :=
  let hasher := Hasher.new.write j.zcashCoinbase
  (merkleWalk hasher hasher.sum j.merkleBranch).2

/-- `GetZCashStratumParams`. -/
def getZCashStratumParams : ZCashStratumParams where
  version := encodeToString j.version
  prevBlockHash := encodeToString j.prevBlockHash
  merkleRoot := encodeToString j.zcashAnnouncedRoot
  reserved := "0000000000000000000000000000000000000000000000000000000000000000"
  time := encodeToString j.time
  bits := encodeToString j.bits
  cleanJobs := j.cleanJobs

/-- The announced root, in closed form. -/
theorem zcashAnnouncedRoot_eq : j.zcashAnnouncedRoot =
    match j.merkleBranch with
    | [] => sha256d j.zcashCoinbase
    | b :: bs => merkleRootFrom (sha256d (j.zcashCoinbase ++ sha256d j.zcashCoinbase ++ b)) bs := by
  unfold zcashAnnouncedRoot
  split <;> simp_all [merkleWalk, merkleWalk_cons]

/-- The root `checkSolSolve` recomputes: the left fold from the coinbase hash. -/
theorem solSolveHeader_eq (s : SolutionSolve) : j.solSolveHeader s =
    j.version ++ j.prevBlockHash ++ merkleRootFrom (sha256d j.zcashCoinbase) j.merkleBranch ++
      List.replicate 32 0 ++ s.nTime ++ j.bits ++ s.nonce1 ++ s.nonce2 ++ s.solution := by
  simp [solSolveHeader]

/-- **The Equihash header against the announced parameters.** Version, previous hash, time and
bits decode to exactly the bytes the verifier's header carries, and so does the root when the
merkle branch is empty. For a branch `b :: bs` the announced root folds from
`sha256d (coinbase ++ coinbaseHash ++ b)`, the verifier's from `sha256d (coinbaseHash ++ b)`,
two preimages of different lengths. -/
theorem zcashParams_header (s : SolutionSolve) :
    let p := j.getZCashStratumParams
    let coinbaseHash := sha256d j.zcashCoinbase
    decodeString p.version = .ok j.version ∧ decodeString p.prevBlockHash = .ok j.prevBlockHash ∧
    decodeString p.time = .ok j.time ∧ decodeString p.bits = .ok j.bits ∧
    decodeString p.merkleRoot = .ok j.zcashAnnouncedRoot ∧
    j.solSolveHeader s = j.version ++ j.prevBlockHash ++ merkleRootFrom coinbaseHash j.merkleBranch ++
      List.replicate 32 0 ++ s.nTime ++ j.bits ++ s.nonce1 ++ s.nonce2 ++ s.solution ∧
    (j.merkleBranch = [] → j.zcashAnnouncedRoot = merkleRootFrom coinbaseHash j.merkleBranch) ∧
    ∀ b bs, j.merkleBranch = b :: bs →
      j.zcashAnnouncedRoot = merkleRootFrom (sha256d (j.zcashCoinbase ++ coinbaseHash ++ b)) bs ∧
      merkleRootFrom coinbaseHash j.merkleBranch = merkleRootFrom (sha256d (coinbaseHash ++ b)) bs ∧
      (j.zcashCoinbase ++ coinbaseHash ++ b).length = (coinbaseHash ++ b).length + 8 +
        j.coinbase1.length + j.coinbase2.length := by
  simp only [getZCashStratumParams, decodeString_encodeToString, true_and]
  refine ⟨j.solSolveHeader_eq s, fun h => ?_, fun b bs h => ?_⟩
  · rw [zcashAnnouncedRoot_eq, h, merkleRootFrom, List.foldl_nil]
  · rw [zcashAnnouncedRoot_eq, h]
    refine ⟨rfl, by rw [merkleRootFrom, List.foldl_cons]; rfl, ?_⟩
    simp only [zcashCoinbase, List.length_append, List.length_replicate]
    omega

set_option maxRecDepth 8000 in
/-- The Equihash header theorem at `zeroBranchJob`, whose coinbase hash is `7ef0ca62…`: the root
announced to miners is the `sha256d` of the 72 bytes `coinbase ++ coinbaseHash ++ b₀` and decodes
to `5ec36e46…`, while the header the verifier hashes carries the `sha256d` of the 64 bytes
`coinbaseHash ++ b₀`, `35e5481d…`. -/
theorem zcashParams_header_zeroBranch :
    decodeString zeroBranchJob.getZCashStratumParams.merkleRoot = .ok
      [0x5e, 0xc3, 0x6e, 0x46, 0x09, 0x92, 0x0c, 0x54, 0xef, 0xb3, 0xe9, 0xba, 0x78, 0x3e, 0xed,
        0x99, 0xe3, 0x12, 0xd9, 0x62, 0x75, 0x17, 0x5a, 0x93, 0xc0, 0x52, 0xa2, 0xc9, 0x36, 0xb3,
        0x11, 0x44] ∧
    zeroBranchJob.solSolveHeader default =
      [0x35, 0xe5, 0x48, 0x1d, 0x15, 0x4d, 0x0d, 0x07, 0x65, 0x2d, 0xdb, 0xd9, 0xe7, 0x14, 0x03,
        0x2d, 0xda, 0x16, 0x02, 0xea, 0xf2, 0x64, 0x15, 0xba, 0x6d, 0xf7, 0xb6, 0xaf, 0x90, 0x17,
        0x71, 0x25] ++ List.replicate 32 0 := by
  obtain ⟨-, -, -, -, hroot, hhdr, -, hbranch⟩ := zeroBranchJob.zcashParams_header default
  obtain ⟨hannounced, hverifier, -⟩ := hbranch _ [] rfl
  have hcoinbase : sha256d zeroBranchJob.zcashCoinbase =
      [0x7e, 0xf0, 0xca, 0x62, 0x6b, 0xbb, 0x05, 0x8d, 0xd4, 0x43, 0xbb, 0x78, 0xe3, 0x3b, 0x88,
        0x8b, 0xde, 0xc8, 0x29, 0x5c, 0x96, 0xe5, 0x1f, 0x55, 0x45, 0xf9, 0x63, 0x70, 0x87, 0x0c,
        0x10, 0xb9] := by decide
  rw [hroot, hhdr, hannounced, hverifier, hcoinbase]
  refine ⟨congrArg Except.ok ?_, ?_⟩ <;> decide

/-- `GetStratum2Params`: the hex of the first 76 bytes of the header over the coinbase with
`extranonce1` and a zero extranonce2, the map `{"blob": …}` by its one value. -/
def getStratum2Params (extranonce1 : Bytes) : Except Exit String := do
  let coinbase := j.coinbase1 ++ extranonce1 ++ [0, 0, 0, 0] ++ j.coinbase2
  let coinbaseHash := (Hasher.new.write coinbase).sum
  let blob ← (j.headerBuffer [0, 0, 0, 0] coinbaseHash).sliceTo 76
  pure (encodeToString blob)

/-- With a 4-byte version, `GetStratum2Params` panics exactly when the header has at most 64
bytes, and otherwise sends the header padded with zeros to 76 bytes. -/
theorem getStratum2Params_eq (hv : j.version.length = 4) (extranonce1 : Bytes) :
    j.getStratum2Params extranonce1 =
      let header := j.getBlockHeader [0, 0, 0, 0]
        (sha256d (j.coinbase1 ++ extranonce1 ++ [0, 0, 0, 0] ++ j.coinbase2))
      if header.length ≤ 64 then .error (sliceBoundsPanic 76 64)
      else .ok (encodeToString ((header ++ List.replicate 76 0).take 76)) := by
  have hs := (j.headerBuffer_sized [0, 0, 0, 0]
    (sha256d (j.coinbase1 ++ extranonce1 ++ [0, 0, 0, 0] ++ j.coinbase2))
    (by omega) (by rw [hv]; decide)).sliceTo (show smallBufferSize < 76 by decide) (by decide)
  simp only [getStratum2Params, Hasher.sum_eq, Hasher.write_buf, Hasher.new_buf, List.nil_append,
    hs, MainChainJob.headerBuffer_bytes, smallBufferSize]
  split_ifs <;> rfl

end Job

/-- **The header of a built job.** For every template list on which `NewJobFromTemplates`
returns a job: its version and time are 4 bytes, while its previous hash and bits are the
reversed decodes of a template's hex fields, of any length; each aux header has the same
shape; for a 4-byte nonce and a 32-byte coinbase hash the header has
`44 + |prevBlockHash| + |bits|` bytes; and `GetStratum2Params` panics, for every `extranonce1`,
exactly when the previous hash and bits have at most 20 bytes together. -/
theorem newJobFromTemplates_header (lib : TemplateLib) (reg : Registry) (algo : Algo)
    (templates : List (TemplateKey × Bytes)) (job : Job)
    (h : newJobFromTemplates lib reg algo templates = some (.ok job)) :
    job.version.length = 4 ∧ job.time.length = 4 ∧
    (∃ tmpl : BlockTemplate, decodeString tmpl.previousBlockhash = .ok job.prevBlockHash.reverse ∧
      decodeString tmpl.bits = .ok job.bits.reverse) ∧
    (∀ aux ∈ job.auxChains, ∃ (tmpl : BlockTemplate) (v : Nat) (prev root bits : Bytes),
      decodeString tmpl.previousBlockhash = .ok prev ∧ decodeString tmpl.bits = .ok bits ∧
      aux.blockHeader = putUint32 v ++ prev.reverse ++ root ++ putUint32 (uint32 tmpl.curTime) ++
        bits.reverse ++ [0, 0, 0, 0]) ∧
    (∀ nonce coinbaseHash : Bytes, nonce.length = 4 → coinbaseHash.length = 32 →
      (job.getBlockHeader nonce coinbaseHash).length =
        44 + job.prevBlockHash.length + job.bits.length) ∧
    ∀ extranonce1, job.getStratum2Params extranonce1 = .error (sliceBoundsPanic 76 64) ↔
      job.prevBlockHash.length + job.bits.length ≤ 20 := by
  obtain ⟨⟨mainJob, tmpl, config, hmain, hv, ht, hp, hb, -⟩, haux⟩ :=
    newJobFromTemplates_ok lib reg algo h
  obtain ⟨hv', ht', hp', hb', -⟩ := newMainChainJob_ok hmain
  have hv4 : job.version.length = 4 := by rw [hv, hv']; rfl
  have hlen : ∀ nonce coinbaseHash : Bytes, nonce.length = 4 → coinbaseHash.length = 32 →
      (job.getBlockHeader nonce coinbaseHash).length =
        44 + job.prevBlockHash.length + job.bits.length := fun nonce _ hn hc => by
    rw [MainChainJob.length_getBlockHeader _ _ hc, hv4, ht, ht', hn, length_putUint32]
    omega
  refine ⟨hv4, by rw [ht, ht']; rfl, ⟨tmpl, hp ▸ hp', hb ▸ hb'⟩, fun aux ha => ?_, hlen,
    fun e1 => ?_⟩
  · obtain ⟨t, c, aux', ht, hh⟩ := haux aux ha
    obtain ⟨prev, bits, hprev, hbits, hhdr, -⟩ := newAuxChainJob_ok ht
    exact ⟨t, _, prev, _, bits, hprev, hbits, hh ▸ hhdr⟩
  · rw [Job.getStratum2Params_eq job hv4]
    dsimp only
    rw [hlen [0, 0, 0, 0] _ rfl (length_sha256d _)]
    split
    · exact iff_of_true rfl (by omega)
    · exact iff_of_false (fun h => nomatch h) (by omega)

/-- A main template whose previous hash and bits are empty, alone in the template list. -/
def emptyFieldsTemplates : List (TemplateKey × Bytes) := [(⟨"BTC", "getblocktemplate"⟩, [])]

/-- The header theorem at a main template with empty previous hash and bits: the builder
returns a job whose header, for a 4-byte nonce and a 32-byte coinbase hash, has 44 bytes, and
`GetStratum2Params` slices it past its capacity of 64 bytes for every `extranonce1`. -/
theorem newJobFromTemplates_header_emptyFields :
    ∃ job, newJobFromTemplates (constLib chainIdOneTemplate) openRegistry default
        emptyFieldsTemplates = some (.ok job) ∧ job.prevBlockHash = [] ∧ job.bits = [] ∧
      (job.getBlockHeader [0, 0, 0, 0] (List.replicate 32 0)).length = 44 ∧
      ∀ extranonce1, job.getStratum2Params extranonce1 = .error (sliceBoundsPanic 76 64) := by
  obtain ⟨job, h⟩ : ∃ job, newJobFromTemplates (constLib chainIdOneTemplate) openRegistry default
      emptyFieldsTemplates = some (.ok job) := ⟨_, rfl⟩
  obtain ⟨hp, hb⟩ : job.prevBlockHash = [] ∧ job.bits = [] := by
    cases h
    exact ⟨rfl, rfl⟩
  obtain ⟨-, -, -, -, hlen, hpanic⟩ :=
    newJobFromTemplates_header (constLib chainIdOneTemplate) openRegistry default _ job h
  refine ⟨job, h, hp, hb,
    by rw [hlen [0, 0, 0, 0] (List.replicate 32 0) rfl (List.length_replicate _ _), hp, hb]; rfl,
    fun e => (hpanic e).mpr ?_⟩
  rw [hp, hb]
  decide

end Ngpool
