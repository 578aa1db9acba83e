import Ngpool.Hex
import Ngpool.Sha256d

/-!
# Chain Jobs

The data model of the mining job core and the construction of its two kinds of chain job:
`newMainChainJob` for the parent chain, whose header miners hash, and `newAuxChainJob` for
each merge-mined auxiliary chain, whose standalone header is committed into the parent's
coinbase.

Configuration and template types (`service.ChainConfig`, `service.Algo`, `BlockTemplate`) are
declared outside `src/`; they are modelled by the fields the code under `src/` reads. The
template methods the constructors call (`getTarget`, `merkleBranch`, `merkleRoot`,
`createCoinbase`, `createCoinbaseSplit`), the package's blockchain-merkle helpers and the JSON
decoder live in files that are not under `src/` either, and are taken as parameters, bundled in
`TemplateLib`: every result proved about the job builder holds for every implementation of
them.

Numbers follow Go: template integers are `Int`, a `uint32` word is a `Nat` below `2^32`, and a
`*big.Int` target is an `Int`.
-/

namespace Ngpool

/-- `service.ChainConfig`, by the fields the job core reads. `multiAlgoMap` is a Go map read
with its zero default. -/
structure ChainConfig where
  code : String
  blockSubsidyAddress : String
  flushAux : Bool
  multiAlgo : Bool
  multiAlgoMap : String → Nat
  multiAlgoBitShift : Nat
  multiAlgoBitWidth : Nat
  deriving Inhabited

/-- `service.Algo`: a name and a proof-of-work hash, which may fail. -/
structure Algo where
  name : String
  powHash : Bytes → Except String Bytes
  deriving Inhabited

/-- A template transaction: its raw hex data and its hash. -/
structure Transaction where
  data : String
  hash : String

/-- `BlockTemplate`, by the fields the job builder reads (`chainID` is `Extras.ChainID`). -/
structure BlockTemplate where
  version : Int
  curTime : Int
  previousBlockhash : String
  bits : String
  height : Int
  coinbaseValue : Int
  transactions : List Transaction
  chainID : Int

/-- The methods and helpers the job builder calls whose code is not under `src/`. -/
structure TemplateLib where
  /-- `json.Unmarshal` of a template. -/
  unmarshal : Bytes → Except String BlockTemplate
  /-- `tmpl.getTarget()`: the network target the compact `bits` encode. -/
  getTarget : BlockTemplate → Except String Int
  /-- `tmpl.merkleBranch()`: the transaction branch a coinbase leaf walks to the root. -/
  merkleBranch : BlockTemplate → List Bytes
  /-- `tmpl.merkleRoot(coinbaseHash)`. -/
  merkleRoot : BlockTemplate → Bytes → Bytes
  /-- `tmpl.createCoinbase(config, blob)`. -/
  createCoinbase : BlockTemplate → ChainConfig → Bytes → Except String Bytes
  /-- `tmpl.createCoinbaseSplit(config, blob)`: the coinbase around the extranonce slot. -/
  createCoinbaseSplit : BlockTemplate → ChainConfig → Bytes → Except String (Bytes × Bytes)
  /-- `auxMerkleBranch(merkleBase, hash)`: a slot's branch and side mask. -/
  auxMerkleBranch : List (Option Bytes) → Bytes → List Bytes × Nat
  /-- `merkleRoot(merkleBase)`, the root of the blockchain merkle tree. -/
  blockchainMerkleRoot : List (Option Bytes) → Bytes

/-- `MainChainJob`. -/
structure MainChainJob where
  currencyConfig : ChainConfig
  subsidy : Int
  height : Int
  bits : Bytes
  time : Bytes
  version : Bytes
  prevBlockHash : Bytes
  coinbase1 : Bytes
  coinbase2 : Bytes
  merkleBranch : List Bytes
  target : Int
  transactions : List Bytes
  cleanJobs : Bool
  deriving Inhabited

/-- `AuxChainJob`. `headerHash` is the 32 bytes of the `*chainhash.Hash`. -/
structure AuxChainJob where
  currencyConfig : ChainConfig
  subsidy : Int
  height : Int
  headerHash : Bytes
  blockHeader : Bytes
  chainID : Int
  blockchainMerkleBranch : List Bytes
  blockchainMerkleMask : Nat
  transactions : List Bytes
  coinbase : Bytes
  coinbaseHash : Bytes
  target : Int
  deriving Inhabited

/-- `Job`: the main chain job it embeds, the heights of all its chains by currency code, its
aux chains in the order they were built, and the algorithm. -/
structure Job extends MainChainJob where
  heights : String → Option Int
  auxChains : List AuxChainJob
  algo : Algo
  deriving Inhabited

/-- `BlockSolve`. -/
structure BlockSolve where
  data : Bytes
  coinbaseHash : Bytes
  subsidyAddress : String
  powalgo : String
  subsidy : Int
  height : Int
  powhash : Nat
  target : Int

/-! ### Version words -/

/-- `setAlgoVersion`. Go's `^` is exclusive or, so the cleared mask is
`((2 xor width) - 1) << shift`, computed in `uint32`. -/
def setAlgoVersion (version : Nat) (config : ChainConfig) (algo : Algo) : Nat :=
  if config.multiAlgo then
    let algoCode := config.multiAlgoMap algo.name
    let mask := ((((2 ^^^ config.multiAlgoBitWidth) + (2 ^ 32 - 1)) % 2 ^ 32) <<<
      config.multiAlgoBitShift) % 2 ^ 32
    let version := version &&& (mask ^^^ (2 ^ 32 - 1))
    version ||| ((algoCode <<< config.multiAlgoBitShift) % 2 ^ 32)
  else version

/-- The AuxPoW version word before the algo rewrite: bit 8 and the chain ID in bits 16–31. -/
def auxVersion (version chainID : Int) : Nat :=
  uint32 version ||| 1 <<< 8 ||| (uint32 chainID <<< 16) % 2 ^ 32

/-! ### The main chain job -/

/-- `NewMainChainJob`. -/
def newMainChainJob (lib : TemplateLib) (tmpl : BlockTemplate) (config : ChainConfig)
    (algo : Algo) : Except Exit MainChainJob := do
  let target ← wrap "Error generating target" (lib.getTarget tmpl)
  let encodedTime := putUint32 (uint32 tmpl.curTime)
  let encodedVersion := putUint32 (setAlgoVersion (uint32 tmpl.version) config algo)
  let encodedPrevBlockHash ← wrap "Invalid PreviousBlockhash" (decodeString tmpl.previousBlockhash)
  let encodedBits ← wrap "Invalid bits" (decodeString tmpl.bits)
  let transactions ← tmpl.transactions.mapM fun tx =>
    wrap "Invalid data from txn" (decodeString tx.data)
  pure { height := tmpl.height, subsidy := tmpl.coinbaseValue, currencyConfig := config,
         transactions, bits := encodedBits.reverse, time := encodedTime,
         version := encodedVersion, prevBlockHash := encodedPrevBlockHash.reverse, target,
         merkleBranch := lib.merkleBranch tmpl, coinbase1 := [], coinbase2 := [],
         cleanJobs := true }

/-- What a successful `NewMainChainJob` stores: the little-endian words of the algo-rewritten
version and of the time, the reversed decodes of the previous hash and the bits, and the
template's branch, height and config. -/
theorem newMainChainJob_ok {lib : TemplateLib} {tmpl : BlockTemplate} {config : ChainConfig}
    {algo : Algo} {mj : MainChainJob} (h : newMainChainJob lib tmpl config algo = .ok mj) :
    mj.version = putUint32 (setAlgoVersion (uint32 tmpl.version) config algo) ∧
      mj.time = putUint32 (uint32 tmpl.curTime) ∧
      decodeString tmpl.previousBlockhash = .ok mj.prevBlockHash.reverse ∧
      decodeString tmpl.bits = .ok mj.bits.reverse ∧
      mj.merkleBranch = lib.merkleBranch tmpl ∧ mj.height = tmpl.height ∧
      mj.currencyConfig = config := by
  obtain ⟨_, -, h⟩ := bind_eq_ok.mp h
  obtain ⟨prev, hprev, h⟩ := bind_eq_ok.mp h
  obtain ⟨bits, hbits, h⟩ := bind_eq_ok.mp h
  obtain ⟨_, -, h⟩ := bind_eq_ok.mp h
  cases h
  simp_all

/-- The merkle walk of `GetBlockHeader`, `GetZCashStratumParams` and `checkSolSolve`: each
branch hash is written after the running root, the sum becomes the new root, and the hasher
is reset. -/
def merkleWalk : Hasher → Bytes → List Bytes → Hasher × Bytes
  | h, rootHash, [] => (h, rootHash)
  | h, rootHash, branch :: rest =>
    let h := (h.write rootHash).write branch
    merkleWalk h.reset h.sum rest

/-- The merkle root a coinbase hash reaches along a branch: the left fold
`r ↦ sha256d (r ++ b)`. -/
def merkleRootFrom (coinbaseHash : Bytes) (branch : List Bytes) : Bytes :=
  branch.foldl (fun r b => sha256d (r ++ b)) coinbaseHash

/-- From a fresh hasher the walk computes `merkleRootFrom`. -/
@[simp] theorem merkleWalk_new (r : Bytes) (bs : List Bytes) :
    (merkleWalk Hasher.new r bs).2 = merkleRootFrom r bs := by
  induction bs generalizing r with
  | nil => rfl
  | cons b bs ih => simpa [merkleWalk, merkleRootFrom] using ih _

/-- From a hasher holding `buf`, the first step hashes `buf` along with the root. -/
theorem merkleWalk_cons (h : Hasher) (r b : Bytes) (bs : List Bytes) :
    (merkleWalk h r (b :: bs)).2 = merkleRootFrom (sha256d (h.buf ++ r ++ b)) bs := by
  simp [merkleWalk]

/-- From a 32-byte coinbase hash the merkle root has 32 bytes. -/
theorem length_merkleRootFrom {r : Bytes} (hr : r.length = 32) (bs : List Bytes) :
    (merkleRootFrom r bs).length = 32 := by
  induction bs generalizing r with
  | nil => exact hr
  | cons b bs ih => exact ih (length_sha256d _)

/-- `(*MainChainJob).GetBlockHeader`. -/
def MainChainJob.getBlockHeader (j : MainChainJob) (nonce coinbaseHash : Bytes) : Bytes :=
  let rootHash := (merkleWalk Hasher.new coinbaseHash j.merkleBranch).2
  j.version ++ j.prevBlockHash ++ rootHash ++ j.time ++ j.bits ++ nonce

/-- `(*MainChainJob).GetBlock`. -/
def MainChainJob.getBlock (j : MainChainJob) (header coinbase : Bytes) : Bytes :=
  header ++ writeVarInt (j.transactions.length + 1) ++ coinbase ++ j.transactions.flatten

/-! ### The aux chain job -/

/-- `NewAuxChainJob`. -/
def newAuxChainJob (lib : TemplateLib) (template : BlockTemplate) (config : ChainConfig)
    (algo : Algo) : Except Exit AuxChainJob := do
  let target ← wrap "Error generating target" (lib.getTarget template)
  let encodedVersion :=
    putUint32 (setAlgoVersion (auxVersion template.version template.chainID) config algo)
  let encodedPrevBlockHash ←
    wrap "Invalid PreviousBlockhash" (decodeString template.previousBlockhash)
  let coinbase ← (lib.createCoinbase template config []).mapError Exit.error
  let hasher := Hasher.new.write coinbase
  let coinbaseHash := hasher.sum
  let merkleRoot := lib.merkleRoot template coinbaseHash
  let encodedTime := putUint32 (uint32 template.curTime)
  let encodedBits ← wrap "Invalid bits" (decodeString template.bits)
  let blkHeader := encodedVersion ++ encodedPrevBlockHash.reverse ++ merkleRoot ++
    encodedTime ++ encodedBits.reverse ++ [0, 0, 0, 0]
  let hashObj ← (newHash (hasher.reset.write blkHeader).sum).mapError Exit.error
  let transactions ← template.transactions.mapM fun tx =>
    wrap "Invalid data from txn" (decodeString tx.data)
  if template.chainID = 0 then throw (.error "Null chainid")
  pure { height := template.height, subsidy := template.coinbaseValue,
         currencyConfig := config, target, coinbase, coinbaseHash, transactions,
         chainID := template.chainID, headerHash := hashObj, blockHeader := blkHeader,
         blockchainMerkleBranch := [], blockchainMerkleMask := 0 }

/-- What a successful `NewAuxChainJob` writes into the aux header: the little-endian version
word, the reversed decode of the previous hash, the template's merkle root over the coinbase
hash, the little-endian time, the reversed decode of the bits and a zero nonce; and its chain ID
is not zero. -/
theorem newAuxChainJob_ok {lib : TemplateLib} {template : BlockTemplate} {config : ChainConfig}
    {algo : Algo} {aux : AuxChainJob} (h : newAuxChainJob lib template config algo = .ok aux) :
    ∃ prev bits, decodeString template.previousBlockhash = .ok prev ∧
      decodeString template.bits = .ok bits ∧
      aux.blockHeader =
        putUint32 (setAlgoVersion (auxVersion template.version template.chainID) config algo) ++
          prev.reverse ++ lib.merkleRoot template aux.coinbaseHash ++
          putUint32 (uint32 template.curTime) ++ bits.reverse ++ [0, 0, 0, 0] ∧
      template.chainID ≠ 0 := by
  obtain ⟨_, -, h⟩ := bind_eq_ok.mp h
  obtain ⟨prev, hprev, h⟩ := bind_eq_ok.mp h
  obtain ⟨_, -, h⟩ := bind_eq_ok.mp h
  obtain ⟨bits, hbits, h⟩ := bind_eq_ok.mp h
  obtain ⟨_, -, h⟩ := bind_eq_ok.mp h
  obtain ⟨_, -, h⟩ := bind_eq_ok.mp h
  split at h
  · cases h
  · cases h
    exact ⟨prev, bits, wrap_eq_ok.mp hprev, wrap_eq_ok.mp hbits, rfl, ‹_›⟩

/-- `(*AuxChainJob).GetBlock`: the AuxPoW serialization of an aux block. -/
def AuxChainJob.getBlock (j : AuxChainJob) (coinbase parentHash : Bytes)
    (coinbaseBranch : List Bytes) (parentHeader : Bytes) : Bytes :=
  j.blockHeader ++ coinbase ++ parentHash ++ writeVarInt coinbaseBranch.length ++
    coinbaseBranch.flatten ++ [0, 0, 0, 0] ++
    writeVarInt j.blockchainMerkleBranch.length ++ j.blockchainMerkleBranch.flatten ++
    putUint32 j.blockchainMerkleMask ++ parentHeader ++
    writeVarInt (j.transactions.length + 1) ++ j.coinbase ++ j.transactions.flatten

end Ngpool
