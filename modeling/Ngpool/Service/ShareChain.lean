import Ngpool.NewJob

/-!
# Share Chains

`SetupShareChains` loads the share-chain configurations from a Go map of raw values: each entry
is decoded (`mapstructure.Decode`) over a config named by the upper-cased key, given the
algorithm `AlgoConfig` registers under its `AlgoName`, and stored in `ShareChain` under its
name. A value that does not decode, or that names no registered algorithm, panics.

The decoder may overwrite the name, and distinct keys may upper-case to one name, so two entries
can land under the same name: the later one, in the random order of the map, wins.

## Main results

* `setupShareChains_eq_ok`: the loop returns exactly when every entry yields a chain, and then
  stores the entries' chains in order.
* `setupShareChains_spec`: the loop fails only by a panic, exactly when some entry yields no
  chain; otherwise every chain it holds sits under its own name with the algorithm registered
  for it, each entry's chain sits under its name wherever no other entry's chain has that name,
  and every other name keeps what it held.
-/

namespace Ngpool

/-- `ShareChainConfig`, with the fields `SetupShareChains` reads and writes. -/
structure ShareChainConfig where
  name : String
  algoName : String
  algo : Option Algo

section Setup

variable {Raw : Type} (decode : Raw → ShareChainConfig → Except String ShareChainConfig)
  (toUpper : String → String) (reg : Registry)

/-- The chain one entry of `SetupShareChains` yields (lines 22–33), or the panic it meets. -/
def shareChainOf : String × Raw → Except Exit ShareChainConfig
  | (name, rawConfig) => do
    let chain ← (decode rawConfig { name := toUpper name, algoName := "", algo := none }).mapError
      Exit.panic
    let chain := { chain with algo := reg.algoConfig chain.algoName }
    if chain.algo.isNone then throw (.panic "Must specify sharechain algorithm")
    pure chain

/-- One iteration of `SetupShareChains` on the map `ShareChain`: the entry's chain stored under
its name (line 36). -/
def setupStep (shareChain : String → Option ShareChainConfig) (entry : String × Raw) :
    Except Exit (String → Option ShareChainConfig) :=
  (fun chain => Function.update shareChain chain.name (some chain)) <$>
    shareChainOf decode toUpper reg entry

/-- `SetupShareChains`, the map's entries in the order the loop meets them. -/
def setupShareChains (rawConfig : List (String × Raw))
    (shareChain : String → Option ShareChainConfig) :
    Except Exit (String → Option ShareChainConfig) :=
  rawConfig.foldlM (setupStep decode toUpper reg) shareChain

/-- A chain an entry yields carries the algorithm registered under its `AlgoName`, and one. -/
theorem shareChainOf_algo {entry : String × Raw} {chain : ShareChainConfig}
    (h : shareChainOf decode toUpper reg entry = .ok chain) :
    chain.algo.isSome ∧ chain.algo = reg.algoConfig chain.algoName := by
  obtain ⟨name, rawConfig⟩ := entry
  obtain ⟨c, -, h⟩ := bind_eq_ok.mp h
  dsimp only at h
  split_ifs at h with hn
  · obtain ⟨_, h, -⟩ := bind_eq_ok.mp h
    cases h
  · obtain ⟨_, -, h⟩ := bind_eq_ok.mp h
    cases h
    exact ⟨by simpa [Option.isSome_iff_ne_none] using hn, rfl⟩

/-- An entry that yields no chain meets a panic. -/
theorem shareChainOf_eq_error {entry : String × Raw} {e : Exit}
    (h : shareChainOf decode toUpper reg entry = .error e) : ∃ msg, e = .panic msg := by
  obtain ⟨name, rawConfig⟩ := entry
  rcases bind_eq_error.mp h with h | ⟨c, -, h⟩
  · obtain ⟨msg, -, rfl⟩ := mapError_eq_error.mp h
    exact ⟨msg, rfl⟩
  · dsimp only at h
    split_ifs at h
    · rcases bind_eq_error.mp h with h | ⟨_, h, -⟩
      · cases h
        exact ⟨_, rfl⟩
      · cases h
    · rcases bind_eq_error.mp h with h | ⟨_, -, h⟩ <;> cases h

/-- The chains of the entries that yield one, in order. -/
def shareChains (l : List (String × Raw)) : List ShareChainConfig :=
  l.filterMap fun e => (shareChainOf decode toUpper reg e).toOption

end Setup

/-! ### Storing the chains -/

/-- `ShareChain[chain.Name] = &chain` for each chain in order. -/
def storeChains (chains : List ShareChainConfig) (shareChain : String → Option ShareChainConfig) :
    String → Option ShareChainConfig :=
  chains.foldl (fun m chain => Function.update m chain.name (some chain)) shareChain

@[simp] theorem storeChains_nil (shareChain : String → Option ShareChainConfig) :
    storeChains [] shareChain = shareChain := rfl

@[simp] theorem storeChains_cons (chain : ShareChainConfig) (chains : List ShareChainConfig)
    (shareChain : String → Option ShareChainConfig) :
    storeChains (chain :: chains) shareChain =
      storeChains chains (Function.update shareChain chain.name (some chain)) := rfl

theorem storeChains_of_forall_ne {chains : List ShareChainConfig} {n : String}
    (h : ∀ chain ∈ chains, chain.name ≠ n) (shareChain : String → Option ShareChainConfig) :
    storeChains chains shareChain n = shareChain n := by
  induction chains generalizing shareChain with
  | nil => rfl
  | cons chain chains ih =>
    rw [storeChains_cons, ih (fun c hc => h c (.tail _ hc)),
      Function.update_noteq (h chain (.head _)).symm]

/-- A chain no other stored chain shares a name with ends under its name. -/
theorem storeChains_of_mem {chains : List ShareChainConfig} {chain : ShareChainConfig}
    (hc : chain ∈ chains) (h1 : (chains.map (·.name)).count chain.name ≤ 1)
    (shareChain : String → Option ShareChainConfig) :
    storeChains chains shareChain chain.name = some chain := by
  induction chains generalizing shareChain with
  | nil => cases hc
  | cons c chains ih =>
    rw [List.map_cons, List.count_cons] at h1
    rw [storeChains_cons]
    rcases List.mem_cons.mp hc with rfl | hc
    · have h0 : (chains.map (·.name)).count chain.name = 0 := by simp at h1; omega
      rw [storeChains_of_forall_ne (n := chain.name) fun c' hc' heq =>
        List.count_eq_zero.mp h0 (heq ▸ List.mem_map_of_mem (·.name) hc'), Function.update_same]
    · exact ih hc (by split at h1 <;> omega) _

/-- A registry in which every chain sits under its own name, with the algorithm registered for it
under its `AlgoName`, and one. -/
def ShareChainsSound (reg : Registry) (shareChain : String → Option ShareChainConfig) : Prop :=
  ∀ n chain, shareChain n = some chain →
    chain.name = n ∧ chain.algo.isSome ∧ chain.algo = reg.algoConfig chain.algoName

theorem ShareChainsSound.storeChains {reg : Registry} {shareChain : String → Option ShareChainConfig}
    (hs : ShareChainsSound reg shareChain) {chains : List ShareChainConfig}
    (hc : ∀ chain ∈ chains, chain.algo.isSome ∧ chain.algo = reg.algoConfig chain.algoName) :
    ShareChainsSound reg (storeChains chains shareChain) := by
  induction chains generalizing shareChain with
  | nil => exact hs
  | cons c chains ih =>
    rw [storeChains_cons]
    refine ih (fun n chain h => ?_) fun c' hc' => hc c' (.tail _ hc')
    by_cases hn : n = c.name
    · subst hn
      rw [Function.update_same, Option.some.injEq] at h
      subst h
      exact ⟨rfl, hc _ (.head _)⟩
    · rw [Function.update_noteq hn] at h
      exact hs n chain h

/-! ### The loop -/

section Setup

variable {Raw : Type} (decode : Raw → ShareChainConfig → Except String ShareChainConfig)
  (toUpper : String → String) (reg : Registry)

/-- **The setup loop**, from any registry, returns exactly when every entry yields a chain, and
then stores the entries' chains in order. -/
theorem setupShareChains_eq_ok (l : List (String × Raw))
    (shareChain shareChain' : String → Option ShareChainConfig) :
    setupShareChains decode toUpper reg l shareChain = .ok shareChain' ↔
      (∀ e ∈ l, ∃ chain, shareChainOf decode toUpper reg e = .ok chain) ∧
        shareChain' = storeChains (shareChains decode toUpper reg l) shareChain := by
  induction l generalizing shareChain with
  | nil =>
    simp only [setupShareChains, List.foldlM_nil, List.not_mem_nil, false_implies, implies_true,
      true_and, shareChains, List.filterMap_nil, storeChains_nil]
    exact ⟨fun h => (Except.ok.inj h).symm, fun h => h ▸ rfl⟩
  | cons e l ih =>
    simp only [setupShareChains, List.foldlM_cons, bind_eq_ok, setupStep] at ih ⊢
    constructor
    · rintro ⟨s, hs, hl⟩
      cases he : shareChainOf decode toUpper reg e with
      | error x => rw [he] at hs; cases hs
      | ok chain =>
        rw [he] at hs
        cases hs
        obtain ⟨hall, rfl⟩ := (ih _).mp hl
        refine ⟨fun e' he' => ?_, by simp [shareChains, he, Except.toOption]⟩
        rcases List.mem_cons.mp he' with rfl | he'
        exacts [⟨chain, he⟩, hall e' he']
    · rintro ⟨hall, rfl⟩
      obtain ⟨chain, he⟩ := hall e (.head _)
      refine ⟨_, by rw [he]; rfl, (ih _).mpr ⟨fun e' he' => hall e' (.tail _ he'), ?_⟩⟩
      simp [shareChains, he, Except.toOption]

/-- The setup loop fails only by a panic. -/
theorem setupShareChains_eq_error (l : List (String × Raw))
    (shareChain : String → Option ShareChainConfig) {e : Exit}
    (h : setupShareChains decode toUpper reg l shareChain = .error e) : ∃ msg, e = .panic msg := by
  induction l generalizing shareChain with
  | nil => cases h
  | cons entry l ih =>
    simp only [setupShareChains, List.foldlM_cons, setupStep] at h ih
    rcases bind_eq_error.mp h with h | ⟨s, -, h⟩
    · cases he : shareChainOf decode toUpper reg entry with
      | error x =>
        rw [he] at h
        cases h
        exact shareChainOf_eq_error decode toUpper reg he
      | ok _ => rw [he] at h; cases h
    · exact ih s h

/-- **`SetupShareChains`.** From a registry whose every chain sits under its own name with its
registered algorithm, the loop fails only by a panic, and exactly when some entry does not
decode or names no registered algorithm. When it returns, every chain of the registry still
sits under its own name with its registered algorithm; each entry's chain sits under its name
wherever no other entry's chain has that name; and a name no entry's chain has keeps what it
held. -/
theorem setupShareChains_spec (l : List (String × Raw))
    (shareChain : String → Option ShareChainConfig) (hs : ShareChainsSound reg shareChain) :
    (∀ e, setupShareChains decode toUpper reg l shareChain = .error e → ∃ msg, e = .panic msg) ∧
    ((∃ shareChain', setupShareChains decode toUpper reg l shareChain = .ok shareChain') ↔
      ∀ e ∈ l, ∃ chain, shareChainOf decode toUpper reg e = .ok chain) ∧
    ∀ shareChain', setupShareChains decode toUpper reg l shareChain = .ok shareChain' →
      ShareChainsSound reg shareChain' ∧
      (∀ chain ∈ shareChains decode toUpper reg l,
        ((shareChains decode toUpper reg l).map (·.name)).count chain.name ≤ 1 →
          shareChain' chain.name = some chain) ∧
      ∀ n ∉ (shareChains decode toUpper reg l).map (·.name), shareChain' n = shareChain n := by
  refine ⟨fun e => setupShareChains_eq_error decode toUpper reg l shareChain,
    ⟨fun ⟨_, h⟩ => ((setupShareChains_eq_ok decode toUpper reg l _ _).mp h).1,
      fun h => ⟨_, (setupShareChains_eq_ok decode toUpper reg l _ _).mpr ⟨h, rfl⟩⟩⟩,
    fun shareChain' h => ?_⟩
  obtain ⟨-, rfl⟩ := (setupShareChains_eq_ok decode toUpper reg l _ _).mp h
  refine ⟨hs.storeChains fun chain hc => ?_, fun chain hc h1 => storeChains_of_mem hc h1 _,
    fun n hn => storeChains_of_forall_ne (n := n)
      (fun chain hc heq => hn (heq ▸ List.mem_map_of_mem (·.name) hc)) _⟩
  obtain ⟨e, -, he⟩ := List.mem_filterMap.mp hc
  have hok : shareChainOf decode toUpper reg e = .ok chain := by
    revert he
    cases shareChainOf decode toUpper reg e <;> simp [Except.toOption]
  exact shareChainOf_algo decode toUpper reg hok

end Setup

/-- A decoder that sets `AlgoName` to `sha256d` and keeps the name it is given. -/
def sha256dDecode : Unit → ShareChainConfig → Except String ShareChainConfig :=
  fun _ chain => .ok { chain with algoName := "sha256d" }

/-- A registry that knows the `sha256d` algorithm only. -/
def sha256dRegistry : Registry where
  currencyConfig _ := none
  algoConfig n := if n = "sha256d" then some ⟨"sha256d", .ok⟩ else none

/-- Two share chains, `btc` and `ltc`. -/
def btcLtcConfig : List (String × Unit) := [("btc", ()), ("ltc", ())]

theorem setupShareChains_spec_btcLtc :
    ShareChainsSound sha256dRegistry (fun _ => none) ∧
    (∀ e, setupShareChains sha256dDecode String.toUpper sha256dRegistry btcLtcConfig
      (fun _ => none) = .error e → ∃ msg, e = .panic msg) ∧
    ((∃ shareChain', setupShareChains sha256dDecode String.toUpper sha256dRegistry btcLtcConfig
        (fun _ => none) = .ok shareChain') ↔
      ∀ e ∈ btcLtcConfig, ∃ chain, shareChainOf sha256dDecode String.toUpper sha256dRegistry e =
        .ok chain) ∧
    ∀ shareChain', setupShareChains sha256dDecode String.toUpper sha256dRegistry btcLtcConfig
        (fun _ => none) = .ok shareChain' →
      ShareChainsSound sha256dRegistry shareChain' ∧
      (∀ chain ∈ shareChains sha256dDecode String.toUpper sha256dRegistry btcLtcConfig,
        ((shareChains sha256dDecode String.toUpper sha256dRegistry btcLtcConfig).map
          (·.name)).count chain.name ≤ 1 → shareChain' chain.name = some chain) ∧
      ∀ n ∉ (shareChains sha256dDecode String.toUpper sha256dRegistry btcLtcConfig).map (·.name),
        shareChain' n = none := by
  have hs : ShareChainsSound sha256dRegistry fun _ => none := fun _ _ h => Option.noConfusion h
  exact ⟨hs, setupShareChains_spec sha256dDecode String.toUpper sha256dRegistry btcLtcConfig _ hs⟩

end Ngpool
