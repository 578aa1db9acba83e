import Mathlib.Data.Nat.Find
import Mathlib.Data.Nat.ModEq
import Mathlib.Data.List.Perm.Basic
import Mathlib.Data.List.Nodup
import Ngpool.Job

/-!
# The Blockchain Merkle Packing Loop

`NewJobFromTemplates` assigns every aux chain a slot of a power-of-two table, the base of the
blockchain merkle tree committed in the parent coinbase (`MerkleLoop`, lines 75–97). A chain's
slot is two steps of the 32-bit linear congruential generator `x ↦ x * 1103515245 + 12345`
with its chain ID added in between, reduced modulo the table size; on the first collision the
size doubles and the whole table is rebuilt. The divisor is `uint32(merkleSize)`, which is `0`
once the size reaches `2^32`.

`merkleLoop` runs the loop with a fuel of passes. The fuel is scaffolding: 33 passes reach the
size `2^32`, where the pass either finishes (no aux chain) or divides by zero, so the fuel is
never exhausted. Each pass's `make([][]byte, merkleSize)` is `List.replicate`, which costs
nothing here: the model has no memory bound, while Go needs 24 bytes per entry, 48 GiB for the
table of `2^31` entries. What the model says about a loop that grows that far is therefore
stated as the passes it runs (`merkleLoop_passes`), not as how the process ends.

## Main results

* `fillSlots_replicate`: a pass at a size `M < 2^32` collides exactly when two slots agree
  modulo `M`, and otherwise fills the table `slotTable`.
* `merkleSlot_mod_eq_iff`: slots agree modulo `2^31` exactly when the `uint32` chain IDs do,
  since the multiplier is odd.
* `merkleLoop_of_distinct`: with chain IDs distinct modulo `2^31`, the loop ends at the least
  power of two separating all slots, with every chain's header hash in its slot and nothing
  elsewhere.
* `merkleLoop_passes`: otherwise it runs a colliding pass at every size up to `2^31`.
* `merkleLoop_perm`: the outcome does not depend on the order of the aux chains.
-/

namespace Ngpool

/-- The slot an aux chain probes before reduction (lines 85–88), in `uint32` arithmetic. -/
def merkleSlot (merkleNonce : Nat) (chainID : Int) : Nat :=
  let slot := (merkleNonce * 1103515245 + 12345) % 2 ^ 32
  let slot := (slot + uint32 chainID) % 2 ^ 32
  (slot * 1103515245 + 12345) % 2 ^ 32

/-- With the nonce the code fixes, `s(id) = ((12345 + uint32 id) * 1103515245 + 12345) mod 2^32`. -/
theorem merkleSlot_zero (chainID : Int) :
    merkleSlot 0 chainID = ((12345 + uint32 chainID) * 1103515245 + 12345) % 2 ^ 32 :=
  ((Nat.mod_modEq _ _).mul_right _).add_right _

/-- How one pass of the inner loop ends. -/
inductive Pass
  | filled (merkleBase : List (Option Bytes))
  | collision
  | divideByZero

/-- One pass of the inner loop over the aux chains at a candidate size, on the table built so
far. The index `slot % uint32(merkleSize)` is below `merkleSize`, the table's length, so Go's
bounds check never fires and `getD`/`set` read and write the slot. -/
def fillSlots (merkleNonce merkleSize : Nat) :
    List AuxChainJob → List (Option Bytes) → Pass
  | [], merkleBase => .filled merkleBase
  | mj :: rest, merkleBase =>
    if merkleSize % 2 ^ 32 = 0 then .divideByZero
    else
      let slotNum := merkleSlot merkleNonce mj.chainID % (merkleSize % 2 ^ 32)
      if (merkleBase.getD slotNum none).isSome then .collision
      else fillSlots merkleNonce merkleSize rest (merkleBase.set slotNum (some mj.headerHash))

/-- The Go runtime's message for `slot % 0`. -/
def divideByZeroPanic : Exit := .panic "runtime error: integer divide by zero"

/-- `MerkleLoop`, with at most `fuel` passes from the candidate size `merkleSize`; `none` when
the fuel runs out. The table `make([][]byte, merkleSize)` of each pass is allocated for free. -/
def merkleLoop (merkleNonce : Nat) (auxChains : List AuxChainJob) :
    Nat → Nat → Option (Except Exit (Nat × List (Option Bytes)))
  | 0, _ => none
  | fuel + 1, merkleSize =>
    match fillSlots merkleNonce merkleSize auxChains (List.replicate merkleSize none) with
    | .filled merkleBase => some (.ok (merkleSize, merkleBase))
    | .collision => merkleLoop merkleNonce auxChains fuel (merkleSize * 2)
    | .divideByZero => some (.error divideByZeroPanic)

/-! ### One pass -/

section Pass

variable (merkleNonce M : Nat)

/-- A chain's slot modulo the table size. -/
def slotMod (mj : AuxChainJob) : Nat := merkleSlot merkleNonce mj.chainID % M

/-- The table with every chain's header hash written at its slot, in order. -/
def slotTable (l : List AuxChainJob) (base : List (Option Bytes)) : List (Option Bytes) :=
  l.foldl (fun b mj => b.set (slotMod merkleNonce M mj) (some mj.headerHash)) base

variable {merkleNonce M}

@[simp] theorem slotTable_nil (base : List (Option Bytes)) :
    slotTable merkleNonce M [] base = base := rfl

@[simp] theorem slotTable_cons (mj : AuxChainJob) (l : List AuxChainJob)
    (base : List (Option Bytes)) :
    slotTable merkleNonce M (mj :: l) base =
      slotTable merkleNonce M l (base.set (slotMod merkleNonce M mj) (some mj.headerHash)) :=
  rfl

@[simp] theorem length_slotTable (l : List AuxChainJob) (base : List (Option Bytes)) :
    (slotTable merkleNonce M l base).length = base.length := by
  induction l generalizing base with
  | nil => rfl
  | cons mj l ih => rw [slotTable_cons, ih, List.length_set]

/-- A slot no chain maps to keeps its content. -/
theorem slotTable_of_forall_ne {l : List AuxChainJob} {i : Nat}
    (hi : ∀ mj ∈ l, slotMod merkleNonce M mj ≠ i) (base : List (Option Bytes)) :
    (slotTable merkleNonce M l base)[i]? = base[i]? := by
  induction l generalizing base with
  | nil => rfl
  | cons mj l ih =>
    simp only [List.mem_cons, forall_eq_or_imp] at hi
    rw [slotTable_cons, ih hi.2, List.getElem?_set, if_neg hi.1]

/-- With distinct slots, every chain's hash ends up in its slot. -/
theorem slotTable_of_mem {l : List AuxChainJob} (hnd : (l.map (slotMod merkleNonce M)).Nodup)
    {mj : AuxChainJob} (hmj : mj ∈ l) {base : List (Option Bytes)}
    (hlt : slotMod merkleNonce M mj < base.length) :
    (slotTable merkleNonce M l base)[slotMod merkleNonce M mj]? = some (some mj.headerHash) := by
  induction l generalizing base with
  | nil => cases hmj
  | cons x l ih =>
    rw [List.map_cons, List.nodup_cons] at hnd
    rw [slotTable_cons]
    rcases List.mem_cons.mp hmj with rfl | hmj
    · have hne : ∀ y ∈ l, slotMod merkleNonce M y ≠ slotMod merkleNonce M mj :=
        fun y hy h => hnd.1 (h ▸ List.mem_map_of_mem _ hy)
      rw [slotTable_of_forall_ne hne, List.getElem?_set_self hlt]
    · exact ih hnd.2 hmj (by rwa [List.length_set])

/-- Below `2^32` a pass reads each slot modulo the size itself. -/
theorem fillSlots_cons_of_lt (hM : 0 < M) (hM32 : M < 2 ^ 32) (mj : AuxChainJob)
    (rest : List AuxChainJob) (base : List (Option Bytes)) :
    fillSlots merkleNonce M (mj :: rest) base =
      if (base.getD (slotMod merkleNonce M mj) none).isSome then .collision
      else fillSlots merkleNonce M rest (base.set (slotMod merkleNonce M mj) (some mj.headerHash)) := by
  simp only [fillSlots, Nat.mod_eq_of_lt hM32, Nat.pos_iff_ne_zero.mp hM, if_false]
  rfl

/-- After filling slot `k`, a slot is free exactly when it is another slot that was free. -/
theorem getD_set_eq_none_iff {base : List (Option Bytes)} {k : Nat} (hk : k < base.length)
    (x : Bytes) (i : Nat) :
    (base.set k (some x)).getD i none = none ↔ k ≠ i ∧ base.getD i none = none := by
  by_cases h : k = i
  · subst h
    simp [List.getD_eq_getElem?_getD, List.getElem?_set_self hk]
  · simp [List.getD_eq_getElem?_getD, List.getElem?_set, h]

/-- **One pass at a size below `2^32`**: it fills the table exactly when the slots are distinct
modulo the size and all still free. -/
theorem fillSlots_eq (hM : 0 < M) (hM32 : M < 2 ^ 32) :
    ∀ (l : List AuxChainJob) (base : List (Option Bytes)), base.length = M →
      fillSlots merkleNonce M l base =
        if (l.map (slotMod merkleNonce M)).Nodup ∧
            ∀ mj ∈ l, base.getD (slotMod merkleNonce M mj) none = none
        then .filled (slotTable merkleNonce M l base) else .collision
  | [], base, _ => by simp [fillSlots]
  | mj :: rest, base, hlen => by
    have hslot : slotMod merkleNonce M mj < base.length := by rw [hlen]; exact Nat.mod_lt _ hM
    rw [fillSlots_cons_of_lt hM hM32]
    cases hfree : base.getD (slotMod merkleNonce M mj) none with
    | some h =>
      rw [Option.isSome_some, if_pos rfl, if_neg]
      rintro ⟨-, hall⟩
      rw [hall mj (List.mem_cons_self _ _)] at hfree
      cases hfree
    | none =>
      simp only [Option.isSome_none, Bool.false_eq_true, if_false]
      rw [fillSlots_eq hM hM32 rest _ (by rw [List.length_set, hlen]), slotTable_cons]
      refine if_congr ?_ rfl rfl
      simp only [getD_set_eq_none_iff hslot, List.map_cons, List.nodup_cons, List.mem_map, List.mem_cons,
        forall_eq_or_imp, hfree, true_and, not_exists, not_and]
      constructor
      · rintro ⟨hnd, hrest⟩
        exact ⟨⟨fun y hy h => (hrest y hy).1 h.symm, hnd⟩, fun y hy => (hrest y hy).2⟩
      · rintro ⟨⟨hne, hnd⟩, hrest⟩
        exact ⟨hnd, fun y hy => ⟨fun h => hne y hy h.symm, hrest y hy⟩⟩

/-- A pass on the fresh table `make([][]byte, M)`. -/
theorem fillSlots_replicate (hM : 0 < M) (hM32 : M < 2 ^ 32) (l : List AuxChainJob) :
    fillSlots merkleNonce M l (List.replicate M none) =
      if (l.map (slotMod merkleNonce M)).Nodup
      then .filled (slotTable merkleNonce M l (List.replicate M none)) else .collision := by
  have hfree : ∀ i, (List.replicate M (none : Option Bytes)).getD i none = none := fun i => by
    rw [List.getD_eq_getElem?_getD, List.getElem?_replicate]
    split <;> rfl
  rw [fillSlots_eq hM hM32 l _ (List.length_replicate _ _)]
  simp only [hfree, implies_true, and_true]

/-- At a size that `uint32` reduces to zero, a pass divides by zero unless there is no aux
chain. -/
theorem fillSlots_of_mod_eq_zero (hM : M % 2 ^ 32 = 0) (mj : AuxChainJob)
    (l : List AuxChainJob) (base : List (Option Bytes)) :
    fillSlots merkleNonce M (mj :: l) base = .divideByZero := by
  rw [fillSlots, if_pos hM]

end Pass

/-! ### Slot collisions as a property of the chain IDs -/

/-- All slots are distinct modulo `2^k`: the condition for a pass at size `2^k` to succeed. -/
def SlotsDistinct (merkleNonce : Nat) (l : List AuxChainJob) (k : Nat) : Prop :=
  (l.map (slotMod merkleNonce (2 ^ k))).Nodup

instance (merkleNonce : Nat) (l : List AuxChainJob) : DecidablePred (SlotsDistinct merkleNonce l) :=
  fun _ => inferInstanceAs (Decidable (List.Nodup _))

/-- Slots distinct modulo `2^k` stay distinct modulo every larger power: a collision at a
size persists at every smaller one. -/
theorem SlotsDistinct.mono {merkleNonce : Nat} {l : List AuxChainJob} {k k' : Nat}
    (h : SlotsDistinct merkleNonce l k) (hk : k ≤ k') : SlotsDistinct merkleNonce l k' := by
  have hmod : ∀ mj, slotMod merkleNonce (2 ^ k') mj % 2 ^ k = slotMod merkleNonce (2 ^ k) mj :=
    fun _ => Nat.mod_mod_of_dvd _ (Nat.pow_dvd_pow 2 hk)
  have hmap : (l.map (slotMod merkleNonce (2 ^ k'))).map (· % 2 ^ k) =
      l.map (slotMod merkleNonce (2 ^ k)) := by
    simp only [List.map_map, Function.comp_def, hmod]
  unfold SlotsDistinct at h
  exact List.Nodup.of_map _ (hmap ▸ h)

/-- **Slots agree modulo `2^31` exactly when the `uint32` chain IDs do**: the multiplier
`1103515245` is odd, hence invertible modulo every power of two. -/
theorem merkleSlot_mod_eq_iff (merkleNonce : Nat) (x y : Int) :
    merkleSlot merkleNonce x % 2 ^ 31 = merkleSlot merkleNonce y % 2 ^ 31 ↔
      uint32 x % 2 ^ 31 = uint32 y % 2 ^ 31 := by
  set c := (merkleNonce * 1103515245 + 12345) % 2 ^ 32
  have hmod : ∀ t, t % 2 ^ 32 ≡ t [MOD 2 ^ 31] :=
    fun t => Nat.mod_mod_of_dvd t (Nat.pow_dvd_pow 2 (by decide))
  have hslot : ∀ z, merkleSlot merkleNonce z ≡ (c + uint32 z) * 1103515245 + 12345 [MOD 2 ^ 31] :=
    fun z => (hmod _).trans (((hmod _).mul_right _).add_right _)
  have hcop : Nat.Coprime (2 ^ 31) 1103515245 := by unfold Nat.Coprime; decide
  change merkleSlot merkleNonce x ≡ merkleSlot merkleNonce y [MOD 2 ^ 31] ↔
    uint32 x ≡ uint32 y [MOD 2 ^ 31]
  constructor
  · intro h
    have h' := ((hslot x).symm.trans h).trans (hslot y)
    exact Nat.ModEq.add_left_cancel' c
      (Nat.ModEq.cancel_right_of_coprime hcop (Nat.ModEq.add_right_cancel' _ h'))
  · intro h
    exact (hslot x).trans ((((h.add_left c).mul_right _).add_right _).trans (hslot y).symm)

/-- The packing condition at the largest usable size `2^31` is pairwise distinctness of the
`uint32` chain IDs modulo `2^31`. -/
theorem slotsDistinct_31_iff (merkleNonce : Nat) (l : List AuxChainJob) :
    SlotsDistinct merkleNonce l 31 ↔
      l.Pairwise fun a b => uint32 a.chainID % 2 ^ 31 ≠ uint32 b.chainID % 2 ^ 31 := by
  simp only [SlotsDistinct, List.Nodup, List.pairwise_map, slotMod, ne_eq,
    merkleSlot_mod_eq_iff]

/-! ### The whole loop -/

section Loop

variable {merkleNonce : Nat} {l : List AuxChainJob}

/-- The table the loop returns at size `2^m`. -/
abbrev packedTable (merkleNonce : Nat) (l : List AuxChainJob) (m : Nat) : List (Option Bytes) :=
  slotTable merkleNonce (2 ^ m) l (List.replicate (2 ^ m) none)

/-- **A colliding pass** below `2^32` is followed by a pass at twice the size. -/
theorem merkleLoop_collision {d : Nat} (hd : d < 32) (hc : ¬ SlotsDistinct merkleNonce l d)
    (fuel : Nat) :
    merkleLoop merkleNonce l (fuel + 1) (2 ^ d) = merkleLoop merkleNonce l fuel (2 ^ (d + 1)) := by
  unfold SlotsDistinct at hc
  rw [merkleLoop, fillSlots_replicate (Nat.two_pow_pos d) (Nat.pow_lt_pow_right (by norm_num) hd),
    if_neg hc, pow_succ]

/-- From size `2^d`, the loop doubles past every colliding size and stops at the first size
`2^m` whose slots are distinct. -/
theorem merkleLoop_of_least {m : Nat} (hm : m ≤ 31) (hdm : SlotsDistinct merkleNonce l m) :
    ∀ fuel d, d ≤ m → m - d < fuel → (∀ k, d ≤ k → k < m → ¬ SlotsDistinct merkleNonce l k) →
      merkleLoop merkleNonce l fuel (2 ^ d) = some (.ok (2 ^ m, packedTable merkleNonce l m))
  | 0, _, _, h, _ => absurd h (Nat.not_lt_zero _)
  | fuel + 1, d, hd, hfuel, hless => by
    rcases Nat.eq_or_lt_of_le hd with rfl | hd'
    · unfold SlotsDistinct at hdm
      rw [merkleLoop, fillSlots_replicate (Nat.two_pow_pos d)
        (Nat.pow_lt_pow_right (by norm_num) (by omega)), if_pos hdm]
    · rw [merkleLoop_collision (by omega) (hless d le_rfl hd')]
      exact merkleLoop_of_least hm hdm fuel (d + 1) hd' (by omega)
        fun k hk hkm => hless k (by omega) hkm

/-- **With no separating size up to `2^31`**, the loop runs a pass at every size `2^k` up to
`2^32`: each allocates its table of `2^k` entries, and each below `2^32` collides. -/
theorem merkleLoop_passes (hnone : ∀ k ≤ 31, ¬ SlotsDistinct merkleNonce l k) :
    ∀ k ≤ 32, merkleLoop merkleNonce l 33 1 = merkleLoop merkleNonce l (33 - k) (2 ^ k)
  | 0, _ => rfl
  | k + 1, hk => by
    rw [merkleLoop_passes hnone k (by omega), show 33 - k = 33 - (k + 1) + 1 by omega,
      merkleLoop_collision (by omega) (hnone k (by omega))]

end Loop

/-! ### What the loop returns -/

section Packing

variable (merkleNonce : Nat) {l : List AuxChainJob}

/-- Pairwise distinctness of the `uint32` chain IDs modulo `2^31`, the condition under which
some table size below `2^32` separates all slots. -/
def IdsDistinct (l : List AuxChainJob) : Prop :=
  l.Pairwise fun a b => uint32 a.chainID % 2 ^ 31 ≠ uint32 b.chainID % 2 ^ 31

instance (l : List AuxChainJob) : Decidable (IdsDistinct l) :=
  inferInstanceAs (Decidable (List.Pairwise _ l))

/-- **Packing with distinct chain IDs**: the loop ends at the least size `2^m` whose slots are
distinct, never reaching the zero divisor. -/
theorem merkleLoop_of_distinct (hdistinct : IdsDistinct l) :
    ∃ m, SlotsDistinct merkleNonce l m ∧ (∀ k < m, ¬ SlotsDistinct merkleNonce l k) ∧
      merkleLoop merkleNonce l 33 1 = some (.ok (2 ^ m, packedTable merkleNonce l m)) := by
  have h31 : SlotsDistinct merkleNonce l 31 := (slotsDistinct_31_iff _ _).mpr hdistinct
  have hm : Nat.find ⟨31, h31⟩ ≤ 31 := Nat.find_min' _ h31
  exact ⟨Nat.find ⟨31, h31⟩, Nat.find_spec _, fun k hk => Nat.find_min _ hk,
    merkleLoop_of_least hm (Nat.find_spec _) 33 0 (Nat.zero_le _) (by omega)
      fun _ _ hk => Nat.find_min _ hk⟩

/-- Two chain IDs congruent modulo `2^31` collide at every size up to `2^31`. -/
theorem not_slotsDistinct_of_not_idsDistinct (h : ¬ IdsDistinct l) {k : Nat} (hk : k ≤ 31) :
    ¬ SlotsDistinct merkleNonce l k := fun hd =>
  h ((slotsDistinct_31_iff _ _).mp (hd.mono hk))

/-- **Packing with two congruent chain IDs**: no size below `2^32` separates them, so in the
model, where every table is allocated, the loop doubles until `uint32(merkleSize)` is `0` and
evaluates `slot % 0`. -/
theorem merkleLoop_of_not_distinct (h : ¬ IdsDistinct l) :
    merkleLoop merkleNonce l 33 1 = some (.error divideByZeroPanic) := by
  obtain ⟨mj, rest, rfl⟩ := List.exists_cons_of_ne_nil (show l ≠ [] by
    rintro rfl
    exact h List.Pairwise.nil)
  rw [merkleLoop_passes (fun _ hk => not_slotsDistinct_of_not_idsDistinct merkleNonce h hk) 32 le_rfl,
    merkleLoop, fillSlots_of_mod_eq_zero (Nat.mod_self _)]

variable {merkleNonce} {m : Nat}

theorem packedTable_of_mem (hd : SlotsDistinct merkleNonce l m) {mj : AuxChainJob}
    (hmj : mj ∈ l) :
    (packedTable merkleNonce l m)[slotMod merkleNonce (2 ^ m) mj]? = some (some mj.headerHash) :=
  slotTable_of_mem hd hmj (by simpa [slotMod] using Nat.mod_lt _ (Nat.two_pow_pos m))

theorem packedTable_of_forall_ne {i : Nat} (hi : i < 2 ^ m)
    (hne : ∀ mj ∈ l, slotMod merkleNonce (2 ^ m) mj ≠ i) :
    (packedTable merkleNonce l m)[i]? = some none := by
  rw [slotTable_of_forall_ne hne, List.getElem?_replicate_of_lt hi]

/-- With distinct slots the table depends only on which chains are packed. -/
theorem packedTable_perm {l₁ l₂ : List AuxChainJob} (hp : l₁.Perm l₂)
    (hd : SlotsDistinct merkleNonce l₁ m) :
    packedTable merkleNonce l₁ m = packedTable merkleNonce l₂ m := by
  apply List.ext_getElem?
  intro i
  by_cases hi : ∃ mj ∈ l₁, slotMod merkleNonce (2 ^ m) mj = i
  · obtain ⟨mj, hmj, rfl⟩ := hi
    rw [packedTable_of_mem hd hmj,
      packedTable_of_mem ((hp.map _).nodup_iff.mp hd) (hp.mem_iff.mp hmj)]
  · push_neg at hi
    rw [slotTable_of_forall_ne hi, slotTable_of_forall_ne fun mj h => hi mj (hp.mem_iff.mpr h)]

/-- **Order independence**: the loop's outcome is the same for every order of the aux chains
(Go fills `auxChains` from a map, in random order). -/
theorem merkleLoop_perm (merkleNonce : Nat) {l₁ l₂ : List AuxChainJob} (hp : l₁.Perm l₂) :
    merkleLoop merkleNonce l₁ 33 1 = merkleLoop merkleNonce l₂ 33 1 := by
  have hiff : IdsDistinct l₁ ↔ IdsDistinct l₂ := hp.pairwise_iff fun h => Ne.symm h
  by_cases hd : IdsDistinct l₁
  · obtain ⟨m₁, h₁, hmin₁, e₁⟩ := merkleLoop_of_distinct merkleNonce hd
    obtain ⟨m₂, h₂, hmin₂, e₂⟩ := merkleLoop_of_distinct merkleNonce (hiff.mp hd)
    have hs : ∀ k, SlotsDistinct merkleNonce l₁ k ↔ SlotsDistinct merkleNonce l₂ k :=
      fun _ => (hp.map _).nodup_iff
    obtain rfl : m₁ = m₂ := le_antisymm (not_lt.mp fun h => hmin₁ _ h ((hs _).mpr h₂))
      (not_lt.mp fun h => hmin₂ _ h ((hs _).mp h₁))
    rw [e₁, e₂, packedTable_perm hp h₁]
  · rw [merkleLoop_of_not_distinct _ hd, merkleLoop_of_not_distinct _ (mt hiff.mpr hd)]

end Packing

/-- **The blockchain merkle packing.** For aux chains whose `uint32` chain IDs are pairwise
distinct modulo `2^31`, the loop `NewJobFromTemplates` runs (nonce `0`, from size `1`) ends with
`merkleSize = 2^m` for the least `m` at which the slots
`s(id) = ((12345 + uint32 id) * 1103515245 + 12345) mod 2^32` are pairwise distinct modulo
`2^m`; the table has `2^m` entries, each chain's header hash at its slot and `nil` everywhere
else; and every reordering of the chains gives the same outcome. -/
theorem merkleLoop_packs (auxChains : List AuxChainJob)
    (hdistinct : auxChains.Pairwise fun a b => uint32 a.chainID % 2 ^ 31 ≠ uint32 b.chainID % 2 ^ 31) :
    ∃ m merkleBase, merkleLoop 0 auxChains 33 1 = some (.ok (2 ^ m, merkleBase)) ∧
      (auxChains.map fun mj =>
        ((12345 + uint32 mj.chainID) * 1103515245 + 12345) % 2 ^ 32 % 2 ^ m).Nodup ∧
      (∀ k < m, ¬ (auxChains.map fun mj =>
        ((12345 + uint32 mj.chainID) * 1103515245 + 12345) % 2 ^ 32 % 2 ^ k).Nodup) ∧
      merkleBase.length = 2 ^ m ∧
      (∀ mj ∈ auxChains,
        merkleBase[((12345 + uint32 mj.chainID) * 1103515245 + 12345) % 2 ^ 32 % 2 ^ m]? =
          some (some mj.headerHash)) ∧
      (∀ i < 2 ^ m,
        (∀ mj ∈ auxChains, ((12345 + uint32 mj.chainID) * 1103515245 + 12345) % 2 ^ 32 % 2 ^ m ≠ i) →
        merkleBase[i]? = some none) ∧
      ∀ l, l.Perm auxChains → merkleLoop 0 l 33 1 = merkleLoop 0 auxChains 33 1 := by
  simp only [← merkleSlot_zero]
  obtain ⟨m, hd, hmin, he⟩ := merkleLoop_of_distinct 0 hdistinct
  exact ⟨m, _, he, hd, hmin, by simp, fun _ => packedTable_of_mem hd,
    fun _ => packedTable_of_forall_ne, fun _ hp => merkleLoop_perm 0 hp⟩

/-- The aux chains of the spec's merge-mining scenario: chain IDs `1` and `42`. -/
def scenarioAuxChains : List AuxChainJob :=
  [{ (default : AuxChainJob) with chainID := 1 }, { (default : AuxChainJob) with chainID := 42 }]

theorem merkleLoop_packs_scenario :
    scenarioAuxChains.Pairwise
        (fun a b => uint32 a.chainID % 2 ^ 31 ≠ uint32 b.chainID % 2 ^ 31) ∧
      ∃ m merkleBase, merkleLoop 0 scenarioAuxChains 33 1 = some (.ok (2 ^ m, merkleBase)) ∧
        (scenarioAuxChains.map fun mj =>
          ((12345 + uint32 mj.chainID) * 1103515245 + 12345) % 2 ^ 32 % 2 ^ m).Nodup ∧
        (∀ k < m, ¬ (scenarioAuxChains.map fun mj =>
          ((12345 + uint32 mj.chainID) * 1103515245 + 12345) % 2 ^ 32 % 2 ^ k).Nodup) ∧
        merkleBase.length = 2 ^ m ∧
        (∀ mj ∈ scenarioAuxChains,
          merkleBase[((12345 + uint32 mj.chainID) * 1103515245 + 12345) % 2 ^ 32 % 2 ^ m]? =
            some (some mj.headerHash)) ∧
        (∀ i < 2 ^ m, (∀ mj ∈ scenarioAuxChains,
            ((12345 + uint32 mj.chainID) * 1103515245 + 12345) % 2 ^ 32 % 2 ^ m ≠ i) →
          merkleBase[i]? = some none) ∧
        ∀ l, l.Perm scenarioAuxChains → merkleLoop 0 l 33 1 = merkleLoop 0 scenarioAuxChains 33 1 :=
  ⟨by decide, merkleLoop_packs scenarioAuxChains (by decide)⟩

end Ngpool
