import Mathlib.Data.Nat.Bitwise
import Ngpool.Job

/-!
# The Algo Field of a Version Word

A multi-algo chain records the proof-of-work algorithm in a field of the block version:
`MultiAlgoBitWidth` bits from bit `MultiAlgoBitShift`. `setAlgoVersion` means to clear that
field and write the algo's code into it. The clearing mask is written `(2 ^ width) - 1` in Go,
where `^` is exclusive or, so the mask cleared is `((2 xor width) - 1) << shift` (`algoMask`),
not the field's own mask `(2^width - 1) << shift` (`fieldMask`).

`FieldRewritten` states what a field rewrite is, bit by bit: a 32-bit word whose field holds
the code and whose other bits are those of the original word.

## Main results

* `setAlgoVersion_eq_of_multiAlgo`: the version word as the masked rewrite.
* `fieldRewritten_of_fieldMask`: a rewrite with the field's own mask is a field rewrite.
* `eq_fieldMask_of_fieldRewritten`: and no other mask is.
* `setAlgoVersion_field_iff`: for a layout within 32 bits, `setAlgoVersion` rewrites exactly
  the algo field of every version word exactly when the layout is shift 30 and width 2, or
  shift 32 and width 0.
-/

namespace Ngpool

/-- The mask `setAlgoVersion` clears: `((2 xor width) - 1) << shift` in `uint32`. -/
def algoMask (shift width : Nat) : Nat :=
  ((((2 ^^^ width) + (2 ^ 32 - 1)) % 2 ^ 32) <<< shift) % 2 ^ 32

/-- The field's own mask: `width` ones from bit `shift`, within 32 bits. -/
def fieldMask (shift width : Nat) : Nat := ((2 ^ width - 1) <<< shift) % 2 ^ 32

/-- The word `v` with the bits of `mask` cleared and `code << shift` set, in `uint32`. -/
def maskedRewrite (v mask shift code : Nat) : Nat :=
  v &&& (mask ^^^ (2 ^ 32 - 1)) ||| (code <<< shift) % 2 ^ 32

/-- The algo field rewrite as the spec states it: `r` is a 32-bit word, bits
`[shift, shift + width)` of `r` hold `code`, and every other bit of `r` is that of `v`. -/
def FieldRewritten (v r shift width code : Nat) : Prop :=
  r < 2 ^ 32 ∧ (r >>> shift) % 2 ^ width = code ∧
    ∀ i < 32, (i < shift ∨ shift + width ≤ i) → r.testBit i = v.testBit i

/-- With `MultiAlgo` set, `setAlgoVersion` is the rewrite with `algoMask`. -/
theorem setAlgoVersion_eq_of_multiAlgo {config : ChainConfig} (h : config.multiAlgo = true)
    (v : Nat) (algo : Algo) :
    setAlgoVersion v config algo =
      maskedRewrite v (algoMask config.multiAlgoBitShift config.multiAlgoBitWidth)
        config.multiAlgoBitShift (config.multiAlgoMap algo.name) := by
  simp only [setAlgoVersion, h, if_true, algoMask, maskedRewrite]

/-- Without `MultiAlgo`, `setAlgoVersion` returns the word unchanged. -/
theorem setAlgoVersion_of_not_multiAlgo {config : ChainConfig} (h : config.multiAlgo = false)
    (v : Nat) (algo : Algo) : setAlgoVersion v config algo = v := by
  simp [setAlgoVersion, h]

/-! ### Bits of the rewrite -/

/-- A bit below 32 of a masked rewrite: the bit of `v` if the mask keeps it, or a bit of the
code from `shift` up. -/
theorem testBit_maskedRewrite (v mask shift code : Nat) {i : Nat} (hi : i < 32) :
    (maskedRewrite v mask shift code).testBit i =
      (v.testBit i && !mask.testBit i || decide (shift ≤ i) && code.testBit (i - shift)) := by
  simp only [maskedRewrite, Nat.testBit_or, Nat.testBit_and, Nat.testBit_xor,
    Nat.testBit_two_pow_sub_one, Nat.testBit_mod_two_pow, Nat.testBit_shiftLeft, hi,
    decide_True, Bool.true_and, Bool.xor_true, ge_iff_le]

theorem maskedRewrite_lt (v mask shift code : Nat) (hmask : mask < 2 ^ 32) :
    maskedRewrite v mask shift code < 2 ^ 32 :=
  Nat.or_lt_two_pow (Nat.and_lt_two_pow _ (Nat.xor_lt_two_pow hmask (by omega))) (Nat.mod_lt _ (by omega))

theorem fieldMask_lt (shift width : Nat) : fieldMask shift width < 2 ^ 32 := Nat.mod_lt _ (by omega)

theorem testBit_fieldMask (shift width i : Nat) :
    (fieldMask shift width).testBit i = decide (i < 32 ∧ shift ≤ i ∧ i < shift + width) := by
  simp only [fieldMask, Nat.testBit_mod_two_pow, Nat.testBit_shiftLeft, Nat.testBit_two_pow_sub_one,
    ge_iff_le, ← Bool.decide_and, decide_eq_decide]
  omega

/-- A code below `2^width` has no bit from `width` up. -/
theorem testBit_code {code width j : Nat} (hc : code < 2 ^ width) (hj : width ≤ j) :
    code.testBit j = false :=
  Nat.testBit_lt_two_pow (lt_of_lt_of_le hc (Nat.pow_le_pow_right (by omega) hj))

/-! ### Which masks rewrite the field -/

/-- **The field's own mask rewrites the field**: for a layout within 32 bits and a code that fits
its width, clearing `fieldMask` and setting the code is a field rewrite of every word. -/
theorem fieldRewritten_of_fieldMask {v shift width code : Nat} (hsw : shift + width ≤ 32)
    (hc : code < 2 ^ width) :
    FieldRewritten v (maskedRewrite v (fieldMask shift width) shift code) shift width code := by
  refine ⟨maskedRewrite_lt _ _ _ _ (fieldMask_lt _ _), Nat.eq_of_testBit_eq fun j => ?_,
    fun i hi hout => ?_⟩
  · rw [Nat.testBit_mod_two_pow, Nat.testBit_shiftRight]
    by_cases hj : j < width
    · rw [testBit_maskedRewrite _ _ _ _ (by omega), testBit_fieldMask]
      simp [hj, show shift + j < 32 by omega]
    · simp [hj, testBit_code hc (show width ≤ j by omega)]
  · rw [testBit_maskedRewrite _ _ _ _ hi, testBit_fieldMask]
    rcases hout with h | h
    · simp [show ¬ shift ≤ i by omega]
    · simp [testBit_code hc (show width ≤ i - shift by omega), show ¬ i < shift + width by omega]

/-- **No other mask does**: if clearing `mask` from the all-ones word and setting code `0` is a
field rewrite, then `mask` is the field's own mask. -/
theorem eq_fieldMask_of_fieldRewritten {mask shift width : Nat} (hmask : mask < 2 ^ 32)
    (h : FieldRewritten (2 ^ 32 - 1) (maskedRewrite (2 ^ 32 - 1) mask shift 0) shift width 0) :
    mask = fieldMask shift width := by
  obtain ⟨-, hfield, hrest⟩ := h
  have hbit : ∀ i < 32, (maskedRewrite (2 ^ 32 - 1) mask shift 0).testBit i = !mask.testBit i :=
    fun i hi => by
      rw [testBit_maskedRewrite _ _ _ _ hi, Nat.testBit_two_pow_sub_one]
      simp [hi]
  refine Nat.eq_of_testBit_eq fun i => ?_
  rw [testBit_fieldMask]
  by_cases hi : i < 32
  · by_cases hin : shift ≤ i ∧ i < shift + width
    · have := congrArg (Nat.testBit · (i - shift)) hfield
      simp only [Nat.testBit_mod_two_pow, Nat.testBit_shiftRight, Nat.zero_testBit,
        show i - shift < width by omega, decide_True, Bool.true_and,
        show shift + (i - shift) = i by omega, hbit i hi] at this
      simpa [hi, hin] using this
    · have := hrest i hi (by omega)
      rw [hbit i hi, Nat.testBit_two_pow_sub_one] at this
      simpa [hi, hin] using this
  · simp [hi, testBit_code hmask (show 32 ≤ i by omega)]

/-- The layouts within 32 bits whose `algoMask` is the field's mask: shift 30 with width 2, and
the empty field at shift 32. -/
theorem algoMask_eq_fieldMask_iff {shift width : Nat} (hsw : shift + width ≤ 32) :
    algoMask shift width = fieldMask shift width ↔
      (shift = 30 ∧ width = 2) ∨ (shift = 32 ∧ width = 0) := by
  have hall : ∀ s < 33, ∀ w < 33 - s,
      (algoMask s w = fieldMask s w ↔ (s = 30 ∧ w = 2) ∨ (s = 32 ∧ w = 0)) := by decide
  exact hall shift (by omega) width (by omega)

/-! ### `setAlgoVersion` -/

/-- **`setAlgoVersion` against the algo field.** Without `MultiAlgo` the version word comes back
unchanged, and `NewMainChainJob` stores the little-endian `setAlgoVersion` of the template's
version. With `MultiAlgo` and a layout within 32 bits, every 32-bit version word gets exactly its
algo field rewritten, for every algo code that fits the width, only when the layout is shift 30
with width 2 or the empty field at shift 32; at any other layout some word comes out with a
field that does not hold the code or with another bit changed. -/
theorem setAlgoVersion_field_iff (shift width : Nat) (hsw : shift + width ≤ 32) :
    (∀ v config algo, config.multiAlgo = false → setAlgoVersion v config algo = v) ∧
    (∀ lib tmpl config algo (mj : MainChainJob), newMainChainJob lib tmpl config algo = .ok mj →
      mj.version = putUint32 (setAlgoVersion (uint32 tmpl.version) config algo)) ∧
    ((∀ (v : Nat) (config : ChainConfig) (algo : Algo), v < 2 ^ 32 → config.multiAlgo = true →
        config.multiAlgoBitShift = shift → config.multiAlgoBitWidth = width →
        config.multiAlgoMap algo.name < 2 ^ width →
        FieldRewritten v (setAlgoVersion v config algo) shift width (config.multiAlgoMap algo.name)) ↔
      (shift = 30 ∧ width = 2) ∨ (shift = 32 ∧ width = 0)) := by
  refine ⟨fun v _ algo h => setAlgoVersion_of_not_multiAlgo h v algo,
    fun _ _ _ _ _ h => (newMainChainJob_ok h).1, fun hall => ?_, ?_⟩
  · let config : ChainConfig := { (default : ChainConfig) with
      multiAlgo := true, multiAlgoBitShift := shift, multiAlgoBitWidth := width,
      multiAlgoMap := fun _ => 0 }
    have hrw := hall (2 ^ 32 - 1) config default (by omega) rfl rfl rfl (Nat.two_pow_pos width)
    rw [setAlgoVersion_eq_of_multiAlgo rfl] at hrw
    exact (algoMask_eq_fieldMask_iff hsw).mp
      (eq_fieldMask_of_fieldRewritten (Nat.mod_lt _ (by omega)) hrw)
  · rintro hlayout v config algo - hm rfl rfl hc
    rw [setAlgoVersion_eq_of_multiAlgo hm, (algoMask_eq_fieldMask_iff hsw).mpr hlayout]
    exact fieldRewritten_of_fieldMask hsw hc

/-- The field theorem at the one working layout with a non-empty field, shift 30 and width 2. -/
theorem setAlgoVersion_field_iff_shift30 :
    30 + 2 ≤ 32 ∧
    (∀ v config algo, config.multiAlgo = false → setAlgoVersion v config algo = v) ∧
    (∀ lib tmpl config algo (mj : MainChainJob), newMainChainJob lib tmpl config algo = .ok mj →
      mj.version = putUint32 (setAlgoVersion (uint32 tmpl.version) config algo)) ∧
    ((∀ (v : Nat) (config : ChainConfig) (algo : Algo), v < 2 ^ 32 → config.multiAlgo = true →
        config.multiAlgoBitShift = 30 → config.multiAlgoBitWidth = 2 →
        config.multiAlgoMap algo.name < 2 ^ 2 →
        FieldRewritten v (setAlgoVersion v config algo) 30 2 (config.multiAlgoMap algo.name)) ↔
      (30 = 30 ∧ 2 = 2) ∨ (30 = 32 ∧ 2 = 0)) :=
  ⟨by decide, setAlgoVersion_field_iff 30 2 (by decide)⟩

/-- A 4-bit algo field at bit 8, with every algo coded `2`. -/
def fourBitAlgoField : ChainConfig :=
  { (default : ChainConfig) with
    multiAlgo := true, multiAlgoBitShift := 8, multiAlgoBitWidth := 4, multiAlgoMap := fun _ => 2 }

/-- At width 4 the cleared mask is `0x500`: a version whose field holds `10` keeps it. -/
example : setAlgoVersion 0x20000A02 fourBitAlgoField default = 0x20000A02 := by decide

end Ngpool
