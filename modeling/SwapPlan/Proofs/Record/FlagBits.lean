import Mathlib
import SwapPlan.Record.Flags
/-!
# The bits of record flags

Each defined flag is a single bit (`getLsbD_named`), so a set of flags is known by its bits: setting
a flag changes its own bit (`getLsbD_set`) and nothing else, and two sets with the same bits are
equal (`ext_bits`).
-/
set_option autoImplicit false

namespace SwapPlan.Flags

def single (i : Nat) : Flags := ⟨BitVec.twoPow 16 i⟩

def ofConditions (conditions : List (Flags × Bool)) : Flags :=
  conditions.foldr (fun c flags => if c.2 then c.1.union flags else flags) empty

def absences (p : Positions) : List (Flags × Bool) :=
  [(fromAmountAbsent, p.fromAmount.isNone), (toAmountAbsent, p.toAmount.isNone),
    (srcTokenAbsent, p.srcToken.isNone), (returnAmountAbsent, p.returnAmount.isNone)]

/-- The flags that say what a record carries: the special handler and the four positions. -/
def carriage : Flags := ⟨0x0F04⟩

theorem ext_bits {f g : Flags} (h : ∀ i < 16, f.bits.getLsbD i = g.bits.getLsbD i) : f = g := by
  obtain ⟨f⟩ := f
  obtain ⟨g⟩ := g
  congr 1
  exact BitVec.eq_of_getLsbD_eq h

theorem getLsbD_single {i : Nat} (h : i < 16) (j : Nat) :
    (single i).bits.getLsbD j = decide (i = j) := by
  simp [single, BitVec.getLsbD_twoPow, h]

theorem exists_single : ∀ entry ∈ named, ∃ i < 16, entry.2 = single i := by decide

theorem getLsbD_named {flag : Flags} (mem : flag ∈ named.map Prod.snd) (i : Nat) :
    flag.bits.getLsbD i = decide (flag = single i) := by
  obtain ⟨entry, listed, rfl⟩ := List.mem_map.1 mem
  obtain ⟨j, small, same⟩ := exists_single entry listed
  rw [same, getLsbD_single small, decide_eq_decide]
  refine ⟨fun h => h ▸ rfl, fun h => ?_⟩
  have bit := getLsbD_single small j
  rw [h] at bit
  by_contra other
  simp [single, BitVec.getLsbD_twoPow, Ne.symm other] at bit

theorem getLsbD_carriage {i : Nat} (h : i < 16) :
    carriage.bits.getLsbD i = decide (i = 2 ∨ i = 8 ∨ i = 9 ∨ i = 10 ∨ i = 11) := by
  interval_cases i <;> rfl

theorem getLsbD_set (f g : Flags) (value : Bool) (i : Nat) :
    (f.set g value).bits.getLsbD i = if g.bits.getLsbD i then value else f.bits.getLsbD i := by
  cases value with
  | true => cases h : g.bits.getLsbD i <;> simp [set, union, h]
  | false =>
    simp only [set, without, Bool.false_eq_true, if_false, BitVec.getLsbD_and, BitVec.getLsbD_not]
    by_cases hi : i < 16
    · cases g.bits.getLsbD i <;> simp [hi]
    · simp [BitVec.getLsbD_of_ge, Nat.le_of_not_lt hi]

theorem getLsbD_ofConditions (conditions : List (Flags × Bool)) (i : Nat) :
    (ofConditions conditions).bits.getLsbD i =
      conditions.any fun c => c.2 && c.1.bits.getLsbD i := by
  induction conditions with
  | nil => simp [ofConditions, empty]
  | cons c rest ih =>
    rw [List.any_cons, ← ih]
    cases h : c.2 <;> simp [ofConditions, union, h]

theorem contains_single (f : Flags) {i : Nat} (h : i < 16) :
    f.contains (single i) = f.bits.getLsbD i := by
  have nonzero : BitVec.twoPow 16 i ≠ 0 := by
    intro hz
    have bit := congrArg (fun v => BitVec.getLsbD v i) hz
    simp [h] at bit
  simp only [contains, single, BitVec.and_twoPow]
  cases f.bits.getLsbD i with
  | true => simp
  | false => simpa using fun hz => nonzero hz.symm

theorem undefinedBits_set (f g : Flags) (value : Bool) (h : g.undefinedBits = 0) :
    (f.set g value).undefinedBits = f.undefinedBits := by
  apply BitVec.eq_of_getLsbD_eq
  intro i hi
  have bit : g.undefinedBits.getLsbD i = false := by
    rw [h]
    simp
  rw [undefinedBits, BitVec.getLsbD_and] at bit
  simp only [undefinedBits, BitVec.getLsbD_and, getLsbD_set]
  cases hg : g.bits.getLsbD i with
  | true =>
    rw [hg, Bool.true_and] at bit
    simp only [bit, Bool.and_false]
  | false => rfl

theorem contains_set {flag g : Flags} (mem : flag ∈ named.map Prod.snd)
    (other : g ∈ named.map Prod.snd) (f : Flags) (value : Bool) :
    (f.set g value).contains flag = if g = flag then value else f.contains flag := by
  obtain ⟨entry, listed, rfl⟩ := List.mem_map.1 mem
  obtain ⟨i, small, same⟩ := exists_single entry listed
  rw [same, contains_single _ small, contains_single _ small, getLsbD_set, getLsbD_named other]
  simp

theorem ite_contains {flag : Flags} (mem : flag ∈ named.map Prod.snd) (f : Flags) (i : Nat)
    (other : Bool) :
    (if flag.bits.getLsbD i then f.contains flag else other) =
      if flag.bits.getLsbD i then f.bits.getLsbD i else other := by
  obtain ⟨entry, listed, rfl⟩ := List.mem_map.1 mem
  obtain ⟨j, small, same⟩ := exists_single entry listed
  rw [same, contains_single _ small, getLsbD_single small]
  by_cases h : j = i <;> simp [h]

/-- Marking the absent positions and the special handler rewrites exactly the flags of what a record
carries. -/
theorem set_markAbsent (f : Flags) (p : Positions) (special : Bool) :
    (f.markAbsent p).set specialExchange special =
      (f.without carriage).union (ofConditions ((specialExchange, special) :: absences p)) := by
  apply ext_bits
  intro i hi
  simp only [markAbsent, getLsbD_set, union, without, absences, BitVec.getLsbD_or,
    BitVec.getLsbD_and, BitVec.getLsbD_not, getLsbD_ofConditions, List.any_cons, List.any_nil, hi]
  simp (disch := decide) only [getLsbD_named, getLsbD_carriage hi]
  interval_cases i <;> simp +decide

theorem keep_getD {f absent : Flags} {offset : Option UInt16}
    (h : f.contains absent = offset.isNone) : f.keep absent (offset.getD 0) = offset := by
  cases offset <;> simp_all [keep]

/-- The absence flags bring back every position from its number, which is zero if it is absent. -/
theorem positions_set_markAbsent (f : Flags) (p : Positions) (special : Bool) :
    ((f.markAbsent p).set specialExchange special).positions (p.fromAmount.getD 0)
      (p.toAmount.getD 0) (p.srcToken.getD 0) (p.returnAmount.getD 0) = p := by
  rw [positions]
  congr 1 <;> apply keep_getD
  all_goals
    rw [markAbsent]
    simp (disch := decide) only [contains_set]
    simp +decide

theorem undefinedBits_set_markAbsent (f : Flags) (p : Positions) (special : Bool) :
    ((f.markAbsent p).set specialExchange special).undefinedBits = f.undefinedBits := by
  unfold markAbsent
  rw [undefinedBits_set _ _ _ (by decide), undefinedBits_set _ _ _ (by decide),
    undefinedBits_set _ _ _ (by decide), undefinedBits_set _ _ _ (by decide),
    undefinedBits_set _ _ _ (by decide)]

end SwapPlan.Flags
