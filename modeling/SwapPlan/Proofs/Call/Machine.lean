import SwapPlan.Proofs.Call.Reach
import SwapPlan.Proofs.Record.Machine
/-!
# Resolution on a machine

A machine builds the list of the types of every head that it comes to, the elements of an array
among them, and adds up their sizes with numbers of its bits.  A sum or product that does not fit
stops it or wraps around, as it was built, and a list that is longer than a memory can hold stops
it always.  What remains between the two is exactly the resolver (`Machine.runs_offset`).
-/
set_option autoImplicit false

namespace SwapPlan.Machine

/-- A machine as a program was built for it. -/
structure Build where
  bits : Nat
  /-- Whether a sum or product that does not fit stops it; otherwise it wraps around. -/
  checked : Bool
  /-- The bytes that a type takes in a list. -/
  typeSize : Nat

inductive Stop
  | trap (cause : Trap)
  | error (cause : PositionError)

structure TypedHead where
  base : Nat
  types : List AbiType
  container : String

def typesOf : Slots → List AbiType
  | .components types => types
  | .elements item count => List.replicate count item

def TypedHead.of (frame : Frame) : TypedHead := ⟨frame.base, typesOf frame.slots, frame.container⟩

namespace Build

def fitted (m : Build) (n : Nat) : Except Stop Nat :=
  if n < 2 ^ m.bits then .ok n
  else if m.checked then .error (.trap .overflow)
  else .ok (n % 2 ^ m.bits)

mutual

def headSize (m : Build) : AbiType → Except Stop Nat
  | .fixedArray item count =>
    if item.isDynamic then .ok Word.size else do m.fitted (count * (← m.headSize item))
  | .tuple components =>
    if AbiType.anyDynamic components then .ok Word.size else m.headSizes 0 components
  | _ => .ok Word.size

def headSizes (m : Build) : Nat → List AbiType → Except Stop Nat
  | total, [] => .ok total
  | total, t :: rest => do m.headSizes (← m.fitted (total + (← m.headSize t))) rest

end

/-- A list of so many types takes no more than half of the memory that the numbers can address. -/
def Holds (m : Build) (count : Nat) : Prop := count * m.typeSize ≤ greatest (m.bits - 1)

instance (m : Build) (count : Nat) : Decidable (m.Holds count) :=
  inferInstanceAs (Decidable (_ ≤ _))

def allocate (m : Build) (item : AbiType) (count : Nat) : Except Stop (List AbiType) :=
  if m.Holds count then .ok (List.replicate count item) else .error (.trap .allocation)

def slot (m : Build) (head : TypedHead) (index : Nat) : Except Stop (Nat × AbiType) :=
  match head.types[index]? with
  | some type => do
    let distance ← m.headSizes 0 (head.types.take index)
    return (← m.fitted (head.base + distance), type)
  | none => .error (.error (.indexOutOfRange index head.container))

def readWord (m : Build) (calldata : Bytes) (position : Nat) : Except Stop Nat := do
  let behind ← m.fitted (position + Word.size)
  match part? calldata position behind with
  | some word =>
    if ofBigEndian word ≤ calldata.length then return ofBigEndian word
    else .error (.error (.pointerOutside position calldata.length))
  | none => .error (.error (.pointerOutside position calldata.length))

def advance (m : Build) (calldata : Bytes) (base distance : Nat) : Except Stop Nat :=
  if base + distance ≤ greatest m.bits ∧ base + distance ≤ calldata.length then
    .ok (base + distance)
  else .error (.error (.pointerOutside base calldata.length))

def valueStart (m : Build) (calldata : Bytes) (head : TypedHead) (index : Nat) :
    Except Stop (Nat × AbiType) := do
  let (position, type) ← m.slot head index
  if type.isDynamic then
    return (← m.advance calldata head.base (← m.readWord calldata position), type)
  else return (position, type)

def openHead (m : Build) (calldata : Bytes) (index start : Nat) (type : AbiType) :
    Except Stop TypedHead :=
  match type with
  | .tuple components => .ok ⟨start, components, type.text⟩
  | .fixedArray item count => do return ⟨start, ← m.allocate item count, type.text⟩
  | .array item => do
    let count ← m.readWord calldata start
    let base ← m.fitted (start + Word.size)
    -- A product that is too large counts as the largest number.
    let _ ← m.advance calldata base (min (count * (← m.headSize item)) (greatest m.bits))
    return ⟨base, ← m.allocate item count, type.text⟩
  | _ => .error (.error (.indexOutOfRange index type.text))

def enter (m : Build) (calldata : Bytes) (head : TypedHead) (index : Nat) :
    Except Stop TypedHead := do
  let (start, type) ← m.valueStart calldata head index
  m.openHead calldata index start type

def word (m : Build) (calldata : Bytes) (head : TypedHead) (index : Nat) : Except Stop Nat := do
  let (offset, type) ← m.slot head index
  if type.isWord then
    if (← m.fitted (offset + Word.size)) ≤ calldata.length then return offset
    else .error (.error (.pointerOutside offset calldata.length))
  else .error (.error (.notAWord type))

def walk (m : Build) (calldata : Bytes) (head : TypedHead) : Nat → List Nat → Except Stop Nat
  | index, [] => m.word calldata head index
  | index, next :: rest => do m.walk calldata (← m.enter calldata head index) next rest

/-- The offset of the word at a slot path in the calldata. -/
def offset (m : Build) (f : Function) (calldata : Bytes) (path : SlotPath) : Except Stop Nat := do
  (f.checkSelector calldata).mapError .error
  m.walk calldata ⟨Function.selectorLength, f.inputTypes, f.name⟩ path.argument path.inner

end Build

/-! ## Ending like the resolver, or with a trap -/

/-- A machine ends like the resolver if a condition holds, and otherwise with a trap. -/
inductive Runs {α : Type} (fits : Prop) (x : Except Stop α) (y : Except PositionError α) : Prop
  | agree (holds : fits) (same : x = y.mapError .error)
  | stop (fails : ¬fits) (cause : Trap) (stopped : x = .error (.trap cause))

namespace Runs

variable {α β γ : Type} {p q : Prop} {x : Except Stop α} {y : Except PositionError α}

theorem congr (h : Runs p x y) (same : p ↔ q) : Runs q x y := by
  cases h with
  | agree holds ends => exact .agree (same.1 holds) ends
  | stop fails cause stopped => exact .stop (mt same.2 fails) cause stopped

theorem eq_of (h : Runs p x y) (fits : p) : x = y.mapError .error := by
  cases h with
  | agree holds same => exact same
  | stop fails cause stopped => exact (fails fits).elim

theorem map (h : Runs p x y) (g : α → γ) :
    Runs p (x >>= fun a => pure (g a)) (y >>= fun a => pure (g a)) := by
  cases h with
  | agree holds same => exact .agree holds (by rw [same]; cases y <;> rfl)
  | stop fails cause stopped => exact .stop fails cause (by rw [stopped]; rfl)

theorem after {a : α} {f : α → Except Stop γ} {z : Except PositionError γ} (h : Runs p x (.ok a))
    (further : Runs q (f a) z) : Runs (p ∧ q) (x >>= f) z := by
  cases h with
  | stop fails cause stopped =>
    rw [stopped]
    exact .stop (fun both => fails both.1) cause rfl
  | agree holds same =>
    rw [same]
    exact further.congr (by simp [holds])

theorem bind_map {source : Except PositionError β} {shape : β → α} {next : β → Prop}
    {f : α → Except Stop γ} {g : β → Except PositionError γ} (h : Runs p x (source.map shape))
    (further : ∀ b, source = .ok b → Runs (next b) (f (shape b)) (g b)) :
    Runs (p ∧ ∀ b, source = .ok b → next b) (x >>= f) (source >>= g) := by
  cases source with
  | ok b => exact (h.after (further b rfl)).congr (by simp)
  | error e =>
    cases h with
    | stop fails cause stopped =>
      rw [stopped]
      exact .stop (fun both => fails both.1) cause rfl
    | agree holds same =>
      rw [same]
      exact .agree ⟨holds, nofun⟩ rfl

theorem bind {next : α → Prop} {f : α → Except Stop γ} {g : α → Except PositionError γ}
    (h : Runs p x y) (further : ∀ a, y = .ok a → Runs (next a) (f a) (g a)) :
    Runs (p ∧ ∀ a, y = .ok a → next a) (x >>= f) (y >>= g) := by
  have mapped : Runs p x (y.map id) := by
    cases y <;> exact h
  exact bind_map mapped further

end Runs

namespace Build

variable {m : Build}

theorem fitted_eq {n : Nat} (small : n < 2 ^ m.bits) : m.fitted n = .ok n := if_pos small

theorem runs_fitted (n : Nat) :
    Runs (m.checked = true → n < 2 ^ m.bits) (m.fitted n) (.ok (n % 2 ^ m.bits)) := by
  by_cases small : n < 2 ^ m.bits
  · rw [fitted_eq small, Nat.mod_eq_of_lt small]
    exact .agree (fun _ => small) rfl
  · rw [fitted, if_neg small]
    cases m.checked with
    | true => exact .stop (fun fits => small (fits rfl)) .overflow rfl
    | false => exact .agree nofun rfl

/-- Two sums one after the other fit if the whole sum does. -/
theorem fits_twice_iff {first further : Nat} :
    ((m.checked = true → first < 2 ^ m.bits) ∧
      (m.checked = true → first % 2 ^ m.bits + further < 2 ^ m.bits)) ↔
      (m.checked = true → first + further < 2 ^ m.bits) := by
  rw [← imp_and]
  refine imp_congr_right fun _ => ⟨fun fits => ?_, fun all => ?_⟩
  · have whole := fits.2
    rwa [Nat.mod_eq_of_lt fits.1] at whole
  · have small := Nat.lt_of_le_of_lt (Nat.le_add_right _ _) all
    exact ⟨small, by rwa [Nat.mod_eq_of_lt small]⟩

mutual

theorem headSize_eq : ∀ t : AbiType, (∀ u ∈ t.subtypes, u.headSize < 2 ^ m.bits) →
    m.headSize t = .ok t.headSize
  | .fixedArray item count, heads => by
    have whole := heads _ (AbiType.mem_subtypes _)
    rw [AbiType.headSize] at whole ⊢
    rw [headSize]
    split at whole
    · simp only [*, if_true]
    · rename_i static
      rw [if_neg static, if_neg static,
        headSize_eq item fun u mem => heads u (List.mem_cons_of_mem _ mem), Outcome.ok_bind,
        fitted_eq whole]
  | .tuple components, heads => by
    have whole := heads _ (AbiType.mem_subtypes _)
    rw [AbiType.headSize] at whole ⊢
    rw [headSize]
    split at whole
    · simp only [*, if_true]
    · rename_i static
      have sum := runs_headSizes components 0 (Nat.pow_pos (by decide))
        fun u mem => heads u (List.mem_cons_of_mem _ mem)
      rw [Nat.zero_add] at sum
      rw [if_neg static, if_neg static, sum.eq_of fun _ => whole, Nat.mod_eq_of_lt whole]
      rfl
  | .address, _ | .bool, _ | .string, _ | .bytes, _ | .fixedBytes _, _ | .uint _, _ | .int _, _
  | .array _, _ => rfl

theorem runs_headSizes : ∀ (types : List AbiType) (total : Nat), total < 2 ^ m.bits →
    (∀ u ∈ AbiType.allSubtypes types, u.headSize < 2 ^ m.bits) →
    Runs (m.checked = true → total + AbiType.headSizes types < 2 ^ m.bits)
      (m.headSizes total types) (.ok ((total + AbiType.headSizes types) % 2 ^ m.bits))
  | [], total, small, _ => by
    rw [AbiType.headSizes, Nat.add_zero, Nat.mod_eq_of_lt small]
    exact .agree (fun _ => small) rfl
  | t :: rest, total, small, heads => by
    rw [AbiType.allSubtypes, List.forall_mem_append] at heads
    rw [headSizes, headSize_eq t heads.1, Outcome.ok_bind, AbiType.headSizes, ← Nat.add_assoc]
    have partial_sum := runs_fitted (m := m) (total + t.headSize)
    have further := runs_headSizes rest ((total + t.headSize) % 2 ^ m.bits)
      (Nat.mod_lt _ (Nat.pow_pos (by decide))) heads.2
    rw [Nat.mod_add_mod] at further
    exact (partial_sum.after further).congr fits_twice_iff

end

variable {calldata : Bytes} {frame : Frame} {index position : Nat}

def Opens (m : Build) (calldata : Bytes) (start : Nat) : AbiType → Prop
  | .fixedArray _ count => m.Holds count
  | .array item => (m.checked = true → start + Word.size < 2 ^ m.bits) ∧
    ∀ count, Frame.readWord calldata start = .ok count →
      start + Word.size + count * item.headSize ≤ calldata.length → m.Holds count
  | _ => True

end Build
end SwapPlan.Machine
