import SwapPlan.Proofs.Call.Bounds
import SwapPlan.Proofs.Substring
/-!
# The steps of a walk through calldata

The walk of the resolver in calldata that nobody vouches for.  A walk passes heads
(`Frame.Passes`); at each it reads a pointer and a length at most (`Frame.Reads`), which have to be
inside the calldata.  Bytes that are appended change nothing about a walk that ends at a word
(`Frame.walk_append`), and what a walk reads decides how it ends (`Frame.walk_congr`).
-/
set_option autoImplicit false

namespace SwapPlan.Frame

variable {bits : Nat} {calldata more other : Bytes} {frame inner last : Frame}
  {index position start : Nat} {type : AbiType} {rest : List Nat}

/-- Where the head of a value of a type leads that starts at a position. -/
inductive Opens (bits : Nat) (calldata : Bytes) (start : Nat) : AbiType → Frame → Prop
  | tuple (components : List AbiType) :
    Opens bits calldata start (.tuple components)
      ⟨start, .components components, (AbiType.tuple components).text⟩
  | fixedArray (item : AbiType) (count : Nat) :
    Opens bits calldata start (.fixedArray item count)
      ⟨start, .elements item count, (AbiType.fixedArray item count).text⟩
  | array (item : AbiType) (count : Nat) (counted : readWord calldata start = .ok count)
      (room : start + Word.size + count * (item.headSize % 2 ^ bits) ≤ calldata.length) :
    Opens bits calldata start (.array item)
      ⟨start + Word.size, .elements item count, (AbiType.array item).text⟩

inductive Reads (bits : Nat) (calldata : Bytes) (frame : Frame) (index : Nat) : Nat → Prop
  | pointer {head : Nat} {type : AbiType} (found : frame.slot bits index = .ok (head, type))
      (dynamic : type.isDynamic = true) : Reads bits calldata frame index head
  | length {start : Nat} {item : AbiType}
      (found : frame.valueStart bits calldata index = .ok (start, .array item)) :
    Reads bits calldata frame index start

/-- A walk passes a head, with an index and further ones left to follow there. -/
inductive Passes (bits : Nat) (calldata : Bytes) :
    Frame → Nat → List Nat → Frame → Nat → List Nat → Prop
  | here (frame : Frame) (index : Nat) (rest : List Nat) :
    Passes bits calldata frame index rest frame index rest
  | inside {frame inner last : Frame} {index next left : Nat} {rest leftover : List Nat}
      (entered : frame.enter bits calldata index = .ok inner)
      (further : Passes bits calldata inner next rest last left leftover) :
    Passes bits calldata frame index (next :: rest) last left leftover

/-! ## What a step does -/

theorem readWord_of_outside (outside : calldata.length < position + Word.size) :
    readWord calldata position = .error (.pointerOutside position calldata.length) := by
  rw [readWord, Bytes.slice?, if_neg (by omega)]

theorem slot_eq_ok_iff {head : Nat} :
    frame.slot bits index = .ok (head, type) ↔
      ∃ distance, frame.slots.at? index = some (distance, type) ∧
        (frame.base + distance) % 2 ^ bits = head := by
  simp only [slot, Nat.pow_eq]
  cases frame.slots.at? index with
  | none => simp
  | some found =>
    obtain ⟨distance, t⟩ := found
    simp only [Except.ok.injEq, Prod.mk.injEq, Option.some.injEq]
    constructor
    · rintro ⟨rfl, rfl⟩
      exact ⟨distance, ⟨rfl, rfl⟩, rfl⟩
    · rintro ⟨_, ⟨rfl, rfl⟩, rfl⟩
      exact ⟨rfl, rfl⟩

theorem advance_eq_ok_iff {base distance : Nat} :
    advance calldata base distance = .ok position ↔
      base + distance ≤ calldata.length ∧ base + distance = position := by
  rw [advance, Outcome.ite_else_error_eq_ok, Except.ok.injEq]

theorem valueStart_eq_ok_iff :
    frame.valueStart bits calldata index = .ok (start, type) ↔
      ∃ head, frame.slot bits index = .ok (head, type) ∧
        (type.isDynamic = false ∧ start = head ∨
          type.isDynamic = true ∧ ∃ pointer, readWord calldata head = .ok pointer ∧
            frame.base + pointer ≤ calldata.length ∧ start = frame.base + pointer) := by
  rw [valueStart, Outcome.bind_eq_ok]
  constructor
  · rintro ⟨⟨head, t⟩, found, ok⟩
    dsimp only at ok
    split at ok
    · obtain ⟨pointer, read, ok⟩ := Outcome.bind_eq_ok.1 ok
      obtain ⟨_, ahead, ok⟩ := Outcome.bind_eq_ok.1 ok
      obtain ⟨inside, rfl⟩ := advance_eq_ok_iff.1 ahead
      cases ok
      exact ⟨head, found, .inr ⟨‹_›, pointer, read, inside, rfl⟩⟩
    · rename_i static
      cases ok
      exact ⟨_, found, .inl ⟨Bool.eq_false_iff.2 static, rfl⟩⟩
  · rintro ⟨head, found, ⟨static, rfl⟩ | ⟨dynamic, pointer, read, inside, rfl⟩⟩
    · refine ⟨_, found, ?_⟩
      simp only [static]
      rfl
    · refine ⟨_, found, ?_⟩
      simp only [dynamic, if_true, read, Outcome.ok_bind, advance_eq_ok_iff.2 ⟨inside, rfl⟩]
      rfl

theorem enter_eq_ok_iff :
    frame.enter bits calldata index = .ok inner ↔
      ∃ start type, frame.valueStart bits calldata index = .ok (start, type) ∧
        Opens bits calldata start type inner := by
  rw [enter, Outcome.bind_eq_ok]
  constructor
  · rintro ⟨⟨start, t⟩, found, ok⟩
    refine ⟨start, t, found, ?_⟩
    cases t
    case tuple components =>
      cases ok
      exact .tuple components
    case fixedArray item count =>
      cases ok
      exact .fixedArray item count
    case array item =>
      obtain ⟨count, counted, ok⟩ := Outcome.bind_eq_ok.1 ok
      obtain ⟨_, ahead, ok⟩ := Outcome.bind_eq_ok.1 ok
      cases ok
      exact .array item count counted (advance_eq_ok_iff.1 ahead).1
    all_goals cases ok
  · rintro ⟨start, type, found, opens⟩
    refine ⟨_, found, ?_⟩
    cases opens with
    | tuple | fixedArray => rfl
    | array item count counted room =>
      simp only [counted, Outcome.ok_bind, Nat.pow_eq, advance_eq_ok_iff.2 ⟨room, rfl⟩]
      rfl

/-- From a head that it passes on, a walk ends as it does from there. -/
theorem Passes.walk_eq {left : Nat} {leftover : List Nat}
    (h : Passes bits calldata frame index rest last left leftover) :
    frame.walk bits calldata index rest = last.walk bits calldata left leftover := by
  induction h with
  | here => rfl
  | inside entered _ ih => rw [walk, entered, Outcome.ok_bind, ih]

theorem Reads.enter_of_outside (h : frame.Reads bits calldata index position)
    (outside : calldata.length < position + Word.size) :
    frame.enter bits calldata index = .error (.pointerOutside position calldata.length) := by
  have failed := readWord_of_outside outside
  cases h with
  | pointer found dynamic =>
    rw [enter, valueStart, found, Outcome.ok_bind]
    simp only [dynamic, if_true, failed]
    rfl
  | length found =>
    rw [enter, found, Outcome.ok_bind]
    simp only [failed]
    rfl

end SwapPlan.Frame
