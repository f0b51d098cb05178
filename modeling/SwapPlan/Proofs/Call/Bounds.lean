import SwapPlan.Call.Resolution
import SwapPlan.Proofs.Outcome
/-!
# Resolved positions are inside the calldata

Whatever the calldata is, a word that the resolver finds in it is inside of it, all thirty-two bytes,
unless its end wraps around; no position of sixteen bits is that far behind
(`CallLayout.positions_inside`).
-/
set_option autoImplicit false

namespace SwapPlan

theorem Frame.walk_inside {bits : Nat} {calldata : Bytes} {frame : Frame} {index offset : Nat}
    {rest : List Nat} (h : frame.walk bits calldata index rest = .ok offset)
    (fits : offset + Word.size < 2 ^ bits) : offset + Word.size ≤ calldata.length := by
  -- The walk ends at a word, and only there the offset is compared with the length.
  induction rest generalizing frame index with
  | nil =>
    rw [walk, word, Outcome.bind_eq_ok] at h
    obtain ⟨⟨place, type⟩, _, h⟩ := h
    dsimp only at h
    rw [Outcome.ite_else_error_eq_ok, Outcome.ite_else_error_eq_ok] at h
    obtain ⟨_, inside, found⟩ := h
    cases found
    rwa [Nat.pow_eq, Nat.mod_eq_of_lt fits] at inside
  | cons next rest ih =>
    rw [walk, Outcome.bind_eq_ok] at h
    obtain ⟨inner, _, h⟩ := h
    exact ih h

namespace CallLayout

variable {layout : CallLayout} {calldata : Bytes}

theorem locate_inside {location : FieldLocation} {offset : Nat}
    (h : layout.locate calldata location = .ok offset) (fits : offset + Word.size < 2 ^ 64) :
    offset + Word.size ≤ calldata.length := by
  cases location with
  | slot path =>
    rw [locate, Function.offset, Outcome.bind_eq_ok] at h
    obtain ⟨_, _, h⟩ := h
    exact Frame.walk_inside h fits
  | literal known =>
    rw [locate, Outcome.bind_eq_ok] at h
    obtain ⟨_, _, h⟩ := h
    rw [Outcome.ite_else_error_eq_ok] at h
    obtain ⟨inside, found⟩ := h
    cases found
    exact inside

theorem position?_inside {field : PatchField} {offset : UInt16}
    (h : layout.position? calldata field = .ok (some offset)) :
    offset.toNat + Word.size ≤ calldata.length := by
  rw [position?] at h
  cases declared : layout.location field with
  | none =>
    rw [declared] at h
    cases h
  | some location =>
    rw [declared] at h
    obtain ⟨_, found, same⟩ := Outcome.map_eq_ok.1 h
    cases same
    simp only [position, declared] at found
    obtain ⟨place, located, narrowed⟩ := Outcome.bind_eq_ok.1 found
    rw [narrow, Outcome.ite_else_error_eq_ok] at narrowed
    obtain ⟨fits, same⟩ := narrowed
    cases same
    rw [UInt16.toNat_ofNat_of_lt' fits]
    exact locate_inside located (Nat.lt_trans (Nat.add_lt_add_right fits Word.size) (by decide))

theorem positions_eq_ok_iff {p : Positions} :
    layout.positions calldata = .ok p ↔
      layout.position? calldata .fromAmount = .ok p.fromAmount ∧
      layout.position? calldata .toAmount = .ok p.toAmount ∧
      layout.position? calldata .srcToken = .ok p.srcToken ∧
      layout.position? calldata .returnAmount = .ok p.returnAmount := by
  simp only [positions, Outcome.bind_eq_ok, Outcome.pure_eq_ok]
  constructor
  · rintro ⟨_, first, _, second, _, third, _, fourth, rfl⟩
    exact ⟨first, second, third, fourth⟩
  · rintro ⟨first, second, third, fourth⟩
    exact ⟨_, first, _, second, _, third, _, fourth, rfl⟩

theorem positions_inside {p : Positions} (h : layout.positions calldata = .ok p) :
    ∀ entry ∈ p.named, ∀ offset, entry.2 = some offset →
      offset.toNat + Word.size ≤ calldata.length := by
  obtain ⟨first, second, third, fourth⟩ := positions_eq_ok_iff.1 h
  simp only [Positions.named, List.forall_mem_cons]
  refine ⟨?_, ?_, ?_, ?_, nofun⟩
  all_goals
    intro offset found
    simp only [found] at first second third fourth
    apply position?_inside
    assumption

theorem returnAmount_of_positions {p : Positions} (h : layout.positions calldata = .ok p)
    (absent : layout.location .returnAmount = none) : p.returnAmount = none := by
  obtain ⟨_, _, _, found⟩ := positions_eq_ok_iff.1 h
  rw [position?, absent, Except.ok.injEq] at found
  exact found.symm

end CallLayout
end SwapPlan
