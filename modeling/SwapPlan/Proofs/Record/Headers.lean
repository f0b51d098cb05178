import SwapPlan.Proofs.Outcome
import SwapPlan.Proofs.Substring
import SwapPlan.Record.Encoding
/-!
# Headers and what they announce

A record is read in two steps: sixty bytes of header, and as much calldata as they announce.  Whether
a header is accepted does not depend on where it stands or on what comes after it, so reading behind
an accepted header fails only for want of calldata (`Announces.decodeAt_eq`).
-/
set_option autoImplicit false

namespace SwapPlan

theorem takeAt_eq_ok_iff {data part : Bytes} {position needed : Nat} :
    takeAt data position needed = .ok part ↔
      data.StandsAt position part ∧ part.length = needed := by
  rw [← Bytes.slice?_eq_some_iff, takeAt]
  cases data.slice? position needed <;> simp

theorem takeAt_of_lt {data : Bytes} {position needed : Nat}
    (short : data.length < position + needed) :
    takeAt data position needed = .error (.truncated position needed (data.length - position)) := by
  rw [takeAt, Bytes.slice?, if_neg (Nat.not_le_of_lt short)]

theorem takeAt_of_le {data : Bytes} {position needed : Nat}
    (room : position + needed ≤ data.length) :
    takeAt data position needed = .ok ((data.drop position).take needed) := by
  rw [takeAt, Bytes.slice?, if_pos room]

namespace Instruction

def numbers (layout : HeaderLayout) (bytes : Bytes) : Header :=
  Header.read layout.columns (bytes.drop Address.size) {}

def headerFlags (layout : HeaderLayout) (bytes : Bytes) : Flags :=
  Flags.ofNat (numbers layout bytes).flags

def headerPositions (layout : HeaderLayout) (bytes : Bytes) : Positions :=
  let header := numbers layout bytes
  (headerFlags layout bytes).positions (UInt16.ofNat header.fromAmount)
    (UInt16.ofNat header.toAmount) (UInt16.ofNat header.srcToken) (UInt16.ofNat header.returnAmount)

def ofHeader (layout : HeaderLayout) (bytes calldata : Bytes) : Instruction where
  target := .ofPrefix (bytes.take Address.size)
  positions := headerPositions layout bytes
  special :=
    if (headerFlags layout bytes).contains .specialExchange then
      some (UInt16.ofNat (numbers layout bytes).special)
    else none
  flags := headerFlags layout bytes
  calldata := calldata

/-- Sixty bytes that are accepted as the header of calldata. -/
structure Announces (layout : HeaderLayout) (bytes calldata : Bytes) : Prop where
  size : bytes.length = headerLength
  padding : ¬(bytes.drop (headerLength - paddingLength)).any (· ≠ 0) = true
  defined : ¬(headerFlags layout bytes).hasUndefined = true
  flagged : ¬(UInt16.ofNat (numbers layout bytes).special ≠ 0 ∧
    ¬(headerFlags layout bytes).contains .specialExchange = true)
  length : (numbers layout bytes).length = calldata.length
  inside : (headerPositions layout bytes).firstOutside? calldata.length = none

variable {layout : HeaderLayout} {data bytes calldata : Bytes} {position : Nat}

theorem Announces.decodeAt_eq (h : Announces layout bytes calldata)
    (stands : data.StandsAt position bytes) :
    decodeAt layout data position =
      (takeAt data (position + headerLength) calldata.length).map (ofHeader layout bytes) := by
  rw [decodeAt, takeAt_eq_ok_iff.2 ⟨stands, h.size⟩, Outcome.ok_bind]
  have padding := h.padding
  have defined := h.defined
  have flagged := h.flagged
  have length := h.length
  have inside := h.inside
  simp only [headerPositions, headerFlags, numbers] at padding defined flagged length inside
  simp only [if_neg padding, if_neg defined, if_neg flagged, length, inside]
  rfl

/-- A record is read exactly where an accepted header stands in front of the calldata that it
announces. -/
theorem decodeAt_eq_ok_iff {i : Instruction} :
    decodeAt layout data position = .ok i ↔
      ∃ bytes, Announces layout bytes i.calldata ∧ i = ofHeader layout bytes i.calldata ∧
        data.StandsAt position (bytes ++ i.calldata) := by
  constructor
  · intro read
    rw [decodeAt, Outcome.bind_eq_ok] at read
    obtain ⟨bytes, header, read⟩ := read
    obtain ⟨stands, size⟩ := takeAt_eq_ok_iff.1 header
    dsimp only at read
    rw [Outcome.ite_error_eq_ok, Outcome.ite_error_eq_ok, Outcome.ite_error_eq_ok,
      Outcome.bind_eq_ok] at read
    obtain ⟨padding, defined, flagged, calldata, body, read⟩ := read
    split at read
    · cases read
    · rename_i inside
      cases read
      obtain ⟨behind, length⟩ := takeAt_eq_ok_iff.1 body
      rw [← size] at behind
      rw [← length] at inside
      exact ⟨bytes, ⟨size, padding, defined, flagged, length.symm, inside⟩, rfl,
        Bytes.standsAt_append_iff.2 ⟨stands, behind⟩⟩
  · rintro ⟨bytes, announces, same, stands⟩
    obtain ⟨header, body⟩ := Bytes.standsAt_append_iff.1 stands
    rw [announces.size] at body
    rw [announces.decodeAt_eq header, takeAt_eq_ok_iff.2 ⟨body, rfl⟩, same]
    rfl

end Instruction
end SwapPlan
