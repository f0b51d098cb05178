import SwapPlan.Bytes
import SwapPlan.Word
/-!
# Addresses and address books

An account or contract address is a string of exactly twenty bytes.  Its text reads back as the
address (`Address.ofText_text`).

An address book gives addresses to keys, in an order of entries in which no key occurs twice.  The
address found for a key is that of its entry, whatever the order (`AddressBook.find?_eq_some_iff`),
and after an insertion it is the one inserted last (`AddressBook.find?_insert`).
-/
set_option autoImplicit false

namespace SwapPlan

structure Address where
  bytes : Bytes
  length_bytes : bytes.length = 20
deriving DecidableEq

namespace Address

def size : Nat := 20

def repeated (b : UInt8) : Address := ⟨List.replicate 20 b, List.length_replicate⟩

def zero : Address := repeated 0

/-- The first twenty bytes of a string, filled up with zeros. -/
def ofPrefix (bs : Bytes) : Address :=
  ⟨(bs ++ List.replicate 20 0).take 20, by simp⟩

theorem ext {a b : Address} (h : a.bytes = b.bytes) : a = b := by
  cases a; cases b; cases h; rfl

@[simp] theorem ofPrefix_bytes_append (a : Address) (bs : Bytes) :
    ofPrefix (a.bytes ++ bs) = a := by
  apply ext
  simp [ofPrefix, a.length_bytes]

@[simp] theorem ofPrefix_bytes (a : Address) : ofPrefix a.bytes = a := by
  simpa using ofPrefix_bytes_append a []

def padded (a : Address) : Bytes := List.replicate 12 0 ++ a.bytes

@[simp] theorem length_padded (a : Address) : a.padded.length = Word.size := by
  simp [padded, a.length_bytes, Word.size]

def text (a : Address) : String := Bytes.hex0x a.bytes

/-- Reads an address: exactly 40 bytes after an optional `0x`, digits of any case and gaps.  Where
gaps leave bytes unwritten, the address ends in zeros. -/
def ofText (text : String) : Except Text.Hex.Fault Address :=
  (Text.Hex.spacedBytes (· = 40) text).map ofPrefix

theorem ofText_text (a : Address) : ofText a.text = .ok a := by
  have fits : (decide (2 * a.bytes.length = 40)) = true := by simp [a.length_bytes]
  rw [ofText, text, Text.Hex.spacedBytes_hex0x fits]
  simp [Except.map]

end Address

structure AddressBook (κ : Type) where
  entries : List (κ × Address)
  nodup_keys : (entries.map Prod.fst).Nodup

namespace AddressBook

variable {κ : Type}

def empty : AddressBook κ := ⟨[], List.nodup_nil⟩

theorem ext {a b : AddressBook κ} (h : a.entries = b.entries) : a = b := by
  cases a; cases b; cases h; rfl

variable [DecidableEq κ]

/-- Entries with the address of a key replaced, or with a new entry at the end. -/
def place (key : κ) (address : Address) : List (κ × Address) → List (κ × Address)
  | [] => [(key, address)]
  | (k, a) :: rest => if k = key then (k, address) :: rest else (k, a) :: place key address rest

theorem mem_keys_place {key k : κ} {address : Address} {entries : List (κ × Address)} :
    k ∈ (place key address entries).map Prod.fst ↔ k = key ∨ k ∈ entries.map Prod.fst := by
  induction entries with
  | nil => simp [place]
  | cons e rest ih =>
    obtain ⟨j, a⟩ := e
    by_cases h : j = key <;> grind [place]

theorem nodup_place {key : κ} {address : Address} {entries : List (κ × Address)}
    (h : (entries.map Prod.fst).Nodup) : ((place key address entries).map Prod.fst).Nodup := by
  induction entries with
  | nil => simp [place]
  | cons e rest ih =>
    obtain ⟨j, a⟩ := e
    simp only [List.map_cons, List.nodup_cons] at h
    by_cases hj : j = key
    · rw [place, if_pos hj]
      exact List.nodup_cons.2 h
    · rw [place, if_neg hj, List.map_cons, List.nodup_cons, mem_keys_place]
      exact ⟨fun hc => hc.elim hj h.1, ih h.2⟩

def insert (book : AddressBook κ) (key : κ) (address : Address) : AddressBook κ :=
  ⟨place key address book.entries, nodup_place book.nodup_keys⟩

/-- The book of a list of entries; the last of each key counts. -/
def ofList (entries : List (κ × Address)) : AddressBook κ :=
  entries.foldl (fun book e => book.insert e.1 e.2) empty

def find? (book : AddressBook κ) (key : κ) : Option Address := book.entries.lookup key

theorem lookup_place {key k : κ} {address : Address} {entries : List (κ × Address)} :
    (place key address entries).lookup k =
      if k = key then some address else entries.lookup k := by
  induction entries with
  | nil =>
    by_cases hk : k = key
    · simp [place, hk]
    · simp [place, List.lookup_cons, hk, beq_eq_false_iff_ne.2 hk]
  | cons e rest ih =>
    obtain ⟨j, a⟩ := e
    by_cases hj : j = key
    · rw [place, if_pos hj]
      by_cases hk : k = key
      · simp [hj, hk]
      · simp [List.lookup_cons, hj, hk, beq_eq_false_iff_ne.2 hk]
    · rw [place, if_neg hj, List.lookup_cons, List.lookup_cons, ih]
      by_cases hk : k = j
      · simp [hk, hj]
      · simp [beq_eq_false_iff_ne.2 hk]

@[simp] theorem find?_empty (key : κ) : (empty : AddressBook κ).find? key = none := rfl

@[simp] theorem find?_insert (book : AddressBook κ) (key k : κ) (address : Address) :
    (book.insert key address).find? k = if k = key then some address else book.find? k :=
  lookup_place

/-- A key has the address of its entry, and no other. -/
theorem find?_eq_some_iff (book : AddressBook κ) (key : κ) (address : Address) :
    book.find? key = some address ↔ (key, address) ∈ book.entries := by
  obtain ⟨entries, nodup⟩ := book
  induction entries with
  | nil => simp [find?]
  | cons e rest ih =>
    obtain ⟨j, a⟩ := e
    have hrest := List.nodup_cons.1 nodup
    have tail := ih hrest.2
    simp only [find?, List.lookup_cons] at tail ⊢
    by_cases hj : key = j
    · subst hj
      have absent : (key, address) ∉ rest := fun member =>
        hrest.1 (List.mem_map.2 ⟨(key, address), member, rfl⟩)
      simp [absent, eq_comm]
    · simp [beq_eq_false_iff_ne.2 hj, tail, hj]

end AddressBook
end SwapPlan
