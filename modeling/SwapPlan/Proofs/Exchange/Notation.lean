import SwapPlan.Proofs.Exchange.Spending
import SwapPlan.Proofs.Json.Substitution
import SwapPlan.Proofs.Text.Numeral
/-!
# Amounts in the data of hops

Amounts in the data of hops are texts in either notation.  They are read exactly, and what cannot be
read exactly is refused (`Json.Reader.ReadsAmounts`), so exchanges do not see which notation the data
uses (`Exchange.amounts_exact`).
-/
set_option autoImplicit false

namespace SwapPlan

open Json (Reader Shape)
open Text (Denotes IsDigit Spells)

/-- A reader takes the texts that spell an amount, as the amount that they spell, and refuses all
other texts by quoting them. -/
structure Json.Reader.ReadsAmounts (read : Reader (Option Word)) : Prop where
  decimal : ∀ (text : String) (n : Nat), n < 2 ^ 256 → Denotes 10 text.toList n →
    ∃ w : Word, w.toNat = n ∧ read (.string text) = .ok (some w)
  printed : ∀ (zeros : Nat) (w : Word), read (.string (String.ofList
    (List.replicate zeros '0' ++ Nat.toDigits 10 w.toNat))) = .ok (some w)
  hexadecimal : ∀ (digits : String) (n : Nat), digits.length ≤ 64 → Denotes 16 digits.toList n →
    ∃ w : Word, w.toNat = n ∧ read (.string ("0x" ++ digits)) = .ok (some w)
  stray : ∀ (text : String) (c : Char), ¬"0x".toList <+: text.toList → c ∈ text.toList →
    (∀ d, ¬IsDigit 10 c d) → read (.string text) = .error (.badAmount text)
  overflow : ∀ (text : String) (n : Nat), 2 ^ 256 ≤ n → Denotes 10 text.toList n →
    read (.string text) = .error (.badAmount text)
  tooLong : ∀ digits : String, 64 < digits.length →
    (∀ c ∈ digits.toList, ∃ d, IsDigit 16 c d) →
    read (.string ("0x" ++ digits)) = .error (.badAmount ("0x" ++ digits))
  spelled : ∀ (text : String) (w : Word),
    read (.string text) = .ok (some w) ↔ Spells text.toList w.toNat

namespace Json.Reader

abbrev hopAmount : Reader (Option Word) := nullable eitherAmount

variable {text digits : String} {w : Word}

theorem hopAmount_eq_ok_iff :
    hopAmount (.string text) = .ok (some w) ↔ Spells text.toList w.toNat := by
  rw [← Word.ofEitherNotation?_eq_some_iff, hopAmount, nullable, eitherAmount]
  · cases Word.ofEitherNotation? text <;> simp [Except.map]
  · nofun

theorem hopAmount_eq_error (unspelled : ∀ w : Word, ¬Spells text.toList w.toNat) :
    hopAmount (.string text) = .error (.badAmount text) := by
  have none : Word.ofEitherNotation? text = none :=
    Option.eq_none_iff_forall_ne_some.2 fun w read =>
      unspelled w (Word.ofEitherNotation?_eq_some_iff.1 read)
  rw [hopAmount, nullable, eitherAmount, none]
  · rfl
  · nofun

theorem toList_marked (digits : String) :
    ("0x" ++ digits).toList = '0' :: 'x' :: digits.toList := by
  simp

theorem readsAmounts_hopAmount : ReadsAmounts hopAmount where
  decimal text n fits denoted := ⟨⟨n, fits⟩, rfl, hopAmount_eq_ok_iff.2 (.decimal denoted)⟩
  printed zeros w := by
    refine hopAmount_eq_ok_iff.2 (.decimal ?_)
    rw [String.toList_ofList]
    exact (Text.denotes_toDigits (by decide) w.toNat).leadingZeros (by decide) zeros
  hexadecimal digits n short denoted := by
    have fits : n < 2 ^ 256 := calc
      n < 16 ^ digits.toList.length := denoted.lt (by decide)
      _ ≤ 16 ^ 64 := Nat.pow_le_pow_right (by decide) (by rwa [String.length_toList])
      _ = 2 ^ 256 := by decide
    refine ⟨⟨n, fits⟩, rfl, hopAmount_eq_ok_iff.2 ?_⟩
    rw [toList_marked]
    exact .hexadecimal (by rwa [String.length_toList]) denoted
  stray text c unmarked mem noDigit := by
    refine hopAmount_eq_error fun w spelled => ?_
    have plain : Text.Hex.afterMark? text.toList = none :=
      Option.eq_none_iff_forall_ne_some.2 fun rest marked =>
        unmarked ⟨rest, (Text.Hex.afterMark?_eq_some_iff.1 marked).symm⟩
    obtain ⟨d, digit⟩ := (spelled.denotes_ten plain).exists_digit mem
    exact noDigit d digit
  overflow text n large denoted := by
    refine hopAmount_eq_error fun w spelled => ?_
    have again := spelled.denotes_ten (denoted.afterMark?_eq_none (by decide))
    rw [Text.denotes_ten_iff] at denoted again
    have small : w.toNat < 2 ^ 256 := w.toNat_lt
    rw [← again.2, denoted.2] at small
    omega
  tooLong digits long hex := by
    refine hopAmount_eq_error fun w spelled => ?_
    rw [toList_marked] at spelled
    have short := (spelled.denotes_sixteen (Text.afterMark?_eq_none_of_digits hex)).1
    rw [String.length_toList] at short
    omega
  spelled text w := hopAmount_eq_ok_iff

end Json.Reader

/-- An exchange makes the same of two hop data: the same calls or the same errors. -/
structure Exchange.SeesAlike (exchange : Exchange) (data other : Json) : Prop where
  adapterCall : ∀ request, exchange.adapterCall request data = exchange.adapterCall request other
  directCall : ∀ request, exchange.directCall request data = exchange.directCall request other
  executorCall : ∀ request recipient,
    exchange.executorCall request recipient data = exchange.executorCall request recipient other

theorem readHopData_fill {α : Type} {shape : Shape} {name : String} (exchange : String)
    (read : Reader α) (room : shape.Room name) (v : Json) :
    readHopData exchange read (room.fill v) =
      (read (room.fill v)).mapError (.invalidData exchange ·.message) := by
  cases room with
  | member before after =>
    simp only [readHopData, Shape.Room.fill]
    cases read (.object (before ++ (name, v) :: after)) <;> rfl
  | item before after place =>
    simp only [readHopData, Shape.Room.fill]
    cases read (.array (before ++ v :: after)) <;> rfl

namespace Converter

variable {v w : Json} {hop : HopData} (room : HopData.shape.Room "minDestToken")

theorem HopData.ofJson_fill (alike : Reader.hopAmount v = Reader.hopAmount w) :
    ofJson (room.fill v) = ofJson (room.fill w) := by
  have checks : ∀ field ∈ shape.fields, field.name = "minDestToken" →
      field.check v = field.check w := by
    simp [shape, Json.Field.mandatory, Json.Field.optional, alike]
  refine (room.members_fill checks).bind_eq fun found others swapped => ?_
  rw [Json.require_of_swapped swapped (.inl (by decide)),
    Json.withDefault_of_swapped swapped (.inr alike),
    Json.withDefault_of_swapped swapped (.inl (by decide))]

theorem HopData.minDestToken_of_fill (read : ofJson (room.fill v) = .ok hop) :
    Reader.hopAmount v = .ok hop.minDestToken := by
  simp only [ofJson, Outcome.bind_eq_ok, Outcome.pure_eq_ok] at read
  obtain ⟨found, members, _, _, amount, given, _, _, rfl⟩ := read
  have names : (shape.fields.map Json.Field.name).Nodup := by decide
  have listed : Json.Field.optional "minDestToken" Reader.hopAmount ∈ shape.fields := by
    simp [shape]
  rw [Json.withDefault, room.member?_fill names listed rfl members] at given
  exact given

theorem accept_fill (alike : Reader.hopAmount v = Reader.hopAmount w) (request : SwapRequest) :
    accept request (room.fill v) = accept request (room.fill w) := by
  rw [accept, accept, readHopData_fill, readHopData_fill, HopData.ofJson_fill room alike]

theorem minDestToken_of_accept {request : SwapRequest}
    (accepted : accept request (room.fill v) = .ok hop) :
    Reader.hopAmount v = .ok hop.minDestToken := by
  have read := readHopData_of_accept accepted
  rw [readHopData_fill, Outcome.mapError_eq_ok] at read
  exact HopData.minDestToken_of_fill room read

theorem seesAlike_fill (alike : Reader.hopAmount v = Reader.hopAmount w) (converter : Converter) :
    (Exchange.converter converter).SeesAlike (room.fill v) (room.fill w) where
  adapterCall request := by
    simp only [Exchange.adapterCall, adapterCall, accept_fill room alike]
  directCall request := by
    simp only [Exchange.directCall, directCall, accept_fill room alike]
  executorCall request recipient := by
    simp only [Exchange.executorCall, executorCall, accept_fill room alike]

end Converter

namespace PegModule

variable {v w : Json} {hop : HopData} (room : HopData.shape.Room "toll")

theorem HopData.ofJson_fill (alike : Reader.hopAmount v = Reader.hopAmount w) :
    ofJson (room.fill v) = ofJson (room.fill w) := by
  have checks : ∀ field ∈ shape.fields, field.name = "toll" → field.check v = field.check w := by
    simp [shape, Json.Field.mandatory, Json.Field.optional, alike]
  refine (room.members_fill checks).bind_eq fun found others swapped => ?_
  rw [Json.withDefault_of_swapped swapped (.inl (by decide)),
    Json.require_of_swapped swapped (.inl (by decide)),
    Json.require_of_swapped swapped (.inl (by decide)),
    Json.require_of_swapped swapped (.inl (by decide)),
    Json.withDefault_of_swapped swapped (.inr alike),
    Json.withDefault_of_swapped swapped (.inl (by decide))]

theorem HopData.toll_of_fill (read : ofJson (room.fill v) = .ok hop) :
    Reader.hopAmount v = .ok hop.toll := by
  simp only [ofJson, Outcome.bind_eq_ok, Outcome.pure_eq_ok] at read
  obtain ⟨found, members, _, _, _, _, _, _, _, _, amount, given, _, _, rfl⟩ := read
  have names : (shape.fields.map Json.Field.name).Nodup := by decide
  have listed : Json.Field.optional "toll" Reader.hopAmount ∈ shape.fields := by simp [shape]
  rw [Json.withDefault, room.member?_fill names listed rfl members] at given
  exact given

theorem accept_fill (alike : Reader.hopAmount v = Reader.hopAmount w) (request : SwapRequest) :
    accept request (room.fill v) = accept request (room.fill w) := by
  rw [accept, accept, readHopData_fill, readHopData_fill, HopData.ofJson_fill room alike]

theorem toll_of_accept {request : SwapRequest}
    (accepted : accept request (room.fill v) = .ok hop) :
    Reader.hopAmount v = .ok hop.toll := by
  have read := readHopData_of_accept accepted
  rw [readHopData_fill, Outcome.mapError_eq_ok] at read
  exact HopData.toll_of_fill room read

theorem seesAlike_fill (alike : Reader.hopAmount v = Reader.hopAmount w) (peg : PegModule) :
    (Exchange.pegModule peg).SeesAlike (room.fill v) (room.fill w) where
  adapterCall request := by
    simp only [Exchange.adapterCall, adapterCall, accept_fill room alike]
  directCall request := by
    simp only [Exchange.directCall, directCall, accept_fill room alike]
  executorCall request recipient := by
    simp only [Exchange.executorCall, executorCall, accept_fill room alike]

end PegModule

/-- Amounts in the data of hops are read exactly: decimal texts as they would be digit by digit by a
reader that gives up at the first overflow.  Two texts that spell one amount are the same to an
exchange, which takes that amount, wherever among the data they stand. -/
theorem Exchange.amounts_exact :
    Reader.hopAmount.ReadsAmounts ∧
    (∀ cs : List Char, cs.foldlM Word.withDigit? .zero = Word.ofDecimal? cs) ∧
    ∀ (s t : String) (w : Word), Spells s.toList w.toNat → Spells t.toList w.toNat →
      (∀ (exchange : Converter) (room : Converter.HopData.shape.Room "minDestToken"),
        (converter exchange).SeesAlike (room.fill (.string s)) (room.fill (.string t)) ∧
        ∀ request hop, Converter.accept request (room.fill (.string s)) = .ok hop →
          hop.minDestToken = some w) ∧
      (∀ (exchange : PegModule) (room : PegModule.HopData.shape.Room "toll"),
        (pegModule exchange).SeesAlike (room.fill (.string s)) (room.fill (.string t)) ∧
        ∀ request hop, PegModule.accept request (room.fill (.string s)) = .ok hop →
          hop.toll = some w) := by
  refine ⟨Reader.readsAmounts_hopAmount, Word.foldlM_withDigit?, fun s t w first second => ?_⟩
  have left := Reader.hopAmount_eq_ok_iff.2 first
  have alike := left.trans (Reader.hopAmount_eq_ok_iff.2 second).symm
  refine ⟨fun exchange room => ⟨Converter.seesAlike_fill room alike exchange, ?_⟩,
    fun exchange room => ⟨PegModule.seesAlike_fill room alike exchange, ?_⟩⟩
  · intro request hop accepted
    exact Except.ok.inj ((Converter.minDestToken_of_accept room accepted).symm.trans left)
  · intro request hop accepted
    exact Except.ok.inj ((PegModule.toll_of_accept room accepted).symm.trans left)

/-- The second item of an array is the least amount of a conversion, with eighty zeros before it or
in hexadecimal. -/
theorem Exchange.amounts_exact_array :
    let room : Converter.HopData.shape.Room "minDestToken" := .item [.array []] [] rfl
    let decimal := String.ofList (List.replicate 80 '0' ++ Nat.toDigits 10 1000)
    let tooGreat := String.ofList (Nat.toDigits 10 (2 ^ 256))
    let request : SwapRequest := ⟨.zero, .zero, .zero, .zero, .sell⟩
    let amount := Word.truncate 1000
    Spells decimal.toList amount.toNat ∧ Spells "0x3E8".toList amount.toNat ∧
      Reader.hopAmount (.string decimal) = .ok (some amount) ∧
      Reader.hopAmount (.string tooGreat) = .error (.badAmount tooGreat) ∧
      (∀ exchange, (converter exchange).SeesAlike (room.fill (.string decimal))
        (room.fill (.string "0x3E8"))) ∧
      ∃ hop, Converter.accept request (room.fill (.string decimal)) = .ok hop ∧
        hop.minDestToken = some amount := by
  intro room decimal tooGreat request amount
  obtain ⟨reads, _, seen⟩ := amounts_exact
  have digits := (@Text.denotes_toDigits 10 (by decide) 1000).leadingZeros (by decide) 80
  have first : Spells decimal.toList amount.toNat := by
    rw [String.toList_ofList]
    exact .decimal digits
  have second : Spells "0x3E8".toList amount.toNat :=
    .hexadecimal (by decide) (Text.denotes_sixteen_iff.2 (by decide))
  have great : Denotes 10 tooGreat.toList (2 ^ 256) := by
    rw [String.toList_ofList]
    exact Text.denotes_toDigits (by decide) _
  have given := reads.printed 80 amount
  obtain ⟨alike, least⟩ := (seen decimal "0x3E8" amount first second).1 ⟨none, none, .zero⟩ room
  have accepted : Converter.accept request (room.fill (.string decimal)) =
      .ok ⟨[], some amount, none⟩ := by
    have read (v : Json) (h : Reader.nullable Reader.eitherAmount v = .ok (some amount)) :
        Converter.HopData.ofJson (.array [.array [], v]) = .ok ⟨[], some amount, none⟩ := by
      simp [Converter.HopData.ofJson, Converter.HopData.shape, Shape.members, Shape.checkItems,
        Json.Field.mandatory, Json.Field.optional, Json.require, Json.withDefault, Json.member?,
        Reader.list, h, bind, Except.bind, Except.map, pure, Except.pure, List.lookup]
    have sells : Converter.sides.contains request.side = true := rfl
    rw [Converter.accept, if_pos sells, readHopData_fill,
      show room.fill (.string decimal) = .array [.array [], .string decimal] from rfl,
      read (.string decimal) given]
    rfl
  exact ⟨first, second, given, reads.overflow tooGreat _ le_rfl great,
    fun exchange => ((seen decimal "0x3E8" amount first second).1 exchange room).1, _, accepted,
    least request _ accepted⟩

end SwapPlan
