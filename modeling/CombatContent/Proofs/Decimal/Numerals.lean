import CombatContent.Decimal.Shortest
import Mathlib.Data.List.Basic

/-!
# The characters of numerals

Whatever the form in which a number is written, its characters are digits, a sign, a point, and the
letters of the words for what is no finite number.

## Main results

* `Decimal.isNumeralChar_of_mem_fixed`: numerals with a fixed number of places.
* `Decimal.isNumeralChar_of_mem_text`: shortest numerals.
* `Decimal.isNumeralChar_of_mem_nat`, `Decimal.isNumeralChar_of_mem_int`: whole numbers.
* `Decimal.nat_repr_injective`, `Decimal.int_repr_injective`: whole numbers are told from their
  numerals.
-/

namespace CombatContent.Decimal

/-- Whether a character may stand in a numeral. -/
def isNumeralChar (c : Char) : Bool := c.isAlphanum || c == '.' || c == '-'

theorem isNumeralChar_of_isDigit {c : Char} (h : c.isDigit = true) : isNumeralChar c = true := by
  simp [isNumeralChar, Char.isAlphanum, h]

theorem isNumeralChar_of_mem_toDigits (n : Nat) :
    ∀ c ∈ Nat.toDigits 10 n, isNumeralChar c = true :=
  fun _ hc => isNumeralChar_of_isDigit (Nat.isDigit_of_mem_toDigits (by decide) (by decide) hc)

theorem isNumeralChar_of_mem_signed {negative : Bool} {digits : List Char}
    (h : ∀ c ∈ digits, isNumeralChar c = true) :
    ∀ c ∈ signed negative digits, isNumeralChar c = true := by
  cases negative with
  | false => exact h
  | true => exact List.forall_mem_cons.mpr ⟨by decide, h⟩

theorem isNumeralChar_of_mem_pointed (places units : Nat) :
    ∀ c ∈ pointed places units, isNumeralChar c = true := by
  intro c hc
  rw [pointed] at hc
  split at hc
  · exact isNumeralChar_of_mem_toDigits _ c hc
  · simp only [paddedDigits, List.mem_append, List.mem_cons, List.mem_replicate] at hc
    rcases hc with hc | rfl | ⟨-, rfl⟩ | hc
    · exact isNumeralChar_of_mem_toDigits _ c hc
    · decide
    · decide
    · exact isNumeralChar_of_mem_toDigits _ c hc

/-- What is no finite number is written in letters, and so it is enough to look at finite ones. -/
theorem isNumeralChar_of_mem_reading {size : Binary → List Char}
    (h : ∀ b, ∀ c ∈ size b, isNumeralChar c = true) (reading : Reading) :
    ∀ c ∈ (reading.text size).toList, isNumeralChar c = true := by
  cases reading with
  | nan =>
    rw [Reading.text]
    exact List.all_eq_true.mp (by decide)
  | infinite negative =>
    rw [Reading.text, String.toList_ofList]
    exact isNumeralChar_of_mem_signed (List.all_eq_true.mp (by decide))
  | finite b =>
    rw [Reading.text, String.toList_ofList]
    exact isNumeralChar_of_mem_signed (h b)

theorem isNumeralChar_of_mem_fixed (places : Nat) (x : Float) :
    ∀ c ∈ (fixed places x).toList, isNumeralChar c = true :=
  isNumeralChar_of_mem_reading (fun _ => isNumeralChar_of_mem_pointed _ _) _

theorem isNumeralChar_of_mem_text (x : Float) :
    ∀ c ∈ (text x).toList, isNumeralChar c = true := by
  refine isNumeralChar_of_mem_reading (fun b => ?_) _
  rw [Layout.write, Layout.plain, if_pos rfl, Digits.positional]
  split
  · rw [List.append_nil]
    exact isNumeralChar_of_mem_toDigits _
  · exact isNumeralChar_of_mem_pointed _ _

theorem isNumeralChar_of_mem_nat (n : Nat) :
    ∀ c ∈ n.repr.toList, isNumeralChar c = true := by
  rw [Nat.repr, String.toList_ofList]
  exact isNumeralChar_of_mem_toDigits n

theorem isNumeralChar_of_mem_int (n : Int) :
    ∀ c ∈ (toString n).toList, isNumeralChar c = true := by
  rw [Int.toString_eq_repr, Int.repr_eq_if]
  split
  · exact isNumeralChar_of_mem_nat _
  · rw [String.toList_append]
    exact List.forall_mem_append.mpr
      ⟨List.all_eq_true.mp (by decide), isNumeralChar_of_mem_nat _⟩

/-! ### Whole numbers -/

/-- A whole number is told from its numeral. -/
theorem nat_repr_injective : Function.Injective Nat.repr := by
  intro m n h
  rw [Nat.repr_eq_ofList_toDigits, Nat.repr_eq_ofList_toDigits, String.ofList_inj] at h
  rw [← Nat.ofDigitChars_ten_toDigits (n := m), h, Nat.ofDigitChars_ten_toDigits]

/-- A whole number with a sign is told from its numeral, since a minus is no digit. -/
theorem int_repr_injective : Function.Injective Int.repr := by
  have hminus (m n : Nat) : "-" ++ m.repr ≠ n.repr := by
    intro h
    have hmem : '-' ∈ n.repr.toList := by
      rw [← h]
      simp
    rw [Nat.repr_eq_ofList_toDigits, String.toList_ofList] at hmem
    exact absurd (Nat.isDigit_of_mem_toDigits (by decide) (by decide) hmem) (by decide)
  intro m n h
  rw [Int.repr_eq_if, Int.repr_eq_if] at h
  split at h <;> split at h
  · have hsize := nat_repr_injective h
    omega
  · exact absurd h.symm (hminus _ _)
  · exact absurd h (hminus _ _)
  · have hsize := nat_repr_injective ((String.append_right_inj _).mp h)
    omega

end CombatContent.Decimal
