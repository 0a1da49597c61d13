import CombatContent.Decimal.Fixed
import CombatContent.Decimal.Numeral
import CombatContent.Proofs.Text.Parts
import Mathlib.Algebra.Field.Rat
import Mathlib.Data.List.TakeDrop
import Mathlib.Tactic.Ring

/-!
# Numerals with places

A numeral is written as a sign or none, whole digits, and a point with places behind it or neither.
What it is written from is seen from its text, and the number that it stands for is that of its
digits, shifted by the count of its places. Zeros at the end of the places do not change that
number. A finite double with a fixed number of places is such a numeral.

## Main definitions

* `IsNumeral`: the parts that a numeral is written from.
* `numeral?`, `Numeral.value`: a text read as a numeral, and the number that the numeral stands for.

## Main results

* `IsNumeral.unique`: a numeral is written from one sign, one whole and one list of places.
* `IsNumeral.numeral?_eq`: what a numeral is read as.
* `value_append_zeros`: zeros at the end of the places.
* `exists_isNumeral_fixed`: finite doubles with a fixed number of places.
-/

namespace CombatContent.Decimal

/-- Whole digits, and a point with places behind it if there are places. -/
def withPlaces (whole places : List Char) : List Char :=
  whole ++ if places = [] then [] else '.' :: places

/-- The parts that a numeral is written from: whether it has a minus, its whole digits, of which
there is one at least, and its places. -/
structure IsNumeral (text : String) (negative : Bool) (whole places : List Char) : Prop where
  toList_eq : text.toList = signed negative (withPlaces whole places)
  whole_ne_nil : whole ≠ []
  isDigit_whole : ∀ c ∈ whole, c.isDigit = true
  isDigit_places : ∀ c ∈ places, c.isDigit = true

/-- The number that a numeral stands for. -/
def Numeral.value (n : Numeral) : ℚ :=
  (if n.negative then -1 else 1) * (n.significand * 10 ^ n.exponent)

/-- The numeral that a text is read as. -/
def numeral? (text : String) : Option Numeral :=
  let (negative, size) := splitSign text.toList
  unsigned? negative size

variable {text : String} {negative negative' : Bool} {whole whole' places places' : List Char}

/-! ### Parts -/

theorem ne_of_isDigit {c d : Char} (hc : c.isDigit = true) (hd : d.isDigit = false) : c ≠ d := by
  rintro rfl
  exact Bool.false_ne_true (hd.symm.trans hc)

theorem notMem_of_forall_isDigit {cs : List Char} (h : ∀ c ∈ cs, c.isDigit = true) {d : Char}
    (hd : d.isDigit = false) : d ∉ cs :=
  fun hmem => ne_of_isDigit (h d hmem) hd rfl

namespace IsNumeral

/-- The size of a numeral begins with a digit. -/
theorem exists_eq_cons (h : IsNumeral text negative whole places) :
    ∃ c cs, c.isDigit = true ∧ withPlaces whole places = c :: cs := by
  obtain ⟨c, cs, rfl⟩ := List.exists_cons_of_ne_nil h.whole_ne_nil
  exact ⟨c, _, h.isDigit_whole c (List.mem_cons_self ..), List.cons_append ..⟩

/-- A numeral is written from one sign, one whole and one list of places. -/
theorem unique (h : IsNumeral text negative whole places)
    (h' : IsNumeral text negative' whole' places') :
    negative = negative' ∧ whole = whole' ∧ places = places' := by
  have hsigned : signed negative (withPlaces whole places) =
      signed negative' (withPlaces whole' places') := h.toList_eq.symm.trans h'.toList_eq
  obtain ⟨c, cs, hc, hsize⟩ := h.exists_eq_cons
  obtain ⟨c', cs', hc', hsize'⟩ := h'.exists_eq_cons
  have hparts : negative = negative' ∧ withPlaces whole places = withPlaces whole' places' := by
    cases negative <;> cases negative'
    · exact ⟨rfl, hsigned⟩
    · rw [hsize] at hsigned
      exact absurd (List.cons.inj hsigned).1 (ne_of_isDigit hc (by decide))
    · rw [hsize'] at hsigned
      exact absurd (List.cons.inj hsigned).1.symm (ne_of_isDigit hc' (by decide))
    · exact ⟨rfl, (List.cons.inj hsigned).2⟩
  obtain ⟨rfl, hsize⟩ := hparts
  -- The whole ends in front of the point, and without a point at the end of the text.
  have hpoint (places : List Char) :
      ∀ a ∈ (if places = [] then [] else '.' :: places).head?, ¬a.isDigit = true := by
    split <;> simp
  obtain ⟨rfl, hplaces⟩ := Text.append_inj_of_forall (p := fun c => c.isDigit = true)
    h.isDigit_whole h'.isDigit_whole (hpoint places) (hpoint places') hsize
  refine ⟨rfl, rfl, ?_⟩
  by_cases hnil : places = [] <;> by_cases hnil' : places' = [] <;> simp_all

/-- The characters of a numeral are digits, its sign and its point. -/
theorem eq_of_mem (h : IsNumeral text negative whole places) {c : Char} (hc : c ∈ text.toList) :
    c.isDigit = true ∨ c = '-' ∨ c = '.' := by
  have hmem : c ∈ '-' :: (whole ++ '.' :: places) := by
    have hsize : c ∈ withPlaces whole places → c ∈ whole ++ '.' :: places := by
      rw [withPlaces]
      split <;> simp +contextual
    rw [h.toList_eq, signed] at hc
    split at hc
    · exact (List.mem_cons.mp hc).elim (fun hminus => hminus ▸ List.mem_cons_self ..)
        (fun hc => List.mem_cons_of_mem _ (hsize hc))
    · exact List.mem_cons_of_mem _ (hsize hc)
  rcases List.mem_cons.mp hmem with rfl | hmem
  · exact .inr (.inl rfl)
  · rcases List.mem_append.mp hmem with hwhole | hmem
    · exact .inl (h.isDigit_whole c hwhole)
    · rcases List.mem_cons.mp hmem with rfl | hplaces
      · exact .inr (.inr rfl)
      · exact .inl (h.isDigit_places c hplaces)

/-! ### Reading -/

theorem splitSign_eq (h : IsNumeral text negative whole places) :
    splitSign text.toList = (negative, withPlaces whole places) := by
  obtain ⟨c, cs, hc, hsize⟩ := h.exists_eq_cons
  rw [h.toList_eq, hsize]
  cases negative with
  | true => rfl
  | false =>
    rw [signed, if_neg Bool.false_ne_true, splitSign]
    · rintro ds heq
      exact ne_of_isDigit hc (by decide) (List.cons.inj heq).1
    · rintro ds heq
      exact ne_of_isDigit hc (by decide) (List.cons.inj heq).1

/-- A numeral is read as its digits, shifted by the count of its places. -/
theorem numeral?_eq (h : IsNumeral text negative whole places) :
    numeral? text = some ⟨negative, digitsValue (whole ++ places), -places.length⟩ := by
  have hspan (digits rest : List Char) (hdigits : ∀ c ∈ digits, c.isDigit = true)
      (hrest : ∀ c ∈ rest.head?, ¬c.isDigit = true) :
      (digits ++ rest).span Char.isDigit = (digits, rest) := by
    rw [List.span_eq_takeWhile_dropWhile, List.takeWhile_append_of_pos hdigits,
      List.dropWhile_append_of_pos hdigits]
    cases rest with
    | nil => simp
    | cons c cs =>
      have hc := hrest c rfl
      simp [hc]
  have hempty : whole.isEmpty = false := by simpa using h.whole_ne_nil
  rw [numeral?, h.splitSign_eq, withPlaces]
  by_cases hnil : places = []
  · subst hnil
    have hwhole := hspan whole [] h.isDigit_whole (by simp)
    rw [List.append_nil] at hwhole
    simp [unsigned?, hwhole, hempty, -List.span_eq_takeWhile_dropWhile]
  · have hwhole := hspan whole ('.' :: places) h.isDigit_whole (by simp)
    have hplaces := hspan places [] h.isDigit_places (by simp)
    rw [List.append_nil] at hplaces
    simp [unsigned?, hnil, hwhole, hplaces, hempty, -List.span_eq_takeWhile_dropWhile]

end IsNumeral

/-! ### Values -/

theorem digitsValue_append_zeros (digits : List Char) (n : Nat) :
    digitsValue (digits ++ List.replicate n '0') = digitsValue digits * 10 ^ n := by
  induction n with
  | zero => simp
  | succ n ih =>
    rw [List.replicate_succ', ← List.append_assoc, digitsValue, List.foldl_concat, ← digitsValue,
      ih, Nat.pow_succ]
    simp
    ring

/-- Zeros at the end of the places do not change the number. -/
theorem value_append_zeros (negative : Bool) (whole places : List Char) (n : Nat) :
    Numeral.value ⟨negative, digitsValue (whole ++ (places ++ List.replicate n '0')),
        -(places ++ List.replicate n '0').length⟩ =
      Numeral.value ⟨negative, digitsValue (whole ++ places), -places.length⟩ := by
  have hshift :
      (10 : ℚ) ^ n * 10 ^ (-((places.length + n : ℕ) : ℤ)) = 10 ^ (-(places.length : ℤ)) := by
    rw [← zpow_natCast, ← zpow_add₀ (by norm_num)]
    congr 1
    push_cast
    ring
  rw [Numeral.value, Numeral.value, ← List.append_assoc, digitsValue_append_zeros,
    List.length_append, List.length_replicate, ← hshift]
  push_cast
  ring

/-! ### Fixed places -/

theorem length_paddedDigits {width n : Nat} (hwidth : 0 < width) (hn : n < 10 ^ width) :
    (paddedDigits width n).length = width := by
  have hlength : (Nat.toDigits 10 n).length ≤ width :=
    (Nat.length_toDigits_le_iff (by decide) hwidth).mpr hn
  rw [paddedDigits, List.length_append, List.length_replicate, Nat.sub_add_cancel hlength]

theorem isDigit_of_mem_paddedDigits {width n : Nat} {c : Char} (hc : c ∈ paddedDigits width n) :
    c.isDigit = true := by
  rcases List.mem_append.mp hc with hzero | hdigit
  · rw [List.eq_of_mem_replicate hzero]
    decide
  · exact Nat.isDigit_of_mem_toDigits (by decide) (by decide) hdigit

/-- A finite double with a fixed number of places is a numeral with so many places. -/
theorem exists_isNumeral_fixed {x : Float} {b : Binary} (hx : Reading.ofFloat x = .finite b)
    {count : Nat} (hcount : 0 < count) :
    ∃ whole places, IsNumeral (fixed count x) b.negative whole places ∧ places.length = count := by
  have hlength : (paddedDigits count (b.units count % Nat.pow 10 count)).length = count :=
    length_paddedDigits hcount (Nat.mod_lt _ (Nat.pow_pos (by decide)))
  refine ⟨Nat.toDigits 10 (b.units count / Nat.pow 10 count),
    paddedDigits count (b.units count % Nat.pow 10 count), ⟨?_, Nat.toDigits_ne_nil, ?_, ?_⟩,
    hlength⟩
  · have hne : paddedDigits count (b.units count % Nat.pow 10 count) ≠ [] := by
      rw [← List.length_pos_iff, hlength]
      exact hcount
    rw [fixed, hx, Reading.text, String.toList_ofList, pointed, if_neg (Nat.ne_of_gt hcount),
      withPlaces, if_neg hne]
  · exact fun c hc => Nat.isDigit_of_mem_toDigits (by decide) (by decide) hc
  · exact fun c hc => isDigit_of_mem_paddedDigits hc

/-- What is no finite double is written in letters, and so is no numeral. -/
theorem not_isNumeral_fixed {x : Float} (hx : ∀ b, Reading.ofFloat x ≠ .finite b) (count : Nat) :
    ¬IsNumeral (fixed count x) negative whole places := by
  intro h
  have hletter : ∃ c ∈ (fixed count x).toList, c = 'N' ∨ c = 'n' := by
    rw [fixed]
    cases hreading : Reading.ofFloat x with
    | nan => exact ⟨'N', by simp [Reading.text], .inl rfl⟩
    | infinite negative => cases negative <;> exact ⟨'n', by simp [Reading.text, signed], .inr rfl⟩
    | finite b => exact absurd hreading (hx b)
  obtain ⟨c, hc, rfl | rfl⟩ := hletter <;> exact absurd (h.eq_of_mem hc) (by decide)

end CombatContent.Decimal
