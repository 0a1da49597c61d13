import CombatContent.Proofs.Decimal.Places
import CombatContent.Proofs.Enumeration.LineParts
import CombatContent.Zig.Literal

/-!
# Trimmed numbers

The text of a finite number has the sign and the whole digits of its numeral with four places, and
of the places those in front of the zeros at the end. The first of the two cuts stops at the last
digit that stays or at the point, and the second takes the point off only if it is the last
character, that is if all four places were zeros. So a number that is written stands for the same
decimal as its numeral with four places, and two numbers are written alike only if their numerals
are. What is no finite number is written as it is.

## Main definitions

* `Zig.IsTrimmed`: a numeral and what is left of it without the zeros at the end of its places.

## Main results

* `Zig.trimPlaces_signed`: what the two cuts leave of a numeral with places.
* `Zig.IsTrimmed.unique`: the numeral is told from what is left of it.
* `Zig.IsTrimmed.value_eq`: both stand for one number.
* `Zig.float_trims_fixed`: the text of a number.
-/

namespace CombatContent.Zig

open Decimal

/-- A numeral, and what is left of it without the zeros at the end of its places. -/
structure IsTrimmed (full trimmed : String) (negative : Bool) (whole kept : List Char)
    (zeros : Nat) : Prop where
  isNumeral_full : IsNumeral full negative whole (kept ++ List.replicate zeros '0')
  isNumeral_trimmed : IsNumeral trimmed negative whole kept
  getLast?_kept : kept.getLast? ≠ some '0'

variable {p : Char → Bool} {cs whole kept : List Char} {negative : Bool}

/-! ### Cuts -/

/-- Nothing is cut off a text that ends in a character that stays. -/
theorem dropEndWhile_eq_self (h : ∀ c ∈ cs.getLast?, p c = false) :
    Text.dropEndWhile p cs = cs := by
  rw [Enumeration.dropEndWhile_eq_rdropWhile, List.rdropWhile_eq_self_iff]
  exact fun hne => by simp [h _ (List.getLast?_eq_some_getLast hne)]

theorem signed_append (negative : Bool) (front back : List Char) :
    signed negative (front ++ back) = signed negative front ++ back := by
  cases negative <;> rfl

/-- The last character of a signed size is that of the size. -/
theorem getLast?_signed (h : cs ≠ []) : (signed negative cs).getLast? = cs.getLast? := by
  cases negative with
  | false => rfl
  | true => rw [signed, if_pos rfl, List.getLast?_cons_of_ne_nil h]

/-- Digits end in no other character. -/
theorem ne_of_mem_getLast? {c d : Char} (hcs : ∀ c ∈ cs, c.isDigit = true)
    (hd : d.isDigit = false) (hc : c ∈ cs.getLast?) : (c == d) = false :=
  beq_eq_false_iff_ne.mpr (ne_of_isDigit (hcs c (List.mem_of_getLast? hc)) hd)

/-- The zeros at the end are cut off, and then the point if nothing is left behind it. -/
theorem trimPlaces_signed (hne : whole ≠ []) (hwhole : ∀ c ∈ whole, c.isDigit = true)
    (hkept : ∀ c ∈ kept, c.isDigit = true) (hlast : kept.getLast? ≠ some '0') (zeros : Nat) :
    trimPlaces (signed negative (whole ++ '.' :: (kept ++ List.replicate zeros '0'))) =
      signed negative (withPlaces whole kept) := by
  have hzeros : Text.dropEndWhile (· == '0')
      (signed negative (whole ++ '.' :: (kept ++ List.replicate zeros '0'))) =
      signed negative (whole ++ '.' :: kept) := by
    rw [← List.cons_append, ← List.append_assoc, signed_append,
      Enumeration.dropEndWhile_append_of_pos (by simp)]
    refine dropEndWhile_eq_self fun c hc => beq_eq_false_iff_ne.mpr ?_
    rintro rfl
    rw [getLast?_signed (by simp), List.getLast?_append_cons, List.getLast?_cons] at hc
    cases hlast' : kept.getLast? <;> simp_all
  rw [trimPlaces, hzeros, withPlaces]
  by_cases hnil : kept = []
  · -- The point is the last character, and the whole in front of it stays.
    have hpoint : signed negative (whole ++ ['.']) = signed negative whole ++ ['.'] :=
      signed_append ..
    rw [hnil, hpoint, Enumeration.dropEndWhile_append_of_pos (by simp), if_pos rfl,
      List.append_nil]
    refine dropEndWhile_eq_self fun c hc => ?_
    rw [getLast?_signed hne] at hc
    exact ne_of_mem_getLast? hwhole (by decide) hc
  · rw [if_neg hnil]
    refine dropEndWhile_eq_self fun c hc => ?_
    rw [getLast?_signed (by simp), List.getLast?_append_cons,
      List.getLast?_cons_of_ne_nil hnil] at hc
    exact ne_of_mem_getLast? hkept (by decide) hc

/-- Places fall apart into those that stay and the zeros behind them. -/
theorem exists_eq_append_zeros (places : List Char) :
    ∃ kept zeros, places = kept ++ List.replicate zeros '0' ∧ kept.getLast? ≠ some '0' := by
  refine ⟨places.rdropWhile (· == '0'), (places.rtakeWhile (· == '0')).length, ?_, ?_⟩
  · have hzeros : places.rtakeWhile (· == '0') =
        List.replicate (places.rtakeWhile (· == '0')).length '0' :=
      List.eq_replicate_iff.mpr ⟨rfl, fun c hc => by simpa using List.mem_rtakeWhile_imp hc⟩
    rw [← hzeros, List.rdropWhile_append_rtakeWhile]
  · intro hlast
    obtain ⟨hne, hzero⟩ := List.mem_getLast?_eq_getLast hlast
    exact List.rdropWhile_last_not _ _ hne (by simp [← hzero])

namespace IsTrimmed

variable {full full' trimmed trimmed' : String} {negative' : Bool} {whole' kept' : List Char}
  {zeros zeros' : Nat}

/-- A numeral with so many places is told from what is left of it. -/
theorem unique (h : IsTrimmed full trimmed negative whole kept zeros)
    (h' : IsTrimmed full' trimmed' negative' whole' kept' zeros')
    (hcount : kept.length + zeros = kept'.length + zeros') (heq : trimmed = trimmed') :
    full = full' := by
  obtain ⟨rfl, rfl, rfl⟩ := h.isNumeral_trimmed.unique (heq ▸ h'.isNumeral_trimmed)
  obtain rfl : zeros = zeros' := Nat.add_left_cancel hcount
  exact String.toList_injective (h.isNumeral_full.toList_eq.trans h'.isNumeral_full.toList_eq.symm)

/-- Both are read as numerals of one sign that stand for one number. -/
theorem value_eq (h : IsTrimmed full trimmed negative whole kept zeros) :
    ∃ n m, numeral? full = some n ∧ numeral? trimmed = some m ∧ n.negative = negative ∧
      m.negative = negative ∧ m.value = n.value :=
  ⟨_, _, h.isNumeral_full.numeral?_eq, h.isNumeral_trimmed.numeral?_eq, rfl, rfl,
    (value_append_zeros negative whole kept zeros).symm⟩

/-- The last character left is a digit, and it is not a zero behind the point. -/
theorem getLast?_trimmed (h : IsTrimmed full trimmed negative whole kept zeros) :
    ∃ c, trimmed.toList.getLast? = some c ∧ c.isDigit = true ∧
      ('.' ∈ trimmed.toList → c ≠ '0') := by
  have hnumeral := h.isNumeral_trimmed
  have hsize : withPlaces whole kept ≠ [] := by simp [withPlaces, hnumeral.whole_ne_nil]
  rw [hnumeral.toList_eq, getLast?_signed hsize]
  by_cases hnil : kept = []
  · refine ⟨whole.getLast hnumeral.whole_ne_nil, ?_,
      hnumeral.isDigit_whole _ (List.getLast_mem _), fun hpoint => ?_⟩
    · rw [withPlaces, if_pos hnil, List.append_nil, List.getLast?_eq_some_getLast]
    · have hnotMem := notMem_of_forall_isDigit hnumeral.isDigit_whole (d := '.') (by decide)
      cases negative <;> simp [signed, withPlaces, hnil, hnotMem] at hpoint
  · have hlast : (withPlaces whole kept).getLast? = some (kept.getLast hnil) := by
      rw [withPlaces, if_neg hnil, List.getLast?_append_cons, List.getLast?_cons_of_ne_nil hnil,
        List.getLast?_eq_some_getLast]
    refine ⟨_, hlast, hnumeral.isDigit_places _ (List.getLast_mem _), fun _ hzero => ?_⟩
    exact h.getLast?_kept (hzero ▸ List.getLast?_eq_some_getLast hnil)

end IsTrimmed

/-! ### Numbers -/

/-- The text of a finite number is its numeral with four places, trimmed. -/
theorem exists_isTrimmed {x : Float} {b : Binary} (hx : Reading.ofFloat x = .finite b) :
    ∃ whole kept zeros, IsTrimmed (fixed 4 x) (float x) b.negative whole kept zeros ∧
      kept.length + zeros = 4 := by
  obtain ⟨whole, places, hfull, hcount⟩ := exists_isNumeral_fixed hx (by decide : 0 < 4)
  obtain ⟨kept, zeros, rfl, hlast⟩ := exists_eq_append_zeros places
  have hkept : ∀ c ∈ kept, c.isDigit = true :=
    fun c hc => hfull.isDigit_places c (List.mem_append_left _ hc)
  have hne : kept ++ List.replicate zeros '0' ≠ [] :=
    List.ne_nil_of_length_eq_add_one hcount
  have htext : (float x).toList = signed b.negative (withPlaces whole kept) := by
    rw [float, String.toList_ofList, hfull.toList_eq, withPlaces, if_neg hne]
    exact trimPlaces_signed hfull.whole_ne_nil hfull.isDigit_whole hkept hlast zeros
  refine ⟨whole, kept, zeros,
    ⟨hfull, ⟨htext, hfull.whole_ne_nil, hfull.isDigit_whole, hkept⟩, hlast⟩, ?_⟩
  simpa using hcount

/-- What is no finite number ends in a letter, and is written as it is. -/
theorem float_of_not_finite {x : Float} (hx : ∀ b, Reading.ofFloat x ≠ .finite b) :
    float x = fixed 4 x := by
  have hlast : ∀ c ∈ (fixed 4 x).toList.getLast?, c = 'N' ∨ c = 'f' := by
    rw [fixed]
    cases hreading : Reading.ofFloat x with
    | nan => simp [Reading.text]
    | infinite negative => cases negative <;> simp [Reading.text, signed]
    | finite b => exact absurd hreading (hx b)
  have hkeep {d : Char} (hd : d ≠ 'N' ∧ d ≠ 'f') :
      ∀ c ∈ (fixed 4 x).toList.getLast?, (c == d) = false := by
    intro c hc
    rcases hlast c hc with rfl | rfl
    · exact beq_eq_false_iff_ne.mpr hd.1.symm
    · exact beq_eq_false_iff_ne.mpr hd.2.symm
  rw [float, trimPlaces, dropEndWhile_eq_self (hkeep (by decide)),
    dropEndWhile_eq_self (hkeep (by decide)), String.ofList_toList]

/-- What is written like a finite number is one. -/
theorem exists_finite_of_float_eq {x y : Float} (h : float x = float y)
    (hx : ∃ b, Reading.ofFloat x = .finite b) : ∃ b, Reading.ofFloat y = .finite b := by
  obtain ⟨_, hx⟩ := hx
  obtain ⟨_, _, _, htrimmed, -⟩ := exists_isTrimmed hx
  by_contra hy
  rw [not_exists] at hy
  rw [h, float_of_not_finite hy] at htrimmed
  exact not_isNumeral_fixed hy 4 htrimmed.isNumeral_trimmed

/-- Two numbers are written alike only if their numerals with four places are alike. -/
theorem fixed_eq_of_float_eq {x y : Float} (h : float x = float y) : fixed 4 x = fixed 4 y := by
  by_cases hx : ∃ b, Reading.ofFloat x = .finite b
  · obtain ⟨_, hy⟩ := exists_finite_of_float_eq h hx
    obtain ⟨_, hx⟩ := hx
    obtain ⟨_, _, _, htrimmed, hcount⟩ := exists_isTrimmed hx
    obtain ⟨_, _, _, htrimmed', hcount'⟩ := exists_isTrimmed hy
    exact htrimmed.unique htrimmed' (hcount.trans hcount'.symm) h
  · have hy : ¬∃ b, Reading.ofFloat y = .finite b := fun hy =>
      hx (exists_finite_of_float_eq h.symm hy)
    rw [← float_of_not_finite (not_exists.mp hx), ← float_of_not_finite (not_exists.mp hy), h]

/-- The text of a finite number has the sign and the whole digits of its numeral with four places,
and of the places those in front of the zeros at the end. It stands for the same number, and ends
in a digit that is not a zero behind the point. Numbers are written alike if and only if their
numerals are alike, and what is no finite number is written as it is. -/
theorem float_trims_fixed :
    (∀ x b, Reading.ofFloat x = .finite b →
      (∃ whole kept zeros, IsTrimmed (fixed 4 x) (float x) b.negative whole kept zeros ∧
        kept.length + zeros = 4) ∧
      (∃ n m, numeral? (fixed 4 x) = some n ∧ numeral? (float x) = some m ∧
        n.negative = b.negative ∧ m.negative = b.negative ∧ m.value = n.value) ∧
      (∃ c, (float x).toList.getLast? = some c ∧ c.isDigit = true ∧
        ('.' ∈ (float x).toList → c ≠ '0'))) ∧
    (∀ x y, float x = float y ↔ fixed 4 x = fixed 4 y) ∧
    (∀ x, (∀ b, Reading.ofFloat x ≠ .finite b) → float x = fixed 4 x) := by
  refine ⟨fun x b hx => ?_, fun x y => ⟨fixed_eq_of_float_eq, fun h => ?_⟩,
    fun x => float_of_not_finite⟩
  · obtain ⟨whole, kept, zeros, htrimmed, hcount⟩ := exists_isTrimmed hx
    exact ⟨⟨whole, kept, zeros, htrimmed, hcount⟩, htrimmed.value_eq, htrimmed.getLast?_trimmed⟩
  · rw [float, float, h]

example : [100.0, -0.0, 0.25].map float = ["100", "-0", "0.25"] := by decide +kernel

end CombatContent.Zig
