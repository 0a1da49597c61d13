import CombatContent.Enumeration
import Mathlib.Data.List.DropRight

/-!
# The parts of a line

A line of an enumeration is cut down to a name in steps: a comment is cut off, and then the blanks
at both ends, the commas at the end, and the at sign and the quotes around. Each step leaves a part
of the line, and leaves the line as it is where it has nothing to cut.

## Main results

* `Enumeration.trim_eq_self`, `Enumeration.trim_append_append`, `Enumeration.exists_trim_eq`: what
  the ends of a text lose.
* `Enumeration.upTo_eq_self`, `Enumeration.not_infix_upTo`, `Enumeration.upTo_append`,
  `Enumeration.upTo_append_mark`: what stands in front of a mark.
* `Enumeration.unquoted_of_ne`, `Enumeration.unquoted_cons`: names with and without quotes.
* `Enumeration.idOn?_cons`: lines that are no comments.
-/

namespace CombatContent.Enumeration

open Text

variable {p : Char → Bool} {mark cs : List Char}

/-! ### Blanks -/

theorem dropEndWhile_eq_rdropWhile : dropEndWhile p cs = cs.rdropWhile p := rfl

theorem trim_eq_self (h : cs ≠ []) (hhead : isBlank (cs.head h) = false)
    (hlast : isBlank (cs.getLast h) = false) : trim cs = cs := by
  have hfront : cs.dropWhile isBlank = cs := by
    cases cs with
    | nil => rfl
    | cons c cs => rw [List.dropWhile_cons, List.head_cons] at *; simp [hhead]
  rw [trim, hfront, dropEndWhile_eq_rdropWhile, List.rdropWhile_eq_self_iff]
  exact fun _ => by simp [hlast]

/-- What follows a character that stays is cut from the end on its own. -/
theorem exists_dropEndWhile_eq (before cs : List Char) {c : Char} (hc : p c = false) :
    ∃ cs', cs' <+: cs ∧ dropEndWhile p (before ++ c :: cs) = before ++ c :: cs' := by
  simp only [dropEndWhile_eq_rdropWhile]
  induction cs using List.reverseRecOn with
  | nil => exact ⟨[], List.prefix_rfl, List.rdropWhile_concat_neg _ _ _ (by simp [hc])⟩
  | append_singleton cs d ih =>
    rw [← List.cons_append, ← List.append_assoc]
    by_cases hd : p d = true
    · obtain ⟨cs', hprefix, heq⟩ := ih
      exact ⟨cs', hprefix.trans (List.prefix_append ..),
        (List.rdropWhile_concat_pos _ _ _ hd).trans heq⟩
    · refine ⟨cs ++ [d], List.prefix_rfl, ?_⟩
      rw [List.rdropWhile_concat_neg _ _ _ hd, List.append_assoc, List.cons_append]

theorem dropEndWhile_append_of_pos {back : List Char} (h : ∀ c ∈ back, p c = true)
    (cs : List Char) : dropEndWhile p (cs ++ back) = dropEndWhile p cs := by
  rw [dropEndWhile, dropEndWhile, List.reverse_append, List.dropWhile_append_of_pos]
  exact fun c hc => h c (List.mem_reverse.mp hc)

/-- Blanks around a text are taken off with its own. -/
theorem trim_append_append {front back : List Char} (hfront : ∀ c ∈ front, isBlank c = true)
    (hback : ∀ c ∈ back, isBlank c = true) (cs : List Char) :
    trim (front ++ (cs ++ back)) = trim cs := by
  rw [trim, trim, List.dropWhile_append_of_pos hfront, List.dropWhile_append]
  split
  · next hblank => rw [List.dropWhile_eq_nil_iff.mpr hback, List.isEmpty_iff.mp hblank]
  · exact dropEndWhile_append_of_pos hback _

/-- Between characters that stay, nothing is taken off. -/
theorem exists_trim_eq {front : List Char} (hfront : ∀ b ∈ front, isBlank b = true) {c d : Char}
    (hc : isBlank c = false) (hd : isBlank d = false) (inner back : List Char) :
    ∃ back', back' <+: back ∧
      trim (front ++ c :: (inner ++ d :: back)) = c :: (inner ++ d :: back') := by
  obtain ⟨back', hback, heq⟩ := exists_dropEndWhile_eq (c :: inner) back hd
  refine ⟨back', hback, ?_⟩
  rw [trim, List.dropWhile_append_of_pos hfront, List.dropWhile_cons_of_neg (by simp [hc])]
  exact heq

/-! ### The text in front of a mark -/

theorem upTo_prefix : upTo mark cs <+: cs := by
  induction cs with
  | nil => exact List.prefix_rfl
  | cons c cs ih =>
    rw [upTo]
    split
    · exact List.nil_prefix
    · exact List.cons_prefix_cons.mpr ⟨rfl, ih⟩

theorem upTo_eq_self (h : ¬ mark <:+: cs) : upTo mark cs = cs := by
  induction cs with
  | nil => rfl
  | cons c cs ih =>
    rw [List.infix_cons_iff, not_or, ← List.isPrefixOf_iff_prefix] at h
    rw [upTo, if_neg h.1, ih h.2]

/-- The mark does not stand in what precedes it. -/
theorem not_infix_upTo (h : mark ≠ []) : ¬ mark <:+: upTo mark cs := by
  induction cs with
  | nil => exact fun hmark => h (List.infix_nil.mp hmark)
  | cons c cs ih =>
    rw [upTo]
    split
    · exact fun hmark => h (List.infix_nil.mp hmark)
    · next hnot =>
      rw [List.isPrefixOf_iff_prefix] at hnot
      rw [List.infix_cons_iff, not_or]
      refine ⟨fun hmark => hnot (hmark.trans ?_), ih⟩
      exact List.cons_prefix_cons.mpr ⟨rfl, upTo_prefix⟩

/-- What follows a place of the mark does not matter. -/
theorem upTo_append (h : mark <:+: cs) (rest : List Char) :
    upTo mark (cs ++ rest) = upTo mark cs := by
  induction cs with
  | nil =>
    rw [List.infix_nil] at h
    subst h
    cases rest <;> simp [upTo]
  | cons c cs ih =>
    rw [List.cons_append, upTo, upTo]
    by_cases hmark : mark <+: c :: cs
    · have hlong : mark <+: c :: (cs ++ rest) := hmark.trans (List.prefix_append (c :: cs) rest)
      rw [if_pos (List.isPrefixOf_iff_prefix.mpr hlong),
        if_pos (List.isPrefixOf_iff_prefix.mpr hmark)]
    · have hcs : mark <:+: cs := (List.infix_cons_iff.mp h).resolve_left hmark
      have hlong : ¬ mark <+: c :: (cs ++ rest) := by
        intro hlong
        refine hmark (List.prefix_of_prefix_length_le hlong (List.prefix_append (c :: cs) rest) ?_)
        exact hcs.length_le.trans (Nat.le_succ _)
      rw [if_neg (mt List.isPrefixOf_iff_prefix.mp hlong),
        if_neg (mt List.isPrefixOf_iff_prefix.mp hmark), ih hcs]

/-- The text in front of a mark is what precedes its first place. -/
theorem upTo_append_mark (h : ¬ mark <:+: cs ++ mark.dropLast) (rest : List Char) :
    upTo mark (cs ++ (mark ++ rest)) = cs := by
  induction cs with
  | nil =>
    have hmark : mark <+: mark ++ rest := List.prefix_append _ _
    rw [List.nil_append]
    generalize mark ++ rest = ds at hmark
    cases ds with
    | nil => rfl
    | cons d ds => rw [upTo, if_pos (List.isPrefixOf_iff_prefix.mpr hmark)]
  | cons c cs ih =>
    rw [List.cons_append, List.infix_cons_iff, not_or] at h
    rw [List.cons_append, upTo, if_neg, ih h.2]
    intro hmark
    have hfirst : c :: (cs ++ mark.dropLast) <+: c :: (cs ++ (mark ++ rest)) :=
      List.cons_prefix_cons.mpr ⟨rfl, (List.prefix_append_right_inj cs).mpr
        ((List.dropLast_prefix mark).trans (List.prefix_append _ _))⟩
    refine h.1 (List.prefix_of_prefix_length_le (List.isPrefixOf_iff_prefix.mp hmark) hfirst ?_)
    simp only [List.length_cons, List.length_append, List.length_dropLast]
    omega

/-! ### Quotes -/

theorem unquoted_of_ne {c : Char} (h : c ≠ '@') : unquoted (c :: cs) = c :: cs := by
  rw [unquoted]
  exact fun ds hds => absurd (List.cons.inj hds).1 h

theorem unquoted_cons :
    unquoted ('@' :: '"' :: cs) =
      if cs.getLast? = some '"' then cs.dropLast else '@' :: '"' :: cs := rfl

/-! ### Lines with a name -/

/-- A line that begins with no slash is no comment, so that its name is looked at. -/
theorem idOn?_cons {format : Format} (hmark : format.commentMark = "//") {c : Char}
    (hc : c ≠ '/') :
    idOn? format (c :: cs) =
      if (nameOn format (c :: cs)).isEmpty then none
      else some (String.ofList (nameOn format (c :: cs))) := by
  have hbegins : begins "//" (c :: cs) = false := by
    rw [begins]
    simp [List.isPrefixOf, Ne.symm hc]
  rw [idOn?, hmark, hbegins, List.isEmpty_cons, Bool.or_self, if_neg Bool.false_ne_true]

end CombatContent.Enumeration
