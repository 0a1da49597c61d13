import CombatContent.Zig.Quoted
import Mathlib.Data.List.Basic
import Mathlib.Data.List.Infix

/-!
# Escaped characters

Five characters are escaped in a string literal, each by a backslash and one character. The escaped
form of a text determines the text. A text with one of the five characters is never its own escaped
form: that is longer, and it has a backslash, so that it could be escaped again.

## Main definitions

* `Zig.escapedChars`: the characters that are escaped.

## Main results

* `Zig.quoted_injective`: strings with one literal are equal.
* `Zig.quoted_append_inj`: a string literal is told from what follows it.
* `Zig.escaped_eq_self`, `Zig.length_lt_length_escaped`: when a text is its own escaped form.
* `Zig.slashes_infix_escaped`: escaping makes no pair of slashes.
-/

namespace CombatContent.Zig

variable {c : Char} {cs : List Char}

/-- The characters that are escaped in a string literal. -/
def escapedChars : List Char := ['\\', '"', '\n', '\r', '\t']

@[simp]
theorem escaped_cons (c : Char) (cs : List Char) : escaped (c :: cs) = escape c ++ escaped cs :=
  List.flatMap_cons

theorem escape_of_notMem (h : c ∉ escapedChars) : escape c = [c] := by
  simp only [escapedChars, List.mem_cons, not_or] at h
  obtain ⟨hbackslash, hquote, hfeed, hreturn, htab, -⟩ := h
  rw [escape, if_neg hbackslash, if_neg hquote, if_neg hfeed, if_neg hreturn, if_neg htab]

/-- An escaped character is a backslash and a character that is no slash, no line end and no tab. -/
theorem exists_escape_of_mem (h : c ∈ escapedChars) :
    ∃ d, escape c = ['\\', d] ∧ d ≠ '/' ∧ d ∉ ['\n', '\r', '\t'] := by
  simp only [escapedChars, List.mem_cons, List.not_mem_nil, or_false] at h
  rcases h with rfl | rfl | rfl | rfl | rfl
  · exact ⟨'\\', rfl, by decide, by decide⟩
  · exact ⟨'"', rfl, by decide, by decide⟩
  · exact ⟨'n', rfl, by decide, by decide⟩
  · exact ⟨'r', rfl, by decide, by decide⟩
  · exact ⟨'t', rfl, by decide, by decide⟩

/-! ### Reading back -/

theorem escaped_injective : Function.Injective escaped := by
  intro cs ds h
  have hread := congrArg unescape? h
  rwa [unescape?_escaped, unescape?_escaped, Option.some.injEq] at hread

/-- Strings with one literal are equal. -/
theorem quoted_injective : Function.Injective quoted := by
  intro s t h
  have hchars := List.cons.inj (String.ofList_injective h)
  exact String.toList_injective (escaped_injective (List.append_cancel_right hchars.2))

theorem escape_injective : Function.Injective escape := by
  intro c d h
  have hchars : escaped [c] = escaped [d] := by rw [escaped_cons, escaped_cons, h]
  exact (List.cons.inj (escaped_injective hchars)).1

/-- An escaped character is told from what follows it. -/
theorem escape_append_inj {c d : Char} {us vs : List Char} (h : escape c ++ us = escape d ++ vs) :
    c = d ∧ us = vs := by
  have hlength : (escape c).length = (escape d).length := by
    by_cases hc : c ∈ escapedChars <;> by_cases hd : d ∈ escapedChars
    · obtain ⟨c', hc', -⟩ := exists_escape_of_mem hc
      obtain ⟨d', hd', -⟩ := exists_escape_of_mem hd
      rw [hc', hd']
      rfl
    · obtain ⟨c', hc', -⟩ := exists_escape_of_mem hc
      rw [hc', escape_of_notMem hd] at h
      exact absurd ((List.cons.inj h).1 ▸ by decide) hd
    · obtain ⟨d', hd', -⟩ := exists_escape_of_mem hd
      rw [hd', escape_of_notMem hc] at h
      exact absurd ((List.cons.inj h).1.symm ▸ by decide) hc
    · rw [escape_of_notMem hc, escape_of_notMem hd]
      rfl
  obtain ⟨hescape, hrest⟩ := List.append_inj h hlength
  exact ⟨escape_injective hescape, hrest⟩

/-- An escaped character does not begin with a quote. -/
theorem escape_append_ne_quote {c : Char} {us vs : List Char} : escape c ++ us ≠ '"' :: vs := by
  by_cases hc : c ∈ escapedChars
  · obtain ⟨c', hc', -⟩ := exists_escape_of_mem hc
    rw [hc']
    exact fun h => absurd (List.cons.inj h).1 (by decide)
  · rw [escape_of_notMem hc]
    exact fun h => hc ((List.cons.inj h).1 ▸ by decide)

/-- A string literal is told from what follows it. -/
theorem quoted_append_inj {s t : String} {us vs : List Char}
    (h : (quoted s).toList ++ us = (quoted t).toList ++ vs) : s = t ∧ us = vs := by
  have hescaped : ∀ cs ds : List Char, escaped cs ++ '"' :: us = escaped ds ++ '"' :: vs →
      cs = ds ∧ us = vs := by
    intro cs
    induction cs with
    | nil =>
      rintro (_ | ⟨d, ds⟩) h
      · exact ⟨rfl, (List.cons.inj h).2⟩
      · rw [escaped_cons, List.append_assoc] at h
        exact absurd h.symm escape_append_ne_quote
    | cons c cs ih =>
      rintro (_ | ⟨d, ds⟩) h
      · rw [escaped_cons, List.append_assoc] at h
        exact absurd h escape_append_ne_quote
      · rw [escaped_cons, escaped_cons, List.append_assoc, List.append_assoc] at h
        obtain ⟨rfl, hrest⟩ := escape_append_inj h
        obtain ⟨rfl, hus⟩ := ih ds hrest
        exact ⟨rfl, hus⟩
  have hchars : escaped s.toList ++ '"' :: us = escaped t.toList ++ '"' :: vs := by
    simpa [quoted] using h
  obtain ⟨heq, hus⟩ := hescaped _ _ hchars
  exact ⟨String.toList_injective heq, hus⟩

/-! ### Texts that are their own escaped form -/

theorem escaped_eq_self (h : ∀ c ∈ cs, c ∉ escapedChars) : escaped cs = cs := by
  induction cs with
  | nil => rfl
  | cons c cs ih =>
    obtain ⟨hc, hcs⟩ := List.forall_mem_cons.mp h
    rw [escaped_cons, escape_of_notMem hc, ih hcs, List.singleton_append]

theorem length_le_length_escaped (cs : List Char) : cs.length ≤ (escaped cs).length := by
  induction cs with
  | nil => exact Nat.zero_le _
  | cons c cs ih =>
    have hc : 1 ≤ (escape c).length := by
      by_cases hmem : c ∈ escapedChars
      · obtain ⟨d, hd, -⟩ := exists_escape_of_mem hmem
        simp [hd]
      · simp [escape_of_notMem hmem]
    rw [escaped_cons, List.length_append, List.length_cons]
    omega

/-- A text with a character that is escaped is shorter than its escaped form. -/
theorem length_lt_length_escaped (h : ∃ c ∈ cs, c ∈ escapedChars) :
    cs.length < (escaped cs).length := by
  obtain ⟨c, hc, hmem⟩ := h
  obtain ⟨before, after, rfl⟩ := List.append_of_mem hc
  obtain ⟨d, hd, -⟩ := exists_escape_of_mem hmem
  have hbefore := length_le_length_escaped before
  have hafter := length_le_length_escaped after
  rw [escaped, List.flatMap_append, ← escaped, ← escaped, escaped_cons, hd]
  simp only [List.length_append, List.length_cons, List.length_nil]
  omega

/-- A backslash stands in the escaped form of a text with a character that is escaped. -/
theorem backslash_mem_escaped (h : ∃ c ∈ cs, c ∈ escapedChars) : '\\' ∈ escaped cs := by
  obtain ⟨c, hc, hmem⟩ := h
  obtain ⟨d, hd, -⟩ := exists_escape_of_mem hmem
  exact List.mem_flatMap.mpr ⟨c, hc, hd ▸ List.mem_cons_self ..⟩

/-! ### What stands in escaped texts -/

/-- No line end and no tab stands in an escaped text. -/
theorem notMem_escaped (h : c ∈ ['\n', '\r', '\t']) : c ∉ escaped cs := by
  intro hmem
  obtain ⟨d, -, hd⟩ := List.mem_flatMap.mp hmem
  by_cases hescaped : d ∈ escapedChars
  · obtain ⟨e, he, -, hplain⟩ := exists_escape_of_mem hescaped
    rw [he, List.mem_pair] at hd
    rcases hd with rfl | rfl
    · exact absurd h (by decide)
    · exact hplain h
  · have hall : ∀ e ∈ ['\n', '\r', '\t'], e ∈ escapedChars := by simp [escapedChars]
    rw [escape_of_notMem hescaped, List.mem_singleton] at hd
    exact hescaped (hd ▸ hall c h)

theorem newline_notMem_escaped : '\n' ∉ escaped cs := notMem_escaped (List.mem_cons_self ..)

/-- A quote of an escaped text stands after a backslash. -/
theorem backslash_mem_of_prefix_escaped {before : List Char}
    (h : before ++ ['"'] <+: escaped cs) : '\\' ∈ before := by
  induction cs generalizing before with
  | nil => exact absurd (List.prefix_nil.mp h) (by simp)
  | cons c cs ih =>
    rw [escaped_cons] at h
    by_cases hmem : c ∈ escapedChars
    · obtain ⟨d, hd, -⟩ := exists_escape_of_mem hmem
      rw [hd] at h
      cases before with
      | nil => exact absurd (List.cons_prefix_cons.mp h).1 (by decide)
      | cons b before =>
        rw [(List.cons_prefix_cons.mp h).1]
        exact List.mem_cons_self ..
    · rw [escape_of_notMem hmem, List.singleton_append] at h
      cases before with
      | nil =>
        rw [← (List.cons_prefix_cons.mp h).1] at hmem
        exact absurd (by decide) hmem
      | cons b before => exact List.mem_cons_of_mem _ (ih (List.cons_prefix_cons.mp h).2)

/-- No pair of slashes begins at another character. -/
theorem slashes_infix_cons (h : c ≠ '/') : ['/', '/'] <:+: c :: cs ↔ ['/', '/'] <:+: cs := by
  rw [List.infix_cons_iff, List.cons_prefix_cons, or_iff_right fun hc => h hc.1.symm]

/-- No pair of slashes ends at another character. -/
theorem slashes_infix_concat (h : c ≠ '/') : ['/', '/'] <:+: cs ++ [c] ↔ ['/', '/'] <:+: cs := by
  rw [List.infix_concat_iff, List.suffix_concat_iff, or_iff_right]
  rintro (hnil | ⟨front, hfront, -⟩)
  · exact List.cons_ne_nil _ _ hnil
  · have hlast := congrArg List.getLast? hfront
    rw [List.getLast?_concat] at hlast
    exact h (Option.some.inj hlast).symm

/-- No pair of slashes stands in what follows if no slash does, nor where the two meet. -/
theorem slashes_infix_append {ds : List Char} (h : '/' ∉ ds) :
    ['/', '/'] <:+: cs ++ ds ↔ ['/', '/'] <:+: cs := by
  induction ds using List.reverseRecOn with
  | nil => rw [List.append_nil]
  | append_singleton ds d ih =>
    rw [List.mem_append, List.mem_singleton, not_or] at h
    rw [← List.append_assoc, slashes_infix_concat (Ne.symm h.2), ih h.1]

/-- A slash after another character ends no pair. -/
theorem slashes_infix_append_slash (h : cs.getLast? ≠ some '/') :
    ['/', '/'] <:+: cs ++ ['/'] ↔ ['/', '/'] <:+: cs := by
  rw [List.infix_concat_iff, or_iff_right]
  rintro ⟨front, hfront⟩
  have hcs : front ++ ['/'] = cs := List.append_cancel_right (by simpa using hfront)
  exact h (by rw [← hcs, List.getLast?_concat])

theorem slash_prefix_escaped : ['/'] <+: escaped cs ↔ ['/'] <+: cs := by
  cases cs with
  | nil => rfl
  | cons c cs =>
    by_cases hmem : c ∈ escapedChars
    · obtain ⟨d, hd, -⟩ := exists_escape_of_mem hmem
      have hc : '/' ≠ c := fun hc => absurd hmem (hc ▸ by decide)
      simp [hd, List.cons_prefix_cons, hc]
    · simp [escape_of_notMem hmem, List.cons_prefix_cons]

/-- Escaping makes no pair of slashes, and parts none. -/
theorem slashes_infix_escaped : ['/', '/'] <:+: escaped cs ↔ ['/', '/'] <:+: cs := by
  induction cs with
  | nil => rfl
  | cons c cs ih =>
    rw [escaped_cons]
    by_cases hmem : c ∈ escapedChars
    · obtain ⟨d, hd, hslash, -⟩ := exists_escape_of_mem hmem
      have hc : c ≠ '/' := fun hc => absurd hmem (hc ▸ by decide)
      rw [hd, List.cons_append, List.singleton_append, slashes_infix_cons (by decide),
        slashes_infix_cons hslash, slashes_infix_cons hc, ih]
    · rw [escape_of_notMem hmem, List.singleton_append, List.infix_cons_iff, List.infix_cons_iff,
        List.cons_prefix_cons, List.cons_prefix_cons, slash_prefix_escaped, ih]

end CombatContent.Zig
