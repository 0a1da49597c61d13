import CombatContent.Proofs.Enumeration.GeneratedBlock
import CombatContent.Proofs.Zig.ReadBack

/-!
# Literals of strings and identifiers

The literal of a string is told from whatever follows it, and so is its string. Between its quotes,
every quote has an odd number of backslashes in front, and the closing quote has an even number of
them: an escaped text is cut into backslashes that stand in pairs, and escapes of one character.
Identifiers, the variants of an enumeration, and slices of strings tell their names apart in the
same way.

## Main definitions

* `Zig.backslashesAtEnd`: the backslashes in front of a place.
* `Zig.IsBetweenQuotes`: what stands between the quotes of the literal of a string.

## Main results

* `Zig.even_backslashesAtEnd_escaped`, `Zig.odd_backslashesAtEnd_of_escaped_eq`: where quotes are
  escaped.
* `Zig.lines_techniqueIdText`: the lines of an enumeration.
* `Zig.literals_unambiguous`: literals of strings, identifiers and slices of strings.
-/

namespace CombatContent.Zig

open Text Enumeration

/-! ### Quotes between the quotes -/

/-- How many backslashes a text ends in. -/
def backslashesAtEnd (cs : List Char) : Nat := (cs.rtakeWhile (· == '\\')).length

variable {cs : List Char} {c : Char}

theorem backslashesAtEnd_concat_backslash :
    backslashesAtEnd (cs ++ ['\\']) = backslashesAtEnd cs + 1 := by
  rw [backslashesAtEnd, List.rtakeWhile_concat_pos _ _ _ rfl, List.length_append]
  rfl

theorem backslashesAtEnd_concat_of_ne (h : c ≠ '\\') : backslashesAtEnd (cs ++ [c]) = 0 := by
  rw [backslashesAtEnd, List.rtakeWhile_concat_neg _ _ _ (by simpa using h), List.length_nil]

theorem escaped_concat (cs : List Char) (c : Char) :
    escaped (cs ++ [c]) = escaped cs ++ escape c := by
  rw [escaped, List.flatMap_append, List.flatMap_singleton, ← escaped]

/-- Only the escaped backslash ends in a backslash. -/
theorem exists_escape_eq_concat (h : c ≠ '\\') :
    ∃ before d, escape c = before ++ [d] ∧ d ≠ '\\' := by
  by_cases hc : c ∈ escapedChars
  · simp only [escapedChars, List.mem_cons, List.not_mem_nil, or_false] at hc
    rcases hc with rfl | rfl | rfl | rfl | rfl
    · exact absurd rfl h
    · exact ⟨['\\'], '"', rfl, by decide⟩
    · exact ⟨['\\'], 'n', rfl, by decide⟩
    · exact ⟨['\\'], 'r', rfl, by decide⟩
    · exact ⟨['\\'], 't', rfl, by decide⟩
  · exact ⟨[], c, escape_of_notMem hc, h⟩

/-- The backslashes at the end of an escaped text are those of backslashes, in pairs. -/
theorem even_backslashesAtEnd_escaped (cs : List Char) : Even (backslashesAtEnd (escaped cs)) := by
  induction cs using List.reverseRecOn with
  | nil => exact Even.zero
  | append_singleton cs c ih =>
    rw [escaped_concat]
    by_cases hc : c = '\\'
    · rw [hc, show escape '\\' = ['\\'] ++ ['\\'] from rfl, ← List.append_assoc,
        backslashesAtEnd_concat_backslash, backslashesAtEnd_concat_backslash, add_assoc]
      exact ih.add even_two
    · obtain ⟨before, d, hd, hne⟩ := exists_escape_eq_concat hc
      rw [hd, ← List.append_assoc, backslashesAtEnd_concat_of_ne hne]
      exact Even.zero

/-- Only the escaped quote has a quote in it, after a backslash. -/
theorem eq_backslash_of_escape_eq {before after : List Char}
    (h : escape c = before ++ '"' :: after) : before = ['\\'] := by
  by_cases hc : c ∈ escapedChars
  · obtain ⟨d, hd, -⟩ := exists_escape_of_mem hc
    rw [hd] at h
    rcases before with _ | ⟨a, _ | ⟨b, before⟩⟩
    · exact absurd (List.cons.inj h).1 (by decide)
    · rw [(List.cons.inj h).1]
    · exact absurd (List.cons.inj (List.cons.inj h).2).2 (by simp)
  · rw [escape_of_notMem hc] at h
    cases before with
    | nil => exact absurd ((List.cons.inj h).1 ▸ by decide) hc
    | cons b before => exact absurd (List.cons.inj h).2 (by simp)

/-- A quote in an escaped text has an odd number of backslashes in front. -/
theorem odd_backslashesAtEnd_of_escaped_eq {before after : List Char}
    (h : escaped cs = before ++ '"' :: after) : Odd (backslashesAtEnd before) := by
  induction cs using List.reverseRecOn generalizing after with
  | nil => exact absurd h (by simp [escaped])
  | append_singleton cs c ih =>
    rw [escaped_concat, List.append_eq_append_iff] at h
    rcases h with ⟨inner, rfl, hc⟩ | ⟨inner, hcs, hc⟩
    · -- The quote stands in the last escape, after its backslash.
      rw [eq_backslash_of_escape_eq hc, backslashesAtEnd_concat_backslash]
      exact (even_backslashesAtEnd_escaped cs).add_one
    · -- The quote stands in front of the last escape, since no escape begins with one.
      cases inner with
      | nil => exact absurd ((List.append_nil _).trans hc.symm) escape_append_ne_quote
      | cons d inner =>
        rw [← (List.cons.inj hc).1] at hcs
        exact ih hcs

/-- What stands between the quotes of the literal of a string: no line end, no tab, no quote but
after an odd number of backslashes, and not such a number at the end, so that the closing quote is
none of these. It stands for the string. -/
structure IsBetweenQuotes (inner : List Char) (s : String) : Prop where
  toList_quoted : (quoted s).toList = '"' :: (inner ++ ['"'])
  notMem : ∀ c ∈ ['\n', '\r', '\t'], c ∉ inner
  escapes : ∀ before after, inner = before ++ '"' :: after → Odd (backslashesAtEnd before)
  closes : Even (backslashesAtEnd inner)
  unescape?_eq : unescape? inner = some s.toList

theorem isBetweenQuotes_escaped (s : String) : IsBetweenQuotes (escaped s.toList) s where
  toList_quoted := by rw [quoted, String.toList_ofList]; rfl
  notMem _ hc := notMem_escaped hc
  escapes _ _ h := odd_backslashesAtEnd_of_escaped_eq h
  closes := even_backslashesAtEnd_escaped s.toList
  unescape?_eq := unescape?_escaped s.toList

/-! ### Variants of an enumeration -/

/-- The line of the variant of a technique. -/
def variantLine (id : String) : String := indented 1 (identifier id ++ ",")

theorem variantLine_injective : Function.Injective variantLine := by
  intro s t h
  have htext := congrArg String.toList (indented_injective h)
  rw [String.toList_append, String.toList_append, List.append_cancel_right_eq] at htext
  exact identifier_injective (String.toList_injective htext)

/-- An enumeration has a line for each of its ids. -/
theorem lines_techniqueIdText (ids : NameSet) :
    Text.lines (techniqueIdText ids).toList =
      ("pub const GeneratedTechniqueID = enum \x7b" ::
        (ids.toList.map variantLine ++ ["\x7d;", ""])).map String.toList := by
  have hfeed : ∀ line ∈ techniqueIdLines ids, '\n' ∉ line.toList := newline_notMem_techniqueIdLines
  have hlines := lines_unlines_append hfeed []
  rw [List.append_nil] at hlines
  rw [techniqueIdText, hlines, techniqueIdLines]
  simp [variantLine, Text.lines]

theorem nodup_variantLines (ids : NameSet) : (ids.toList.map variantLine).Nodup :=
  ids.ascending.nodup.map variantLine_injective

/-! ### Literals and what they stand for -/

/-- Literals tell their strings apart. The literal of a string has quotes at its ends, no line end
and no tab, and no quote between them that is not escaped; it stands for the string, and is told
from what follows it. An identifier is the name or its literal after an at sign, and names have
different identifiers. So the ids of an enumeration have different lines, one each. Slices of
different strings are different. -/
theorem literals_unambiguous :
    (∀ s, ∃ inner, IsBetweenQuotes inner s) ∧
    (∀ s t u v : String, quoted s ++ u = quoted t ++ v → s = t ∧ u = v) ∧
    (∀ s, identifier s = s ∨ identifier s = "@" ++ quoted s) ∧
    (∀ s t, identifier s = identifier t → s = t) ∧
    (∀ ids : NameSet,
      Text.lines (techniqueIdText ids).toList =
        ("pub const GeneratedTechniqueID = enum \x7b" ::
          (ids.toList.map variantLine ++ ["\x7d;", ""])).map String.toList ∧
      (ids.toList.map variantLine).Nodup ∧ (ids.toList.map variantLine).length = ids.size) ∧
    (∀ ss ts : List String, (Literal.strings ss).text = (Literal.strings ts).text → ss = ts) := by
  refine ⟨fun s => ⟨_, isBetweenQuotes_escaped s⟩, fun s t u v h => ?_, fun s => ?_,
    fun s t h => identifier_injective h, fun ids => ?_, fun ss ts h => text_strings_injective h⟩
  · have hchars := congrArg String.toList h
    rw [String.toList_append, String.toList_append] at hchars
    obtain ⟨hst, huv⟩ := quoted_append_inj hchars
    exact ⟨hst, String.toList_injective huv⟩
  · rw [identifier]
    split
    · exact .inl rfl
    · exact .inr rfl
  · exact ⟨lines_techniqueIdText ids, nodup_variantLines ids, List.length_map ..⟩

/-- A name that looks like an identifier in quotes is quoted once more. -/
example : identifier "@\"\\\"" = "@\"@\\\"\\\\\\\"\"" := by decide +kernel

end CombatContent.Zig
