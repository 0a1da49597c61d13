import CombatContent.Proofs.Enumeration.GeneratedBlock

/-!
# Layouts of an enumeration

An enumeration may be laid out in many ways. Any lines may stand in front of the line that opens the
block, as long as none of them opens one, and any text after the line that closes it. Lines of the
block may be blank or be comments. The others have a name each, with any blanks in front, any commas
behind, and blanks and a comment after these. The ids that are read are those of the names, whatever
the layout.

## Main definitions

* `Enumeration.Token`, `Enumeration.BlockLine`, `Enumeration.Layout`: the parts of a layout, down to
  the names.
* `Enumeration.Layout.text`, `Enumeration.Layout.ids`: its text, and the ids that it names.

## Main results

* `Enumeration.idOn?_trim_chars`: the id on a line of a block.
* `Enumeration.blockLines_text`: the lines of the block.
* `Enumeration.read_layout`: the ids that are read.
-/

namespace CombatContent.Enumeration

open Text Zig

/-! ### Parts of a layout -/

/-- Blanks on one line. -/
structure Blanks where
  chars : List Char
  blank : ∀ c ∈ chars, isBlank c = true
  oneLine : '\n' ∉ chars

/-- Any text on one line. -/
structure LineText where
  chars : List Char
  oneLine : '\n' ∉ chars

/-- The name of an id: the id itself if it is a word, as every plain identifier is, or the id
between quotes if it is legible there. -/
inductive Token where
  | bare (id : String) (word : isWord id.toList = true)
  | quoted (id : String) (nonempty : id ≠ "") (legible : IsLegible id)

/-- The id that a name stands for. -/
def Token.id : Token → String
  | bare id _ => id
  | quoted id _ _ => id

/-- The characters of a name. -/
def Token.chars : Token → List Char
  | bare id _ => id.toList
  | quoted id _ _ => '@' :: '"' :: (id.toList ++ ['"'])

/-- A line of a block: blank, a comment, or a name with commas behind and a comment after it. -/
inductive BlockLine where
  | blank (blanks : Blanks)
  | comment (indentation : Blanks) (text : LineText)
  | name (indentation : Blanks) (token : Token) (commas : Nat) (blanks : Blanks)
    (comment : Option LineText)

/-- The characters of a comment, if there is one. -/
def commentChars : Option LineText → List Char
  | some text => ['/', '/'] ++ text.chars
  | none => []

/-- A name and the commas behind it. -/
def namedChars (token : Token) (commas : Nat) : List Char :=
  token.chars ++ List.replicate commas ','

/-- The characters of a line. -/
def BlockLine.chars : BlockLine → List Char
  | blank blanks => blanks.chars
  | comment indentation text => indentation.chars ++ commentChars (some text)
  | name indentation token commas blanks remark =>
    indentation.chars ++ (namedChars token commas ++ (blanks.chars ++ commentChars remark))

/-- The id that a line names, if it names one. -/
def BlockLine.id? : BlockLine → Option String
  | name _ token _ _ _ => some token.id
  | _ => none

/-- A layout of an enumeration with the marks that it has where the settings do not say otherwise:
lines none of which opens a block, a line that does, the lines of the block, and, unless the text
ends there, a line that closes the block and any lines after it. -/
structure Layout where
  before : List LineText
  opening : LineText
  body : List BlockLine
  after : List LineText
  none_opens : ∀ line ∈ before, begins "pub const TechniqueID" (trim line.chars) = false
  opens : begins "pub const TechniqueID" (trim opening.chars) = true
  closes : ∀ line ∈ after.head?, begins "\x7d;" (trim line.chars) = true

/-- The lines of a layout. -/
def Layout.lines (l : Layout) : List (List Char) :=
  l.before.map LineText.chars ++
    l.opening.chars :: (l.body.map BlockLine.chars ++ l.after.map LineText.chars)

/-- The text of a layout, with line feeds between its lines. -/
def Layout.text (l : Layout) : String := String.ofList (['\n'].intercalate l.lines)

/-- The ids that a layout names, in order. -/
def Layout.ids (l : Layout) : List String := l.body.filterMap BlockLine.id?

/-! ### Names -/

namespace Token

variable (t : Token)

theorem id_ne_empty : t.id ≠ "" := by
  cases t with
  | bare id word => exact fun h => (isWordChar_of_isWord word).1 (String.toList_eq_nil_iff.mpr h)
  | quoted id nonempty legible => exact nonempty

/-- A name begins like no blank, no comment and no end of a block. -/
theorem exists_chars_eq_cons :
    ∃ c cs, t.chars = c :: cs ∧ isBlank c = false ∧ c ≠ '/' ∧ c ≠ '}' := by
  cases t with
  | bare id word =>
    obtain ⟨c, cs, hcs, hc⟩ := exists_cons_of_isWord word
    exact ⟨c, cs, hcs, isBlank_of_isWordChar hc, ne_of_isWordChar hc (by decide),
      ne_of_isWordChar hc (by decide)⟩
  | quoted id nonempty legible => exact ⟨'@', _, rfl, by decide, by decide, by decide⟩

/-- A name ends in no blank, no comma and no slash. -/
theorem exists_chars_eq_concat :
    ∃ cs c, t.chars = cs ++ [c] ∧ isBlank c = false ∧ c ≠ ',' ∧ c ≠ '/' := by
  cases t with
  | bare id word =>
    obtain ⟨hne, hchars⟩ := isWordChar_of_isWord word
    have hc := hchars _ (List.getLast_mem hne)
    exact ⟨_, _, (List.dropLast_append_getLast hne).symm, isBlank_of_isWordChar hc,
      ne_of_isWordChar hc (by decide), ne_of_isWordChar hc (by decide)⟩
  | quoted id nonempty legible =>
    exact ⟨'@' :: '"' :: id.toList, '"', rfl, by decide, by decide, by decide⟩

theorem not_slashes_infix_chars : ¬ ['/', '/'] <:+: t.chars := by
  cases t with
  | bare id word =>
    intro hslashes
    exact notMem_of_isWord (c := '/') word (by decide) (hslashes.subset (List.mem_cons_self ..))
  | quoted id nonempty legible =>
    rw [chars, slashes_infix_cons (by decide), slashes_infix_cons (by decide),
      slashes_infix_concat (by decide)]
    exact legible.2

theorem newline_notMem_chars : '\n' ∉ t.chars := by
  cases t with
  | bare id word => exact notMem_of_isWord word (by decide)
  | quoted id nonempty legible =>
    have hid : '\n' ∉ id.toList := fun hmem => legible.1 _ hmem (by decide)
    simp [chars, hid]

/-- The id is read from its name. -/
theorem unquoted_chars : unquoted t.chars = t.id.toList := by
  cases t with
  | bare name word =>
    obtain ⟨c, cs, hcs, hc⟩ := exists_cons_of_isWord word
    rw [chars, id, hcs, unquoted_of_ne (ne_of_isWordChar hc (by decide))]
  | quoted name nonempty legible =>
    rw [chars, id, unquoted_cons, List.getLast?_concat, if_pos rfl, List.dropLast_concat]

end Token

/-! ### Lines of a block -/

section Lines

variable {t : Token} {commas : Nat} {blanks : Blanks}

theorem slash_notMem_blanks : '/' ∉ blanks.chars :=
  fun hmem => absurd (blanks.blank _ hmem) (by decide)

/-- The commas are taken off a name. -/
theorem dropEndWhile_namedChars : dropEndWhile (· == ',') (namedChars t commas) = t.chars := by
  obtain ⟨cs, c, hcs, -, hc, -⟩ := t.exists_chars_eq_concat
  rw [namedChars, dropEndWhile_append_of_pos (by simp), hcs, dropEndWhile_eq_rdropWhile,
    List.rdropWhile_concat_neg _ _ _ (by simpa using hc)]

/-- A name with its commas has no blank at its ends. -/
theorem trim_namedChars : trim (namedChars t commas) = namedChars t commas := by
  obtain ⟨c, cs, hcs, hc, -⟩ := t.exists_chars_eq_cons
  obtain ⟨ds, d, hds, hd, -⟩ := t.exists_chars_eq_concat
  have hne : namedChars t commas ≠ [] := by simp [namedChars, hcs]
  refine trim_eq_self hne ?_ ?_
  · simpa only [namedChars, hcs, List.cons_append, List.head_cons] using hc
  · cases commas with
    | zero => simpa [namedChars, hds] using hd
    | succ n =>
      simp only [namedChars, List.replicate_succ', ← List.append_assoc,
        List.getLast_append_singleton]
      decide

/-- A comment after a name begins with the first pair of slashes. -/
theorem not_slashes_infix_namedChars (t : Token) (commas : Nat) (blanks : Blanks) :
    ¬ ['/', '/'] <:+: (namedChars t commas ++ blanks.chars) ++ ['/'] := by
  have hback : '/' ∉ List.replicate commas ',' ++ blanks.chars := by
    simp [slash_notMem_blanks]
  rw [namedChars, List.append_assoc t.chars, slashes_infix_append_slash,
    slashes_infix_append hback]
  · exact t.not_slashes_infix_chars
  · -- What stands in front of the comment is a blank, a comma or the end of the name.
    obtain ⟨cs, c, hcs, -, -, hc⟩ := t.exists_chars_eq_concat
    rw [List.getLast?_append, hcs, List.getLast?_concat]
    cases hlast : (List.replicate commas ',' ++ blanks.chars).getLast? with
    | none => simpa using hc
    | some d => exact fun hd => hback (Option.some.inj hd ▸ List.mem_of_getLast? hlast)

/-- Of the line of a name, the comment may lose blanks at its end, and what stands in front of it
is the name and blanks. -/
theorem exists_trim_name (indentation : Blanks) (t : Token) (commas : Nat) (blanks : Blanks)
    (remark : Option LineText) :
    ∃ back, trim (BlockLine.name indentation t commas blanks remark).chars =
        namedChars t commas ++ back ∧
      ∃ front, (∀ c ∈ front, isBlank c = true) ∧
        upTo ['/', '/'] (namedChars t commas ++ back) = namedChars t commas ++ front := by
  cases remark with
  | none =>
    refine ⟨[], ?_, [], List.forall_mem_nil _, ?_⟩
    · rw [BlockLine.chars, commentChars, List.append_nil, List.append_nil,
        trim_append_append indentation.blank blanks.blank, trim_namedChars]
    · rw [List.append_nil]
      refine upTo_eq_self fun hslashes => not_slashes_infix_namedChars t commas blanks ?_
      rw [List.append_assoc]
      exact hslashes.trans (List.prefix_append _ _).isInfix
  | some text =>
    obtain ⟨c, cs, hcs, hc, -⟩ := t.exists_chars_eq_cons
    have hslash : isBlank '/' = false := by decide
    obtain ⟨text', -, htrim⟩ := exists_trim_eq indentation.blank hc hslash
      (cs ++ List.replicate commas ',' ++ blanks.chars ++ ['/']) text.chars
    refine ⟨blanks.chars ++ (['/', '/'] ++ text'), ?_, blanks.chars, blanks.blank, ?_⟩
    · simpa [BlockLine.chars, commentChars, namedChars, hcs] using htrim
    · rw [← List.append_assoc]
      exact upTo_append_mark (not_slashes_infix_namedChars t commas blanks) _

theorem trim_blanks : trim blanks.chars = [] := by
  rw [trim, List.dropWhile_eq_nil_iff.mpr blanks.blank]
  rfl

theorem exists_trim_comment (indentation : Blanks) (text : LineText) :
    ∃ back, trim (BlockLine.comment indentation text).chars = '/' :: '/' :: back := by
  obtain ⟨back, -, htrim⟩ := exists_trim_eq indentation.blank (by decide : isBlank '/' = false)
    (by decide : isBlank '/' = false) [] text.chars
  exact ⟨back, htrim⟩

/-- A line of a block does not end it. -/
theorem not_begins_trim_chars (line : BlockLine) :
    begins "\x7d;" (trim line.chars) = false := by
  cases line with
  | blank blanks => rw [BlockLine.chars, trim_blanks]; rfl
  | comment indentation text =>
    obtain ⟨back, htrim⟩ := exists_trim_comment indentation text
    rw [htrim]
    rfl
  | name indentation t commas blanks remark =>
    obtain ⟨back, htrim, -⟩ := exists_trim_name indentation t commas blanks remark
    obtain ⟨c, cs, hcs, -, -, hc⟩ := t.exists_chars_eq_cons
    rw [htrim, namedChars, hcs, begins]
    simp [List.isPrefixOf, Ne.symm hc]

/-- The name is read from its line. -/
theorem nameOn_trim_name (indentation : Blanks) (t : Token) (commas : Nat) (blanks : Blanks)
    (remark : Option LineText) :
    nameOn {} (trim (BlockLine.name indentation t commas blanks remark).chars) = t.id.toList := by
  obtain ⟨back, htrim, front, hfront, hupTo⟩ :=
    exists_trim_name indentation t commas blanks remark
  have hname : trim (namedChars t commas ++ front) = namedChars t commas := by
    rw [← List.nil_append (_ ++ front), trim_append_append (List.forall_mem_nil _) hfront,
      trim_namedChars]
  calc nameOn {} (trim (BlockLine.name indentation t commas blanks remark).chars)
      = unquoted (dropEndWhile (· == ',')
          (trim (upTo ['/', '/'] (namedChars t commas ++ back)))) := by rw [htrim]; rfl
    _ = unquoted (dropEndWhile (· == ',') (namedChars t commas)) := by rw [hupTo, hname]
    _ = t.id.toList := by rw [dropEndWhile_namedChars, t.unquoted_chars]

/-- The id on a line of a block is the one that it names. -/
theorem idOn?_trim_chars (line : BlockLine) : idOn? {} (trim line.chars) = line.id? := by
  cases line with
  | blank blanks => rw [BlockLine.chars, trim_blanks]; rfl
  | comment indentation text =>
    obtain ⟨back, htrim⟩ := exists_trim_comment indentation text
    rw [htrim]
    rfl
  | name indentation t commas blanks remark =>
    have hname := nameOn_trim_name indentation t commas blanks remark
    obtain ⟨back, htrim, -⟩ := exists_trim_name indentation t commas blanks remark
    obtain ⟨c, cs, hcs, -, hc, -⟩ := t.exists_chars_eq_cons
    have hid : ¬ t.id.toList.isEmpty = true :=
      mt (List.isEmpty_iff.trans String.toList_eq_nil_iff).mp t.id_ne_empty
    rw [htrim, namedChars, hcs] at hname ⊢
    rw [List.cons_append, List.cons_append] at hname ⊢
    rw [idOn?_cons rfl hc, hname, if_neg hid, String.ofList_toList, BlockLine.id?]

theorem newline_notMem_chars (line : BlockLine) : '\n' ∉ line.chars := by
  cases line with
  | blank blanks => exact blanks.oneLine
  | comment indentation text =>
    simp [BlockLine.chars, commentChars, indentation.oneLine, text.oneLine]
  | name indentation t commas blanks remark =>
    have hremark : '\n' ∉ commentChars remark := by
      cases remark with
      | none => exact List.not_mem_nil
      | some text => simp [commentChars, text.oneLine]
    simp [BlockLine.chars, namedChars, indentation.oneLine, t.newline_notMem_chars, blanks.oneLine,
      hremark]

end Lines

/-! ### Whole layouts -/

namespace Layout

variable (l : Layout)

theorem newline_notMem_lines : ∀ line ∈ l.lines, '\n' ∉ line := by
  simp only [lines, List.mem_append, List.mem_cons, List.mem_map]
  rintro _ (⟨line, -, rfl⟩ | rfl | ⟨line, -, rfl⟩ | ⟨line, -, rfl⟩)
  · exact line.oneLine
  · exact l.opening.oneLine
  · exact newline_notMem_chars line
  · exact line.oneLine

/-- The lines that are looked at are the trimmed lines of the block. -/
theorem blockLines_text :
    blockLines {} l.text.toList = l.body.map fun line => trim line.chars := by
  have hlines : Text.lines l.text.toList = l.lines := by
    rw [text, String.toList_ofList, lines_intercalate _ l.newline_notMem_lines]
    simp [lines]
  have hbefore : ∀ line ∈ (l.before.map LineText.chars).map trim,
      (!begins "pub const TechniqueID" line) = true := by
    simp only [List.mem_map]
    rintro _ ⟨_, ⟨line, hline, rfl⟩, rfl⟩
    rw [l.none_opens line hline, Bool.not_false]
  have hbody : ∀ line ∈ (l.body.map BlockLine.chars).map trim,
      (!begins "\x7d;" line) = true := by
    simp only [List.mem_map]
    rintro _ ⟨_, ⟨line, -, rfl⟩, rfl⟩
    rw [not_begins_trim_chars, Bool.not_false]
  have hafter : ((l.after.map LineText.chars).map trim).takeWhile
      (fun line => !begins "\x7d;" line) = [] := by
    have hcloses := l.closes
    cases hafter : l.after with
    | nil => rfl
    | cons line after =>
      rw [hafter, List.head?_cons] at hcloses
      rw [List.map_cons, List.map_cons, List.takeWhile_cons_of_neg]
      rw [hcloses line rfl]
      decide
  rw [blockLines, hlines, lines, List.map_append, List.dropWhile_append_of_pos hbefore,
    List.map_cons, List.dropWhile_cons_of_neg (by simp [l.opens]), List.tail_cons, List.map_append,
    List.takeWhile_append_of_pos hbody, hafter, List.append_nil, List.map_map]
  rfl

end Layout

/-- The ids that a layout names are the ones that are read from it. So two layouts are read alike
just if they name the same ids: the order of the lines and their repetition, blank lines, comments,
commas, blanks, and the lines outside of the block do not matter. -/
theorem read_layout (l : Layout) :
    read {} l.text = NameSet.ofList l.ids ∧
      ∀ l' : Layout, read {} l'.text = read {} l.text ↔ ∀ id, id ∈ l'.ids ↔ id ∈ l.ids := by
  have hread : ∀ l : Layout, read {} l.text = NameSet.ofList l.ids := by
    intro l
    have hids : (idOn? {} ∘ fun line : BlockLine => trim line.chars) = BlockLine.id? :=
      funext idOn?_trim_chars
    rw [read, l.blockLines_text, List.filterMap_map, hids, Layout.ids]
  refine ⟨hread l, fun l' => ?_⟩
  rw [hread l, hread l', NameSet.ext_iff]
  simp only [NameSet.mem_ofList]

/-- A layout with carriage returns, a comment that looks like the end of the block, and another
block behind. -/
def crowdedLayout : Layout where
  before := [⟨"// ids\r".toList, by decide +kernel⟩]
  opening := ⟨" pub const TechniqueID = enum \x7b\r".toList, by decide +kernel⟩
  body := [
    .name ⟨['\t'], by simp [isBlank], by decide⟩ (.bare "swing" (by decide +kernel)) 2
      ⟨['\r'], by simp [isBlank], by decide⟩ none,
    .blank ⟨[' ', '\r'], by simp [isBlank], by decide⟩,
    .name ⟨[], by simp, by decide⟩
      (.quoted "a, b" (by decide +kernel) (by decide +kernel)) 0
      ⟨[' '], by simp [isBlank], by decide⟩ (some ⟨" c,\r".toList, by decide +kernel⟩),
    .comment ⟨[' '], by simp [isBlank], by decide⟩ ⟨"\x7d;\r".toList, by decide +kernel⟩,
    .name ⟨[], by simp, by decide⟩
      (.quoted "swing" (by decide +kernel) (by decide +kernel)) 1 ⟨[], by simp, by decide⟩ none]
  after := [⟨" \x7d; //\r".toList, by decide +kernel⟩,
    ⟨"pub const TechniqueID".toList, by decide +kernel⟩,
    ⟨"hew,".toList, by decide +kernel⟩]
  none_opens := by decide +kernel
  opens := by decide +kernel
  closes := by decide +kernel

example : (read {} crowdedLayout.text).toList = ["a, b", "swing"] := by decide +kernel

end CombatContent.Enumeration
