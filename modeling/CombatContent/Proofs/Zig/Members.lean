import CombatContent.Proofs.Zig.Tokens
import Mathlib.Algebra.GroupWithZero.Nat
import Mathlib.Algebra.Order.BigOperators.Group.List

/-!
# Members as they are

A variant of the enumeration is written as an identifier, but a member is written as its word is.
Written as identifiers, the members of a generated file would give one token each, and no string of
a record would add a line or a token to the file. The file is that one just if every word that the
records give for a member is a plain identifier. Otherwise it is another one, and a word may bring
lines, tokens and fields with it.

## Main results

* `Zig.fileText_eq_iff`: when the two files are the same.
* `Zig.render_members`: the two files.
-/

namespace CombatContent.Zig

open Text Enumeration

variable {P : String → Prop} {c : Content} {ids : NameSet}

/-! ### Words and their identifiers -/

/-- An identifier is longer than its word, unless it is the word. -/
theorem length_identifier (s : String) :
    s.toList.length ≤ (identifier s).toList.length ∧
      ((identifier s).toList = s.toList ↔ isPlainIdentifier s = true) := by
  cases h : isPlainIdentifier s with
  | true =>
    rw [toList_identifier_of_plain h]
    exact ⟨le_rfl, iff_of_true rfl rfl⟩
  | false =>
    have hescaped := length_le_length_escaped s.toList
    have hlength : (identifier s).toList.length = (escaped s.toList).length + 3 := by
      rw [toList_identifier_of_not_plain h]
      simp
    refine ⟨by omega, iff_of_false (fun heq => ?_) Bool.false_ne_true⟩
    rw [heq] at hlength
    omega

/-- Texts of pieces of which none is shorter agree just if each piece does. -/
theorem flatMap_eq_flatMap_iff {α : Type} {g h : α → List Char} {xs : List α}
    (hle : ∀ a ∈ xs, (g a).length ≤ (h a).length) :
    xs.flatMap g = xs.flatMap h ↔ ∀ a ∈ xs, g a = h a := by
  refine ⟨fun heq => ?_, List.flatMap_congr⟩
  have hlength : ∀ ys : List α, (∀ a ∈ ys, (g a).length ≤ (h a).length) →
      (ys.flatMap g).length ≤ (ys.flatMap h).length := by
    intro ys hys
    rw [List.length_flatMap, List.length_flatMap]
    exact List.sum_le_sum hys
  induction xs with
  | nil => exact List.forall_mem_nil _
  | cons a xs ih =>
    obtain ⟨ha, hxs⟩ := List.forall_mem_cons.mp hle
    have hrest := hlength xs hxs
    have htotal := congrArg List.length heq
    rw [List.flatMap_cons, List.flatMap_cons] at heq htotal
    rw [List.length_append, List.length_append] at htotal
    obtain ⟨hfirst, hothers⟩ := List.append_inj heq (by omega)
    exact List.forall_mem_cons.mpr ⟨hfirst, ih hxs hothers⟩

/-! ### Lines and their members -/

/-- The words of the members of a line have a property. -/
def Line.MembersHave (P : String → Prop) (line : Line) : Prop :=
  ∀ scope word, Piece.member scope word ∈ line → P word

theorem length_chars_le (p : Piece) : (p.chars id).length ≤ (p.chars identifier).length := by
  cases p with
  | member scope word =>
    have hle := (length_identifier word).1
    simp only [Piece.chars_member, List.length_append, List.length_cons, id_eq]
    omega
  | _ => exact le_rfl

/-- A line is the same with its members as identifiers just if their words are plain. -/
theorem Line.chars_eq_iff {line : Line} :
    line.chars id = line.chars identifier ↔
      line.MembersHave (isPlainIdentifier · = true) := by
  have hmember (scope word : String) :
      (Piece.member scope word).chars id = (Piece.member scope word).chars identifier ↔
        isPlainIdentifier word = true := by
    rw [Piece.chars_member, Piece.chars_member, List.append_cancel_left_eq, List.cons.injEq,
      ← (length_identifier word).2, eq_comm (b := word.toList)]
    exact and_iff_right rfl
  rw [Line.chars, Line.chars, flatMap_eq_flatMap_iff fun p _ => length_chars_le p]
  refine ⟨fun h scope word hp => (hmember scope word).mp (h _ hp), fun h p hp => ?_⟩
  cases p with
  | member scope word => exact (hmember scope word).mpr (h scope word hp)
  | _ => rfl

/-- A file is the same with its members as identifiers just if their words are plain. -/
theorem fileText_eq_iff {ls : List Line} :
    fileText id ls = fileText identifier ls ↔
      ∀ line ∈ ls, line.MembersHave (isPlainIdentifier · = true) := by
  have hle (line : Line) : (line.chars id).length ≤ (line.chars identifier).length := by
    rw [Line.chars, Line.chars, List.length_flatMap, List.length_flatMap]
    exact List.sum_le_sum fun p _ => length_chars_le p
  rw [fileText, fileText, flatMap_eq_flatMap_iff]
  · refine forall₂_congr fun line _ => ?_
    rw [List.append_cancel_right_eq, Line.chars_eq_iff]
  · intro line _
    have hline := hle line
    rw [List.length_append, List.length_append]
    omega

/-! ### Tidy lines and their members -/

/-- The members of tidy lines have the property. -/
theorem Line.IsTidy.membersHave {line : Line} (h : line.IsTidy P) : line.MembersHave P := by
  have hvalue {v : Literal} (hv : v.IsTidy P) : Line.MembersHave P v.pieces := by
    intro scope word hp
    cases hv.pieces _ hp with
    | member known holds => exact holds
  intro scope word hp
  cases h with
  | field depth label value =>
    exact hvalue value scope word (by simpa [labelled, blanks] using hp)
  | item depth value => exact hvalue value scope word (by simpa [blanks] using hp)
  | _ => simp [fixedLine, blanks, openingLine, closingLine, labelled] at hp

theorem mem_intercalate {α : Type} {sep : List α} {ls : List (List α)} {l : List α} {a : α}
    (hl : l ∈ ls) (ha : a ∈ l) : a ∈ sep.intercalate ls := by
  induction ls with
  | nil => exact absurd hl List.not_mem_nil
  | cons l' ls ih =>
    rcases ls with _ | ⟨l'', ls⟩
    · rwa [List.intercalate_singleton, ← List.mem_singleton.mp hl]
    · rw [List.intercalate_cons_cons, List.mem_append, List.mem_append]
      rcases List.mem_cons.mp hl with rfl | hl
      · exact .inl (.inl ha)
      · exact .inr (ih hl)

theorem mem_bracedPieces {opening : String} {items : List Line} {l : Line} {p : Piece}
    (hl : l ∈ items) (hp : p ∈ l) : p ∈ bracedPieces opening items := by
  have hne : items.isEmpty = false := by simpa using List.ne_nil_of_mem hl
  rw [bracedPieces, hne, if_neg Bool.false_ne_true, List.mem_cons, List.mem_append]
  exact .inr (.inl (mem_intercalate hl hp))

/-- A tidy value whose members have a property is tidy with it. -/
theorem Literal.IsTidy.of_members {v : Literal} (h : v.IsTidy fun _ => True)
    (hv : Line.MembersHave P v.pieces) : v.IsTidy P := by
  induction h with
  | member known => exact .member known (hv _ _ (List.mem_singleton.mpr rfl))
  | record labels values ih =>
    refine .record labels fun f hf => ih f hf fun scope word hp => hv scope word ?_
    rw [Literal.pieces, piecesOfFields_eq_map]
    refine mem_bracedPieces (List.mem_map_of_mem hf) ?_
    simpa [labelled] using hp
  | tuple items ih =>
    refine .tuple fun w hw => ih w hw fun scope word hp => hv scope word ?_
    rw [Literal.pieces, piecesOfItems_eq_map]
    exact mem_bracedPieces (List.mem_map_of_mem hw) hp
  | slice items ih =>
    refine .slice fun w hw => ih w hw fun scope word hp => hv scope word ?_
    rw [Literal.pieces, piecesOfItems_eq_map]
    exact mem_bracedPieces (List.mem_map_of_mem hw) hp
  | _ => constructor

/-- A tidy entry whose members have a property is tidy with it. -/
theorem Entry.IsTidy.of_members {e : Entry} (h : e.IsTidy fun _ => True) {depth : Nat}
    (he : ∀ line ∈ e.pieces depth, line.MembersHave P) : e.IsTidy P := by
  have hblock {opening : Line} {es : List Entry} {depth : Nat}
      (hes : ∀ line ∈ opening :: (entryPieces (depth + 1) es ++ [closingLine depth]),
        line.MembersHave P) :
      ∀ e ∈ es, ∀ line ∈ e.pieces (depth + 1), line.MembersHave P := by
    intro e he line hline
    refine hes line (List.mem_cons_of_mem _ (List.mem_append_left _ ?_))
    rw [entryPieces_eq_flatMap]
    exact List.mem_flatMap.mpr ⟨e, he, hline⟩
  induction h generalizing depth with
  | field label value =>
    refine .field label (value.of_members fun scope word hp => ?_)
    exact he _ (List.mem_singleton.mpr rfl) scope word (by simp [labelled, hp])
  | item value =>
    refine .item (value.of_members fun scope word hp => ?_)
    exact he _ (List.mem_singleton.mpr rfl) scope word (by simp [hp])
  | record label entries ih => exact .record label fun e' he' => ih e' he' (hblock he e' he')
  | slice label entries ih => exact .slice label fun e' he' => ih e' he' (hblock he e' he')
  | row entries ih => exact .row fun e' he' => ih e' he' (hblock he e' he')

/-- A tidy table whose members have a property is tidy with it. -/
theorem Table.IsTidy.of_members {t : Table} (h : t.IsTidy fun _ => True)
    (ht : ∀ line ∈ t.pieces, line.MembersHave P) : t.IsTidy P := by
  have hrows : ∀ row ∈ t.rows, ∀ line ∈ (Entry.row row).pieces 1, line.MembersHave P := by
    intro row hrow line hline
    refine ht line (List.mem_append_right _ (List.mem_cons_of_mem _ (List.mem_cons_of_mem _
      (List.mem_append_left _ ?_))))
    rw [entryPieces_eq_flatMap]
    exact List.mem_flatMap.mpr ⟨.row row, List.mem_map_of_mem hrow, hline⟩
  refine ⟨h.declaration, h.opening, fun row hrow => Entry.isTidy_row_iff.mp ?_⟩
  exact (Entry.IsTidy.row (h.rows row hrow)).of_members (hrows row hrow)

/-! ### The two files -/

theorem isPlainIdentifier_of_mem_closedWords :
    ∀ word ∈ closedWords, isPlainIdentifier word = true := by decide

/-- The tables of content are tidy, whatever its names are. -/
theorem isTidy_tables : ∀ t ∈ tables c, t.IsTidy fun _ => True :=
  (forall_tables_isTidy_iff fun _ _ => trivial).mpr fun _ _ => trivial

/-- The lines of a section are lines of the file. -/
theorem mem_file {part : List Line} (hpart : part ∈ sectionPieces c ids) {line : Line}
    (hline : line ∈ part) : line ∈ file c ids := by
  have hempty : (sectionPieces c ids).isEmpty = false := by simpa using List.ne_nil_of_mem hpart
  rw [file, hempty, if_neg Bool.false_ne_true]
  exact List.mem_append_right _ (mem_intercalate hpart hline)

/-- The members of a file are plain just if the words that its records give for them are. -/
theorem forall_file_membersHave_iff :
    (∀ line ∈ file c ids, line.MembersHave (isPlainIdentifier · = true)) ↔
      ∀ word ∈ c.names, isPlainIdentifier word = true := by
  rw [← forall_tables_isTidy_iff isPlainIdentifier_of_mem_closedWords]
  refine ⟨fun h t ht => ?_, fun h line hline => (isTidy_file h ids line hline).membersHave⟩
  refine (isTidy_tables t ht).of_members fun line hline => h line (mem_file ?_ hline)
  exact List.mem_append_right _ (List.mem_map_of_mem ht)

/-- The file has its members as their words are, and not as identifiers. It is the file with
identifiers just if every word that a record gives for a member is a plain identifier. In the file
with identifiers, every line is one of the lines that the pieces make up, and every string and every
name is one token, whatever characters they have. Variants are identifiers in both files. -/
theorem render_members (c : Content) (ids : NameSet) :
    (render c ids).toList = fileText id (file c ids) ∧
    (fileText id (file c ids) = fileText identifier (file c ids) ↔
      ∀ word ∈ c.names, isPlainIdentifier word = true) ∧
    lines (fileText identifier (file c ids)) = (file c ids).map (Line.chars identifier) ++ [[]] ∧
    tokens (fileText identifier (file c ids)) = (file c ids).flatMap Line.tokens ∧
    ∀ id ∈ ids, [blanks 1, .variant id, .fixed ","] ∈ file c ids := by
  have htidy := isTidy_file (isTidy_tables (c := c)) ids
  refine ⟨toList_render c ids, fileText_eq_iff.trans forall_file_membersHave_iff, ?_,
    tokens_fileText_identifier htidy, fun id hid => ?_⟩
  · exact lines_fileText fun line hline =>
      (htidy line hline).newline_notMem fun word _ => newline_notMem_identifier word
  · have hids : ids.isEmpty = false :=
      Bool.eq_false_iff.mpr fun hempty => NameSet.isEmpty_iff.mp hempty id hid
    have hsection : enumeration ids ∈ sectionPieces c ids := by simp [sectionPieces, hids]
    refine mem_file hsection (List.mem_cons_of_mem _ (List.mem_append_left _ ?_))
    exact List.mem_map_of_mem hid

/-- A word may close its field and open another one. -/
example :
    let forged : NaturalWeapon := {
      weaponId := "bite",
      requiredPart :=
        "head \x7d,\n            .\x7b .weapon_id = \"claw\", .required_part = body.PartTag.hand" }
    let weapons : List NaturalWeapon :=
      [{ weaponId := "bite", requiredPart := "head" },
        { weaponId := "claw", requiredPart := "hand" }]
    unlines (entryLines 3 [.item (naturalWeapon forged)]) =
      unlines (entryLines 3 (weapons.map fun n => .item (naturalWeapon n))) := by
  decide +kernel

end CombatContent.Zig
