import CombatContent.Proofs.Decimal.Numerals
import CombatContent.Proofs.Enumeration.GeneratedBlock
import CombatContent.Proofs.Zig.Pieces

/-!
# Tidy rows

A row of a table is tidy if its labels are words, its members are of seven types and the items of
its slices are records. A tidy row is cut into lines as it is written, whatever its strings are, if
no word of a member brings a line feed with it.

## Main definitions

* `Zig.Literal.IsTidy`, `Zig.Entry.IsTidy`, `Zig.Table.IsTidy`: values, entries and tables, the
  words of whose members have some property.
* `Zig.Piece.IsTidy`, `Zig.Line.IsTidy`: the pieces and the lines of these.

## Main results

* `Zig.isTidy_file`: the lines of a generated file are tidy if its tables are.
* `Zig.Line.IsTidy.newline_notMem`: no tidy line has a line feed in it, if no word of a member does.
* `Zig.lines_fileText`: lines without line feeds in them are read from their text.
-/

namespace CombatContent.Zig

open Text Enumeration

variable {P : String → Prop}

/-! ### Tidy values and entries -/

/-- The types that members are of. -/
def scopes : List String := [
  "body.Height", "body.PartTag", "body.Side", "damage.Kind", "stats.Accessor", "armour.Totality",
  "inventory.Layer"]

/-- The labels in a value are words, and the words of its members have a property. -/
inductive Literal.IsTidy (P : String → Prop) : Literal → Prop
  | null : IsTidy P .null
  | boolean (b : Bool) : IsTidy P (.boolean b)
  | integer (n : Int) : IsTidy P (.integer n)
  | number (x : Float) : IsTidy P (.number x)
  | string (s : String) : IsTidy P (.string s)
  | member {scope word : String} (known : scope ∈ scopes) (holds : P word) :
    IsTidy P (.member scope word)
  | record {fs : List (String × Literal)} (labels : ∀ f ∈ fs, isWord f.1.toList = true)
    (values : ∀ f ∈ fs, IsTidy P f.2) : IsTidy P (.record fs)
  | tuple {vs : List Literal} (items : ∀ v ∈ vs, IsTidy P v) : IsTidy P (.tuple vs)
  | slice {vs : List Literal} (items : ∀ v ∈ vs, IsTidy P v) : IsTidy P (.slice vs)

/-- The labels in an entry are words, its items are records, and the words of its members have a
property. -/
inductive Entry.IsTidy (P : String → Prop) : Entry → Prop
  | field {name : String} {v : Literal} (label : isWord name.toList = true)
    (value : v.IsTidy P) : IsTidy P (.field name v)
  | item {fs : List (String × Literal)} (value : (Literal.record fs).IsTidy P) :
    IsTidy P (.item (.record fs))
  | record {name : String} {es : List Entry} (label : isWord name.toList = true)
    (entries : ∀ e ∈ es, IsTidy P e) : IsTidy P (.record name es)
  | slice {name : String} {es : List Entry} (label : isWord name.toList = true)
    (entries : ∀ e ∈ es, IsTidy P e) : IsTidy P (.slice name es)
  | row {es : List Entry} (entries : ∀ e ∈ es, IsTidy P e) : IsTidy P (.row es)

namespace Literal

attribute [simp] IsTidy.null IsTidy.boolean IsTidy.integer IsTidy.number IsTidy.string

@[simp]
theorem isTidy_member_iff {scope word : String} :
    (member scope word).IsTidy P ↔ scope ∈ scopes ∧ P word :=
  ⟨fun | .member known holds => ⟨known, holds⟩, fun h => .member h.1 h.2⟩

@[simp]
theorem isTidy_record_iff {fs : List (String × Literal)} :
    (record fs).IsTidy P ↔ ∀ f ∈ fs, isWord f.1.toList = true ∧ f.2.IsTidy P :=
  ⟨fun | .record labels values => fun f hf => ⟨labels f hf, values f hf⟩,
    fun h => .record (fun f hf => (h f hf).1) fun f hf => (h f hf).2⟩

@[simp]
theorem isTidy_tuple_iff {vs : List Literal} : (tuple vs).IsTidy P ↔ ∀ v ∈ vs, v.IsTidy P :=
  ⟨fun | .tuple items => items, .tuple⟩

@[simp]
theorem isTidy_slice_iff {vs : List Literal} : (slice vs).IsTidy P ↔ ∀ v ∈ vs, v.IsTidy P :=
  ⟨fun | .slice items => items, .slice⟩

end Literal

namespace Entry

@[simp]
theorem isTidy_field_iff {name : String} {v : Literal} :
    (field name v).IsTidy P ↔ isWord name.toList = true ∧ v.IsTidy P :=
  ⟨fun | .field label value => ⟨label, value⟩, fun h => .field h.1 h.2⟩

@[simp]
theorem isTidy_item_record_iff {fs : List (String × Literal)} :
    (item (.record fs)).IsTidy P ↔ (Literal.record fs).IsTidy P :=
  ⟨fun | .item value => value, .item⟩

@[simp]
theorem isTidy_record_iff {name : String} {es : List Entry} :
    (record name es).IsTidy P ↔ isWord name.toList = true ∧ ∀ e ∈ es, e.IsTidy P :=
  ⟨fun | .record label entries => ⟨label, entries⟩, fun h => .record h.1 h.2⟩

@[simp]
theorem isTidy_slice_iff {name : String} {es : List Entry} :
    (slice name es).IsTidy P ↔ isWord name.toList = true ∧ ∀ e ∈ es, e.IsTidy P :=
  ⟨fun | .slice label entries => ⟨label, entries⟩, fun h => .slice h.1 h.2⟩

@[simp]
theorem isTidy_row_iff {es : List Entry} : (row es).IsTidy P ↔ ∀ e ∈ es, e.IsTidy P :=
  ⟨fun | .row entries => entries, .row⟩

end Entry

/-! ### Characters of numbers -/

/-- Whether a character is that of a word or of a number. -/
def isAtomChar (c : Char) : Bool := isWordChar c || c == '.' || c == '-'

theorem isAtomChar_of_isNumeralChar {c : Char} (h : Decimal.isNumeralChar c = true) :
    isAtomChar c = true := by
  simp only [Decimal.isNumeralChar, isAtomChar, isWordChar, Bool.or_eq_true] at h ⊢
  exact h.imp_left (Or.imp_left .inl)

/-- A number is written in digits, with a point and a sign, or in letters. -/
theorem isAtomChar_of_mem_float (x : Float) : ∀ c ∈ (float x).toList, isAtomChar c = true := by
  rw [float, String.toList_ofList, trimPlaces, dropEndWhile_eq_rdropWhile,
    dropEndWhile_eq_rdropWhile]
  exact fun c hc => isAtomChar_of_isNumeralChar (Decimal.isNumeralChar_of_mem_fixed 4 x c
    (((List.rdropWhile_prefix _ _).trans (List.rdropWhile_prefix _ _)).subset hc))

/-- An integer is written in digits, with a sign. -/
theorem isAtomChar_of_mem_toString (n : Int) : ∀ c ∈ (toString n).toList, isAtomChar c = true :=
  fun c hc => isAtomChar_of_isNumeralChar (Decimal.isNumeralChar_of_mem_int n c hc)

theorem ne_newline_of_isAtomChar {c : Char} (h : isAtomChar c = true) : c ≠ '\n' := by
  rintro rfl
  exact absurd h (by decide)

/-! ### Tidy pieces -/

/-- The marks between the words, numbers and strings of a row. -/
def marks : List String := [
  ".", " = ", ", ", ",", ".\x7b\x7d", ".\x7b ", "&.\x7b\x7d", "&.\x7b ", " \x7d", ".\x7b",
  "&.\x7b", "\x7d,"]

/-- A piece of a tidy row, given a property of the words of members. -/
inductive Piece.IsTidy (P : String → Prop) : Piece → Prop
  | mark {t : String} (known : t ∈ marks) : IsTidy P (.fixed t)
  | atom {t : String} (chars : ∀ c ∈ t.toList, isAtomChar c = true) : IsTidy P (.fixed t)
  | blanks (depth : Nat) : IsTidy P (blanks depth)
  | label {name : String} (word : isWord name.toList = true) : IsTidy P (.label name)
  | member {scope word : String} (known : scope ∈ scopes) (holds : P word) :
    IsTidy P (.member scope word)
  | string (s : String) : IsTidy P (.string s)

theorem forall_mem_intercalate {α : Type} {Q : α → Prop} {sep : List α} {ls : List (List α)}
    (hsep : ∀ a ∈ sep, Q a) (h : ∀ l ∈ ls, ∀ a ∈ l, Q a) : ∀ a ∈ sep.intercalate ls, Q a := by
  induction ls with
  | nil => exact List.forall_mem_nil _
  | cons l ls ih =>
    obtain ⟨hl, hls⟩ := List.forall_mem_cons.mp h
    cases ls with
    | nil => simpa using hl
    | cons l' ls =>
      rw [List.intercalate_cons_cons, List.append_assoc]
      exact List.forall_mem_append.mpr ⟨hl, List.forall_mem_append.mpr ⟨hsep, ih hls⟩⟩

/-- What stands between braces is tidy if the items are. -/
theorem isTidy_bracedPieces {opening : String} {items : List Line}
    (hempty : opening ++ "\x7b\x7d" ∈ marks) (hopen : opening ++ "\x7b " ∈ marks)
    (h : ∀ l ∈ items, ∀ p ∈ l, Piece.IsTidy P p) :
    ∀ p ∈ bracedPieces opening items, p.IsTidy P := by
  have hseparator : ∀ p ∈ ([.fixed ", "] : Line), p.IsTidy P :=
    List.forall_mem_singleton.mpr (.mark (by decide))
  have hseparated := forall_mem_intercalate hseparator h
  rw [bracedPieces]
  split
  · exact List.forall_mem_singleton.mpr (.mark hempty)
  · refine List.forall_mem_cons.mpr ⟨.mark hopen, List.forall_mem_append.mpr ⟨hseparated, ?_⟩⟩
    exact List.forall_mem_singleton.mpr (.mark (by decide))

theorem isTidy_labelled {name : String} {value : Line} (hname : isWord name.toList = true)
    (h : ∀ p ∈ value, Piece.IsTidy P p) : ∀ p ∈ labelled name value, p.IsTidy P :=
  List.forall_mem_cons.mpr ⟨.mark (by decide), List.forall_mem_cons.mpr ⟨.label hname,
    List.forall_mem_cons.mpr ⟨.mark (by decide), h⟩⟩⟩

/-- The pieces of a tidy value are tidy. -/
theorem Literal.IsTidy.pieces {v : Literal} (h : v.IsTidy P) : ∀ p ∈ v.pieces, p.IsTidy P := by
  induction h with
  | null => exact List.forall_mem_singleton.mpr (.atom (List.all_eq_true.mp (by decide)))
  | boolean b =>
    refine List.forall_mem_singleton.mpr (.atom (List.all_eq_true.mp ?_))
    cases b <;> decide
  | integer n => exact List.forall_mem_singleton.mpr (.atom (isAtomChar_of_mem_toString n))
  | number x => exact List.forall_mem_singleton.mpr (.atom (isAtomChar_of_mem_float x))
  | string s => exact List.forall_mem_singleton.mpr (.string s)
  | member known holds => exact List.forall_mem_singleton.mpr (.member known holds)
  | record labels values ih =>
    rw [Literal.pieces, piecesOfFields_eq_map]
    refine isTidy_bracedPieces (by decide) (by decide) (List.forall_mem_map.mpr fun f hf => ?_)
    exact isTidy_labelled (labels f hf) (ih f hf)
  | tuple items ih =>
    rw [Literal.pieces, piecesOfItems_eq_map]
    exact isTidy_bracedPieces (by decide) (by decide) (List.forall_mem_map.mpr ih)
  | slice items ih =>
    rw [Literal.pieces, piecesOfItems_eq_map]
    exact isTidy_bracedPieces (by decide) (by decide) (List.forall_mem_map.mpr ih)

/-! ### Tidy lines -/

/-- A line of a tidy file: one that is the same for all content, one of a variant, or one of a tidy
entry. -/
inductive Line.IsTidy (P : String → Prop) : Line → Prop
  | fixed {text : String} (noFeed : '\n' ∉ text.toList) : IsTidy P (fixedLine text)
  | variant (id : String) : IsTidy P [blanks 1, .variant id, .fixed ","]
  | field (depth : Nat) {name : String} {v : Literal} (label : isWord name.toList = true)
    (value : v.IsTidy P) : IsTidy P (blanks depth :: labelled name (v.pieces ++ [.fixed ","]))
  | item (depth : Nat) {v : Literal} (value : v.IsTidy P) :
    IsTidy P (blanks depth :: (v.pieces ++ [.fixed ","]))
  | opening (depth : Nat) {name mark : String} (label : isWord name.toList = true)
    (known : mark ∈ marks) : IsTidy P (openingLine depth name mark)
  | row (depth : Nat) : IsTidy P [blanks depth, .fixed ".\x7b"]
  | closing (depth : Nat) : IsTidy P (closingLine depth)

/-- The lines of a tidy entry are tidy. -/
theorem Entry.IsTidy.lines {e : Entry} (h : e.IsTidy P) (depth : Nat) :
    ∀ line ∈ e.pieces depth, line.IsTidy P := by
  -- The lines between an opening and a closing line are those of the entries.
  have hblock {opening : Line} {es : List Entry} {depth : Nat} (hopening : opening.IsTidy P)
      (ih : ∀ e ∈ es, ∀ depth, ∀ line ∈ e.pieces depth, line.IsTidy P) :
      ∀ line ∈ opening :: (entryPieces (depth + 1) es ++ [closingLine depth]),
        line.IsTidy P := by
    rw [entryPieces_eq_flatMap]
    refine List.forall_mem_cons.mpr ⟨hopening, List.forall_mem_append.mpr ⟨?_, ?_⟩⟩
    · exact List.forall_mem_flatMap.mpr fun e he => ih e he _
    · exact List.forall_mem_singleton.mpr (.closing depth)
  induction h generalizing depth with
  | field label value => exact List.forall_mem_singleton.mpr (.field depth label value)
  | item value => exact List.forall_mem_singleton.mpr (.item depth value)
  | record label entries ih => exact hblock (.opening depth label (by decide)) ih
  | slice label entries ih => exact hblock (.opening depth label (by decide)) ih
  | row entries ih => exact hblock (.row depth) ih

/-- The lines in front of the rows of a table have no line feed, and its rows are tidy. -/
structure Table.IsTidy (P : String → Prop) (t : Table) : Prop where
  declaration : ∀ line ∈ t.declaration, '\n' ∉ line.toList
  opening : '\n' ∉ ("pub const " ++ t.name ++ " = [_]" ++ t.rowType ++ "\x7b").toList
  rows : ∀ row ∈ t.rows, ∀ e ∈ row, e.IsTidy P

/-- The lines of a tidy table are tidy. -/
theorem Table.IsTidy.lines {t : Table} (h : t.IsTidy P) : ∀ line ∈ t.pieces, line.IsTidy P := by
  refine List.forall_mem_append.mpr ⟨List.forall_mem_map.mpr fun line hline => ?_,
    List.forall_mem_cons.mpr ⟨.fixed (by decide), List.forall_mem_cons.mpr ⟨.fixed h.opening, ?_⟩⟩⟩
  · exact .fixed (h.declaration line hline)
  · rw [entryPieces_eq_flatMap]
    refine List.forall_mem_append.mpr ⟨List.forall_mem_flatMap.mpr (List.forall_mem_map.mpr ?_),
      List.forall_mem_singleton.mpr (.fixed (by decide))⟩
    exact fun row hrow => (Entry.IsTidy.row (h.rows row hrow)).lines 1

theorem isTidy_enumeration (ids : NameSet) : ∀ line ∈ enumeration ids, line.IsTidy P := by
  refine List.forall_mem_cons.mpr ⟨.fixed (by decide), List.forall_mem_append.mpr ⟨?_, ?_⟩⟩
  · exact List.forall_mem_map.mpr fun id _ => .variant id
  · exact List.forall_mem_singleton.mpr (.fixed (by decide))

/-- The lines of a generated file are tidy if its tables are. -/
theorem isTidy_file {c : Content} (h : ∀ t ∈ tables c, t.IsTidy P) (ids : NameSet) :
    ∀ line ∈ file c ids, line.IsTidy P := by
  have hsections : ∀ part ∈ sectionPieces c ids, ∀ line ∈ part, line.IsTidy P := by
    refine List.forall_mem_append.mpr ⟨?_, List.forall_mem_map.mpr fun t ht => (h t ht).lines⟩
    split
    · exact List.forall_mem_nil _
    · exact List.forall_mem_singleton.mpr (isTidy_enumeration ids)
  have hempty : (fixedLine "").IsTidy P := .fixed (by decide)
  rw [file]
  refine List.forall_mem_append.mpr ⟨List.forall_mem_map.mpr fun line hline => ?_, ?_⟩
  · exact .fixed (newline_notMem_heading line hline)
  · split
    · exact List.forall_mem_singleton.mpr (.fixed (by decide))
    · exact forall_mem_intercalate (List.forall_mem_singleton.mpr hempty) hsections

/-! ### Pieces without line feeds -/

theorem newline_notMem_quoted (s : String) : '\n' ∉ (quoted s).toList := by
  simp [quoted, newline_notMem_escaped]

/-- No piece of a tidy row has a line feed, unless it is a member written with one. -/
theorem Piece.IsTidy.newline_notMem {p : Piece} (h : p.IsTidy P) {f : String → String}
    (hf : ∀ w, P w → '\n' ∉ (f w).toList) : '\n' ∉ p.chars f := by
  cases h with
  | mark known =>
    have hmarks : ∀ t ∈ marks, '\n' ∉ t.toList := by decide
    exact hmarks _ known
  | atom chars => exact fun hmem => ne_newline_of_isAtomChar (chars _ hmem) rfl
  | blanks depth => simp
  | label word => exact notMem_of_isWord word (by decide)
  | member known holds =>
    have hscopes : ∀ scope ∈ scopes, '\n' ∉ scope.toList := by decide
    rw [Piece.chars, List.mem_append, List.mem_cons]
    exact not_or.mpr ⟨hscopes _ known, not_or.mpr ⟨by decide, hf _ holds⟩⟩
  | string s => exact newline_notMem_quoted s

/-- A tidy line has no line feed, unless a member is written with one. -/
theorem Line.IsTidy.newline_notMem {line : Line} (h : line.IsTidy P) {f : String → String}
    (hf : ∀ w, P w → '\n' ∉ (f w).toList) : '\n' ∉ line.chars f := by
  have hpieces {line : Line} (hline : ∀ p ∈ line, p.IsTidy P) : '\n' ∉ line.chars f := by
    intro hmem
    obtain ⟨p, hp, hmem⟩ := List.mem_flatMap.mp hmem
    exact (hline p hp).newline_notMem hf hmem
  have hmark {t : String} (ht : t ∈ marks) : ∀ p ∈ [Piece.fixed t], p.IsTidy P :=
    List.forall_mem_singleton.mpr (.mark ht)
  cases h with
  | fixed noFeed => rwa [chars_fixedLine]
  | variant id =>
    have hname := newline_notMem_identifier id
    simp [hname]
  | field depth label value =>
    exact hpieces (List.forall_mem_cons.mpr ⟨.blanks depth,
      isTidy_labelled label (List.forall_mem_append.mpr ⟨value.pieces, hmark (by decide)⟩)⟩)
  | item depth value =>
    exact hpieces (List.forall_mem_cons.mpr ⟨.blanks depth,
      List.forall_mem_append.mpr ⟨value.pieces, hmark (by decide)⟩⟩)
  | opening depth label known =>
    exact hpieces (List.forall_mem_cons.mpr ⟨.blanks depth, isTidy_labelled label (hmark known)⟩)
  | row depth => exact hpieces (List.forall_mem_cons.mpr ⟨.blanks depth, hmark (by decide)⟩)
  | closing depth => exact hpieces (List.forall_mem_cons.mpr ⟨.blanks depth, hmark (by decide)⟩)

/-- Lines without line feeds in them are read from their text. -/
theorem lines_fileText {f : String → String} {ls : List Line}
    (h : ∀ line ∈ ls, '\n' ∉ line.chars f) :
    lines (fileText f ls) = ls.map (Line.chars f) ++ [[]] := by
  have hchars : ls.map (Line.chars f) =
      (ls.map fun line => String.ofList (line.chars f)).map String.toList := by
    simp [Function.comp_def]
  rw [fileText_eq hchars, hchars]
  have hfeeds : ∀ line ∈ ls.map fun line => String.ofList (line.chars f), '\n' ∉ line.toList := by
    refine List.forall_mem_map.mpr fun line hline => ?_
    rw [String.toList_ofList]
    exact h line hline
  have hlines := lines_unlines_append hfeeds []
  rwa [List.append_nil] at hlines

end CombatContent.Zig
