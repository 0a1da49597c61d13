import CombatContent.Zig.Generated
import Mathlib.Data.List.Basic

/-!
# The pieces of a generated file

A generated file is a list of lines, and a line is a list of pieces: text that is the same for all
content or stands for a number or a truth value, the label of a field, a variant of the enumeration,
a member of a named type, and a string. All that a record can put in the file are the pieces of the
last three kinds. Only the words of members are written as they are.

## Main definitions

* `Zig.Piece`, `Zig.Line`: pieces, and lines of them.
* `Zig.Literal.pieces`, `Zig.Entry.pieces`, `Zig.Table.pieces`, `Zig.file`: a file as its lines.
* `Zig.fileText`: the text of lines, given how the words of members are written.

## Main results

* `Zig.toList_render`: the text of a generated file is that of its lines, with the words of members
  as they are.
-/

namespace CombatContent.Zig

open Text

/-! ### Pieces -/

/-- A piece of a line. -/
inductive Piece where
  | fixed (text : String)
  | label (name : String)
  | variant (id : String)
  | member (scope word : String)
  | string (value : String)

/-- The pieces of a line. -/
abbrev Line := List Piece

/-- The characters of a piece, given how the words of members are written. -/
def Piece.chars (f : String → String) : Piece → List Char
  | fixed t => t.toList
  | label name => name.toList
  | variant id => (identifier id).toList
  | member scope word => scope.toList ++ '.' :: (f word).toList
  | string s => (quoted s).toList

namespace Piece

variable (f : String → String)

@[simp]
theorem chars_fixed (t : String) : (fixed t).chars f = t.toList := rfl

@[simp]
theorem chars_label (name : String) : (label name).chars f = name.toList := rfl

@[simp]
theorem chars_variant (id : String) : (variant id).chars f = (identifier id).toList := rfl

@[simp]
theorem chars_member (scope word : String) :
    (member scope word).chars f = scope.toList ++ '.' :: (f word).toList := rfl

@[simp]
theorem chars_string (s : String) : (string s).chars f = (quoted s).toList := rfl

end Piece

/-- The characters of a line. -/
def Line.chars (f : String → String) (l : Line) : List Char := l.flatMap (Piece.chars f)

@[simp]
theorem Line.chars_nil (f : String → String) : Line.chars f [] = [] := rfl

@[simp]
theorem Line.chars_cons (f : String → String) (p : Piece) (l : Line) :
    Line.chars f (p :: l) = p.chars f ++ Line.chars f l := List.flatMap_cons

@[simp]
theorem Line.chars_append (f : String → String) (l l' : Line) :
    Line.chars f (l ++ l') = Line.chars f l ++ Line.chars f l' := List.flatMap_append

/-- The text of lines, each closed by a line feed. -/
def fileText (f : String → String) (ls : List Line) : List Char :=
  ls.flatMap fun l => l.chars f ++ ['\n']

/-! ### The pieces of literals -/

/-- Items between the braces of a literal. -/
def bracedPieces (opening : String) (items : List Line) : Line :=
  if items.isEmpty then [.fixed (opening ++ "\x7b\x7d")]
  else .fixed (opening ++ "\x7b ") :: ([.fixed ", "].intercalate items ++ [.fixed " \x7d"])

/-- A field, given the pieces of its value. -/
def labelled (name : String) (value : Line) : Line :=
  .fixed "." :: .label name :: .fixed " = " :: value

namespace Literal

mutual

/-- The pieces of a value. -/
def pieces : Literal → Line
  | null => [.fixed "null"]
  | boolean b => [.fixed (Zig.boolean b)]
  | integer n => [.fixed (toString n)]
  | number x => [.fixed (float x)]
  | string s => [.string s]
  | member scope word => [.member scope word]
  | record fields => bracedPieces "." (piecesOfFields fields)
  | tuple items => bracedPieces "." (piecesOfItems items)
  | slice items => bracedPieces "&." (piecesOfItems items)

/-- The pieces of each value. -/
def piecesOfItems : List Literal → List Line
  | [] => []
  | v :: vs => v.pieces :: piecesOfItems vs

/-- The pieces of each field. -/
def piecesOfFields : List (String × Literal) → List Line
  | [] => []
  | (name, v) :: fs => labelled name v.pieces :: piecesOfFields fs

end

theorem piecesOfItems_eq_map (vs : List Literal) : piecesOfItems vs = vs.map pieces := by
  induction vs with
  | nil => rfl
  | cons v vs ih => rw [piecesOfItems, ih, List.map_cons]

theorem piecesOfFields_eq_map (fs : List (String × Literal)) :
    piecesOfFields fs = fs.map fun f => labelled f.1 f.2.pieces := by
  induction fs with
  | nil => rfl
  | cons f fs ih => rw [piecesOfFields, ih, List.map_cons]

/-- What holds of a value if it holds of the values in it holds of every value. -/
@[elab_as_elim]
theorem induct {motive : Literal → Prop} (null : motive null) (boolean : ∀ b, motive (boolean b))
    (integer : ∀ n, motive (integer n)) (number : ∀ x, motive (number x))
    (string : ∀ s, motive (string s)) (member : ∀ scope word, motive (member scope word))
    (record : ∀ fs, (∀ f ∈ fs, motive f.2) → motive (record fs))
    (tuple : ∀ vs, (∀ v ∈ vs, motive v) → motive (tuple vs))
    (slice : ∀ vs, (∀ v ∈ vs, motive v) → motive (slice vs)) (v : Literal) : motive v :=
  @Literal.rec motive (fun fs => ∀ f ∈ fs, motive f.2) (fun vs => ∀ v ∈ vs, motive v)
    (fun f => motive f.2) null boolean integer number string member record tuple slice
    (List.forall_mem_nil _) (fun _ _ hf hfs => List.forall_mem_cons.mpr ⟨hf, hfs⟩)
    (List.forall_mem_nil _) (fun _ _ hv hvs => List.forall_mem_cons.mpr ⟨hv, hvs⟩)
    (fun _ _ hv => hv) v

end Literal

/-! ### The pieces of entries and tables -/

/-- The blanks in front of a line. -/
def blanks (depth : Nat) : Piece := .fixed (indented depth "")

/-- A line that opens a record or a slice. -/
def openingLine (depth : Nat) (name opening : String) : Line :=
  blanks depth :: labelled name [.fixed opening]

/-- A line that closes a record or a slice. -/
def closingLine (depth : Nat) : Line := [blanks depth, .fixed "\x7d,"]

mutual

/-- The lines of an entry at a depth. -/
def Entry.pieces (depth : Nat) : Entry → List Line
  | .field name value => [blanks depth :: labelled name (value.pieces ++ [.fixed ","])]
  | .item value => [blanks depth :: (value.pieces ++ [.fixed ","])]
  | .record name entries =>
    openingLine depth name ".\x7b" :: (entryPieces (depth + 1) entries ++ [closingLine depth])
  | .slice name entries =>
    openingLine depth name "&.\x7b" :: (entryPieces (depth + 1) entries ++ [closingLine depth])
  | .row entries =>
    [blanks depth, .fixed ".\x7b"] :: (entryPieces (depth + 1) entries ++ [closingLine depth])

/-- The lines of entries at a depth. -/
def entryPieces (depth : Nat) : List Entry → List Line
  | [] => []
  | e :: es => e.pieces depth ++ entryPieces depth es

end

theorem entryPieces_eq_flatMap (depth : Nat) (es : List Entry) :
    entryPieces depth es = es.flatMap (Entry.pieces depth) := by
  induction es with
  | nil => rfl
  | cons e es ih => rw [entryPieces, ih, List.flatMap_cons]

/-- What holds of an entry if it holds of the entries in it holds of every entry. -/
@[elab_as_elim]
theorem Entry.induct {motive : Entry → Prop} (field : ∀ name v, motive (.field name v))
    (item : ∀ v, motive (.item v))
    (record : ∀ name es, (∀ e ∈ es, motive e) → motive (.record name es))
    (slice : ∀ name es, (∀ e ∈ es, motive e) → motive (.slice name es))
    (row : ∀ es, (∀ e ∈ es, motive e) → motive (.row es)) (e : Entry) : motive e :=
  @Entry.rec motive (fun es => ∀ e ∈ es, motive e) field item record slice row
    (List.forall_mem_nil _) (fun _ _ he hes => List.forall_mem_cons.mpr ⟨he, hes⟩) e

/-- A line that is the same for all content. -/
def fixedLine (line : String) : Line := [.fixed line]

/-- The lines of a table. -/
def Table.pieces (t : Table) : List Line :=
  t.declaration.map fixedLine ++
    fixedLine "" :: fixedLine ("pub const " ++ t.name ++ " = [_]" ++ t.rowType ++ "\x7b") ::
      (entryPieces 1 (t.rows.map Entry.row) ++ [fixedLine "\x7d;"])

/-- The lines of the enumeration of technique ids. -/
def enumeration (ids : NameSet) : List Line :=
  fixedLine "pub const GeneratedTechniqueID = enum \x7b" ::
    (ids.toList.map (fun id => [blanks 1, .variant id, .fixed ","]) ++ [fixedLine "\x7d;"])

/-- The lines of each section. -/
def sectionPieces (c : Content) (ids : NameSet) : List (List Line) :=
  (if ids.isEmpty then [] else [enumeration ids]) ++ (tables c).map Table.pieces

/-- The lines of a generated file. An empty line parts two sections. -/
def file (c : Content) (ids : NameSet) : List Line :=
  heading.map fixedLine ++
    if (sectionPieces c ids).isEmpty then [fixedLine noDataLine]
    else [fixedLine ""].intercalate (sectionPieces c ids)

/-! ### The text of a file -/

theorem flatMap_intercalate {α β : Type} (g : α → List β) (sep : List α) (ls : List (List α)) :
    (sep.intercalate ls).flatMap g = (sep.flatMap g).intercalate (ls.map fun l => l.flatMap g) := by
  induction ls with
  | nil => rfl
  | cons l ls ih =>
    cases ls with
    | nil => simp
    | cons l' ls =>
      rw [List.intercalate_cons_cons, List.flatMap_append, List.flatMap_append, ih, List.map_cons,
        List.map_cons, List.map_cons, List.intercalate_cons_cons]

theorem chars_bracedPieces (f : String → String) (opening : String) (items : List Line) :
    (bracedPieces opening items).chars f =
      (braced opening (items.map fun l => String.ofList (l.chars f))).toList := by
  cases items with
  | nil => simp [bracedPieces, braced]
  | cons l ls =>
    have hitems : Line.chars f ([.fixed ", "].intercalate (l :: ls)) =
        (", ".intercalate ((l :: ls).map fun l => String.ofList (l.chars f))).toList := by
      rw [String.toList_intercalate, List.map_map]
      refine (flatMap_intercalate _ _ _).trans ?_
      simp [Function.comp_def, Line.chars]
    simp only [bracedPieces, braced, List.isEmpty_cons, List.isEmpty_map, Bool.false_eq_true,
      if_false, Line.chars_cons, Line.chars_append, hitems, String.toList_append]
    simp

theorem chars_labelled (f : String → String) (name : String) (value : Line) :
    (labelled name value).chars f = (fieldText name (String.ofList (value.chars f))).toList := by
  simp [labelled, fieldText]

namespace Literal

/-- The text of a value is that of its pieces. -/
theorem chars_pieces (v : Literal) : Line.chars id v.pieces = v.text.toList := by
  have hitems {vs : List Literal} (ih : ∀ v ∈ vs, Line.chars id v.pieces = v.text.toList) :
      (piecesOfItems vs).map (fun l => String.ofList (l.chars id)) = texts vs := by
    rw [piecesOfItems_eq_map, texts_eq_map, List.map_map]
    refine List.map_congr_left fun v hv => ?_
    rw [Function.comp_apply, ih v hv, String.ofList_toList]
  induction v using induct with
  | null => simp [pieces, text]
  | boolean b => simp [pieces, text]
  | integer n => simp [pieces, text]
  | number x => simp [pieces, text]
  | string s => simp [pieces, text]
  | member scope word => simp [pieces, text]
  | record fs ih =>
    rw [pieces, text, chars_bracedPieces, piecesOfFields_eq_map, fieldTexts_eq_map, List.map_map]
    congr 2
    refine List.map_congr_left fun f hf => ?_
    rw [Function.comp_apply, chars_labelled, ih f hf, String.ofList_toList, String.ofList_toList]
  | tuple vs ih => rw [pieces, text, chars_bracedPieces, hitems ih]
  | slice vs ih => rw [pieces, text, sliceOf, chars_bracedPieces, hitems ih]

end Literal

theorem toList_pushn (s : String) (c : Char) (n : Nat) :
    (s.pushn c n).toList = s.toList ++ List.replicate n c := by
  induction n with
  | zero => exact (List.append_nil _).symm
  | succ n ih =>
    have hpush : s.pushn c (n + 1) = (s.pushn c n).push c := rfl
    rw [hpush, String.toList_push, ih, List.replicate_succ', List.append_assoc]

theorem toList_indented (depth : Nat) (line : String) :
    (indented depth line).toList = List.replicate (4 * depth) ' ' ++ line.toList := by
  rw [indented, String.toList_append, toList_pushn]
  rfl

@[simp]
theorem chars_blanks (f : String → String) (depth : Nat) :
    (blanks depth).chars f = List.replicate (4 * depth) ' ' := by
  rw [blanks, Piece.chars_fixed, toList_indented]
  exact List.append_nil _

/-- Lines are those of other pieces if each is. -/
theorem chars_entryPieces {es : List Entry} {depth : Nat}
    (h : ∀ e ∈ es, ∀ depth, (e.pieces depth).map (Line.chars id) =
      (e.lines depth).map String.toList) :
    (entryPieces depth es).map (Line.chars id) = (entryLines depth es).map String.toList := by
  rw [entryPieces_eq_flatMap, entryLines_eq_flatMap, List.map_flatMap, List.map_flatMap]
  exact List.flatMap_congr fun e he => h e he depth

/-- The lines of an entry are those of its pieces. -/
theorem Entry.chars_pieces (e : Entry) (depth : Nat) :
    (e.pieces depth).map (Line.chars id) = (e.lines depth).map String.toList := by
  have hclosing (depth : Nat) :
      Line.chars id (closingLine depth) = (indented depth "\x7d,").toList := by
    rw [toList_indented]
    simp [closingLine]
  have hopening (depth : Nat) (name opening : String) :
      Line.chars id (openingLine depth name opening) =
        (indented depth (fieldText name opening)).toList := by
    rw [toList_indented, openingLine, Line.chars_cons, chars_labelled, chars_blanks]
    simp
  induction e using Entry.induct generalizing depth with
  | field name v =>
    rw [pieces, lines, List.map_singleton, List.map_singleton, toList_indented, Line.chars_cons,
      chars_labelled, Line.chars_append, v.chars_pieces, chars_blanks]
    simp [fieldText]
  | item v =>
    rw [pieces, lines, List.map_singleton, List.map_singleton, toList_indented, Line.chars_cons,
      Line.chars_append, v.chars_pieces, chars_blanks]
    simp
  | record name es ih =>
    rw [pieces, lines]
    simp only [List.map_cons, List.map_append, List.map_nil, hopening, hclosing,
      chars_entryPieces ih]
  | slice name es ih =>
    rw [pieces, lines]
    simp only [List.map_cons, List.map_append, List.map_nil, hopening, hclosing,
      chars_entryPieces ih]
  | row es ih =>
    have hrow : Line.chars id [blanks depth, .fixed ".\x7b"] = (indented depth ".\x7b").toList := by
      rw [toList_indented]
      simp
    rw [pieces, lines]
    simp only [List.map_cons, List.map_append, List.map_nil, hrow, hclosing, chars_entryPieces ih]

@[simp]
theorem chars_fixedLine (f : String → String) (line : String) :
    (fixedLine line).chars f = line.toList := by
  simp [fixedLine]

theorem map_chars_fixedLine (f : String → String) (lines : List String) :
    (lines.map fixedLine).map (Line.chars f) = lines.map String.toList := by
  rw [List.map_map]
  exact List.map_congr_left fun line _ => chars_fixedLine f line

/-- The lines of a table are those of its pieces. -/
theorem Table.chars_pieces (t : Table) :
    t.pieces.map (Line.chars id) = t.lines.map String.toList := by
  rw [pieces, lines]
  simp only [List.map_append, List.map_cons, List.map_nil, map_chars_fixedLine, chars_fixedLine,
    chars_entryPieces fun e _ depth => e.chars_pieces depth]

theorem chars_enumeration (f : String → String) (ids : NameSet) :
    (enumeration ids).map (Line.chars f) = (techniqueIdLines ids).map String.toList := by
  have hvariant (id : String) : Line.chars f [blanks 1, .variant id, .fixed ","] =
      (indented 1 (identifier id ++ ",")).toList := by
    rw [toList_indented]
    simp
  rw [enumeration, techniqueIdLines]
  simp only [List.map_append, List.map_cons, List.map_nil, List.map_map, chars_fixedLine]
  congr 2
  exact List.map_congr_left fun id _ => hvariant id

/-- The text of lines whose characters are those of others. -/
theorem fileText_eq {f : String → String} {ls : List Line} {lines : List String}
    (h : ls.map (Line.chars f) = lines.map String.toList) :
    fileText f ls = (unlines lines).toList := by
  have hls : fileText f ls = (ls.map (Line.chars f)).flatMap (· ++ ['\n']) := by
    rw [List.flatMap_map]
    rfl
  rw [hls, h, List.flatMap_map, toList_unlines]

theorem fileText_append (f : String → String) (ls ls' : List Line) :
    fileText f (ls ++ ls') = fileText f ls ++ fileText f ls' := List.flatMap_append

theorem map_fileText_sectionPieces (c : Content) (ids : NameSet) :
    (sectionPieces c ids).map (fileText id) = (sections c ids).map String.toList := by
  have htables : ((tables c).map Table.pieces).map (fileText id) =
      ((tables c).map Table.text).map String.toList := by
    rw [List.map_map, List.map_map]
    exact List.map_congr_left fun t _ => fileText_eq t.chars_pieces
  rw [sectionPieces, sections, List.map_append, List.map_append, htables]
  congr 1
  split
  · rfl
  · exact congrArg (fun text => [text]) (fileText_eq (chars_enumeration id ids))

/-- The text of a generated file is that of its lines. -/
theorem toList_render (c : Content) (ids : NameSet) :
    (render c ids).toList = fileText id (file c ids) := by
  have hheading : fileText id (heading.map fixedLine) = (unlines heading).toList :=
    fileText_eq (map_chars_fixedLine id heading)
  have hsections := map_fileText_sectionPieces c ids
  have hempty := congrArg List.isEmpty hsections
  rw [List.isEmpty_map, List.isEmpty_map] at hempty
  rw [render, file, String.toList_append, fileText_append, hheading, hempty]
  congr 1
  split
  · exact (fileText_eq rfl).symm
  · rw [String.toList_intercalate, ← hsections, fileText, flatMap_intercalate]
    rfl

end CombatContent.Zig
