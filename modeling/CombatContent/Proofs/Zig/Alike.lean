import CombatContent.Proofs.Text.Parts
import CombatContent.Proofs.Zig.Names

/-!
# Entries that are written alike

Entries are alike if their labels are the same, in order, and the texts of their values are. Alike
entries have the same lines. The lines of tidy entries tell them apart otherwise: where an entry
begins and ends, its label and the text of its value are seen from its lines, whatever the strings
in it are.

## Main definitions

* `Zig.Entry.Alike`: entries with the same labels and texts.

## Main results

* `Zig.Entry.alike_of_lines`: tidy entries that are read from the same lines are alike.
* `Zig.Table.text_eq_iff`: tables of one kind have the same text just if their rows are alike.
-/

namespace CombatContent.Zig

open Text Enumeration

variable {P : String → Prop} {e e' : Entry} {es es' : List Entry} {depth : Nat}
  {ls ls' : List String}

/-! ### Alike entries -/

/-- Entries with the same labels, in order, and values with the same texts. -/
inductive Entry.Alike : Entry → Entry → Prop
  | field (name : String) {v w : Literal} (text : v.text = w.text) :
    Alike (.field name v) (.field name w)
  | item {v w : Literal} (text : v.text = w.text) : Alike (.item v) (.item w)
  | record (name : String) {es es' : List Entry} (entries : List.Forall₂ Alike es es') :
    Alike (.record name es) (.record name es')
  | slice (name : String) {es es' : List Entry} (entries : List.Forall₂ Alike es es') :
    Alike (.slice name es) (.slice name es')
  | row {es es' : List Entry} (entries : List.Forall₂ Alike es es') : Alike (.row es) (.row es')

namespace Entry

@[simp]
theorem alike_field_iff {name name' : String} {v w : Literal} :
    Alike (field name v) (field name' w) ↔ name = name' ∧ v.text = w.text := by
  constructor
  · rintro ⟨⟩
    exact ⟨rfl, ‹_›⟩
  · rintro ⟨rfl, text⟩
    exact .field name text

@[simp]
theorem alike_record_iff {name name' : String} :
    Alike (record name es) (record name' es') ↔ name = name' ∧ List.Forall₂ Alike es es' := by
  constructor
  · rintro ⟨⟩
    exact ⟨rfl, ‹_›⟩
  · rintro ⟨rfl, entries⟩
    exact .record name entries

@[simp]
theorem alike_slice_iff {name name' : String} :
    Alike (slice name es) (slice name' es') ↔ name = name' ∧ List.Forall₂ Alike es es' := by
  constructor
  · rintro ⟨⟩
    exact ⟨rfl, ‹_›⟩
  · rintro ⟨rfl, entries⟩
    exact .slice name entries

@[simp]
theorem alike_item_iff {v w : Literal} : Alike (item v) (item w) ↔ v.text = w.text :=
  ⟨fun | .item text => text, .item⟩

@[simp]
theorem alike_row_iff : Alike (row es) (row es') ↔ List.Forall₂ Alike es es' :=
  ⟨fun | .row entries => entries, .row⟩

end Entry

/-! ### The first line of an entry -/

/-- The label on the first line of an entry, if it has one, and what follows. -/
def Entry.head : Entry → Option String × String
  | field name v => (some name, v.text ++ ",")
  | item v => (none, v.text ++ ",")
  | record name _ => (some name, ".\x7b")
  | slice name _ => (some name, "&.\x7b")
  | row _ => (none, ".\x7b")

/-- The text of a first line. -/
def headText : Option String × String → String
  | (some name, rest) => fieldText name rest
  | (none, rest) => rest

/-- The entries in an entry, if it is one on several lines. -/
def Entry.inner? : Entry → Option (List Entry)
  | field _ _ => none
  | item _ => none
  | record _ es => some es
  | slice _ es => some es
  | row es => some es

/-- What holds of an entry if it holds of the entries in it holds of every entry. -/
@[elab_as_elim]
theorem Entry.inner_induct {motive : Entry → Prop}
    (step : ∀ e : Entry, (∀ es ∈ e.inner?, ∀ a ∈ es, motive a) → motive e) (e : Entry) :
    motive e := by
  induction e using Entry.induct with
  | field name v => exact step _ (by simp [inner?])
  | item v => exact step _ (by simp [inner?])
  | record name es ih => exact step _ (by simpa [inner?] using ih)
  | slice name es ih => exact step _ (by simpa [inner?] using ih)
  | row es ih => exact step _ (by simpa [inner?] using ih)

theorem Entry.IsTidy.inner (h : e.IsTidy P) : ∀ es ∈ e.inner?, ∀ a ∈ es, a.IsTidy P := by
  cases h <;> simp_all [inner?]

/-- The lines after the first one, given the entries in an entry. -/
def innerLines (depth : Nat) : Option (List Entry) → List String
  | some es => entryLines (depth + 1) es ++ [indented depth "\x7d,"]
  | none => []

theorem Entry.lines_eq_cons (e : Entry) (depth : Nat) :
    e.lines depth = indented depth (headText e.head) :: innerLines depth e.inner? := by
  cases e with
  | field name v =>
    rw [lines, head, headText, fieldText, fieldText, String.append_assoc]
    rfl
  | item v => rfl
  | record name es => rfl
  | slice name es => rfl
  | row es => rfl

theorem indented_injective : Function.Injective (indented depth) := by
  intro s t h
  have hchars := congrArg String.toList h
  rw [toList_indented, toList_indented, List.append_cancel_left_eq] at hchars
  exact String.toList_injective hchars

theorem fieldText_inj {name name' rest rest' : String} (hname : isWord name.toList = true)
    (hname' : isWord name'.toList = true) (h : fieldText name rest = fieldText name' rest') :
    name = name' ∧ rest = rest' := by
  have hblank {name : String} (hname : isWord name.toList = true) : ' ' ∉ name.toList :=
    notMem_of_isWord hname (by decide)
  have hchars : '.' :: (name.toList ++ ' ' :: '=' :: ' ' :: rest.toList) =
      '.' :: (name'.toList ++ ' ' :: '=' :: ' ' :: rest'.toList) := by
    simpa [fieldText] using congrArg String.toList h
  obtain ⟨heq, hrest⟩ := append_cons_inj (hblank hname) (hblank hname') (List.cons.inj hchars).2
  exact ⟨String.toList_injective heq,
    String.toList_injective (List.cons.inj (List.cons.inj hrest).2).2⟩

theorem toList_braced (opening : String) (items : List String) :
    ∃ cs, (braced opening items).toList = opening.toList ++ '{' :: cs := by
  rw [braced]
  split
  · exact ⟨['}'], String.toList_append⟩
  · exact ⟨' ' :: (", ".intercalate items ++ " \x7d").toList, by simp⟩

/-- The first line of a tidy entry begins with a point, and a brace follows if it has no label. -/
theorem Entry.IsTidy.headText_eq (h : e.IsTidy P) :
    ∃ c cs, (headText e.head).toList = '.' :: c :: cs ∧ (c = '{' ↔ e.head.1 = none) := by
  have hlabel {name : String} (hname : isWord name.toList = true) (rest : String) :
      ∃ c cs, (fieldText name rest).toList = '.' :: c :: cs ∧ c ≠ '{' := by
    obtain ⟨c, cs, hcs, hc⟩ := exists_cons_of_isWord hname
    exact ⟨c, cs ++ (" = " ++ rest).toList, by simp [fieldText, hcs],
      ne_of_isWordChar hc (by decide)⟩
  cases h with
  | field label =>
    obtain ⟨c, cs, hchars, hc⟩ := hlabel label _
    exact ⟨c, cs, hchars, iff_of_false hc (Option.some_ne_none _)⟩
  | record label =>
    obtain ⟨c, cs, hchars, hc⟩ := hlabel label _
    exact ⟨c, cs, hchars, iff_of_false hc (Option.some_ne_none _)⟩
  | slice label =>
    obtain ⟨c, cs, hchars, hc⟩ := hlabel label _
    exact ⟨c, cs, hchars, iff_of_false hc (Option.some_ne_none _)⟩
  | item =>
    obtain ⟨cs, hcs⟩ := toList_braced "." (Literal.fieldTexts _)
    refine ⟨'{', cs ++ [','], ?_, iff_of_true rfl rfl⟩
    rw [Entry.head, headText, Literal.text, String.toList_append, hcs]
    rfl
  | row => exact ⟨'{', [], (by decide : ".\x7b".toList = ['.', '{']), iff_of_true rfl rfl⟩

/-- The first line of a tidy entry tells its label, if it has one, and what follows. -/
theorem Entry.IsTidy.head_eq (h : e.IsTidy P) (h' : e'.IsTidy P)
    (hline : indented depth (headText e.head) = indented depth (headText e'.head)) :
    e.head = e'.head := by
  have htext := indented_injective hline
  obtain ⟨c, cs, hchars, hc⟩ := h.headText_eq
  obtain ⟨c', cs', hchars', hc'⟩ := h'.headText_eq
  have hnone : e.head.1 = none ↔ e'.head.1 = none := by
    rw [htext, hchars'] at hchars
    rw [← hc, ← hc', (List.cons.inj (List.cons.inj hchars).2).1]
  have hword {e : Entry} (h : e.IsTidy P) : ∀ name ∈ e.head.1, isWord name.toList = true := by
    cases h <;> simp_all [Entry.head]
  rcases hhead : e.head with ⟨_ | name, rest⟩ <;> rcases hhead' : e'.head with ⟨_ | name', rest'⟩
  · rw [hhead, hhead'] at htext
    exact congrArg _ htext
  · simp [hhead, hhead'] at hnone
  · simp [hhead, hhead'] at hnone
  · have hname := hword h name (by rw [hhead]; rfl)
    have hname' := hword h' name' (by rw [hhead']; rfl)
    rw [hhead, hhead'] at htext
    obtain ⟨rfl, rfl⟩ := fieldText_inj hname hname' htext
    rfl

/-! ### Where entries end -/

/-- A line that ends the entries at a depth: it is closer to the margin, and begins with a brace. -/
def Ends (depth : Nat) (line : String) : Prop :=
  ∃ k < 4 * depth, ∃ cs, line.toList = List.replicate k ' ' ++ '}' :: cs

theorem ends_closing (depth : Nat) : Ends (depth + 1) (indented depth "\x7d,") :=
  ⟨4 * depth, by omega, [','], toList_indented depth _⟩

/-- No tidy entry begins with a line that ends the entries. -/
theorem Entry.IsTidy.indented_head_ne (h : e.IsTidy P) {line : String} (hline : Ends depth line) :
    indented depth (headText e.head) ≠ line := by
  rintro rfl
  obtain ⟨k, hk, cs, hchars⟩ := hline
  obtain ⟨c, ds, hhead, -⟩ := h.headText_eq
  rw [toList_indented, hhead] at hchars
  have hplace := congrArg (fun cs => cs[k]?) hchars
  simp [List.getElem?_append, hk] at hplace

/-! ### Reading entries from lines -/

/-- A first line ends in a brace just if more lines of the entry follow. -/
theorem Entry.inner?_isSome_eq (h : e.head = e'.head) : e.inner?.isSome = e'.inner?.isSome := by
  have hlast (e : Entry) :
      e.head.2.toList.getLast? = some (if e.inner?.isSome then '{' else ',') := by
    cases e <;> simp [head, inner?]
  have heq := hlast e
  rw [h, hlast e'] at heq
  cases hinner : e.inner?.isSome <;> cases hinner' : e'.inner?.isSome <;> simp_all

/-- Entries with the same first line are alike if the entries in them are. -/
theorem Entry.alike_of_head_eq (h : e.head = e'.head)
    (hinner : Option.Rel (List.Forall₂ Alike) e.inner? e'.inner?) : e.Alike e' := by
  cases e <;> cases e' <;> cases hinner <;> simp_all [head]

theorem alike_of_entryLines
    (ih : ∀ e ∈ es, ∀ e' : Entry, ∀ depth ls ls', e.IsTidy P → e'.IsTidy P →
      e.lines depth ++ ls = e'.lines depth ++ ls' → e.Alike e' ∧ ls = ls')
    (hes : ∀ e ∈ es, e.IsTidy P) (hes' : ∀ e ∈ es', e.IsTidy P) {line line' : String}
    (hline : Ends depth line) (hline' : Ends depth line')
    (h : entryLines depth es ++ line :: ls = entryLines depth es' ++ line' :: ls') :
    List.Forall₂ Entry.Alike es es' ∧ ls = ls' := by
  induction es generalizing es' with
  | nil =>
    rcases es' with _ | ⟨e', es'⟩
    · exact ⟨.nil, (List.cons.inj h).2⟩
    · rw [entryLines, entryLines, Entry.lines_eq_cons] at h
      have hne := (hes' e' (List.mem_cons_self ..)).indented_head_ne hline
      exact absurd (List.cons.inj h).1.symm hne
  | cons e es ihes =>
    rcases es' with _ | ⟨e', es'⟩
    · rw [entryLines, entryLines, Entry.lines_eq_cons] at h
      exact absurd (List.cons.inj h).1 ((hes e (List.mem_cons_self ..)).indented_head_ne hline')
    · obtain ⟨he, hes⟩ := List.forall_mem_cons.mp hes
      obtain ⟨he', hes'⟩ := List.forall_mem_cons.mp hes'
      obtain ⟨ihe, ih⟩ := List.forall_mem_cons.mp ih
      rw [entryLines, entryLines, List.append_assoc, List.append_assoc] at h
      obtain ⟨halike, hrest⟩ := ihe e' depth _ _ he he' h
      obtain ⟨hothers, hls⟩ := ihes ih hes hes' hrest
      exact ⟨.cons halike hothers, hls⟩

/-- Tidy entries that are read from the same lines are alike, and end at the same line. -/
theorem Entry.alike_of_lines (e e' : Entry) (depth : Nat) (ls ls' : List String)
    (h : e.IsTidy P) (h' : e'.IsTidy P) (hlines : e.lines depth ++ ls = e'.lines depth ++ ls') :
    e.Alike e' ∧ ls = ls' := by
  induction e using Entry.inner_induct generalizing e' depth ls ls' with
  | step e ih =>
    -- The first lines agree, and then the entries in both, up to the line that closes them.
    rw [lines_eq_cons, lines_eq_cons] at hlines
    obtain ⟨hfirst, hrest⟩ := List.cons.inj hlines
    have hhead := h.head_eq h' hfirst
    have hsome := inner?_isSome_eq hhead
    rcases hes : e.inner? with _ | es <;> rcases hes' : e'.inner? with _ | es'
    · rw [hes, hes'] at hrest
      exact ⟨alike_of_head_eq hhead (by rw [hes, hes']; exact .none), hrest⟩
    · simp [hes, hes'] at hsome
    · simp [hes, hes'] at hsome
    · rw [hes, hes'] at hrest
      have hblock : entryLines (depth + 1) es ++ indented depth "\x7d," :: ls =
          entryLines (depth + 1) es' ++ indented depth "\x7d," :: ls' := by
        simpa [innerLines] using hrest
      obtain ⟨halike, hls⟩ := alike_of_entryLines (ih es hes) (h.inner es hes) (h'.inner es' hes')
        (ends_closing depth) (ends_closing depth) hblock
      exact ⟨alike_of_head_eq hhead (by rw [hes, hes']; exact .some halike), hls⟩

theorem entryLines_congr (h : List.Forall₂ Entry.Alike es es')
    (ih : ∀ e ∈ es, ∀ e' : Entry, ∀ depth, e.Alike e' → e.lines depth = e'.lines depth)
    (depth : Nat) :
    entryLines depth es = entryLines depth es' := by
  induction h with
  | nil => rfl
  | cons he _ ihes =>
    obtain ⟨ihe, ih⟩ := List.forall_mem_cons.mp ih
    rw [entryLines, entryLines, ihe _ depth he, ihes ih]

/-- Alike entries have the same lines. -/
theorem Entry.Alike.lines_eq (e e' : Entry) (depth : Nat) (h : e.Alike e') :
    e.lines depth = e'.lines depth := by
  induction e using Entry.induct generalizing e' depth with
  | field name v =>
    cases h with
    | field _ text => rw [lines, lines, text]
  | item v =>
    cases h with
    | item text => rw [lines, lines, text]
  | record name es ih =>
    cases h with
    | record _ entries => rw [lines, lines, entryLines_congr entries ih _]
  | slice name es ih =>
    cases h with
    | slice _ entries => rw [lines, lines, entryLines_congr entries ih _]
  | row es ih =>
    cases h with
    | row entries => rw [lines, lines, entryLines_congr entries ih _]

/-! ### Tables -/

/-- The lines of a tidy table are read from its text. -/
theorem Table.IsTidy.lines_text {t : Table} (h : t.IsTidy P)
    (hP : ∀ w, P w → '\n' ∉ w.toList) :
    Text.lines t.text.toList = t.lines.map String.toList ++ [[]] := by
  have htext : fileText id t.pieces = t.text.toList := fileText_eq t.chars_pieces
  rw [← htext, ← t.chars_pieces]
  exact lines_fileText fun line hline => (h.lines line hline).newline_notMem hP

/-- Tidy tables of one kind have the same text just if their rows are alike. -/
theorem Table.text_eq_iff {t t' : Table} (h : t.IsTidy P) (h' : t'.IsTidy P)
    (hP : ∀ w, P w → '\n' ∉ w.toList) (hdeclaration : t.declaration = t'.declaration)
    (hname : t.name = t'.name) (hrowType : t.rowType = t'.rowType) :
    t.text = t'.text ↔ List.Forall₂ (List.Forall₂ Entry.Alike) t.rows t'.rows := by
  have hrows : List.Forall₂ Entry.Alike (t.rows.map Entry.row) (t'.rows.map Entry.row) ↔
      List.Forall₂ (List.Forall₂ Entry.Alike) t.rows t'.rows := by
    simp only [List.forall₂_map_left_iff, List.forall₂_map_right_iff, Entry.alike_row_iff]
  have htidy {t : Table} (h : t.IsTidy P) : ∀ e ∈ t.rows.map Entry.row, e.IsTidy P :=
    List.forall_mem_map.mpr fun row hrow => .row (h.rows row hrow)
  rw [← hrows]
  constructor
  · intro htext
    have hlines : t.lines = t'.lines := by
      have heq := (h.lines_text hP).symm.trans (htext ▸ h'.lines_text hP)
      exact List.map_injective_iff.mpr (fun _ _ => String.toList_injective)
        (List.append_cancel_right heq)
    rw [Table.lines, Table.lines, hdeclaration, hname, hrowType, List.append_cancel_left_eq,
      List.cons.injEq, List.cons.injEq] at hlines
    have hends : Ends 1 "\x7d;" := ⟨0, by decide, [';'], by decide⟩
    exact (alike_of_entryLines (fun e _ => e.alike_of_lines) (htidy h) (htidy h') hends hends
      hlines.2.2).1
  · intro halike
    have hlines := entryLines_congr halike (fun e _ => Entry.Alike.lines_eq e) 1
    rw [Table.text, Table.text, Table.lines, Table.lines, hdeclaration, hname, hrowType, hlines]

end CombatContent.Zig
