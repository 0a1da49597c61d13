import CombatContent.Proofs.Zig.Names

/-!
# The tokens of a generated file

The host language is read into words, names between quotes after an at sign, strings, and single
marks; a point goes on with a number, and a comment ends with its line. Where names are written as
identifiers, a generated file has the tokens that its pieces say: a string is one token and a name
is one token, whatever they are.

## Main definitions

* `Zig.Token`, `Zig.tokens`: the tokens of a text.
* `Zig.Line.tokens`: the tokens of a line by its pieces.

## Main results

* `Zig.tokens_fileText`: the tokens of a file are those of its lines.
* `Zig.tokens_fileText_identifier`: tidy lines have the tokens that their pieces say.
-/

namespace CombatContent.Zig

open Text Enumeration

/-! ### Tokens -/

/-- A token of the host language. -/
inductive Token where
  /-- A name, a keyword or a number. -/
  | word (chars : List Char)
  /-- A name in quotes, by the characters between them. -/
  | name (chars : List Char)
  /-- A string, by the characters between its quotes. -/
  | string (chars : List Char)
  /-- A string or a name in quotes that the line ends in. -/
  | unclosed (chars : List Char)
  | mark (c : Char)
  deriving DecidableEq

/-- What the reader of tokens is in the middle of, with the characters that it has seen of it. -/
inductive Mode where
  | between
  | word (seen : List Char)
  | quoted (isName : Bool) (seen : List Char)
  | escape (isName : Bool) (seen : List Char)
  | sign
  | slash
  | comment
  deriving DecidableEq

/-- What is read if a token ends here. -/
def Mode.flush : Mode → List Token
  | between => []
  | word seen => [.word seen]
  | quoted _ seen => [.unclosed seen]
  | escape _ seen => [.unclosed seen]
  | sign => [.mark '@']
  | slash => [.mark '/']
  | comment => []

/-- Whether a character goes on with a word: a point does if the word is a number. -/
def continues (seen : List Char) (c : Char) : Bool :=
  isWordChar c || (c == '.' && seen.head?.any Char.isDigit)

/-- What is read at the first character of a token, and the mode that it begins. -/
def start (c : Char) : List Token × Mode :=
  if [' ', '\t', '\r'].contains c then ([], .between)
  else if c = '"' then ([], .quoted false [])
  else if c = '@' then ([], .sign)
  else if c = '/' then ([], .slash)
  else if isWordChar c then ([], .word [c])
  else ([.mark c], .between)

/-- What is read at a character that a token does not go on with. -/
def Mode.restart (m : Mode) (c : Char) : List Token × Mode := (m.flush ++ (start c).1, (start c).2)

/-- What is read at the closing quote. -/
def closing (isName : Bool) (seen : List Char) : Token :=
  if isName then .name seen else .string seen

/-- What is read at a character, and the mode after it. Every line begins between tokens. -/
def step (m : Mode) (c : Char) : List Token × Mode :=
  if c = '\n' then (m.flush, .between)
  else
    match m with
    | .between => m.restart c
    | .word seen => if continues seen c then ([], .word (seen ++ [c])) else m.restart c
    | .quoted isName seen =>
      if c = '"' then ([closing isName seen], .between)
      else if c = '\\' then ([], .escape isName (seen ++ [c]))
      else ([], .quoted isName (seen ++ [c]))
    | .escape isName seen => ([], .quoted isName (seen ++ [c]))
    | .sign => if c = '"' then ([], .quoted true []) else m.restart c
    | .slash => if c = '/' then ([], .comment) else m.restart c
    | .comment => ([], .comment)

/-- The mode after a text. -/
def Mode.after (m : Mode) (cs : List Char) : Mode := cs.foldl (fun m c => (step m c).2) m

/-- What is read of a text before its end. -/
def emitted (m : Mode) : List Char → List Token
  | [] => []
  | c :: cs => (step m c).1 ++ emitted (step m c).2 cs

/-- The tokens of a text. -/
def tokens (cs : List Char) : List Token :=
  emitted .between cs ++ (Mode.between.after cs).flush

variable {m : Mode} {c : Char} {cs ds : List Char} {ts us : List Token}

@[simp]
theorem Mode.after_cons : m.after (c :: cs) = (step m c).2.after cs := rfl

/-- A text is read on from the mode that the text before it leaves. -/
theorem Mode.after_append : m.after (cs ++ ds) = (m.after cs).after ds := List.foldl_append

theorem emitted_append : emitted m (cs ++ ds) = emitted m cs ++ emitted (m.after cs) ds := by
  induction cs generalizing m with
  | nil => rfl
  | cons c cs ih =>
    rw [List.cons_append, emitted, emitted, ih, List.append_assoc, Mode.after_cons]

/-- A line is read on its own. -/
theorem tokens_append_newline : tokens (cs ++ '\n' :: ds) = tokens cs ++ tokens ds := by
  have hstep (m : Mode) : step m '\n' = (m.flush, .between) := rfl
  rw [tokens, emitted_append, Mode.after_append, Mode.after_cons, emitted, hstep, tokens, tokens,
    List.append_assoc, List.append_assoc, List.append_assoc]

/-- The tokens of lines are those of each. -/
theorem tokens_fileText (f : String → String) (ls : List Line) :
    tokens (fileText f ls) = ls.flatMap fun line => tokens (line.chars f) := by
  induction ls with
  | nil => rfl
  | cons line ls ih =>
    have htext : fileText f (line :: ls) = line.chars f ++ '\n' :: fileText f ls := by
      simp [fileText]
    rw [htext, tokens_append_newline, ih, List.flatMap_cons]

/-! ### Texts that are read to their end -/

/-- A text is read to its end, so that a token begins after it. -/
structure Closed (cs : List Char) (ts : List Token) : Prop where
  emitted : emitted .between cs = ts
  after : Mode.between.after cs = .between

/-- Whether a comma or a blank begins anew: it does between tokens, and ends a word. -/
def Mode.isOpen : Mode → Bool
  | between => true
  | word _ => true
  | _ => false

/-- A text is read to its end if a comma or a blank follows. -/
structure ClosedBefore (cs : List Char) (ts : List Token) : Prop where
  tokens : tokens cs = ts
  isOpen : (Mode.between.after cs).isOpen = true

theorem Closed.tokens_eq (h : Closed cs ts) : tokens cs = ts := by
  rw [tokens, h.emitted, h.after]
  exact List.append_nil ts

theorem Closed.before (h : Closed cs ts) : ClosedBefore cs ts where
  tokens := h.tokens_eq
  isOpen := by
    rw [h.after]
    rfl

theorem Closed.append (hcs : Closed cs ts) (hds : Closed ds us) :
    Closed (cs ++ ds) (ts ++ us) where
  emitted := by rw [emitted_append, hcs.emitted, hcs.after, hds.emitted]
  after := by rw [Mode.after_append, hcs.after, hds.after]

theorem Closed.append_before (hcs : Closed cs ts) (hds : ClosedBefore ds us) :
    ClosedBefore (cs ++ ds) (ts ++ us) where
  tokens := by
    rw [Zig.tokens, emitted_append, Mode.after_append, hcs.emitted, hcs.after, List.append_assoc,
      ← Zig.tokens, hds.tokens]
  isOpen := by rw [Mode.after_append, hcs.after, hds.isOpen]

/-- The characters that end a word. -/
def delimiters : List Char := [',', ' ']

theorem step_delimiter (hm : m.isOpen = true) (hc : c ∈ delimiters) : step m c = m.restart c := by
  have hword : ∀ seen, continues seen c = false := by
    intro seen
    simp only [delimiters, List.mem_cons, List.not_mem_nil, or_false] at hc
    rcases hc with rfl | rfl <;> rfl
  have hline : c ≠ '\n' := by
    rintro rfl
    exact absurd hc (by decide)
  cases m with
  | between => rw [step, if_neg hline]
  | word seen => rw [step, if_neg hline, if_neg (by simp [hword])]
  | _ => exact absurd hm Bool.false_ne_true

/-- What begins with a comma or a blank is read after a text as on its own. -/
theorem ClosedBefore.append (hcs : ClosedBefore cs ts) (hc : c ∈ delimiters)
    (hds : Closed (c :: ds) us) : Closed (cs ++ c :: ds) (ts ++ us) := by
  have hstep := step_delimiter hcs.isOpen hc
  have hbetween : step .between c = start c := step_delimiter rfl hc
  have hemitted := hds.emitted
  have hafter := hds.after
  rw [Zig.emitted, hbetween] at hemitted
  rw [Mode.after_cons, hbetween] at hafter
  refine ⟨?_, ?_⟩
  · rw [emitted_append, Zig.emitted, hstep, Mode.restart, ← hemitted, ← hcs.tokens, Zig.tokens,
      List.append_assoc, List.append_assoc]
  · rw [Mode.after_append, Mode.after_cons, hstep, Mode.restart, hafter]

/-! ### Words and strings -/

theorem start_of_isWordChar (h : isWordChar c = true) : start c = ([], .word [c]) := by
  have hne {d : Char} (hd : isWordChar d = false) : c ≠ d := ne_of_isWordChar h hd
  have hblank : [' ', '\t', '\r'].contains c = false := by
    simp [hne (d := ' ') (by decide), hne (d := '\t') (by decide), hne (d := '\r') (by decide)]
  rw [start, hblank, if_neg Bool.false_ne_true, if_neg (hne (by decide)), if_neg (hne (by decide)),
    if_neg (hne (by decide)), if_pos h]

theorem step_word {seen : List Char} (h : isWordChar c = true) :
    step (.word seen) c = ([], .word (seen ++ [c])) := by
  rw [step, if_neg (ne_of_isWordChar h (by decide))]
  simp [continues, h]

/-- The characters of a word are read as one word. -/
theorem read_word (seen : List Char) (h : ∀ c ∈ cs, isWordChar c = true) :
    emitted (.word seen) cs = [] ∧ (Mode.word seen).after cs = .word (seen ++ cs) := by
  induction cs generalizing seen with
  | nil => exact ⟨rfl, by rw [List.append_nil]; rfl⟩
  | cons c cs ih =>
    obtain ⟨hc, hcs⟩ := List.forall_mem_cons.mp h
    obtain ⟨hemitted, hafter⟩ := ih (seen ++ [c]) hcs
    refine ⟨?_, ?_⟩
    · rw [emitted, step_word hc, hemitted, List.append_nil]
    · rw [Mode.after_cons, step_word hc, hafter, List.append_assoc, List.singleton_append]

theorem closedBefore_word (hne : cs ≠ []) (h : ∀ c ∈ cs, isWordChar c = true) :
    ClosedBefore cs [.word cs] := by
  obtain ⟨c, cs, rfl⟩ := List.exists_cons_of_ne_nil hne
  obtain ⟨hc, hcs⟩ := List.forall_mem_cons.mp h
  obtain ⟨hemitted, hafter⟩ := read_word [c] hcs
  have hstep : step .between c = ([], .word [c]) := by
    rw [step, if_neg (ne_of_isWordChar hc (by decide)), Mode.restart, start_of_isWordChar hc]
    rfl
  refine ⟨?_, ?_⟩
  · rw [tokens, emitted, Mode.after_cons, hstep, hemitted, hafter]
    rfl
  · rw [Mode.after_cons, hstep, hafter]
    rfl

/-- The characters of numbers and words are read to their end if a comma or a blank follows. -/
theorem closedBefore_atom (h : ∀ c ∈ cs, isAtomChar c = true) : ClosedBefore cs (tokens cs) := by
  have hstep {m : Mode} (hm : m.isOpen = true) {c : Char} (hc : isAtomChar c = true) :
      (step m c).2.isOpen = true := by
    have hline : c ≠ '\n' := ne_newline_of_isAtomChar hc
    have hstart : (start c).2.isOpen = true := by
      simp only [isAtomChar, Bool.or_eq_true, beq_iff_eq] at hc
      rcases hc with (hword | rfl) | rfl
      · rw [start_of_isWordChar hword]
        rfl
      · rfl
      · rfl
    cases m with
    | between => rwa [step, if_neg hline]
    | word seen =>
      rw [step, if_neg hline]
      split
      · rfl
      · exact hstart
    | _ => exact absurd hm Bool.false_ne_true
  have hafter (m : Mode) (hm : m.isOpen = true) : (m.after cs).isOpen = true := by
    induction cs generalizing m with
    | nil => exact hm
    | cons c cs ih =>
      obtain ⟨hc, hcs⟩ := List.forall_mem_cons.mp h
      exact ih hcs _ (hstep hm hc)
  exact ⟨rfl, hafter .between rfl⟩

/-- The escaped characters of a text are read to the closing quote. -/
theorem read_quoted (isName : Bool) (seen cs : List Char) :
    emitted (.quoted isName seen) (escaped cs ++ ['"']) = [closing isName (seen ++ escaped cs)] ∧
      (Mode.quoted isName seen).after (escaped cs ++ ['"']) = .between := by
  induction cs generalizing seen with
  | nil =>
    rw [show escaped [] = [] from rfl, List.append_nil]
    exact ⟨rfl, rfl⟩
  | cons c cs ih =>
    have hescape : emitted (.quoted isName seen) (escape c) = [] ∧
        (Mode.quoted isName seen).after (escape c) = .quoted isName (seen ++ escape c) := by
      by_cases hmem : c ∈ escapedChars
      · obtain ⟨d, hd, -, hplain⟩ := exists_escape_of_mem hmem
        have hline : d ≠ '\n' := fun heq => hplain (heq ▸ List.mem_cons_self ..)
        have hbackslash : step (.quoted isName seen) '\\' =
            ([], .escape isName (seen ++ ['\\'])) := rfl
        have hstep : step (.escape isName (seen ++ ['\\'])) d =
            ([], .quoted isName (seen ++ ['\\', d])) := by
          rw [step, if_neg hline, List.append_assoc]
          rfl
        rw [hd, emitted, emitted, Mode.after_cons, Mode.after_cons, hbackslash, hstep]
        exact ⟨rfl, rfl⟩
      · have hne {d : Char} (hd : d ∈ escapedChars) : c ≠ d := fun heq => hmem (heq ▸ hd)
        have hstep : step (.quoted isName seen) c = ([], .quoted isName (seen ++ [c])) := by
          rw [step, if_neg (hne (by decide))]
          simp only [if_neg (hne (d := '"') (by decide)), if_neg (hne (d := '\\') (by decide))]
        rw [escape_of_notMem hmem, emitted, Mode.after_cons, hstep]
        exact ⟨rfl, rfl⟩
    obtain ⟨hemitted, hafter⟩ := ih (seen ++ escape c)
    rw [escaped_cons, List.append_assoc, emitted_append, Mode.after_append, hescape.1, hescape.2,
      hemitted, hafter, List.append_assoc]
    exact ⟨rfl, rfl⟩

theorem closed_string (s : String) : Closed (quoted s).toList [.string (escaped s.toList)] := by
  obtain ⟨hemitted, hafter⟩ := read_quoted false [] s.toList
  rw [quoted, String.toList_ofList]
  exact ⟨hemitted, hafter⟩

/-! ### The tokens of pieces -/

/-- The token of a name. -/
def nameToken (s : String) : Token :=
  if isPlainIdentifier s then .word s.toList else .name (escaped s.toList)

theorem closedBefore_identifier (s : String) :
    ClosedBefore (identifier s).toList [nameToken s] := by
  cases h : isPlainIdentifier s with
  | true =>
    obtain ⟨hne, hword⟩ := isWordChar_of_mem h
    rw [nameToken, h, if_pos rfl, toList_identifier_of_plain h]
    exact closedBefore_word hne hword
  | false =>
    obtain ⟨hemitted, hafter⟩ := read_quoted true [] s.toList
    rw [nameToken, h, if_neg Bool.false_ne_true, toList_identifier_of_not_plain h]
    exact Closed.before ⟨hemitted, hafter⟩

/-- The tokens of a piece: strings and names are one token each. -/
def Piece.tokens : Piece → List Token
  | fixed t => Zig.tokens t.toList
  | label name => [.word name.toList]
  | variant id => [nameToken id]
  | member scope word => Zig.tokens (scope.toList ++ ['.']) ++ [nameToken word]
  | string s => [.string (escaped s.toList)]

/-- The tokens of a line by its pieces. -/
def Line.tokens (line : Line) : List Token := line.flatMap Piece.tokens

/-- A line is read to its end, as its pieces say. -/
def Line.IsClosed (line : Line) : Prop := Closed (line.chars identifier) line.tokens

/-- A line is read to its end, as its pieces say, if a comma or a blank follows. -/
def Line.IsClosedBefore (line : Line) : Prop := ClosedBefore (line.chars identifier) line.tokens

namespace Line

variable {line line' : Line}

theorem IsClosed.append (h : line.IsClosed) (h' : Line.IsClosed line') :
    Line.IsClosed (line ++ line') := by
  rw [IsClosed, chars_append, tokens, List.flatMap_append]
  exact Closed.append h h'

theorem IsClosed.append_before (h : line.IsClosed) (h' : Line.IsClosedBefore line') :
    Line.IsClosedBefore (line ++ line') := by
  rw [IsClosedBefore, chars_append, tokens, List.flatMap_append]
  exact Closed.append_before h h'

end Line

/-- A text after which a token begins is read as on its own. -/
theorem isClosed_fixed {t : String} (h : Mode.between.after t.toList = .between) :
    Line.IsClosed [.fixed t] := by
  have hclosed : Closed t.toList (tokens t.toList) := by
    refine ⟨?_, h⟩
    rw [tokens, h]
    exact (List.append_nil _).symm
  rw [Line.IsClosed]
  simpa [Line.tokens, Piece.tokens] using hclosed

theorem isClosed_mark {t : String} (h : t ∈ marks) : Line.IsClosed [.fixed t] := by
  have hmarks : ∀ t ∈ marks, Mode.between.after t.toList = .between := by decide
  exact isClosed_fixed (hmarks t h)

/-- A mark that begins with a comma or a blank closes a line. -/
theorem Line.IsClosedBefore.append_mark {line : Line} (h : line.IsClosedBefore) {t : String}
    (ht : t ∈ marks) (hstart : t.toList.head?.any delimiters.contains = true) :
    Line.IsClosed (line ++ [.fixed t]) := by
  have hmark : Line.IsClosed [.fixed t] := isClosed_mark ht
  rcases hchars : t.toList with _ | ⟨c, cs⟩
  · rw [hchars] at hstart
    exact absurd hstart Bool.false_ne_true
  have hc : c ∈ delimiters := by simpa [hchars] using hstart
  have hline : Line.chars identifier [.fixed t] = c :: cs := by simp [hchars]
  rw [Line.IsClosed, hline] at hmark
  rw [Line.IsClosed, Line.chars_append, Line.tokens, List.flatMap_append, hline]
  exact ClosedBefore.append h hc hmark

theorem isClosedBefore_atom {t : String} (h : ∀ c ∈ t.toList, isAtomChar c = true) :
    Line.IsClosedBefore [.fixed t] := by
  rw [Line.IsClosedBefore]
  simpa [Line.tokens, Piece.tokens] using closedBefore_atom h

theorem isClosedBefore_member {scope word : String} (h : scope ∈ scopes) :
    Line.IsClosedBefore [.member scope word] := by
  have hscopes : ∀ scope ∈ scopes, Mode.between.after (scope.toList ++ ['.']) = .between := by
    decide
  have hscope : Closed (scope.toList ++ ['.']) (tokens (scope.toList ++ ['.'])) := by
    refine ⟨?_, hscopes scope h⟩
    rw [tokens, hscopes scope h]
    exact (List.append_nil _).symm
  rw [Line.IsClosedBefore]
  simpa [Line.tokens, Piece.tokens] using hscope.append_before (closedBefore_identifier word)

/-- A field is read to its end, as its pieces say, if its value is. -/
theorem isClosed_labelled {name : String} (hname : isWord name.toList = true) :
    Line.IsClosed [.fixed ".", .label name, .fixed " = "] := by
  obtain ⟨hne, hword⟩ := isWordChar_of_isWord hname
  have hlabel : Line.IsClosedBefore [.label name] := by
    rw [Line.IsClosedBefore]
    simpa [Line.tokens, Piece.tokens] using closedBefore_word hne hword
  exact (isClosed_mark (t := ".") (by decide)).append (hlabel.append_mark (by decide) (by decide))

/-- What stands between braces is read to its end, as its pieces say, if the items are. -/
theorem isClosed_bracedPieces {opening : String} {items : List Line}
    (hempty : opening ++ "\x7b\x7d" ∈ marks) (hopen : opening ++ "\x7b " ∈ marks)
    (h : ∀ line ∈ items, Line.IsClosedBefore line) :
    Line.IsClosed (bracedPieces opening items) := by
  have hitems : ∀ items : List Line, items ≠ [] → (∀ line ∈ items, Line.IsClosedBefore line) →
      Line.IsClosedBefore ([.fixed ", "].intercalate items) := by
    intro items hne h
    induction items with
    | nil => exact absurd rfl hne
    | cons line items ih =>
      obtain ⟨hline, hrest⟩ := List.forall_mem_cons.mp h
      cases items with
      | nil => rwa [List.intercalate_singleton]
      | cons line' items =>
        rw [List.intercalate_cons_cons]
        exact (hline.append_mark (by decide) (by decide)).append_before
          (ih (List.cons_ne_nil _ _) hrest)
  rw [bracedPieces]
  split
  · exact isClosed_mark hempty
  · next hne =>
    have hinner := hitems items (by simpa using hne) h
    exact (isClosed_mark hopen).append (hinner.append_mark (by decide) (by decide))

variable {P : String → Prop}

/-- A tidy value is read to its end, as its pieces say, if a comma or a blank follows. -/
theorem Literal.IsTidy.isClosedBefore {v : Literal} (h : v.IsTidy P) :
    Line.IsClosedBefore v.pieces := by
  induction h with
  | null => exact isClosedBefore_atom (List.all_eq_true.mp (by decide))
  | boolean b =>
    refine isClosedBefore_atom (List.all_eq_true.mp ?_)
    cases b <;> decide
  | integer n => exact isClosedBefore_atom (isAtomChar_of_mem_toString n)
  | number x => exact isClosedBefore_atom (isAtomChar_of_mem_float x)
  | string s =>
    rw [Literal.pieces, Line.IsClosedBefore]
    simpa [Line.tokens, Piece.tokens] using (closed_string s).before
  | member known holds => exact isClosedBefore_member known
  | record labels values ih =>
    rw [Literal.pieces, piecesOfFields_eq_map]
    refine (isClosed_bracedPieces (by decide) (by decide) ?_).before
    refine List.forall_mem_map.mpr fun f hf => ?_
    exact (isClosed_labelled (labels f hf)).append_before (ih f hf)
  | tuple items ih =>
    rw [Literal.pieces, piecesOfItems_eq_map]
    exact (isClosed_bracedPieces (by decide) (by decide) (List.forall_mem_map.mpr ih)).before
  | slice items ih =>
    rw [Literal.pieces, piecesOfItems_eq_map]
    exact (isClosed_bracedPieces (by decide) (by decide) (List.forall_mem_map.mpr ih)).before

/-! ### The tokens of files -/

theorem isClosed_blanks (depth : Nat) : Line.IsClosed [blanks depth] := by
  refine isClosed_fixed ?_
  rw [toList_indented]
  have hblanks (n : Nat) : Mode.between.after (List.replicate n ' ') = .between := by
    induction n with
    | zero => rfl
    | succ n ih => exact ih
  simpa using hblanks (4 * depth)

theorem tokens_fixedLine (text : String) :
    tokens ((fixedLine text).chars identifier) = (fixedLine text).tokens := by
  simp [fixedLine, Line.tokens, Piece.tokens]

/-- A tidy line has the tokens that its pieces say. -/
theorem Line.IsTidy.tokens_eq {line : Line} (h : line.IsTidy P) :
    Zig.tokens (line.chars identifier) = line.tokens := by
  have hclosed {depth : Nat} {line : Line} (hline : line.IsClosed) :
      Zig.tokens (Line.chars identifier (blanks depth :: line)) =
        Line.tokens (blanks depth :: line) :=
    ((isClosed_blanks depth).append hline).tokens_eq
  cases h with
  | fixed => exact tokens_fixedLine _
  | variant id =>
    have hvariant : Line.IsClosedBefore [.variant id] := by
      rw [Line.IsClosedBefore]
      simpa [Line.tokens, Piece.tokens] using closedBefore_identifier id
    exact hclosed (hvariant.append_mark (by decide) (by decide))
  | field depth label value =>
    have hfield := (isClosed_labelled label).append_before value.isClosedBefore
    exact hclosed (hfield.append_mark (by decide) (by decide))
  | item depth value => exact hclosed (value.isClosedBefore.append_mark (by decide) (by decide))
  | opening depth label known =>
    exact hclosed ((isClosed_labelled label).append (isClosed_mark known))
  | row depth => exact hclosed (isClosed_mark (by decide))
  | closing depth => exact hclosed (isClosed_mark (by decide))

/-- Tidy lines have the tokens that their pieces say. -/
theorem tokens_fileText_identifier {ls : List Line} (h : ∀ line ∈ ls, line.IsTidy P) :
    tokens (fileText identifier ls) = ls.flatMap Line.tokens := by
  rw [tokens_fileText]
  exact List.flatMap_congr fun line hline => (h line hline).tokens_eq

end CombatContent.Zig
