import CombatContent.Proofs.Enumeration.LineParts
import CombatContent.Proofs.Zig.Escapes
import CombatContent.Zig.TechniqueTable

/-!
# Names on the lines of an enumeration

A generated enumeration has one name on a line, as an identifier and a comma. Its reader takes a
comment off the line before it looks for quotes, and does not undo escapes. So a name without a pair
of slashes is read as its escaped form, and of a name with one the reader sees no more than what
stands in front of the slashes.

## Main definitions

* `Enumeration.generatedFormat`: how a generated enumeration is set off.
* `Enumeration.nameLine`: the line of a name.
* `Enumeration.IsEscapable`: a text with a character that is escaped, but no pair of slashes.

## Main results

* `Enumeration.nameOn_nameLine`: what is read for a name without a pair of slashes.
* `Enumeration.isEscapable_nameOn`: what is read for a name with one.
-/

namespace CombatContent.Enumeration

open Text Zig

/-- A generated enumeration begins at a mark of its own. -/
def generatedFormat : Format := { blockStart := "pub const GeneratedTechniqueID" }

/-- The line of a name, without its indentation. -/
def nameLine (id : String) : List Char := (identifier id).toList ++ [',']

variable {cs : List Char} {id : String}

/-! ### Identifiers -/

/-- A character of a plain identifier. -/
def isWordChar (c : Char) : Bool := c.isAlphanum || c == '_'

theorem isWordChar_of_isWord (h : isWord cs = true) :
    cs ≠ [] ∧ ∀ c ∈ cs, isWordChar c = true := by
  cases cs with
  | nil => exact absurd h Bool.false_ne_true
  | cons c cs =>
    rw [isWord, Bool.and_eq_true, List.all_eq_true] at h
    refine ⟨List.cons_ne_nil _ _, List.forall_mem_cons.mpr ⟨?_, h.2⟩⟩
    have hfirst := h.1
    simp only [isWordChar, Char.isAlphanum, Bool.or_eq_true] at hfirst ⊢
    exact hfirst.imp_left .inl

theorem isWord_of_plain (h : isPlainIdentifier id = true) : isWord id.toList = true := by
  simp only [isPlainIdentifier, Bool.and_eq_true] at h
  exact h.1.1.1

theorem isWordChar_of_mem (h : isPlainIdentifier id = true) :
    id.toList ≠ [] ∧ ∀ c ∈ id.toList, isWordChar c = true :=
  isWordChar_of_isWord (isWord_of_plain h)

theorem exists_cons_of_isWord (h : isWord cs = true) :
    ∃ c cs', cs = c :: cs' ∧ isWordChar c = true := by
  obtain ⟨hne, hword⟩ := isWordChar_of_isWord h
  obtain ⟨c, cs', rfl⟩ := List.exists_cons_of_ne_nil hne
  exact ⟨c, cs', rfl, hword c (List.mem_cons_self ..)⟩

theorem isBlank_of_isWordChar {c : Char} (h : isWordChar c = true) : isBlank c = false := by
  have hupper (hc : c.isUpper = true) : 65 ≤ c.toNat ∧ c.toNat ≤ 90 :=
    of_decide_eq_true hc
  have hlower (hc : c.isLower = true) : 97 ≤ c.toNat ∧ c.toNat ≤ 122 :=
    (Bool.and_eq_true_iff.mp hc).imp of_decide_eq_true of_decide_eq_true
  have hrange : 48 ≤ c.toNat ∧ c.toNat ≤ 122 := by
    simp only [isWordChar, Char.isAlphanum, Bool.or_eq_true, beq_iff_eq,
      Char.isDigit_iff_toNat] at h
    rcases h with (halpha | hdigit) | rfl
    · rcases Bool.or_eq_true_iff.mp halpha with hc | hc
      · exact ⟨Nat.le_trans (by decide) (hupper hc).1, Nat.le_trans (hupper hc).2 (by decide)⟩
      · exact ⟨Nat.le_trans (by decide) (hlower hc).1, (hlower hc).2⟩
    · exact ⟨hdigit.1, Nat.le_trans hdigit.2 (by decide)⟩
    · decide
  simp only [isBlank, Bool.or_eq_false_iff, Bool.and_eq_false_iff, decide_eq_false_iff_not,
    beq_eq_false_iff_ne]
  omega

theorem ne_of_isWordChar {c d : Char} (h : isWordChar c = true) (hd : isWordChar d = false) :
    c ≠ d := by
  rintro rfl
  exact absurd h (by simp [hd])

theorem notMem_of_isWord {c : Char} (h : isWord cs = true) (hc : isWordChar c = false) : c ∉ cs :=
  fun hmem => ne_of_isWordChar ((isWordChar_of_isWord h).2 c hmem) hc rfl

theorem toList_identifier_of_plain (h : isPlainIdentifier id = true) :
    (identifier id).toList = id.toList := by
  rw [identifier, if_pos h]

theorem toList_identifier_of_not_plain (h : isPlainIdentifier id = false) :
    (identifier id).toList = '@' :: '"' :: (escaped id.toList ++ ['"']) := by
  rw [identifier, if_neg (Bool.eq_false_iff.mp h), String.toList_append, Zig.quoted,
    String.toList_ofList, String.toList_ofList]
  rfl

/-- Different names are written as different identifiers: only a quoted one has an at sign. -/
theorem identifier_injective : Function.Injective identifier := by
  have hplain {s t : String} (hs : isPlainIdentifier s = true) (ht : isPlainIdentifier t = false) :
      identifier s ≠ identifier t := by
    intro heq
    have hsign : '@' ∉ s.toList := notMem_of_isWord (isWord_of_plain hs) (by decide)
    rw [← toList_identifier_of_plain hs, heq, toList_identifier_of_not_plain ht] at hsign
    exact hsign (List.mem_cons_self ..)
  intro s t heq
  cases hs : isPlainIdentifier s with
  | true =>
    cases ht : isPlainIdentifier t with
    | true =>
      rwa [identifier, if_pos hs, identifier, if_pos ht] at heq
    | false => exact absurd heq (hplain hs ht)
  | false =>
    cases ht : isPlainIdentifier t with
    | true => exact absurd heq.symm (hplain ht hs)
    | false =>
      have hchars := congrArg String.toList heq
      rw [toList_identifier_of_not_plain hs, toList_identifier_of_not_plain ht, List.cons.injEq,
        List.cons.injEq, List.append_cancel_right_eq] at hchars
      exact String.toList_injective (escaped_injective hchars.2.2)

/-- A plain identifier has nothing to escape. -/
theorem escaped_of_plain (h : isPlainIdentifier id = true) : escaped id.toList = id.toList := by
  refine escaped_eq_self fun c hc hmem => ?_
  have hall : escapedChars.all (fun d => !isWordChar d) = true := by decide
  have hnot : isWordChar c = false := by simpa using List.all_eq_true.mp hall c hmem
  exact notMem_of_isWord (isWord_of_plain h) hnot hc

theorem not_slashes_infix_of_plain (h : isPlainIdentifier id = true) :
    ¬ ['/', '/'] <:+: id.toList := by
  intro hslashes
  have hmem : '/' ∈ id.toList := hslashes.subset (List.mem_cons_self ..)
  exact notMem_of_isWord (isWord_of_plain h) (by decide) hmem

/-! ### The line of a name -/

/-- The line of a name begins like no blank, no comment and no end of a block. -/
theorem exists_nameLine_eq_cons (id : String) :
    ∃ c cs, nameLine id = c :: cs ∧ isBlank c = false ∧ c ≠ '/' ∧ c ≠ '}' := by
  cases h : isPlainIdentifier id with
  | false =>
    rw [nameLine, toList_identifier_of_not_plain h]
    exact ⟨'@', _, rfl, by decide, by decide, by decide⟩
  | true =>
    obtain ⟨c, cs, hcs, hc⟩ := exists_cons_of_isWord (isWord_of_plain h)
    rw [nameLine, toList_identifier_of_plain h, hcs]
    exact ⟨c, cs ++ [','], rfl, isBlank_of_isWordChar hc, ne_of_isWordChar hc (by decide),
      ne_of_isWordChar hc (by decide)⟩

theorem trim_nameLine (id : String) : trim (nameLine id) = nameLine id := by
  obtain ⟨c, cs, hcs, hc, -⟩ := exists_nameLine_eq_cons id
  have hne : nameLine id ≠ [] := by simp [hcs]
  refine trim_eq_self hne ?_ ?_
  · simp only [hcs, List.head_cons, hc]
  · simp only [nameLine, List.getLast_append_singleton]
    decide

/-- The indentation of a line is taken off. -/
theorem trim_indented_identifier (id : String) :
    trim (indented 1 (identifier id ++ ",")).toList = nameLine id := by
  have hchars : (indented 1 (identifier id ++ ",")).toList =
      List.replicate 4 ' ' ++ nameLine id := by
    rw [indented, String.toList_append, String.toList_append, nameLine]
    rfl
  rw [hchars, trim, List.dropWhile_append_of_pos (by simp [isBlank]), ← trim, trim_nameLine]

theorem idOn?_nameLine_eq (id : String) :
    idOn? generatedFormat (nameLine id) =
      if (nameOn generatedFormat (nameLine id)).isEmpty then none
      else some (String.ofList (nameOn generatedFormat (nameLine id))) := by
  obtain ⟨c, cs, hcs, -, hc, -⟩ := exists_nameLine_eq_cons id
  rw [hcs]
  exact idOn?_cons rfl hc

/-! ### Names without a pair of slashes -/

/-- The comma after a plain identifier is taken off, and nothing else. -/
theorem unquoted_plain (h : isPlainIdentifier id = true) :
    unquoted (dropEndWhile (· == ',') (nameLine id)) = id.toList := by
  obtain ⟨hne, hword⟩ := isWordChar_of_mem h
  have hlast : id.toList.rdropWhile (· == ',') = id.toList := by
    rw [List.rdropWhile_eq_self_iff]
    intro hne
    have hne_comma := ne_of_isWordChar (hword _ (List.getLast_mem hne))
      (by decide : isWordChar ',' = false)
    simpa using hne_comma
  rw [nameLine, toList_identifier_of_plain h, dropEndWhile_eq_rdropWhile,
    List.rdropWhile_concat_pos _ _ _ (by simp), hlast]
  obtain ⟨c, cs, hcs, hc⟩ := exists_cons_of_isWord (isWord_of_plain h)
  rw [hcs]
  exact unquoted_of_ne (ne_of_isWordChar hc (by decide))

/-- The comma, the at sign and the quotes are taken off, but escapes stay. -/
theorem unquoted_not_plain (h : isPlainIdentifier id = false) :
    unquoted (dropEndWhile (· == ',') (nameLine id)) = escaped id.toList := by
  have hname : dropEndWhile (· == ',') (nameLine id) =
      '@' :: '"' :: (escaped id.toList ++ ['"']) := by
    rw [nameLine, toList_identifier_of_not_plain h, dropEndWhile_eq_rdropWhile,
      List.rdropWhile_concat_pos _ _ _ (by simp), ← List.cons_append, ← List.cons_append,
      List.rdropWhile_concat_neg _ _ _ (by simp)]
  rw [hname, unquoted_cons, List.getLast?_concat, if_pos rfl, List.dropLast_concat]

theorem not_slashes_infix_nameLine (h : ¬ ['/', '/'] <:+: id.toList) :
    ¬ ['/', '/'] <:+: nameLine id := by
  rw [nameLine, slashes_infix_concat (by decide)]
  cases hplain : isPlainIdentifier id with
  | true => rwa [toList_identifier_of_plain hplain]
  | false =>
    rwa [toList_identifier_of_not_plain hplain, slashes_infix_cons (by decide),
      slashes_infix_cons (by decide), slashes_infix_concat (by decide), slashes_infix_escaped]

/-- Without a pair of slashes, a name is read as its escaped form. -/
theorem nameOn_nameLine (h : ¬ ['/', '/'] <:+: id.toList) :
    nameOn generatedFormat (nameLine id) = escaped id.toList := by
  have hline : upTo generatedFormat.commentMark.toList (nameLine id) = nameLine id :=
    upTo_eq_self (not_slashes_infix_nameLine h)
  rw [nameOn, hline, trim_nameLine]
  cases hplain : isPlainIdentifier id with
  | true => rw [unquoted_plain hplain, escaped_of_plain hplain]
  | false => exact unquoted_not_plain hplain

/-! ### Names with a pair of slashes -/

/-- A text has a character that is escaped, but no pair of slashes. -/
def IsEscapable (cs : List Char) : Prop :=
  (∃ c ∈ cs, c ∈ escapedChars) ∧ ¬ ['/', '/'] <:+: cs

theorem IsEscapable.escaped (h : IsEscapable cs) : IsEscapable (escaped cs) :=
  ⟨⟨_, backslash_mem_escaped h.1, by decide⟩, mt slashes_infix_escaped.mp h.2⟩

/-- What is read in front of a pair of slashes is an at sign, a quote and some of the escaped
form. -/
theorem upTo_nameLine (h : ['/', '/'] <:+: id.toList) :
    upTo ['/', '/'] (nameLine id) = '@' :: '"' :: upTo ['/', '/'] (escaped id.toList) := by
  have hplain : isPlainIdentifier id = false :=
    Bool.eq_false_iff.mpr fun hplain => not_slashes_infix_of_plain hplain h
  have hline : nameLine id = '@' :: '"' :: (escaped id.toList ++ ['"', ',']) := by
    rw [nameLine, toList_identifier_of_not_plain hplain]
    simp
  have hstep {c : Char} (hc : '/' ≠ c) (ds : List Char) :
      upTo ['/', '/'] (c :: ds) = c :: upTo ['/', '/'] ds := by
    rw [upTo, if_neg]
    simp [List.isPrefixOf, hc]
  rw [hline, hstep (by decide), hstep (by decide), upTo_append (slashes_infix_escaped.mpr h)]

/-- Of a name with a pair of slashes, a text is read that could be escaped again. -/
theorem isEscapable_nameOn (h : ['/', '/'] <:+: id.toList) :
    IsEscapable (nameOn generatedFormat (nameLine id)) := by
  obtain ⟨before, hbefore, htrim⟩ := exists_trim_eq (List.forall_mem_nil _) (c := '@') (d := '"')
    (by decide) (by decide) [] (upTo ['/', '/'] (escaped id.toList))
  obtain ⟨name, hname, hcommas⟩ := exists_dropEndWhile_eq (p := (· == ',')) ['@'] before
    (c := '"') (by decide)
  have hread : nameOn generatedFormat (nameLine id) = unquoted ('@' :: '"' :: name) := by
    rw [nameOn, show generatedFormat.commentMark.toList = ['/', '/'] from rfl, upTo_nameLine h]
    exact congrArg unquoted ((congrArg _ htrim).trans hcommas)
  have hprefix : name <+: escaped id.toList := hname.trans (hbefore.trans upTo_prefix)
  have hslashes : ¬ ['/', '/'] <:+: name := fun hpair =>
    not_infix_upTo (List.cons_ne_nil _ _) (hpair.trans (hname.trans hbefore).isInfix)
  rw [hread, unquoted_cons]
  split
  · next hlast =>
    -- The last quote belongs to the name, so that its backslash is left.
    obtain ⟨front, rfl⟩ := List.getLast?_eq_some_iff.mp hlast
    rw [List.dropLast_concat]
    refine ⟨⟨'\\', backslash_mem_of_prefix_escaped hprefix, by decide⟩, fun hpair => ?_⟩
    exact hslashes (hpair.trans (List.prefix_append _ _).isInfix)
  · refine ⟨⟨'"', by simp, by decide⟩, ?_⟩
    rwa [slashes_infix_cons (by decide), slashes_infix_cons (by decide)]

end CombatContent.Enumeration
