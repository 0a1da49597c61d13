import CombatContent.Proofs.CommandLine.Runs
import CombatContent.Proofs.Content.NullMembers
import CombatContent.Proofs.Document.Reading
import CombatContent.Proofs.Reordering.Output
import CombatContent.Proofs.Weapons.PathIds

/-!
# The documents of runs

A run loads one document, from a file or from the standard input, and whatever is read has distinct
keys. What holds of documents with distinct keys therefore holds of every run, without a word on
keys: null members are not seen, the order of members is not seen in what is generated, and the
weapons are the records below their categories, which their ids lead back to.

## Main results

* `FileView.HoldsDocument.hasDistinctKeys`: the documents that runs load.
* `FileView.HoldsDocument.findsRecords`, `FileView.HoldsDocument.at?_keysOfId`,
  `FileView.HoldsDocument.exists_dot`: the weapons of such a document.
* `CommandLine.perform_dropNulls`: runs without null members.
* `FileView.Generates.of_isReordering`: what is generated from a reordered document.
-/

namespace CombatContent

open CommandLine (Request)

variable {v : FileView} {bytes bytes' : ByteArray} {input : Option String} {document : Tree}

/-! ### What is held -/

namespace FileView.HoldsDocument

/-- A document that a run loads has distinct keys. -/
theorem hasDistinctKeys (h : v.HoldsDocument bytes input document) : document.HasDistinctKeys := by
  cases h with
  | file hfile =>
    obtain ⟨format, text, -, -, hread⟩ := hfile
    exact Document.hasDistinctKeys_of_ofText hread
  | standardInput htext hread => exact Document.hasDistinctKeys_of_ofText hread

/-- There is one document to load at most. -/
theorem unique {other : Tree} (h : v.HoldsDocument bytes input document)
    (hother : v.HoldsDocument bytes input other) : document = other := by
  cases h with
  | file hfile =>
    cases hother with
    | file hfile' =>
      obtain ⟨format, text, hformat, htext, hread⟩ := hfile
      obtain ⟨format', text', hformat', htext', hread'⟩ := hfile'
      cases hformat.symm.trans hformat'
      cases htext.symm.trans htext'
      exact Except.ok.inj (hread.symm.trans hread')
  | standardInput htext hread =>
    cases hother with
    | standardInput htext' hread' =>
      cases htext.symm.trans htext'
      exact Except.ok.inj (hread.symm.trans hread')

/-! ### Weapons -/

/-- The weapons found in a document that a run loads are the records below its map of weapons. -/
theorem findsRecords (h : v.HoldsDocument bytes input document) :
    Draft.FindsRecords (Draft.membersAt document "weapons") (Draft.placedWeapons document) :=
  Draft.findsRecords_placedWeapons h.hasDistinctKeys

/-- Where no key on the path of a weapon has a dot, its id leads back to its node. -/
theorem at?_keysOfId (h : v.HoldsDocument bytes input document) {path : List String} {node : Tree}
    (hmem : (path, node) ∈ Draft.placedWeapons document) (hdots : ∀ key ∈ path, '.' ∉ key.toList) :
    (Tree.map (Draft.membersAt document "weapons")).at? (Draft.keysOfId (Draft.pathId path)) =
      some node :=
  (((h.findsRecords.mem_iff path node).mp hmem).at?_keysOfId hdots).2

/-- Of two weapons with one id, some key on one of the paths has a dot. -/
theorem exists_dot (h : v.HoldsDocument bytes input document) :
    (Draft.placedWeapons document).Pairwise fun a b =>
      Draft.pathId a.1 = Draft.pathId b.1 → ∃ key ∈ a.1 ++ b.1, '.' ∈ key.toList :=
  h.findsRecords.exists_dot

end FileView.HoldsDocument

/-! ### Null members -/

/-- A run on a document without its null members ends as the run on the document, in what it
writes, in its exit, and in what it complains of. -/
theorem CommandLine.perform_dropNulls {σ : Type} {files : FileAccess (StateM σ)} {s : σ}
    (hfiles : files.Shows s v) {r : Request} (hheld : v.HoldsDocument bytes r.input document)
    (hdropped : v.HoldsDocument bytes' input document.dropNulls)
    (h : Draft.HasNoNullRecord document) :
    (perform files (pure bytes') { r with input := input }).run s =
      (perform files (pure bytes) r).run s := by
  have hcontent := Content.ofDocument_eq_of_drafts (Draft.drafts_dropNulls hheld.hasDistinctKeys h)
  have hrun := run_perform hfiles (r := { r with input := input }) hdropped
  rw [hrun, run_perform hfiles hheld, hcontent]
  rfl

/-! ### Order of members -/

/-- What there is to generate from a document is there to generate from the document reordered. -/
theorem FileView.Generates.of_isReordering {r : Request} {document' : Tree} {text : String}
    (hgenerates : v.Generates bytes r text) (hheld : v.HoldsDocument bytes r.input document)
    (hreordered : v.HoldsDocument bytes' input document')
    (h : Draft.IsReordering document document')
    (hids : ∀ k ∈ [Dataset.armourPieces, .combatTests, .species],
      ((Draft.ofDocument document k).map Draft.id).Nodup) :
    v.Generates bytes' { r with input := input } text := by
  obtain ⟨held, hheld', settings, hsettings, committed, hcommitted, hgenerate⟩ := hgenerates
  obtain rfl := hheld.unique hheld'
  obtain ⟨hnone, -, -⟩ := Zig.generate_eq_ok_iff.mp hgenerate
  obtain ⟨hnone', halike⟩ := Content.alike_ofDocument hheld.hasDistinctKeys hids h hnone
  have hnodup := Content.nodup_ids_ofDocument hheld.hasDistinctKeys hids
  exact ⟨document', hreordered, settings, hsettings, committed, hcommitted,
    Zig.generate_eq_ok_of_alike halike hnone' hnodup hgenerate⟩

end CombatContent
