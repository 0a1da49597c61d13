import CombatContent.Document
import CombatContent.Proofs.Document.Json
import CombatContent.Proofs.Document.Ron
import CombatContent.Proofs.Document.Toml

/-!
# Keys of documents

Whatever its format is, a document that is read has one member per key in each of its maps.

## Main results

* `Document.hasDistinctKeys_of_ofText`: documents that are read.
-/

namespace CombatContent.Document

variable {format : DocumentFormat} {origin text : String} {t : Tree}

theorem hasDistinctKeys_of_tree (h : tree format origin text = .ok t) : t.HasDistinctKeys := by
  cases format with
  | json =>
    simp only [tree] at h
    cases hread : Json.ofText text.toList with
    | error fault => simp [hread, jsonAnswer] at h
    | ok u =>
      obtain rfl : u = t := by simpa [hread, jsonAnswer] using h
      exact Json.hasDistinctKeys_of_ofText hread
  | ron =>
    simp only [tree] at h
    cases hread : Ron.ofText text.toList with
    | none => simp [hread, plainAnswer] at h
    | some u =>
      obtain rfl : u = t := by simpa [hread, plainAnswer] using h
      exact Ron.hasDistinctKeys_of_ofText hread
  | toml =>
    simp only [tree] at h
    cases hread : Toml.ofText text.toList with
    | none => simp [hread, plainAnswer] at h
    | some u =>
      obtain rfl : u = t := by simpa [hread, plainAnswer] using h
      exact Toml.hasDistinctKeys_of_ofText hread

/-- A document that is read has distinct keys, at any depth. -/
theorem hasDistinctKeys_of_ofText (h : ofText format origin text = .ok t) :
    t.HasDistinctKeys := by
  rw [ofText] at h
  cases hread : tree format origin text with
  | error fault => simp [hread, bind, Except.bind] at h
  | ok u =>
    simp only [hread, bind, Except.bind] at h
    split at h
    · cases h
      exact hasDistinctKeys_of_tree hread
    · cases h

end CombatContent.Document
