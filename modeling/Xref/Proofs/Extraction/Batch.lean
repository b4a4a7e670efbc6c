import Mathlib.Data.List.Basic
import Mathlib.Data.List.Induction
import Mathlib.Data.List.Nodup
import Xref.Extraction
import Xref.Proofs.FirstOccurrence
import Xref.Proofs.Traversal.Identifiers
import Xref.Proofs.Traversal.Sites

/-!
# Extraction from many files

The results of many files are kept by path. A path has its place from its first file and its result
from its last. One more file sets one key, which changes the value of this key and no other
(`lookup_setKey`), and adds the key at the end if it is new (`map_fst_setKey`). So by induction on
the files, the last one first, the keys are the paths in the order of their first occurrence
(`extractAll_inFirstOrder`), and at each path is the result of its last file, whether that is an
index or an error (`lookup_extractAll`).
-/

namespace Xref

/-! ## Setting one key -/

section

variable {α β : Type} [DecidableEq α]

/-- What is found at a key in a list that starts with a given pair. -/
theorem lookup_cons_ite (first k : α) (value : β) (pairs : List (α × β)) :
    ((first, value) :: pairs).lookup k = if k = first then some value else pairs.lookup k := by
  rw [List.lookup_cons]
  by_cases hk : k = first
  · rw [if_pos hk, beq_iff_eq.mpr hk]
  · rw [if_neg hk, beq_false_of_ne hk]

/-- Setting a key changes what is found there, and nothing else. -/
theorem lookup_setKey (key : α) (value : β) (pairs : List (α × β)) (k : α) :
    (setKey key value pairs).lookup k = if k = key then some value else pairs.lookup k := by
  induction pairs with
  | nil => exact lookup_cons_ite key k value []
  | cons pair pairs ih =>
    obtain ⟨first, old⟩ := pair
    rw [setKey]
    by_cases hfirst : first = key
    · rw [if_pos hfirst, lookup_cons_ite, lookup_cons_ite, hfirst]
      by_cases hk : k = key
      · rw [if_pos hk, if_pos hk]
      · rw [if_neg hk, if_neg hk, if_neg hk]
    · rw [if_neg hfirst, lookup_cons_ite, lookup_cons_ite, ih]
      by_cases hk : k = first
      · have hne : k ≠ key := fun h => hfirst (hk.symm.trans h)
        rw [if_pos hk, if_neg hne, if_pos hk]
      · rw [if_neg hk, if_neg hk]

/-- A key that is there keeps its place, and a new one comes last. -/
theorem map_fst_setKey (key : α) (value : β) (pairs : List (α × β)) :
    (setKey key value pairs).map Prod.fst =
      if key ∈ pairs.map Prod.fst then pairs.map Prod.fst else pairs.map Prod.fst ++ [key] := by
  induction pairs with
  | nil => rfl
  | cons pair pairs ih =>
    obtain ⟨first, old⟩ := pair
    rw [setKey]
    by_cases hfirst : first = key
    · rw [if_pos hfirst, hfirst]
      simp
    · have hne : key ≠ first := fun h => hfirst h.symm
      rw [if_neg hfirst, List.map_cons, ih, List.map_cons]
      by_cases hmem : key ∈ pairs.map Prod.fst
      · rw [if_pos hmem, if_pos (List.mem_cons_of_mem first hmem)]
      · rw [if_neg hmem, if_neg fun h => (List.mem_cons.mp h).elim hne hmem, List.cons_append]

end

/-! ## Files -/

section

variable {T : Type} {render : T → String} {config : Config}

/-- One more file sets the result of its path. -/
theorem extractAll_concat (files : List (SourceFile T)) (file : SourceFile T) :
    extractAll (files ++ [file]) render config =
      setKey file.path (extract file.renamed file.typechecked render config)
        (extractAll files render config) := by
  unfold extractAll
  rw [List.foldl_append]
  rfl

/-- The keys are the paths of the files, in the order of their first occurrences. -/
theorem extractAll_inFirstOrder (files : List (SourceFile T)) :
    InFirstOrder ((extractAll files render config).map Prod.fst)
      (files.map SourceFile.path) := by
  induction files using List.reverseRecOn with
  | nil => exact ⟨List.nodup_nil, fun _ => Iff.rfl, List.Pairwise.nil⟩
  | append_singleton files file ih =>
    rw [extractAll_concat, map_fst_setKey, List.map_append]
    exact ih.concat file.path

/-- At a path is the result of the last file with this path. -/
theorem lookup_extractAll (files : List (SourceFile T)) (path : String) :
    (extractAll files render config).lookup path =
      (files.findRev? fun file => file.path = path).map fun file =>
        extract file.renamed file.typechecked render config := by
  induction files using List.reverseRecOn with
  | nil => rfl
  | append_singleton files file ih =>
    rw [extractAll_concat, lookup_setKey, ih, List.findRev?_eq_find?_reverse,
      List.findRev?_eq_find?_reverse, List.reverse_append, List.reverse_singleton,
      List.singleton_append, List.find?_cons]
    by_cases hpath : file.path = path
    · simp [hpath]
    · have hne : path ≠ file.path := fun h => hpath h.symm
      simp [hpath, hne]

/-- A file does not matter for the last file with another path. -/
theorem findRev?_append_cons {before after : List (SourceFile T)} {file : SourceFile T}
    {path : String} (h : path ≠ file.path) :
    ((before ++ file :: after).findRev? fun file => file.path = path) =
      (before ++ after).findRev? fun file => file.path = path := by
  have hne : file.path ≠ path := fun heq => h heq.symm
  rw [List.findRev?_eq_find?_reverse, List.findRev?_eq_find?_reverse, List.reverse_append,
    List.reverse_cons, List.reverse_append, List.find?_append, List.find?_append,
    List.find?_append, List.find?_singleton]
  simp [hne]

end

/-- Extraction from many files is extraction from each of them, kept by path. The keys are the paths
of the files, each once, in the order of their first occurrences. At each path is the result of the
last file with this path, whether it is an index or an error. And no file, failing or not, has any
effect on the result at another path. -/
theorem extractAll_keyed_by_path {T : Type} (files : List (SourceFile T)) (render : T → String)
    (config : Config) :
    InFirstOrder ((extractAll files render config).map Prod.fst) (files.map SourceFile.path) ∧
    (∀ path, (extractAll files render config).lookup path =
      (files.findRev? fun file => file.path = path).map fun file =>
        extract file.renamed file.typechecked render config) ∧
    ∀ before file after path, files = before ++ file :: after → path ≠ file.path →
      (extractAll files render config).lookup path =
        (extractAll (before ++ after) render config).lookup path := by
  refine ⟨extractAll_inFirstOrder files, lookup_extractAll files, ?_⟩
  rintro before file after path rfl hpath
  rw [lookup_extractAll, lookup_extractAll, findRev?_append_cons hpath]

/-- Of three files the first cannot be indexed, and the last has the same path. The path keeps its
place before the other one and has the result of the last file. The file that failed has no effect
on the other path. -/
theorem signatureFiles_batched :
    let file := fun (path tag : String) =>
      let m := signatureModule (.known (.onLine "T.hs" 1 4 4)) tag
      SourceFile.mk path m (m.map (TypedName.mk · "Int") (TypedName.mk · "Int"))
    let last := file "B.hs" "var"
    let files := [file "B.hs" "unknown", file "A.hs" "var", last]
    let results := extractAll files id {}
    results.map Prod.fst = ["B.hs", "A.hs"] ∧
      InFirstOrder (results.map Prod.fst) (files.map SourceFile.path) ∧
      results.lookup "B.hs" = some (extract last.renamed last.typechecked id {}) ∧
      results.lookup "A.hs" = (extractAll [file "A.hs" "var", last] id {}).lookup "A.hs" := by
  intro file last files results
  obtain ⟨hkeys, hlast, hothers⟩ := extractAll_keyed_by_path files id {}
  exact ⟨rfl, hkeys, hlast "B.hs", hothers [] _ _ "A.hs" rfl (by decide)⟩

end Xref
