import Mathlib.Data.List.Forall2
import OperationHooks.Loading

/-!
# What is loaded

Files are collected in the order of their paths. Loading answers either with a document for each of
them, in that order, or not at all.
-/

namespace OperationHooks

/-! ### The order of files -/

lemma pairwise_sortByPath (files : List FoundFile) :
    (sortByPath files).Pairwise (fun f f' => f.path ≤ f'.path) := by
  have sorted := @List.pairwise_mergeSort _ (fun f f' : FoundFile => decide (f.path ≤ f'.path))
    (fun f f' f'' => by simpa using String.le_trans)
    (fun f f' => by simpa using String.le_total f.path f'.path) files
  simpa [sortByPath] using sorted

lemma pairwise_collect (fs : FileSystem) (path : String) (endings : List String) :
    (fs.collect path endings).Pairwise (fun f f' => f.path ≤ f'.path) := by
  rw [FileSystem.collect]
  split
  · exact .nil
  · split_ifs
    · exact List.pairwise_singleton _ _
    · exact .nil
  · exact pairwise_sortByPath _

/-! ### Documents of files -/

lemma load_path {f : FoundFile} {d : LoadedDocument} (h : f.load = .ok d) : d.path = f.path := by
  rw [FoundFile.load] at h
  split at h
  · cases h
  · split at h
    · cases h
      rfl
    · cases h

/-- All files are read, and each gives its document. -/
lemma readDocuments_eq_ok {fs : List FoundFile} {ds : List LoadedDocument}
    (h : (readDocuments fs).result = .ok ds) :
    List.Forall₂ (fun f d => f.load = .ok d) fs ds := by
  induction fs generalizing ds with
  | nil =>
    cases h
    exact .nil
  | cons f fs ih =>
    rw [readDocuments] at h
    split at h
    · cases h
    · next d loaded =>
      dsimp only at h
      cases rest : (readDocuments fs).result with
      | error e => simp [rest, Except.map] at h
      | ok ds =>
        rw [rest] at h
        cases h
        exact .cons loaded (ih rest)

namespace FileSystem

/-- Loaded documents are those of the files that are collected. -/
lemma loadSources_eq_ok {fs : FileSystem} {kind : SourceKind} {path : String}
    {ds : List LoadedDocument} (h : (fs.loadSources kind path).result = .ok ds) :
    List.Forall₂ (fun f d => f.load = .ok d) (fs.collect path kind.endings) ds := by
  rw [loadSources] at h
  split at h
  · cases h
  · exact readDocuments_eq_ok h

/-- Loaded documents are in the order of their paths. -/
lemma pairwise_loadSources {fs : FileSystem} {kind : SourceKind} {path : String}
    {ds : List LoadedDocument} (h : (fs.loadSources kind path).result = .ok ds) :
    ds.Pairwise (fun d d' => d.path ≤ d'.path) := by
  have paths : ds.map (·.path) = (fs.collect path kind.endings).map (·.path) := by
    rw [← List.forall₂_eq_eq_eq, List.forall₂_map_left_iff, List.forall₂_map_right_iff]
    exact (loadSources_eq_ok h).flip.imp fun _ _ loaded => load_path loaded
  rw [← List.pairwise_map (f := LoadedDocument.path) (R := (· ≤ ·)), paths, List.pairwise_map]
  exact pairwise_collect fs path kind.endings

end FileSystem

end OperationHooks
