import Mathlib.Data.List.Nodup
import OperationHooks.Proofs.Files.Writing
import OperationHooks.Proofs.Loading
import OperationHooks.Proofs.Text.Joining
import OperationHooks.Proofs.Text.Parts

/-!
# What is collected

The files that a folder stands for are those at any depth below it whose names have one of the
endings, each once, in the order of their paths. In which order the entries of folders are kept is
of no account.
-/

namespace OperationHooks

/-! ### The files of a tree -/

namespace FileNode

mutual

/-- The files of a node are what look-up finds. -/
lemma mem_files (node : FileNode) (f : List FileName × ByteArray) :
    f ∈ node.files ↔ node.content? f.1 = some f.2 := by
  match node with
  | .file content =>
    obtain ⟨names, c⟩ := f
    cases names <;> simp [files, eq_comm]
  | .folder entries => exact mem_filesOfEntries entries f

lemma mem_filesOfEntries (entries : List (FileName × FileNode))
    (f : List FileName × ByteArray) :
    f ∈ filesOfEntries entries ↔ (folder entries).content? f.1 = some f.2 := by
  obtain ⟨names, content⟩ := f
  match entries with
  | [] => cases names <;> simp [filesOfEntries, child?]
  | (name, node) :: rest =>
    have first := mem_files node
    have others := mem_filesOfEntries rest
    cases names with
    | nil => simp [filesOfEntries, others]
    | cons n names =>
      by_cases here : name = n
      · subst here
        simp [filesOfEntries, child?, others, first]
      · simp [filesOfEntries, child?, others, first, here, Ne.symm here]

end

mutual

/-- No file is listed twice. -/
lemma nodup_files (node : FileNode) : (node.files.map (·.1)).Nodup := by
  match node with
  | .file content => simp [files]
  | .folder entries => exact nodup_filesOfEntries entries

lemma nodup_filesOfEntries (entries : List (FileName × FileNode)) :
    ((filesOfEntries entries).map (·.1)).Nodup := by
  match entries with
  | [] => simp [filesOfEntries]
  | (name, node) :: rest =>
    have first : ((node.files.map fun f => (name :: f.1, f.2)).map (·.1)).Nodup := by
      have below := (nodup_files node).map (List.cons_injective (a := name))
      rwa [List.map_map] at below ⊢
    have others : (((filesOfEntries rest).filter fun f => f.1.head? ≠ some name).map (·.1)).Nodup :=
      (nodup_filesOfEntries rest).sublist (List.filter_sublist.map _)
    rw [filesOfEntries, List.map_append, List.nodup_append']
    refine ⟨first, others, ?_⟩
    intro names here there
    obtain ⟨f, -, rfl⟩ : ∃ f ∈ node.files, name :: f.1 = names := by simpa using here
    obtain ⟨g, hg, same⟩ := List.mem_map.mp there
    simp [same] at hg

end

/-! ### The order of entries -/

/-- Nodes that differ in the order of entries alone: in one folder after the other, two neighbours
with different names change places. -/
inductive Reordered : FileNode → FileNode → Prop
  | refl (node : FileNode) : Reordered node node
  | swap (before after : List (FileName × FileNode)) (a b : FileName × FileNode)
      (apart : a.1 ≠ b.1) :
      Reordered (.folder (before ++ a :: b :: after)) (.folder (before ++ b :: a :: after))
  | inside (before after : List (FileName × FileNode)) (name : FileName) {node node' : FileNode}
      (h : Reordered node node') :
      Reordered (.folder (before ++ (name, node) :: after))
        (.folder (before ++ (name, node') :: after))
  | trans {node node' node'' : FileNode} (h : Reordered node node') (h' : Reordered node' node'') :
      Reordered node node''

/-- A file is never reordered, and a folder is reordered to a folder. -/
lemma Reordered.cases_kind {node node' : FileNode} (h : Reordered node node') :
    (∃ content, node = .file content ∧ node' = .file content) ∨
      ∃ entries entries', node = .folder entries ∧ node' = .folder entries' := by
  induction h with
  | refl node =>
    cases node with
    | file content => exact .inl ⟨content, rfl, rfl⟩
    | folder entries => exact .inr ⟨entries, entries, rfl, rfl⟩
  | swap => exact .inr ⟨_, _, rfl, rfl⟩
  | inside => exact .inr ⟨_, _, rfl, rfl⟩
  | trans _ _ ih ih' =>
    rcases ih with ⟨content, rfl, rfl⟩ | ⟨entries, entries', rfl, rfl⟩
    · exact ih'
    · rcases ih' with ⟨content, same, -⟩ | ⟨-, entries'', -, rfl⟩
      · cases same
      · exact .inr ⟨entries, entries'', rfl, rfl⟩

lemma rel_self (found : Option FileNode) : Option.Rel Reordered found found := by
  cases found with
  | none => exact .none
  | some node => exact .some (.refl node)

lemma rel_trans {x y z : Option FileNode} (h : Option.Rel Reordered x y)
    (h' : Option.Rel Reordered y z) : Option.Rel Reordered x z := by
  cases h with
  | none =>
    cases h'
    exact .none
  | some h =>
    cases h' with
    | some h' => exact .some (h.trans h')

/-- Look-up finds the same places, with nodes that are reordered at most. -/
lemma Reordered.find? {node node' : FileNode} (h : Reordered node node') (names : List FileName) :
    Option.Rel Reordered (node.find? names) (node'.find? names) := by
  induction h generalizing names with
  | refl node => exact rel_self _
  | swap before after a b apart =>
    cases names with
    | nil => exact .some (.swap before after a b apart)
    | cons name names =>
      have same : child? name (before ++ a :: b :: after) =
          child? name (before ++ b :: a :: after) := by
        rw [child?_append, child?_append, child?, child?, child?, child?]
        by_cases ha : a.1 = name
        · rw [if_pos ha, if_neg fun hb => apart (ha.trans hb.symm), if_pos ha]
        · rw [if_neg ha, if_neg ha]
      rw [FileNode.find?, FileNode.find?, same]
      exact rel_self _
  | inside before after name h ih =>
    cases names with
    | nil => exact .some (.inside before after name h)
    | cons n names =>
      rw [FileNode.find?, FileNode.find?, child?_append, child?_append, child?, child?]
      cases child? n before with
      | some found => exact rel_self _
      | none =>
        by_cases here : name = n
        · simpa [here] using ih names
        · rw [if_neg here, if_neg here]
          exact rel_self _
  | trans _ _ ih ih' => exact rel_trans (ih names) (ih' names)

lemma Reordered.content? {node node' : FileNode} (h : Reordered node node')
    (names : List FileName) : node.content? names = node'.content? names := by
  have found := h.find? names
  rw [FileNode.content?, FileNode.content?]
  generalize node.find? names = x, node'.find? names = y at found
  cases found with
  | none => rfl
  | some below =>
    rcases below.cases_kind with ⟨content, rfl, rfl⟩ | ⟨entries, entries', rfl, rfl⟩
    · rfl
    · rfl

end FileNode

namespace FileSystem

/-- File systems that differ in the order of entries alone. -/
structure Reordered (fs fs' : FileSystem) : Prop where
  root : fs.root.Reordered fs'.root
  here : fs.here = fs'.here

lemma follow_reordered {root root' : FileNode} (h : root.Reordered root') (place : List FileName)
    (steps : List Step) :
    Option.Rel FileNode.Reordered (follow root place steps) (follow root' place steps) := by
  induction steps generalizing place with
  | nil => exact h.find? place
  | cons step steps ih =>
    have found := h.find? place
    rw [follow, follow]
    generalize root.find? place = x, root'.find? place = y at found
    cases found with
    | none => exact .none
    | some below =>
      rcases below.cases_kind with ⟨content, rfl, rfl⟩ | ⟨entries, entries', rfl, rfl⟩
      · exact .none
      · exact ih _

lemma Reordered.find? {fs fs' : FileSystem} (h : fs.Reordered fs') (path : String) :
    Option.Rel FileNode.Reordered (fs.find? path) (fs'.find? path) := by
  rw [FileSystem.find?, FileSystem.find?, start, start, h.here]
  split_ifs
  · exact .none
  · exact follow_reordered h.root _ _
  · exact follow_reordered h.root _ _

end FileSystem

/-! ### Paths below a path -/

lemma slash_not_mem (n : FileName) : '/' ∉ n.text.toList := by
  rw [FileName.text, String.toList_ofList]
  exact n.isName.2.2.2

/-- Names with slashes between them are cut at the slashes into the names again. -/
lemma splitAtChar_names (n : FileName) (names : List FileName) :
    splitAtChar '/' ("/".intercalate ((n :: names).map FileName.text)).toList =
      (n :: names).map FileName.chars := by
  induction names generalizing n with
  | nil =>
    rw [List.map_singleton, String.intercalate_singleton, splitAtChar_of_not_mem (slash_not_mem n),
      FileName.text, String.toList_ofList]
    rfl
  | cons n' names ih =>
    have next := ih n'
    have cut : ("/".intercalate ((n :: n' :: names).map FileName.text)).toList =
        n.text.toList ++ '/' :: ("/".intercalate ((n' :: names).map FileName.text)).toList := by
      simp [String.intercalate_cons_cons]
    rw [cut, splitAtChar_append, splitAtChar_of_not_mem (slash_not_mem n), next, FileName.text,
      String.toList_ofList]
    rfl

lemma FileName.chars_injective : Function.Injective FileName.chars := by
  intro n n' h
  cases n
  cases n'
  cases h
  rfl

/-- Different names lead to different paths. -/
lemma Path.join_injective (path : String) {names names' : List FileName} (some_name : names ≠ [])
    (some_name' : names' ≠ []) (h : Path.join path names = Path.join path names') :
    names = names' := by
  obtain ⟨n, names, rfl⟩ := List.exists_cons_of_ne_nil some_name
  obtain ⟨n', names', rfl⟩ := List.exists_cons_of_ne_nil some_name'
  have joined : "/".intercalate ((n :: names).map FileName.text) =
      "/".intercalate ((n' :: names').map FileName.text) := by
    simp only [Path.join] at h
    split at h
    · exact (String.append_right_inj _).mp h
    · exact (String.append_right_inj _).mp h
  have chars := congrArg (fun t : String => splitAtChar '/' t.toList) joined
  simp only [splitAtChar_names] at chars
  exact List.map_injective_iff.mpr FileName.chars_injective chars

/-! ### Files below a path -/

/-- A text ends in one of the endings. -/
def EndsIn (endings : List String) (text : List Char) : Prop :=
  ∃ ending ∈ endings, ending.toList <:+ text

lemma hasEnding_iff {endings : List String} {text : List Char} :
    hasEnding endings text = true ↔ EndsIn endings text := by
  simp [hasEnding, EndsIn]

instance (endings : List String) (text : List Char) : Decidable (EndsIn endings text) :=
  decidable_of_iff _ hasEnding_iff

variable {path : String} {endings : List String} {entries entries' : List (FileName × FileNode)}

/-- The files at any depth of a folder whose names end as they should, under their paths. -/
lemma mem_foundBelow {f : FoundFile} :
    f ∈ foundBelow path endings (.folder entries) ↔
      ∃ names name, (FileNode.folder entries).content? (names ++ [name]) = some f.content ∧
        EndsIn endings name.chars ∧ f.path = Path.join path (names ++ [name]) := by
  simp only [foundBelow, List.mem_map, List.mem_filter, FileNode.mem_files]
  constructor
  · rintro ⟨⟨names, content⟩, ⟨there, wanted⟩, rfl⟩
    cases last : names.getLast? with
    | none => simp [last] at wanted
    | some name =>
      obtain ⟨before, rfl⟩ := List.getLast?_eq_some_iff.mp last
      rw [last] at wanted
      exact ⟨before, name, there, hasEnding_iff.mp wanted, rfl⟩
  · rintro ⟨names, name, there, wanted, named⟩
    refine ⟨(names ++ [name], f.content), ⟨there, ?_⟩, ?_⟩
    · simpa using hasEnding_iff.mpr wanted
    · rw [← named]

lemma nodup_foundBelow :
    ((foundBelow path endings (.folder entries)).map (·.path)).Nodup := by
  let wanted : List (List FileName × ByteArray) := (FileNode.folder entries).files.filter fun f =>
    (f.1.getLast?.map fun n => hasEnding endings n.chars).getD false
  have names : (wanted.map (·.1)).Nodup :=
    (FileNode.nodup_files _).sublist (List.filter_sublist.map _)
  have named : ∀ place ∈ wanted.map (·.1), place ≠ [] := by
    rintro place hp rfl
    obtain ⟨f, hf, empty⟩ := List.mem_map.mp hp
    have ends := (List.mem_filter.mp hf).2
    simp [empty] at ends
  have paths : (foundBelow path endings (.folder entries)).map (·.path) =
      (wanted.map (·.1)).map (Path.join path) := by
    rw [foundBelow, List.map_map, List.map_map]
    rfl
  rw [paths]
  refine names.map_on ?_
  intro place hp place' hp' same
  exact Path.join_injective path (named place hp) (named place' hp') same

/-- Paths of collected files strictly increase. -/
lemma pairwise_lt_sortByPath {files : List FoundFile} (distinct : (files.map (·.path)).Nodup) :
    (sortByPath files).Pairwise (fun f f' => f.path < f'.path) := by
  have sorted := pairwise_sortByPath files
  have perm : (sortByPath files).Perm files := List.mergeSort_perm _ _
  have apart : (sortByPath files).Pairwise (fun f f' => f.path ≠ f'.path) :=
    List.pairwise_map.mp ((perm.map _).nodup_iff.mpr distinct)
  refine (sorted.and apart).imp ?_
  rintro f f' ⟨below, other⟩
  by_contra notLess
  exact other (String.le_antisymm below (String.not_lt.mp notLess))

/-- Lists with the same files in the order of different paths are the same. -/
lemma eq_of_pairwise_lt {files files' : List FoundFile}
    (sorted : files.Pairwise (fun f f' => f.path < f'.path))
    (sorted' : files'.Pairwise (fun f f' => f.path < f'.path))
    (same : ∀ f, f ∈ files ↔ f ∈ files') : files = files' := by
  have irrefl {f f' : FoundFile} (h : f.path < f'.path) : f ≠ f' := by
    rintro rfl
    exact String.lt_irrefl _ h
  have perm : files.Perm files' :=
    (List.perm_ext_iff_of_nodup (sorted.imp irrefl) (sorted'.imp irrefl)).mpr same
  refine perm.eq_of_pairwise ?_ sorted sorted'
  intro f f' _ _ before behind
  exact absurd behind (String.lt_asymm before)

namespace FileSystem

variable {fs fs' : FileSystem}

lemma pairwise_lt_collect (fs : FileSystem) (path : String) (endings : List String) :
    (fs.collect path endings).Pairwise (fun f f' => f.path < f'.path) := by
  rw [collect]
  split
  · exact .nil
  · split_ifs
    · exact List.pairwise_singleton _ _
    · exact .nil
  · exact pairwise_lt_sortByPath nodup_foundBelow

lemma mem_collect_folder (there : fs.find? path = some (.folder entries)) (f : FoundFile) :
    f ∈ fs.collect path endings ↔
      ∃ names name, (FileNode.folder entries).content? (names ++ [name]) = some f.content ∧
        EndsIn endings name.chars ∧ f.path = Path.join path (names ++ [name]) := by
  rw [collect, there, ← mem_foundBelow]
  exact (List.mergeSort_perm _ _).mem_iff

/-- What is collected does not hang on the order of entries. -/
lemma collect_reordered (h : fs.Reordered fs') (path : String) (endings : List String) :
    fs.collect path endings = fs'.collect path endings := by
  refine eq_of_pairwise_lt (pairwise_lt_collect fs path endings)
    (pairwise_lt_collect fs' path endings) fun f => ?_
  have found := h.find? path
  generalize at_path : fs.find? path = x, at_path' : fs'.find? path = y at found
  cases found with
  | none => rw [collect, collect, at_path, at_path']
  | some below =>
    rcases below.cases_kind with ⟨content, rfl, rfl⟩ | ⟨entries, entries', rfl, rfl⟩
    · rw [collect, collect, at_path, at_path']
    · simp only [mem_collect_folder at_path, mem_collect_folder at_path', below.content?]

/-- What a path stands for: a file with one of the endings stands for itself, a folder for the files
at any depth below it whose names have one of the endings, and every other path for nothing. The
paths lead from the given one to the files and strictly increase, so no file is there twice; and
they are the same in whatever order folders list their entries. -/
theorem collect_exact (fs : FileSystem) (path : String) (endings : List String) :
    (∀ content, fs.find? path = some (.file content) →
      fs.collect path endings = if EndsIn endings path.toList then [⟨path, content⟩] else []) ∧
    (∀ entries, fs.find? path = some (.folder entries) → ∀ f,
      f ∈ fs.collect path endings ↔
        ∃ names name, (FileNode.folder entries).content? (names ++ [name]) = some f.content ∧
          EndsIn endings name.chars ∧ f.path = Path.join path (names ++ [name])) ∧
    (fs.find? path = none → fs.collect path endings = []) ∧
    (fs.collect path endings).Pairwise (fun f f' => f.path < f'.path) ∧
    ∀ fs', fs.Reordered fs' → fs'.collect path endings = fs.collect path endings := by
  refine ⟨?_, ?_, ?_, pairwise_lt_collect fs path endings, ?_⟩
  · intro content there
    rw [collect, there]
    simp only [hasEnding_iff]
  · intro entries there f
    exact mem_collect_folder there f
  · intro missing
    rw [collect, missing]
  · intro fs' reordered
    exact (collect_reordered reordered path endings).symm

/-- A folder with a file and a folder in it whose name the file's name starts with. -/
def nestedEntries : List (FileName × FileNode) :=
  [(⟨"sub".toList, by decide⟩, .folder [(⟨"a.gql".toList, by decide⟩, .file "\x7b a \x7d".toUTF8)]),
    (⟨"sub.gql".toList, by decide⟩, .file "\x7b b \x7d".toUTF8)]

/-- A file system with a folder of entries. -/
def holding (entries : List (FileName × FileNode)) : FileSystem where
  root := .folder [(⟨"docs".toList, by decide⟩, .folder entries)]
  here := []

/-- Both files are found, in the order of their paths, also if the folder lists its entries the
other way round. -/
theorem collect_exact_nested :
    let found := (holding nestedEntries.reverse).collect "docs" [".graphql", ".gql"]
    (holding nestedEntries).find? "docs" = some (.folder nestedEntries) ∧
      (holding nestedEntries).Reordered (holding nestedEntries.reverse) ∧
      ⟨"docs/sub/a.gql", "\x7b a \x7d".toUTF8⟩ ∈ found ∧
      ⟨"docs/sub.gql", "\x7b b \x7d".toUTF8⟩ ∈ found ∧
      found.Pairwise (fun f f' => f.path < f'.path) := by
  have there : (holding nestedEntries).find? "docs" = some (.folder nestedEntries) := rfl
  have reordered : (holding nestedEntries).Reordered (holding nestedEntries.reverse) :=
    ⟨.inside [] [] _ (.swap [] [] _ _ (by decide)), rfl⟩
  obtain ⟨-, folder, -, increasing, same⟩ :=
    collect_exact (holding nestedEntries) "docs" [".graphql", ".gql"]
  intro found
  have unchanged : found = (holding nestedEntries).collect "docs" [".graphql", ".gql"] :=
    same _ reordered
  rw [unchanged]
  refine ⟨there, reordered, ?_, ?_, increasing⟩
  · rw [folder _ there]
    exact ⟨[⟨"sub".toList, by decide⟩], ⟨"a.gql".toList, by decide⟩, rfl, by decide, by decide⟩
  · rw [folder _ there]
    exact ⟨[], ⟨"sub.gql".toList, by decide⟩, rfl, by decide, by decide⟩

end FileSystem

end OperationHooks
