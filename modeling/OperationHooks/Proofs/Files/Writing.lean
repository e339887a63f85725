import Mathlib.Tactic.Common
import OperationHooks.Files.System

/-!
# Writing

A content that is put at a place stands there, and everywhere else stands what stood there before.
-/

namespace OperationHooks

namespace FileNode

variable {content : ByteArray} {name : FileName} {names : List FileName} {node node' : FileNode}
  {entries : List (FileName × FileNode)}

/-! ### Contents -/

@[simp] lemma content?_file_nil : (file content).content? [] = some content := rfl

@[simp] lemma content?_file_cons : (file content).content? (name :: names) = none := rfl

@[simp] lemma content?_folder_nil : (folder entries).content? [] = none := rfl

@[simp] lemma content?_folder_cons :
    (folder entries).content? (name :: names) =
      (child? name entries).bind (·.content? names) := by
  rw [content?, find?]
  cases child? name entries <;> rfl

/-! ### Entries -/

lemma child?_append (n : FileName) (before after : List (FileName × FileNode)) :
    child? n (before ++ after) = (child? n before).or (child? n after) := by
  induction before with
  | nil => rfl
  | cons e before ih =>
    by_cases h : e.1 = n
    · simp [child?, h]
    · simpa [child?, h] using ih

lemma child?_append_singleton (n : FileName) :
    child? n (entries ++ [(name, node)]) =
      (child? n entries).or (if name = n then some node else none) := by
  rw [child?_append]
  rfl

/-- Another node under a name that entries hold. -/
lemma child?_replace (held : child? name entries = some node) (n : FileName) :
    child? n (replace name node' entries) = if name = n then some node' else child? n entries := by
  induction entries with
  | nil => cases held
  | cons e entries ih =>
    by_cases h : e.1 = name
    · by_cases hn : name = n <;> simp [replace, child?, h, hn]
    · rw [child?, if_neg h] at held
      by_cases hn : e.1 = n
      · have other : name ≠ n := fun same => h (hn.trans same.symm)
        rw [replace, if_neg h, child?, if_pos hn, if_neg other, child?, if_pos hn]
      · simp [replace, child?, h, hn, ih held]

/-! ### Writing -/

/-- In folders made for one file there is no other file. -/
lemma content?_chain (content : ByteArray) (names place : List FileName) :
    (chain content place).content? names = if names = place then some content else none := by
  induction place generalizing names with
  | nil => cases names <;> simp [chain]
  | cons name place ih =>
    cases names with
    | nil => simp [chain]
    | cons n names =>
      by_cases h : name = n
      · simp [chain, child?, h, ih]
      · simp [chain, child?, h, Ne.symm h]

/-- Writing changes what stands at one place and nothing else. -/
lemma content?_put {place : List FileName} (h : put content place node = .ok node')
    (names : List FileName) :
    node'.content? names = if names = place then some content else node.content? names := by
  induction place generalizing node node' names with
  | nil =>
    cases node with
    | folder entries => cases h
    | file old =>
      cases h
      cases names <;> simp
  | cons name place ih =>
    cases node with
    | file old => cases place <;> cases h
    | folder entries =>
      rw [put] at h
      cases held : child? name entries with
      | none =>
        rw [held] at h
        cases h
        cases names with
        | nil => simp
        | cons n names =>
          by_cases hn : name = n
          · subst hn
            simp [child?_append_singleton, held, content?_chain]
          · simp [child?_append_singleton, hn, Ne.symm hn]
      | some old =>
        simp only [held] at h
        cases written : put content place old with
        | error fault => simp [written, Except.map] at h
        | ok new =>
          rw [written] at h
          cases h
          cases names with
          | nil => simp
          | cons n names =>
            by_cases hn : name = n
            · subst hn
              simp [child?_replace held, held, ih written]
            · simp [child?_replace held, hn, Ne.symm hn]

end FileNode

namespace FileSystem

/-- The content of the file at a place. -/
def content? (files : FileSystem) (place : List FileName) : Option ByteArray :=
  files.root.content? place

/-- Files in which one place has a content and nothing else has changed. -/
structure OnlyWritten (before : FileSystem) (place : List FileName) (content : ByteArray)
    (after : FileSystem) : Prop where
  here : after.here = before.here
  written : after.content? place = some content
  kept : ∀ other ≠ place, after.content? other = before.content? other

lemma put_eq_ok {before after : FileSystem} {place : List FileName} {content : ByteArray}
    (h : before.put place content = .ok after) : OnlyWritten before place content after := by
  rw [put] at h
  cases changed : before.root.put content place with
  | error fault => simp [changed, Except.map] at h
  | ok root =>
    rw [changed] at h
    cases h
    have contents := FileNode.content?_put changed
    refine ⟨rfl, (contents place).trans (if_pos rfl), ?_⟩
    intro other apart
    exact (contents other).trans (if_neg apart)

end FileSystem

end OperationHooks
