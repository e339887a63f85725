import OperationHooks.Text.Split

/-!
# Block strings

A block string is written over several lines and indented with the text around it. Its value is
what is left when that common indentation and the blank lines at both ends are taken away. Line
ends are already single line feeds here: the scanner reads the others as one.
-/

namespace OperationHooks

/-! ### Lines -/

/-- The lines of a text: line feeds separate them, so there is always one line at least. -/
def splitLines (text : List Char) : List (List Char) := splitAtChar '\n' text

/-- Lines put together again. -/
def joinLines : List (List Char) → List Char
  | [] => []
  | [l] => l
  | l :: ls => l ++ '\n' :: joinLines ls

theorem mem_of_mem_joinLines {c : Char} {ls : List (List Char)} (h : c ∈ joinLines ls) :
    c = '\n' ∨ ∃ l ∈ ls, c ∈ l := by
  induction ls with
  | nil => simp [joinLines] at h
  | cons l ls ih =>
    cases ls with
    | nil => exact .inr ⟨l, List.mem_cons_self, h⟩
    | cons l' ls =>
      rcases List.mem_append.1 h with h | h
      · exact .inr ⟨l, List.mem_cons_self, h⟩
      · rcases List.mem_cons.1 h with h | h
        · exact .inl h
        · rcases ih h with h | ⟨m, hm, hc⟩
          · exact .inl h
          · exact .inr ⟨m, List.mem_cons_of_mem _ hm, hc⟩

namespace BlockString

/-- Blanks that count as indentation. -/
def isIndent (c : Char) : Bool := c == ' ' || c == '\t'

/-- How far a line is indented. -/
def indentation (line : List Char) : Nat := (line.takeWhile isIndent).length

/-- A line of indentation only. -/
def isBlank (line : List Char) : Bool := line.all isIndent

/-- The least indentation of the lines that are not blank, if there is such a line. -/
def commonIndent : List (List Char) → Option Nat
  | [] => none
  | l :: ls =>
    if isBlank l then commonIndent ls
    else
      match commonIndent ls with
      | none => some (indentation l)
      | some n => some (min (indentation l) n)

/-- Lines without the blank ones at both ends. -/
def trimBlank (lines : List (List Char)) : List (List Char) :=
  ((lines.dropWhile isBlank).reverse.dropWhile isBlank).reverse

/-- The lines of a value from the lines between the quotes: the first line is never indented
away, the others lose what they have in common. -/
def dedent : List (List Char) → List (List Char)
  | [] => []
  | first :: rest =>
    trimBlank (first :: rest.map (List.drop ((commonIndent rest).getD 0)))

/-- The value of a block string from the text between its quotes. -/
def value (raw : List Char) : List Char := joinLines (dedent (splitLines raw))

/-! ### What a value holds -/

theorem mem_of_mem_trimBlank {l : List Char} {ls : List (List Char)} (h : l ∈ trimBlank ls) :
    l ∈ ls :=
  (List.dropWhile_sublist _).subset
    (List.mem_reverse.1 ((List.dropWhile_sublist _).subset (List.mem_reverse.1 h)))

theorem mem_of_mem_dedent {c : Char} {l : List Char} {ls : List (List Char)} (hl : l ∈ dedent ls)
    (hc : c ∈ l) : ∃ l' ∈ ls, c ∈ l' := by
  cases ls with
  | nil => simp [dedent] at hl
  | cons first rest =>
    rcases List.mem_cons.1 (mem_of_mem_trimBlank hl) with rfl | hl
    · exact ⟨l, List.mem_cons_self, hc⟩
    · obtain ⟨l', hl', rfl⟩ := List.mem_map.1 hl
      exact ⟨l', List.mem_cons_of_mem _ hl', List.mem_of_mem_drop hc⟩

/-- A value holds line feeds and characters of the text between the quotes. -/
theorem mem_of_mem_value {c : Char} {raw : List Char} (h : c ∈ value raw) :
    c = '\n' ∨ c ∈ raw := by
  rcases mem_of_mem_joinLines h with h | ⟨l, hl, hc⟩
  · exact .inl h
  · obtain ⟨l', hl', hc'⟩ := mem_of_mem_dedent hl hc
    exact .inr (mem_of_mem_splitAtChar hl' hc')

end BlockString

/-- A text between triple quotes: line feeds are the only ends of lines in it. -/
abbrev BlockRaw : Type := { raw : List Char // '\r' ∉ raw }

namespace BlockRaw

/-- Nothing. -/
def empty : BlockRaw := ⟨[], List.not_mem_nil⟩

/-- A character in front; a return becomes a line feed. -/
def behind (c : Char) (raw : BlockRaw) : BlockRaw where
  val := (if c = '\r' then '\n' else c) :: raw.1
  property := by
    have hc : '\r' ≠ if c = '\r' then '\n' else c := by split <;> simp_all [eq_comm]
    exact List.not_mem_cons_of_ne_of_not_mem hc raw.2

end BlockRaw

/-- The value of a block string: line feeds are the only ends of lines in it. -/
structure BlockText where
  text : String
  no_return : '\r' ∉ text.toList
deriving DecidableEq

/-- The value of what stands between triple quotes. -/
def BlockText.ofRaw (raw : BlockRaw) : BlockText where
  text := String.ofList (BlockString.value raw.1)
  no_return h := by
    rw [String.toList_ofList] at h
    rcases BlockString.mem_of_mem_value h with h | h
    · simp at h
    · exact raw.2 h

end OperationHooks
