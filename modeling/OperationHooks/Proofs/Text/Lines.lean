import Mathlib.Data.List.Forall2
import Mathlib.Tactic.Common
import OperationHooks.Compilation

/-!
# Lines moved in

The lines of a text behind the first are moved in by blanks. How far may depend on whether a line
is empty; a line that is not moves by the whole width. Printed selections and the texts inside
constants are both moved like that.
-/

namespace OperationHooks

/-! ### Lines -/

@[simp] lemma splitLines_nil : splitLines [] = [[]] := rfl

@[simp] lemma splitLines_newline (r : List Char) :
    splitLines ('\n' :: r) = [] :: splitLines r := by
  simp [splitLines, splitAtChar]

lemma splitLines_cons {c : Char} {r l : List Char} {ls : List (List Char)} (hc : c ≠ '\n')
    (h : splitLines r = l :: ls) : splitLines (c :: r) = (c :: l) :: ls := by
  rw [splitLines] at h ⊢
  rw [splitAtChar, if_neg hc, h]

lemma splitLines_append {w r l : List Char} {ls : List (List Char)} (hw : '\n' ∉ w)
    (h : splitLines r = l :: ls) : splitLines (w ++ r) = (w ++ l) :: ls := by
  induction w with
  | nil => exact h
  | cons c w ih =>
    rw [List.mem_cons, not_or] at hw
    exact splitLines_cons (Ne.symm hw.1) (ih hw.2)

lemma exists_splitLines (cs : List Char) : ∃ l ls, splitLines cs = l :: ls :=
  List.exists_cons_of_ne_nil (splitAtChar_ne_nil _ cs)

lemma joinLines_cons (l : List Char) (ls : List (List Char)) :
    joinLines (l :: ls) = l ++ ls.flatMap ('\n' :: ·) := by
  induction ls generalizing l with
  | nil => simp [joinLines]
  | cons l' ls ih =>
    rw [joinLines, ih, List.flatMap_cons, List.cons_append]
    simp

/-! ### Margins -/

/-- How many blanks go in front of a line: a line that is not empty gets all of them, an empty one
with a line behind it and an empty last one may get fewer. -/
structure Margin where
  width : Nat
  empty : Nat
  last : Nat
  empty_le : empty ≤ width
  last_le : last ≤ width

namespace Margin

/-- The margin of all lines alike. -/
def all (k : Nat) : Margin := ⟨k, k, k, Nat.le_refl k, Nat.le_refl k⟩

/-- The margin of the lines that are not empty. -/
def nonEmpty (k : Nat) : Margin := ⟨k, 0, 0, Nat.zero_le k, Nat.zero_le k⟩

/-- The margin inside quotes: no line between quotes is the last one. -/
def quoted (m : Margin) : Margin := { m with last := m.width, last_le := Nat.le_refl _ }

/-- The blanks for a line in front of a text. -/
def before (m : Margin) (text : List Char) : List Char :=
  match text with
  | [] => List.replicate m.last ' '
  | c :: _ => List.replicate (if c = '\n' then m.empty else m.width) ' '

variable (m : Margin)

lemma before_cons {c : Char} (hc : c ≠ '\n') (r : List Char) :
    m.before (c :: r) = List.replicate m.width ' ' := by
  rw [before, if_neg hc]

@[simp] lemma before_newline (r : List Char) :
    m.before ('\n' :: r) = List.replicate m.empty ' ' := rfl

lemma mem_before {c : Char} {text : List Char} (h : c ∈ m.before text) : c = ' ' := by
  cases text with
  | nil => exact List.eq_of_mem_replicate h
  | cons d r => exact List.eq_of_mem_replicate h

lemma newline_not_mem_before (text : List Char) : '\n' ∉ m.before text :=
  fun h => absurd (m.mem_before h) (by decide)

end Margin

/-! ### Moving -/

/-- A text with its lines behind the first moved in. -/
def moveLines (m : Margin) : List Char → List Char
  | [] => []
  | c :: r => if c = '\n' then '\n' :: (m.before r ++ moveLines m r) else c :: moveLines m r

section moveLines

variable (m : Margin)

@[simp] lemma moveLines_nil : moveLines m [] = [] := rfl

@[simp] lemma moveLines_newline (r : List Char) :
    moveLines m ('\n' :: r) = '\n' :: (m.before r ++ moveLines m r) := by
  rw [moveLines, if_pos rfl]

lemma moveLines_cons {c : Char} (hc : c ≠ '\n') (r : List Char) :
    moveLines m (c :: r) = c :: moveLines m r := by
  rw [moveLines, if_neg hc]

/-- What stands on one line is not changed. -/
lemma moveLines_append {w : List Char} (hw : '\n' ∉ w) (r : List Char) :
    moveLines m (w ++ r) = w ++ moveLines m r := by
  induction w with
  | nil => rfl
  | cons c w ih =>
    rw [List.mem_cons, not_or] at hw
    rw [List.cons_append, moveLines_cons m (Ne.symm hw.1), ih hw.2, List.cons_append]

lemma head?_moveLines (cs : List Char) : (moveLines m cs).head? = cs.head? := by
  cases cs with
  | nil => rfl
  | cons c r =>
    by_cases hc : c = '\n'
    · rw [hc, moveLines_newline]
      rfl
    · rw [moveLines_cons m hc]
      rfl

lemma mem_moveLines {c : Char} {cs : List Char} (h : c ∈ moveLines m cs) : c = ' ' ∨ c ∈ cs := by
  induction cs with
  | nil => exact .inr h
  | cons d r ih =>
    by_cases hd : d = '\n'
    · rw [hd, moveLines_newline, List.mem_cons, List.mem_append] at h
      rcases h with h | h | h
      · exact .inr (List.mem_cons.mpr (.inl (h.trans hd.symm)))
      · exact .inl (m.mem_before h)
      · exact (ih h).imp_right (List.mem_cons_of_mem _)
    · rw [moveLines_cons m hd, List.mem_cons] at h
      rcases h with h | h
      · exact .inr (List.mem_cons.mpr (.inl h))
      · exact (ih h).imp_right (List.mem_cons_of_mem _)

/-- A line and the same line moved in. -/
def Moved (l l' : List Char) : Prop :=
  ∃ k, l' = List.replicate k ' ' ++ l ∧ k ≤ m.width ∧ (l ≠ [] → k = m.width)

lemma moved_before {r l : List Char} {ls : List (List Char)} (h : splitLines r = l :: ls) :
    Moved m l (m.before r ++ l) := by
  cases r with
  | nil =>
    rw [splitLines_nil, List.cons.injEq] at h
    exact ⟨m.last, rfl, m.last_le, fun hl => absurd h.1.symm hl⟩
  | cons c r =>
    by_cases hc : c = '\n'
    · rw [hc, splitLines_newline, List.cons.injEq] at h
      rw [hc]
      exact ⟨m.empty, rfl, m.empty_le, fun hl => absurd h.1.symm hl⟩
    · rw [m.before_cons hc]
      exact ⟨m.width, rfl, Nat.le_refl _, fun _ => rfl⟩

/-- The first line of a moved text is not moved, the others are. -/
lemma splitLines_moveLines {cs l : List Char} {ls : List (List Char)}
    (h : splitLines cs = l :: ls) :
    ∃ ls', splitLines (moveLines m cs) = l :: ls' ∧ List.Forall₂ (Moved m) ls ls' := by
  induction cs generalizing l ls with
  | nil =>
    rw [splitLines_nil, List.cons.injEq] at h
    obtain ⟨rfl, rfl⟩ := h
    exact ⟨[], rfl, .nil⟩
  | cons c r ih =>
    obtain ⟨l₀, ls₀, hr⟩ := exists_splitLines r
    obtain ⟨ls', hs, hm⟩ := ih hr
    by_cases hc : c = '\n'
    · subst hc
      rw [splitLines_newline, hr, List.cons.injEq] at h
      obtain ⟨rfl, rfl⟩ := h
      refine ⟨_, ?_, .cons (moved_before m hr) hm⟩
      rw [moveLines_newline, splitLines_newline,
        splitLines_append (m.newline_not_mem_before r) hs]
    · rw [splitLines_cons hc hr, List.cons.injEq] at h
      obtain ⟨rfl, rfl⟩ := h
      exact ⟨ls', by rw [moveLines_cons m hc, splitLines_cons hc hs], hm⟩

end moveLines

/-! ### Lines inside a constant -/

/-- The margin of the lines inside a constant. -/
abbrev constantMargin : Margin := .nonEmpty 4

lemma moveIn_eq {r l : List Char} {ls : List (List Char)} (h : splitLines r = l :: ls) :
    moveIn l = constantMargin.before r ++ l := by
  obtain ⟨k, hk, -, hl⟩ := moved_before constantMargin h
  cases l with
  | nil =>
    rw [moveIn, if_pos rfl]
    cases r with
    | nil => rfl
    | cons c r =>
      by_cases hc : c = '\n'
      · rw [hc]
        rfl
      · obtain ⟨l₀, ls₀, hr⟩ := exists_splitLines r
        rw [splitLines_cons hc hr] at h
        cases h
  | cons c l =>
    rw [hk, hl (List.cons_ne_nil _ _), moveIn, if_neg (List.cons_ne_nil _ _)]
    rfl

lemma flatMap_moveIn {cs l : List Char} {ls : List (List Char)} (h : splitLines cs = l :: ls) :
    l ++ (ls.map moveIn).flatMap ('\n' :: ·) = moveLines constantMargin cs := by
  induction cs generalizing l ls with
  | nil =>
    cases h
    rfl
  | cons c r ih =>
    obtain ⟨l₀, ls₀, hr⟩ := exists_splitLines r
    by_cases hc : c = '\n'
    · subst hc
      rw [splitLines_newline, hr] at h
      cases h
      rw [moveLines_newline, ← ih hr, List.map_cons, List.flatMap_cons, moveIn_eq hr]
      simp
    · rw [splitLines_cons hc hr] at h
      cases h
      rw [moveLines_cons _ hc, ← ih hr, List.cons_append]

/-- All lines that are not empty moved in, the first one among them. -/
lemma joinLines_map_moveIn (cs : List Char) :
    joinLines ((splitLines cs).map moveIn) =
      constantMargin.before cs ++ moveLines constantMargin cs := by
  obtain ⟨l, ls, h⟩ := exists_splitLines cs
  rw [h, List.map_cons, joinLines_cons, moveIn_eq h, List.append_assoc, flatMap_moveIn h]

end OperationHooks
