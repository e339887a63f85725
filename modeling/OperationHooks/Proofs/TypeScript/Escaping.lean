import Mathlib.Data.List.Basic
import OperationHooks.Proofs.TypeScript.Template

/-!
# Escaping for template literals

A text is escaped as if by three replacements one after the other, of which none spoils another.
Between backquotes the escaped text is a template literal that ends at its last backquote and
nowhere before, has no place for a constant, and has the text as its value. So different texts are
escaped differently.
-/

namespace OperationHooks

/-! ### Replacements -/

/-- Every occurrence of a text replaced, from left to right. -/
def replaceAll (old new : List Char) : List Char → List Char
  | [] => []
  | c :: r =>
    if old.isPrefixOf (c :: r) then new ++ replaceAll old new (r.drop (old.length - 1))
    else c :: replaceAll old new r
termination_by cs => cs.length
decreasing_by
  · simp only [List.length_drop, List.length_cons]
    omega
  · simp

section Replacing

variable {old new : List Char}

@[simp] lemma replaceAll_nil : replaceAll old new [] = [] := by
  rw [replaceAll]

lemma replaceAll_append (ne : old ≠ []) (r : List Char) :
    replaceAll old new (old ++ r) = new ++ replaceAll old new r := by
  obtain ⟨c, old, rfl⟩ := List.exists_cons_of_ne_nil ne
  have occurs : (c :: old).isPrefixOf (c :: (old ++ r)) = true :=
    List.isPrefixOf_iff_prefix.mpr (List.prefix_append _ _)
  rw [List.cons_append, replaceAll, if_pos occurs]
  simp

lemma replaceAll_cons {c : Char} {r : List Char} (h : ¬old <+: c :: r) :
    replaceAll old new (c :: r) = c :: replaceAll old new r := by
  rw [replaceAll, if_neg (mt List.isPrefixOf_iff_prefix.mp h)]

lemma replaceAll_singleton (a c : Char) (r : List Char) :
    replaceAll [a] new (c :: r) =
      if c = a then new ++ replaceAll [a] new r else c :: replaceAll [a] new r := by
  split
  · next h => exact h ▸ replaceAll_append (List.cons_ne_nil a []) r
  · next h =>
    refine replaceAll_cons fun occurs => h ?_
    exact (List.cons_prefix_cons.mp occurs).1.symm

/-- What stands in front was there before, or it is the front of a replacement. -/
lemma head?_replaceAll {cs : List Char} {d : Char} (ne : new ≠ [])
    (h : (replaceAll old new cs).head? = some d) : cs.head? = some d ∨ new.head? = some d := by
  cases cs with
  | nil => simp at h
  | cons c r =>
    rw [replaceAll] at h
    split at h
    · obtain ⟨n, new, rfl⟩ := List.exists_cons_of_ne_nil ne
      exact .inr h
    · exact .inl h

end Replacing

namespace TypeScript

/-- Backslashes replaced, then backquotes. -/
def escapeMarks (cs : List Char) : List Char :=
  replaceAll ['\x60'] ['\\', '\x60'] (replaceAll ['\\'] ['\\', '\\'] cs)

lemma escapeMarks_mark {c : Char} (hc : c = '\\' ∨ c = '\x60') (r : List Char) :
    escapeMarks (c :: r) = '\\' :: c :: escapeMarks r := by
  rcases hc with rfl | rfl <;> simp [escapeMarks, replaceAll_singleton]

lemma escapeMarks_cons {c : Char} (hc : ¬(c = '\\' ∨ c = '\x60')) (r : List Char) :
    escapeMarks (c :: r) = c :: escapeMarks r := by
  rw [not_or] at hc
  rw [escapeMarks, replaceAll_singleton, if_neg hc.1, replaceAll_singleton, if_neg hc.2,
    escapeMarks]

/-- Replacing marks puts no brace in front. -/
lemma head?_escapeMarks {cs : List Char} (h : (escapeMarks cs).head? = some '\x7b') :
    cs.head? = some '\x7b' := by
  rcases head?_replaceAll (List.cons_ne_nil _ _) h with h | h
  · rcases head?_replaceAll (List.cons_ne_nil _ _) h with h | h
    · exact h
    · simp at h
  · simp at h

lemma opens_prefix_iff {c : Char} {r : List Char} :
    ['$', '\x7b'] <+: c :: r ↔ c = '$' ∧ r.head? = some '\x7b' := by
  rw [List.cons_prefix_cons, eq_comm, List.singleton_prefix_iff_head?_eq_some]

/-- Escaping is what three replacements in a row come to: backslashes, then backquotes, then
dollar signs in front of braces. -/
lemma escapeTemplate_eq_replaceAll (cs : List Char) :
    escapeTemplate cs = replaceAll ['$', '\x7b'] ['\\', '$', '\x7b'] (escapeMarks cs) := by
  fun_induction escapeTemplate cs with
  | case1 => simp [escapeMarks]
  | case2 c r hc ih =>
    have backslash : ¬['$', '\x7b'] <+: '\\' :: c :: escapeMarks r := by simp
    have mark : ¬['$', '\x7b'] <+: c :: escapeMarks r := by
      rw [opens_prefix_iff]
      rintro ⟨rfl, -⟩
      simp at hc
    rw [escapeMarks_mark hc, replaceAll_cons backslash, replaceAll_cons mark, ih]
  | case3 c r hq hc ih =>
    obtain ⟨rfl, hr⟩ := hc
    obtain ⟨r, rfl⟩ := List.head?_eq_some_iff.mp hr
    have brace : ¬['$', '\x7b'] <+: '\x7b' :: escapeMarks r := by simp
    have opens : '$' :: '\x7b' :: escapeMarks r = ['$', '\x7b'] ++ escapeMarks r := rfl
    rw [ih, escapeMarks_cons hq, escapeMarks_cons (by decide), replaceAll_cons brace, opens,
      replaceAll_append (List.cons_ne_nil _ _)]
    rfl
  | case4 c r hq hc ih =>
    have plain : ¬['$', '\x7b'] <+: c :: escapeMarks r :=
      fun h => hc ((opens_prefix_iff.mp h).imp_right head?_escapeMarks)
    rw [escapeMarks_cons hq, replaceAll_cons plain, ih]

/-! ### Literals -/

/-- A whole template literal: a text between backquotes, and what is left behind it. -/
def readLiteral : List Char → Option (List TemplateItem × List Char)
  | '\x60' :: r => readTemplate r
  | _ => none

/-- A text as a template literal. -/
def literal (t : String) : List Char := '\x60' :: (templateText t).toList ++ ['\x60']

lemma readTemplate_eq_none_of_escaped {c : Char} (hc : c = '\\' ∨ c = '\x60' ∨ c = '$')
    {r p : List Char} (hp : p <+: '\\' :: c :: r)
    (rest : ∀ p, p <+: r → readTemplate p = none) : readTemplate p = none := by
  rcases List.prefix_cons_iff.mp hp with rfl | ⟨p, rfl, hp'⟩
  · rw [readTemplate]
  · rcases List.prefix_cons_iff.mp hp' with rfl | ⟨p, rfl, hp''⟩
    · simp [readTemplate, readEscape]
    · rw [readTemplate_escaped hc, rest p hp'', Option.map_none]

/-- An escaped text does not end a template literal, however much of it has been read. -/
lemma readTemplate_eq_none {cs : List Char} (hcs : '\r' ∉ cs) {p : List Char}
    (hp : p <+: escapeTemplate cs) : readTemplate p = none := by
  fun_induction escapeTemplate cs generalizing p with
  | case1 => rw [List.prefix_nil.mp hp, readTemplate]
  | case2 c r hc ih =>
    exact readTemplate_eq_none_of_escaped (by tauto) hp fun p hp =>
      ih (List.not_mem_of_not_mem_cons hcs) hp
  | case3 c r hq hc ih =>
    exact readTemplate_eq_none_of_escaped (by tauto) hp fun p hp =>
      ih (List.not_mem_of_not_mem_cons hcs) hp
  | case4 c r hq hc ih =>
    rw [not_or] at hq
    have hr : c ≠ '\r' := fun h => hcs (h ▸ List.mem_cons_self)
    rcases List.prefix_cons_iff.mp hp with rfl | ⟨p, rfl, hp'⟩
    · rw [readTemplate]
    · -- a brace that is read behind `c` was there before escaping
      have hd : ¬(c = '$' ∧ p.head? = some '\x7b') := by
        rintro ⟨hc', brace⟩
        have nothing : ([] : List Char).head? ≠ some '\x7b' := by simp
        obtain ⟨s, hs⟩ := hp'
        refine hc ⟨hc', head?_escapeTemplate nothing ?_⟩
        rw [List.append_nil, ← hs, List.head?_append, brace, Option.some_or]
      rw [readTemplate_char hq.2 hq.1 hr hd, ih (List.not_mem_of_not_mem_cons hcs) hp',
        Option.map_none]

/-- Between backquotes an escaped text is read as it was, and what stands behind it is left. -/
lemma readLiteral_literal {t : String} (plain : '\r' ∉ t.toList) (rest : List Char) :
    readLiteral (literal t ++ rest) = some (t.toList.map .char, rest) := by
  have split : literal t ++ rest = '\x60' :: (escapeTemplate t.toList ++ '\x60' :: rest) := by
    simp [literal, templateText]
  rw [split, readLiteral, readTemplate_escapeTemplate plain (by simp), readTemplate_close]
  simp [itemsBefore]

/-- A text without carriage returns is escaped without loss: the escaped text is the text with
three replacements made one after the other; between backquotes it is a template literal that ends
at the last backquote, whatever follows, and no beginning of it is one; nothing in it is the place
of a constant and its value is the text. So no other such text is escaped in the same way. -/
theorem templateText_lossless {t : String} (plain : '\r' ∉ t.toList) :
    (templateText t).toList =
        replaceAll ['$', '\x7b'] ['\\', '$', '\x7b']
          (replaceAll ['\x60'] ['\\', '\x60'] (replaceAll ['\\'] ['\\', '\\'] t.toList)) ∧
      (∀ rest, readLiteral (literal t ++ rest) = some (t.toList.map .char, rest)) ∧
      (∀ p, p <+: literal t → p ≠ literal t → readLiteral p = none) ∧
      ∀ u : String, '\r' ∉ u.toList → templateText u = templateText t → u = t := by
  have escaped : (templateText t).toList = escapeTemplate t.toList := String.toList_ofList
  refine ⟨?_, readLiteral_literal plain, fun p hp ne => ?_, fun u plain' same => ?_⟩
  · rw [escaped]
    exact escapeTemplate_eq_replaceAll t.toList
  · rcases List.prefix_cons_iff.mp hp with rfl | ⟨p, rfl, hp'⟩
    · rfl
    · rcases List.prefix_concat_iff.mp hp' with whole | hp''
      · exact absurd (congrArg _ whole) ne
      · exact readTemplate_eq_none plain (escaped ▸ hp'')
  · have read := readLiteral_literal plain' []
    rw [literal, same, ← literal, readLiteral_literal plain, Option.some_inj, Prod.mk.injEq] at read
    have items : Function.Injective (List.map TemplateItem.char) :=
      List.map_injective_iff.mpr fun c d h => TemplateItem.char.inj h
    exact String.toList_inj.mp (items read.1).symm

/-- Backslashes in front of a backquote, of a place for a constant and of the end of the text. -/
theorem templateText_lossless_marks :
    let t := "\\\\\x60$$\\$\x7ba\x7d\\"
    '\r' ∉ t.toList ∧
      readLiteral (literal t ++ ['\x60']) = some (t.toList.map .char, ['\x60']) ∧
      readLiteral ('\x60' :: (templateText t).toList) = none := by
  intro t
  have plain : '\r' ∉ t.toList := by decide
  obtain ⟨-, whole, unfinished, -⟩ := templateText_lossless plain
  refine ⟨plain, whole ['\x60'], unfinished _ (List.prefix_append _ _) fun same => ?_⟩
  simpa [literal] using congrArg List.length same

end TypeScript

end OperationHooks
