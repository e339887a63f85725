import Mathlib.Tactic.Common
import OperationHooks.Proofs.Text.Stops
import OperationHooks.Text.Escape
import OperationHooks.TypeScript

/-!
# Reading template literals

How a template literal is read: up to the first bare backquote, with escapes cooked, line ends as
single line feeds, and the places where constants are put in. Escaping a text for a template
literal is undone by that: the text is read back as it was, and nothing of it is taken for the end
of the literal or for the place of a constant.
-/

namespace OperationHooks

namespace TypeScript

/-! ### Escapes -/

/-- The escapes of one letter; a letter without a meaning of its own stands for itself. -/
def cookedChar (c : Char) : Char :=
  if c = 'b' then '\x08'
  else if c = 't' then '\t'
  else if c = 'n' then '\n'
  else if c = 'v' then '\x0b'
  else if c = 'f' then '\x0c'
  else if c = 'r' then '\r'
  else c

/-- The characters that end a line of a script. -/
def isLineTerminator (c : Char) : Bool :=
  c == '\n' || c == '\r' || c == '\u2028' || c == '\u2029'

/-- What is left behind four digits. -/
def fourDigits {cs : List Char} (a b c d : Char) (r : NoLonger cs) :
    Shorter (a :: b :: c :: d :: cs) :=
  (((r.behind d).behind c).behind b).behind a

lemma length_lt_of_dropWhile {p : Char → Bool} {c : Char} {r rest : List Char}
    (h : r.dropWhile p = c :: rest) : rest.length < r.length := by
  have le := length_dropWhile_le p r
  rw [h, List.length_cons] at le
  exact le

/-- What is left behind characters of a kind and the character that ends them. -/
def behindDigits {p : Char → Bool} {c : Char} {r rest : List Char}
    (h : r.dropWhile p = c :: rest) : Shorter r :=
  ⟨rest, length_lt_of_dropWhile h⟩

/-- What stands behind a backslash, and the text behind it. The end of a line is left out, a zero
stands alone, and digits have no other escapes. -/
def readEscape (cs : List Char) : Option (List Char × Shorter cs) :=
  match cs with
  | [] => none
  | '\r' :: '\n' :: r => some ([], ((NoLonger.all r).behind '\n').behind '\r')
  | 'x' :: a :: b :: r => do
    let c ← (hexQuad? '0' '0' a b).bind scalar?
    return ([c], (((NoLonger.all r).behind b).behind a).behind 'x')
  | 'u' :: '\x7b' :: r =>
    match h : r.dropWhile (fun c => (hexDigit? c).isSome) with
    | '\x7d' :: _ => do
      let digits := r.takeWhile (fun c => (hexDigit? c).isSome)
      let c ← if digits = [] then none
        else scalar? (digits.foldl (fun n c => n * 16 + (hexDigit? c).getD 0) 0)
      return ([c], ((behindDigits h).behind '\x7b').behind 'u')
    | _ => none
  | 'u' :: a :: b :: c :: d :: r =>
    match hexQuad? a b c d with
    | none => none
    | some lead =>
      match scalar? lead with
      | some x => some ([x], (fourDigits a b c d (NoLonger.all r)).behind 'u')
      | none =>
        match r with
        | '\\' :: 'u' :: e :: f :: g :: h :: r' =>
          match (hexQuad? e f g h).bind (surrogatePair? lead) with
          | some x =>
            let r₁ := ((fourDigits e f g h (NoLonger.all r')).behind 'u').behind '\\'
            some ([x], (fourDigits a b c d r₁.weaken).behind 'u')
          | none => none
        | _ => none
  | c :: r =>
    if isLineTerminator c then some ([], (NoLonger.all r).behind c)
    else if c = 'x' ∨ c = 'u' then none
    else if c.isDigit then
      if c = '0' ∧ !r.head?.any Char.isDigit then some (['\x00'], (NoLonger.all r).behind c)
      else none
    else some ([cookedChar c], (NoLonger.all r).behind c)

/-! ### Literals -/

/-- A character of an identifier; those outside ASCII are all let through. -/
def isNameChar (c : Char) : Bool := isIdentifierPart c || 128 ≤ c.toNat

/-- What a template literal holds: characters, and places where constants are put in. -/
inductive TemplateItem where
  | char (c : Char)
  | hole (constant : String)
deriving DecidableEq

/-- The items of a template literal from the text behind its first backquote, and the text behind
the last one. Only single constants are read where something is put in. -/
def readTemplate (cs : List Char) : Option (List TemplateItem × List Char) :=
  match cs with
  | [] => none
  | '\x60' :: r => some ([], r)
  | '\\' :: r => do
    let (s, r₁) ← readEscape r
    let (items, rest) ← readTemplate r₁.1
    return (s.map .char ++ items, rest)
  | '$' :: '\x7b' :: r =>
    match _h : r.dropWhile isNameChar with
    | '\x7d' :: r₁ => do
      let name := r.takeWhile isNameChar
      let (items, rest) ← if name = [] then none else readTemplate r₁
      return (.hole (String.ofList name) :: items, rest)
    | _ => none
  | '\r' :: '\n' :: r => do
    let (items, rest) ← readTemplate r
    return (.char '\n' :: items, rest)
  | c :: r => do
    let (items, rest) ← readTemplate r
    return (.char (if c = '\r' then '\n' else c) :: items, rest)
termination_by cs.length
decreasing_by
  · exact Nat.lt_succ_of_lt r₁.2
  · have := length_dropWhile_le isNameChar r
    rw [_h] at this
    simp only [List.length_cons] at this ⊢
    omega
  · simp only [List.length_cons]
    omega
  · exact Nat.lt_succ_self _

/-- What has been read, with items in front of it. -/
def itemsBefore (items : List TemplateItem) (read : List TemplateItem × List Char) :
    List TemplateItem × List Char :=
  (items ++ read.1, read.2)

lemma itemsBefore_nil : itemsBefore [] = id := rfl

/-- A character in front of what has been read behind it. -/
lemma map_itemsBefore_char (c : Char) (cs : List Char)
    (read : Option (List TemplateItem × List Char)) :
    (read.map (itemsBefore (cs.map .char))).map (itemsBefore [.char c]) =
      read.map (itemsBefore ((c :: cs).map .char)) := by
  rw [Option.map_map]
  rfl

/-! ### One item -/

lemma readTemplate_close (r : List Char) : readTemplate ('\x60' :: r) = some ([], r) := by
  rw [readTemplate]

/-- A character that starts nothing stands for itself. -/
lemma readTemplate_char {c : Char} {r : List Char} (hq : c ≠ '\x60') (hb : c ≠ '\\')
    (hr : c ≠ '\r') (hd : ¬(c = '$' ∧ r.head? = some '\x7b')) :
    readTemplate (c :: r) = (readTemplate r).map (itemsBefore [.char c]) := by
  rw [readTemplate]
  · rw [if_neg hr]
    cases readTemplate r <;> rfl
  · exact hq
  · exact hb
  · rintro r' rfl rfl
    exact hd ⟨rfl, rfl⟩
  · rintro r' rfl
    exact absurd rfl hr

/-- A backslash takes the meaning from a backslash, a backquote and a dollar sign. -/
lemma readTemplate_escaped {c : Char} (hc : c = '\\' ∨ c = '\x60' ∨ c = '$') (r : List Char) :
    readTemplate ('\\' :: c :: r) = (readTemplate r).map (itemsBefore [.char c]) := by
  have escape : readEscape (c :: r) = some ([c], (NoLonger.all r).behind c) := by
    rcases hc with rfl | rfl | rfl <;> simp [readEscape, isLineTerminator, cookedChar]
  have rest : ((NoLonger.all r).behind c).1 = r := rfl
  rw [readTemplate, escape, Option.bind_eq_bind, Option.bind_some]
  dsimp only
  rw [rest]
  cases readTemplate r <;> rfl

/-- The place of a constant. -/
lemma readTemplate_hole {name : List Char} (ne : name ≠ [])
    (valid : ∀ c ∈ name, isNameChar c = true) (r : List Char) :
    readTemplate ('$' :: '\x7b' :: (name ++ '\x7d' :: r)) =
      (readTemplate r).map (itemsBefore [.hole (String.ofList name)]) := by
  have stop : Stops isNameChar ('\x7d' :: r) := stops_cons.mpr (by decide)
  obtain ⟨ht, hd⟩ := takeWhile_append_stops valid stop
  rw [readTemplate]
  split
  · rename_i r₁ heq
    rw [hd, List.cons.injEq] at heq
    obtain ⟨-, rfl⟩ := heq
    rw [ht, if_neg ne]
    cases readTemplate r <;> rfl
  · rename_i h
    exact absurd hd (h r)

/-! ### Escaped texts -/

/-- Escaping puts no brace in front. -/
lemma head?_escapeTemplate {cs rest : List Char} (hrest : rest.head? ≠ some '\x7b')
    (h : (escapeTemplate cs ++ rest).head? = some '\x7b') : cs.head? = some '\x7b' := by
  cases cs with
  | nil => exact absurd h hrest
  | cons c r =>
    simp only [escapeTemplate] at h
    split at h
    · simp at h
    · split at h
      · simp at h
      · exact h

/-- An escaped text is read as it was, if no brace behind it makes its last dollar sign open a
place for a constant. -/
lemma readTemplate_escapeTemplate {cs rest : List Char} (hcs : '\r' ∉ cs)
    (hrest : rest.head? ≠ some '\x7b') :
    readTemplate (escapeTemplate cs ++ rest) =
      (readTemplate rest).map (itemsBefore (cs.map .char)) := by
  fun_induction escapeTemplate cs with
  | case1 => rw [List.nil_append, List.map_nil, itemsBefore_nil, Option.map_id_fun, id]
  | case2 c r hc ih =>
    rw [List.cons_append, List.cons_append, readTemplate_escaped (by tauto),
      ih (List.not_mem_of_not_mem_cons hcs), map_itemsBefore_char]
  | case3 c r hq hc ih =>
    rw [List.cons_append, List.cons_append, readTemplate_escaped (by tauto),
      ih (List.not_mem_of_not_mem_cons hcs), map_itemsBefore_char]
  | case4 c r hq hc ih =>
    rw [not_or] at hq
    have hr : c ≠ '\r' := fun h => hcs (h ▸ List.mem_cons_self)
    have hd : ¬(c = '$' ∧ (escapeTemplate r ++ rest).head? = some '\x7b') :=
      fun h => hc ⟨h.1, head?_escapeTemplate hrest h.2⟩
    rw [List.cons_append, readTemplate_char hq.2 hq.1 hr hd,
      ih (List.not_mem_of_not_mem_cons hcs), map_itemsBefore_char]

end TypeScript

end OperationHooks
