import Mathlib.Data.List.Basic
import OperationHooks.Proofs.TypeScript.Template

/-!
# Running the constants of a script

A script as a list of statements. Those that export a name are told by how they start; those that
declare a template literal are run from top to bottom, each with the values of the constants above
it.
-/

namespace OperationHooks

namespace TypeScript

/-! ### Reading statements -/

/-- How a statement starts that exports a constant. -/
def exportConst : List Char := "export const ".toList

/-- What stands between the name of a constant and its template literal. -/
def opensTemplate : List Char := " = \x60".toList

/-- The name that a statement exports. -/
def exportedName? (statement : String) : Option String :=
  (exportConst.isPrefixOf? statement.toList).map fun r => String.ofList (r.takeWhile isNameChar)

/-- The name of the constant that a statement declares and the items of its template literal. -/
def readConstant (statement : String) : Option (String × List TemplateItem) := do
  let r ← exportConst.isPrefixOf? statement.toList
  let body ← opensTemplate.isPrefixOf? (r.dropWhile isNameChar)
  let (items, rest) ← readTemplate body
  if rest = [';'] then some (String.ofList (r.takeWhile isNameChar), items) else none

/-- The names of the template literals that statements declare. -/
def declaredConstants (statements : List String) : List String :=
  statements.filterMap fun s => (readConstant s).map (·.1)

/-- What every identifier is: not empty, and without ASCII characters that no identifier holds. -/
def isConstantName (name : String) : Bool :=
  name.toList != [] && name.toList.all isNameChar

section reading

variable {name : List Char} {rest : List Char}

lemma exportedName?_eq (valid : ∀ c ∈ name, isNameChar c = true)
    (stop : Stops isNameChar rest) {statement : String}
    (h : statement.toList = exportConst ++ name ++ rest) :
    exportedName? statement = some (String.ofList name) := by
  rw [exportedName?, h, List.append_assoc, List.isPrefixOf?_eq_some_iff_append_eq.mpr rfl,
    Option.map_some, (takeWhile_append_stops valid stop).1]

/-- A statement that does not go on with a template literal behind its name declares none. -/
lemma readConstant_eq_none (valid : ∀ c ∈ name, isNameChar c = true)
    (stop : Stops isNameChar rest) {statement : String}
    (h : statement.toList = exportConst ++ name ++ rest)
    (other : opensTemplate.isPrefixOf? rest = none) : readConstant statement = none := by
  rw [readConstant, h, List.append_assoc, List.isPrefixOf?_eq_some_iff_append_eq.mpr rfl,
    Option.bind_eq_bind, Option.bind_some, (takeWhile_append_stops valid stop).2, other]
  rfl

/-- A statement that does go on with one declares it. -/
lemma readConstant_eq_some (valid : ∀ c ∈ name, isNameChar c = true) {body : List Char}
    {items : List TemplateItem} {statement : String}
    (h : statement.toList = exportConst ++ name ++ (opensTemplate ++ body))
    (read : readTemplate body = some (items, [';'])) :
    readConstant statement = some (String.ofList name, items) := by
  have stop : Stops isNameChar (opensTemplate ++ body) := stops_cons.mpr (by decide)
  obtain ⟨ht, hd⟩ := takeWhile_append_stops valid stop
  rw [readConstant, h, List.append_assoc, List.isPrefixOf?_eq_some_iff_append_eq.mpr rfl,
    Option.bind_eq_bind, Option.bind_some, hd, List.isPrefixOf?_eq_some_iff_append_eq.mpr rfl,
    Option.bind_eq_bind, Option.bind_some, read, ht]
  rfl

/-- A statement declares nothing but the name that it exports. -/
lemma exportedName?_of_readConstant {statement constant : String} {items : List TemplateItem}
    (h : readConstant statement = some (constant, items)) :
    exportedName? statement = some constant := by
  rw [readConstant] at h
  rw [exportedName?]
  cases hr : exportConst.isPrefixOf? statement.toList with
  | none =>
    rw [hr] at h
    cases h
  | some r =>
    rw [hr, Option.bind_eq_bind, Option.bind_some] at h
    obtain ⟨body, -, h⟩ := Option.bind_eq_some_iff.mp h
    obtain ⟨⟨items', rest⟩, -, h⟩ := Option.bind_eq_some_iff.mp h
    dsimp only at h
    split at h
    · cases h
      rfl
    · cases h

end reading

/-! ### Values -/

/-- The values of constants, the one declared first in front. -/
abbrev Values : Type := List (String × List Char)

/-- The text of a template literal, if all constants put in have values. -/
def fill (values : Values) : List TemplateItem → Option (List Char)
  | [] => some []
  | .char c :: items => (fill values items).map (c :: ·)
  | .hole constant :: items => do
    let v ← values.lookup constant
    let text ← fill values items
    return v ++ text

/-- The values after a statement. -/
def runStatement (values : Values) (statement : String) : Values :=
  match readConstant statement with
  | none => values
  | some (name, items) =>
    match fill values items with
    | none => values
    | some text => values ++ [(name, text)]

/-- The values of the constants that statements declare. -/
def evaluate (statements : List String) : Values := statements.foldl runStatement []

lemma fill_char (values : Values) (cs : List Char) (items : List TemplateItem) :
    fill values (cs.map .char ++ items) = (fill values items).map (cs ++ ·) := by
  induction cs with
  | nil => simp
  | cons c cs ih =>
    rw [List.map_cons, List.cons_append, fill, ih, Option.map_map]
    rfl

lemma lookup_append {values later : Values} {name : String} {text : List Char}
    (h : values.lookup name = some text) : (values ++ later).lookup name = some text := by
  rw [List.lookup_append, h]
  rfl

/-- A value is kept by all later statements. -/
lemma lookup_foldl {values : Values} {name : String} {text : List Char}
    (h : values.lookup name = some text) (statements : List String) :
    (statements.foldl runStatement values).lookup name = some text := by
  induction statements generalizing values with
  | nil => exact h
  | cons s statements ih =>
    refine ih ?_
    rw [runStatement]
    split
    · exact h
    · split
      · exact h
      · exact lookup_append h

/-- What no statement declares has no value. -/
lemma lookup_eq_none {values : Values} {name : String} (h : values.lookup name = none)
    {statements : List String} (fresh : name ∉ declaredConstants statements) :
    (statements.foldl runStatement values).lookup name = none := by
  induction statements generalizing values with
  | nil => exact h
  | cons s statements ih =>
    rw [declaredConstants, List.filterMap_cons] at fresh
    cases hs : readConstant s with
    | none =>
      rw [hs] at fresh
      refine ih ?_ fresh
      rw [runStatement, hs]
      exact h
    | some p =>
      obtain ⟨n, items⟩ := p
      rw [hs, Option.map_some, List.mem_cons, not_or] at fresh
      refine ih ?_ fresh.2
      rw [runStatement, hs]
      dsimp only
      split
      · exact h
      · rw [List.lookup_append, h, Option.none_or]
        simpa using fresh.1

/-- A constant has the value that its template literal has where it is declared. -/
lemma lookup_evaluate {pre post : List String} {statement name : String}
    {items : List TemplateItem} {text : List Char}
    (read : readConstant statement = some (name, items)) (fresh : name ∉ declaredConstants pre)
    (filled : fill (evaluate pre) items = some text) :
    (evaluate (pre ++ statement :: post)).lookup name = some text := by
  have before : (evaluate pre).lookup name = none := lookup_eq_none rfl fresh
  rw [evaluate, List.foldl_append, List.foldl_cons]
  refine lookup_foldl ?_ post
  rw [runStatement, read]
  dsimp only
  rw [show pre.foldl runStatement [] = evaluate pre from rfl, filled]
  dsimp only
  rw [List.lookup_append, before, Option.none_or]
  simp

end TypeScript

end OperationHooks
