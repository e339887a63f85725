import OperationHooks.Text.CaseTable

/-!
# Small letters and capitals

A text in small letters, and a text with its first character capital and the others small. Only
the small sigma looks at its neighbours: it has a form of its own at the end of a word.
-/

namespace OperationHooks

/-! ### Characters -/

/-- Whether a character has a case. -/
def isCased (c : Char) : Bool :=
  if c.toNat < 128 then c.isAlpha else CharRange.covers casedRanges c

/-- Whether a character is passed over when the case of a word is looked for. -/
def isCaseIgnorable (c : Char) : Bool :=
  if c.toNat < 128 then c == '\'' || c == '.' || c == ':' || c == '^' || c == '\x60'
  else CharRange.covers caseIgnorableRanges c

/-- The capital sigma, whose small form depends on its place. -/
def capitalSigma : Char := 'Σ'

/-- The small form of a character, the sigma apart. -/
def smallForm (c : Char) : List Char :=
  if c.toNat < 128 then [c.toLower]
  else if c = 'İ' then ['i', '\u0307']
  else [(CharRun.find? smallRuns c).getD c]

/-- The title form of a character. -/
def titleForm (c : Char) : List Char :=
  if c.toNat < 128 then [c.toUpper]
  else
    match titleExpansions.find? (·.1 == c) with
    | some (_, cs) => cs
    | none => [(CharRun.find? titleRuns c).getD c]

/-! ### Texts -/

/-- Whether the next character with or without case, past those that are passed over, has one. -/
def seesCased (cs : List Char) : Bool := (cs.dropWhile isCaseIgnorable).head?.any isCased

/-- A sigma ends a word if a letter stands before it and none behind it. -/
def smallSigma (before after : List Char) : Char :=
  if seesCased before && !seesCased after then 'ς' else 'σ'

/-- A text in small letters, given what stands before it, the nearest character first. -/
def lowerAfter (before : List Char) : List Char → List Char
  | [] => []
  | c :: cs =>
    (if c = capitalSigma then [smallSigma before cs] else smallForm c)
      ++ lowerAfter (c :: before) cs

/-- A text in small letters. -/
def lower (cs : List Char) : List Char := lowerAfter [] cs

/-- A text with its first character in title form and the others small. -/
def capitalize : List Char → List Char
  | [] => []
  | c :: cs => titleForm c ++ lowerAfter [c] cs

end OperationHooks
