import OperationHooks.Text.CanonicalTable

/-!
# Canonical texts

A letter with its marks can be written as one character or as several, and marks that do not touch
each other in either order. Texts that differ in nothing else are equivalent. `canonical` writes a
text with as few characters as it can, and with its marks in the order of their classes.
-/

namespace OperationHooks

namespace Canonical

/-! ### Syllables -/

/-- The first syllable of Hangul, and the first of its leading consonants, vowels and trailing
consonants; no trailing consonant counts as one. -/
def firstSyllable : Nat := 0xac00

/-- The first leading consonant. -/
def firstLead : Nat := 0x1100

/-- The first vowel. -/
def firstVowel : Nat := 0x1161

/-- The character before the first trailing consonant. -/
def noTrail : Nat := 0x11a7

/-- The leading consonants. -/
def leadCount : Nat := 19

/-- The vowels. -/
def vowelCount : Nat := 21

/-- The trailing consonants, none of them included. -/
def trailCount : Nat := 28

/-- The letters of a syllable. -/
def letters? (c : Char) : Option (List Char) :=
  let index := c.toNat - firstSyllable
  if firstSyllable ≤ c.toNat ∧ index < leadCount * vowelCount * trailCount then
    let trail := index % trailCount
    let vowel := index / trailCount % vowelCount
    let lead := index / trailCount / vowelCount
    some ([Char.ofNat (firstLead + lead), Char.ofNat (firstVowel + vowel)]
      ++ (if trail = 0 then [] else [Char.ofNat (noTrail + trail)]))
  else none

/-- The syllable of a consonant and a vowel, or of a syllable without a trailing consonant and that
consonant. -/
def syllable? (a b : Char) : Option Char :=
  let lead := a.toNat - firstLead
  let vowel := b.toNat - firstVowel
  let opened := a.toNat - firstSyllable
  let trail := b.toNat - noTrail
  if firstLead ≤ a.toNat ∧ lead < leadCount ∧ firstVowel ≤ b.toNat ∧ vowel < vowelCount then
    some (Char.ofNat (firstSyllable + (lead * vowelCount + vowel) * trailCount))
  else if firstSyllable ≤ a.toNat ∧ opened < leadCount * vowelCount * trailCount
      ∧ opened % trailCount = 0 ∧ noTrail < b.toNat ∧ trail < trailCount then
    some (Char.ofNat (a.toNat + trail))
  else none

/-! ### Taking apart -/

/-- The class of a mark, or zero for what is no mark or keeps its place. -/
def markClass (c : Char) : Nat := CharRange.number markClasses c

/-- What a character stands for, which may stand for others in turn. -/
def parts (c : Char) : List Char :=
  ((letters? c).or ((compositions.lookup c).or (decompositions.lookup c))).getD [c]

/-- How often parts have parts at most. -/
def depth : Nat := 3

/-- A text taken apart as far as possible. -/
def apart (text : List Char) : List Char := Nat.repeat (List.flatMap parts) depth text

/-! ### Order -/

/-- Puts a character in front of a text, a mark behind those of lower classes. -/
def insertMark (c : Char) : List Char → List Char
  | [] => [c]
  | d :: ds =>
    if markClass c = 0 ∨ markClass c ≤ markClass d ∨ markClass d = 0 then c :: d :: ds
    else d :: insertMark c ds

/-- A text with the marks that follow each other in the order of their classes. -/
def ordered (text : List Char) : List Char := text.foldr insertMark []

/-! ### Putting together -/

/-- The character that stands for two. -/
def whole? (a b : Char) : Option Char :=
  (syllable? a b).or ((compositions.find? (·.2 == [a, b])).map (·.1))

/-- Puts the characters of a text together with one before them. `between` are marks in between,
the last one first: one of the same class or a higher one keeps a mark away. -/
def joinWith (base : Char) (between : List Char) : List Char → List Char
  | [] => base :: between.reverse
  | c :: cs =>
    let kept := between.head?.any (fun m => markClass c ≤ markClass m)
    match if kept then none else whole? base c with
    | some d => joinWith d between cs
    | none =>
      if markClass c = 0 then base :: between.reverse ++ joinWith c [] cs
      else joinWith base (c :: between) cs

/-- Puts the characters of a text together. -/
def join : List Char → List Char
  | [] => []
  | c :: cs => if markClass c = 0 then joinWith c [] cs else c :: join cs

end Canonical

/-- The canonical text among those equivalent to a text. -/
def canonical (text : List Char) : List Char :=
  Canonical.join (Canonical.ordered (Canonical.apart text))

end OperationHooks
