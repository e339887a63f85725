import OperationHooks.Text.Canonical
import OperationHooks.Text.Split
import OperationHooks.Url.DomainTable
import OperationHooks.Url.LabelTable
import OperationHooks.Url.Punycode

/-!
# Domain names

A domain name may be written in any script. Its characters are replaced by plain ones first; then
every label, which is what stands between the dots, has to be fit: it starts with no mark, joiners
stand where letters join, and the direction of writing does not change within it. A label that
starts with `xn--` spells another one in ASCII, which has to be fit as well.
-/

namespace OperationHooks

namespace Domain

/-! ### Characters -/

/-- What a character is replaced by; nothing if a domain name may not hold it. -/
def replacement? (c : Char) : Option (List Char) :=
  if c.toNat < 0x80 then some [c.toLower]
  else
    match CharRun.find? plainRuns c with
    | some d => some [d]
    | none =>
      match plainExpansions.lookup c with
      | some ds => some ds
      | none =>
        if CharRange.covers droppedRanges c then some []
        else if CharRange.covers refusedRanges c then none
        else some [c]

/-- A text in plain characters, if a domain name may hold it. -/
def plain? (text : List Char) : Option (List Char) :=
  (text.mapM replacement?).map (fun parts => canonical parts.flatten)

/-- Whether a text is written in ASCII. -/
def isAscii (text : List Char) : Bool := text.all (fun c => c.toNat < 0x80)

/-- ASCII characters that no host may hold once it is written out. -/
def isForbidden (c : Char) : Bool :=
  c ≤ ' ' || c == '\x7f'
    || ['#', '/', ':', '<', '>', '?', '@', '[', '\\', ']', '^', '|', '%'].contains c

/-! ### Joiners -/

/-- The character that joins letters only for the eye. -/
def joiner : Char := '\u200d'

/-- The character that keeps letters from joining. -/
def nonJoiner : Char := '\u200c'

/-- The first of some characters that letters do not join across. -/
def firstJoining? (cs : List Char) : Option Char :=
  cs.find? (fun c => !CharRange.covers transparentRanges c)

/-- Whether a character is a mark that takes away the vowel of the letter before it. -/
def isVirama (c : Char) : Bool := Canonical.markClass c == 9

/-- Whether joiners stand in their places: behind a virama; one that keeps letters from joining may
also stand between two that would. `before` are the characters passed, the last one first. -/
def joinersFit (before : List Char) : List Char → Bool
  | [] => true
  | c :: cs =>
    let behindVirama := before.head?.any (isVirama)
    let between :=
      (firstJoining? before).any (CharRange.covers joiningForward)
        && (firstJoining? cs).any (CharRange.covers joiningBackward)
    (c != joiner || behindVirama) && (c != nonJoiner || behindVirama || between)
      && joinersFit (c :: before) cs

/-! ### Directions -/

/-- The direction of a character, as far as it matters to labels. -/
inductive Direction where
  | left
  | right
  | arabicNumber
  | number
  | mark
  | neutral
deriving DecidableEq

/-- The direction of a character. -/
def direction (c : Char) : Direction :=
  if CharRange.covers rightToLeftRanges c then .right
  else if CharRange.covers arabicNumberRanges c then .arabicNumber
  else if CharRange.covers europeanNumberRanges c then .number
  else if CharRange.covers nonspacingRanges c then .mark
  else if CharRange.covers neutralRanges c then .neutral
  else .left

/-- The last direction that is not that of a mark. -/
def lastDirection? (ds : List Direction) : Option Direction := ds.reverse.find? (· ≠ .mark)

/-- Whether a label keeps to one direction, in a name that has characters written from right to
left. -/
def directionFits (label : List Char) : Bool :=
  let ds := label.map direction
  match ds.head? with
  | none => true
  | some .left =>
    ds.all (fun d => d ≠ .right && d ≠ .arabicNumber)
      && (lastDirection? ds == some .left || lastDirection? ds == some .number)
  | some .right =>
    ds.all (· ≠ .left)
      && [Direction.right, .number, .arabicNumber].any (fun d => lastDirection? ds == some d)
      && !(ds.contains .number && ds.contains .arabicNumber)
  | some _ => false

/-- Whether a name has characters written from right to left. -/
def hasRightToLeft (labels : List (List Char)) : Bool :=
  labels.any (·.any (fun c => direction c == .right || direction c == .arabicNumber))

/-! ### Names -/

/-- The greatest length of a text in ASCII behind `xn--`. -/
def longestWritten : Nat := 2000

/-- The greatest length of a label that has yet to be written in ASCII. -/
def longestUnwritten : Nat := 1000

/-- The label that a label in plain characters spells: itself, unless it says that it is written in
ASCII. One that gains nothing from being so is refused, and one that is not plain. -/
def spelled? (label : List Char) : Option (List Char) :=
  match label with
  | 'x' :: 'n' :: '-' :: '-' :: written =>
    if longestWritten < written.length then none
    else
      match Punycode.decode? written with
      | none => none
      | some text => if !isAscii text && plain? text == some text then some text else none
  | _ => some label

/-- Whether a label may stand in a name, its direction apart. -/
def isFit (label : List Char) : Bool :=
  !label.head?.any (CharRange.covers markRanges)
    && joinersFit [] label
    && !label.any isForbidden

/-- The labels that a text between dots stands for, since some of its characters may be replaced by
dots. -/
def labelsOf? (text : List Char) : Option (List (List Char)) :=
  match plain? text with
  | none => none
  | some plain =>
    match (splitAtChar '.' plain).mapM spelled? with
    | none => none
    | some labels =>
      if isAscii text || labels.all (fun l => isAscii l || l.length ≤ longestUnwritten)
      then some labels else none

/-- The labels of a name, each as it is spelled, if it is a name. -/
def labels? (name : List Char) : Option (List (List Char)) :=
  match (splitAtChar '.' name).mapM labelsOf? with
  | none => none
  | some parts =>
    let labels := parts.flatten
    if labels.all isFit && (!hasRightToLeft labels || labels.all directionFits)
    then some labels else none

end Domain

end OperationHooks
