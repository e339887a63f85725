import OperationHooks.Json.Value
import OperationHooks.Text.Escape

/-!
# Reading JSON

The value that a text spells, if it is JSON throughout. The words `NaN`, `Infinity` and
`-Infinity` are read as numbers too. A key that occurs twice in an object keeps its first place and
its last value. Half of a surrogate pair may be escaped; it makes a string or an object torn.

The length of integers may be limited. One that is too long is a fault of its own, reported where
it stands, whatever comes behind it.
-/

namespace OperationHooks

namespace Json

/-- Why a text has no value: it is no JSON, or it holds an integer of too many digits. -/
inductive ReadFault where
  | notJson
  | longInteger (digits : Nat)
deriving DecidableEq, Repr

/-- Something read from a text, and what is left: less than it was given. -/
abbrev Read (cs : List Char) (α : Type) : Type := α × Shorter cs

/-- A reading that may fail. -/
abbrev Attempt : Type → Type := Except ReadFault

/-- Blanks between the parts of a value. -/
def isBlank (c : Char) : Bool := c == ' ' || c == '\t' || c == '\n' || c == '\r'

/-- A text without the blanks in front. -/
def dropBlanks (cs : List Char) : NoLonger cs :=
  ⟨cs.dropWhile isBlank, length_dropWhile_le _ cs⟩

/-- A word in front of a text is taken. -/
def dropWord (word : List Char) (cs : List Char) :
    Option { r : List Char // r.length + word.length = cs.length } :=
  match word, cs with
  | [], cs => some ⟨cs, by simp⟩
  | _ :: _, [] => none
  | w :: ws, c :: cs =>
    if w = c then (dropWord ws cs).map (fun ⟨r, h⟩ => ⟨r, by simp; omega⟩) else none

/-! ### Strings -/

/-- A character of a string, or half of a surrogate pair. -/
abbrev StringPart : Type := Option Char

/-- The character that the first half of a surrogate pair makes with the escape of the second. -/
def readSecondHalf (lead : Nat) (cs : List Char) : Option (Read cs Char) :=
  match dropWord ['\\', 'u'] cs with
  | some ⟨a :: b :: c :: d :: r, h⟩ =>
    ((hexQuad? a b c d).bind (surrogatePair? lead)).map
      (fun x => (x, ⟨r, by simp only [List.length_cons] at h; omega⟩))
  | _ => none

/-- An escape behind its backslash. -/
def readEscape (cs : List Char) : Option (Read cs StringPart) :=
  match cs with
  | 'u' :: a :: b :: c :: d :: r =>
    match hexQuad? a b c d with
    | none => none
    | some code =>
      match scalar? code, readSecondHalf code r with
      | some x, _ => some (some x, ⟨r, by simp only [List.length_cons]; omega⟩)
      | none, some (x, ⟨r', h⟩) => some (some x, ⟨r', by simp only [List.length_cons]; omega⟩)
      | none, none => some (none, ⟨r, by simp only [List.length_cons]; omega⟩)
  | c :: r => do
    let x ← simpleEscape? c
    some (some x, ⟨r, by simp⟩)
  | [] => none

/-- A string behind its opening quote. Control characters have to be escaped. -/
def readString (cs : List Char) : Option (Read cs (List StringPart)) :=
  match cs with
  | [] => none
  | c :: r =>
    if c = '"' then some ([], ⟨r, by simp⟩)
    else if c = '\\' then do
      let (x, ⟨r₁, h₁⟩) ← readEscape r
      let (s, ⟨r₂, h₂⟩) ← readString r₁
      some (x :: s, ⟨r₂, by simp only [List.length_cons]; omega⟩)
    else if c.toNat < 0x20 then none
    else do
      let (s, ⟨r₁, h₁⟩) ← readString r
      some (some c :: s, ⟨r₁, by simp only [List.length_cons]; omega⟩)
termination_by cs.length

/-- The text that a string is, unless half of a surrogate pair stands in it. -/
def wholeText? (s : List StringPart) : Option String := (s.mapM id).map String.ofList

/-- What was read of a text up to the rest, without the blanks in front. -/
def spelling (cs rest : List Char) : String :=
  String.ofList ((cs.take (cs.length - rest.length)).dropWhile isBlank)

/-- The value of a string that was read of a text up to the rest. -/
def ofString (cs rest : List Char) (s : List StringPart) : Json :=
  match wholeText? s with
  | some text => .str text
  | none => .torn (spelling cs rest)

/-- The value of an object that was read of a text up to the rest. -/
def ofMembers (cs rest : List Char) (members : List (List StringPart × Json)) : Json :=
  match members.mapM (fun (key, v) => (wholeText? key).map (·, v)) with
  | some ms => .obj (collectMembers ms)
  | none => .torn (spelling cs rest)

/-! ### Numbers -/

/-- The number that digits spell. -/
def digitsValue (ds : List Char) : Nat := ds.foldl (fun n c => n * 10 + (c.toNat - 48)) 0

/-- The digits in front of a text. -/
def readDigits (cs : List Char) : List Char × NoLonger cs :=
  (cs.takeWhile Char.isDigit, ⟨cs.dropWhile Char.isDigit, length_dropWhile_le _ cs⟩)

/-- A point with digits behind it; without digits the point is not part of the number. -/
def readFraction (cs : List Char) :
    Option (List Char) × NoLonger cs :=
  match cs with
  | '.' :: r =>
    match readDigits r with
    | ([], _) => (none, NoLonger.all ('.' :: r))
    | (ds, ⟨r', h⟩) => (some ds, ⟨r', by simp only [List.length_cons]; omega⟩)
  | cs => (none, NoLonger.all cs)

/-- An exponent with its digits; without digits its letter is not part of the number. -/
def readExponent (cs : List Char) :
    Option Int × NoLonger cs :=
  match cs with
  | [] => (none, NoLonger.all [])
  | c :: r =>
    if c = 'e' ∨ c = 'E' then
      let ⟨s, r₁, h₁⟩ := scanSign r
      match readDigits r₁ with
      | ([], _) => (none, NoLonger.all (c :: r))
      | (ds, ⟨r₂, h₂⟩) =>
        let n : Int := digitsValue ds
        (some (if s.1 = some '-' then -n else n), ⟨r₂, by simp only [List.length_cons]; omega⟩)
    else (none, NoLonger.all (c :: r))

/-- A number behind its sign. Without fraction and exponent it is an integer. -/
def readNumber (longest? : Option Nat) (negative : Bool) (cs : List Char) :
    Attempt (Read cs Json) :=
  match cs with
  | [] => .error .notJson
  | c :: r =>
    if c.isDigit then
      let ⟨more, r₁, h₁⟩ : List Char × { x : List Char // x.length ≤ r.length } :=
        if c = '0' then ([], NoLonger.all r) else readDigits r
      let ⟨fraction, r₂, h₂⟩ := readFraction r₁
      let ⟨exponent, r₃, h₃⟩ := readExponent r₂
      let rest : Shorter (c :: r) := ⟨r₃, by simp only [List.length_cons]; omega⟩
      match fraction, exponent with
      | none, none =>
        let digits := more.length + 1
        if longest?.any (· < digits) then .error (.longInteger digits)
        else
          let n : Int := digitsValue (c :: more)
          .ok (.int (if negative then -n else n), rest)
      | _, _ =>
        let ds := fraction.getD []
        .ok (.float (.ofDecimal negative (digitsValue (c :: more ++ ds))
          (exponent.getD 0 - ds.length)), rest)
    else .error .notJson

/-! ### Values -/

/-- A word that stands for a value. -/
def readWord (cs : List Char) : Option (Read cs Json) :=
  let word (w : String) (h : 0 < w.toList.length) (v : Json) : Option (Read cs Json) :=
    (dropWord w.toList cs).map (fun ⟨r, e⟩ => (v, ⟨r, by omega⟩))
  (word "null" (by decide) .null)
    <|> (word "true" (by decide) (.bool true))
    <|> (word "false" (by decide) (.bool false))
    <|> (word "NaN" (by decide) (.float .notANumber))
    <|> (word "Infinity" (by decide) (.float (.infinite false)))
    <|> (word "-Infinity" (by decide) (.float (.infinite true)))

/-- A number with its sign. -/
def readSigned (longest? : Option Nat) (cs : List Char) : Attempt (Read cs Json) :=
  match cs with
  | '-' :: r =>
    (readNumber longest? true r).map (fun (v, ⟨r₁, h₁⟩) => (v, ⟨r₁, Nat.lt_succ_of_lt h₁⟩))
  | cs => readNumber longest? false cs

/-- A word that stands for a value, or a number. -/
def readPlain (longest? : Option Nat) (cs : List Char) : Attempt (Read cs Json) :=
  match readWord cs with
  | some read => .ok read
  | none => readSigned longest? cs

/-- A mark behind blanks is taken. -/
def readMark (mark : Char) (cs : List Char) : Option (Shorter cs) :=
  match dropBlanks cs with
  | ⟨[], _⟩ => none
  | ⟨c :: r, h⟩ => if c = mark then some ⟨r, by simp only [List.length_cons] at h; omega⟩ else none

/-- What is there, if something is. -/
def needed {α : Type} : Option α → Attempt α
  | some x => .ok x
  | none => .error .notJson

mutual

/-- A value in front of a text, behind blanks. -/
def readValue (longest? : Option Nat) (cs : List Char) : Attempt (Read cs Json) :=
  match readMark '"' cs with
  | some ⟨r, h⟩ => do
    let (s, ⟨r₁, h₁⟩) ← needed (readString r)
    return (ofString cs r₁ s, ⟨r₁, by omega⟩)
  | none =>
    match readMark '[' cs with
    | some ⟨r, h⟩ =>
      match readMark ']' r with
      | some ⟨r₁, h₁⟩ => .ok (.arr [], ⟨r₁, by omega⟩)
      | none => do
        let (items, ⟨r₁, h₁⟩) ← readItems longest? r
        return (.arr items, ⟨r₁, by omega⟩)
    | none =>
      match readMark '\x7b' cs with
      | some ⟨r, h⟩ =>
        match readMark '\x7d' r with
        | some ⟨r₁, h₁⟩ => .ok (.obj [], ⟨r₁, by omega⟩)
        | none => do
          let (members, ⟨r₁, h₁⟩) ← readMembers longest? r
          return (ofMembers cs r₁ members, ⟨r₁, by omega⟩)
      | none => do
        let ⟨r, h⟩ := dropBlanks cs
        let (v, ⟨r₁, h₁⟩) ← readPlain longest? r
        return (v, ⟨r₁, by omega⟩)
termination_by 2 * cs.length

/-- The items of an array behind its bracket, one at least, up to the closing bracket. -/
def readItems (longest? : Option Nat) (cs : List Char) : Attempt (Read cs (List Json)) := do
  let (v, ⟨r₁, h₁⟩) ← readValue longest? cs
  match readMark ',' r₁ with
  | some ⟨r₂, h₂⟩ =>
    let (vs, ⟨r₃, h₃⟩) ← readItems longest? r₂
    return (v :: vs, ⟨r₃, by omega⟩)
  | none =>
    let ⟨r₂, h₂⟩ ← needed (readMark ']' r₁)
    return ([v], ⟨r₂, by omega⟩)
termination_by 2 * cs.length + 1

/-- The members of an object behind its brace, one at least, up to the closing brace. -/
def readMembers (longest? : Option Nat) (cs : List Char) :
    Attempt (Read cs (List (List StringPart × Json))) := do
  let ⟨r₁, h₁⟩ ← needed (readMark '"' cs)
  let (key, ⟨r₂, h₂⟩) ← needed (readString r₁)
  let ⟨r₃, h₃⟩ ← needed (readMark ':' r₂)
  let (v, ⟨r₄, h₄⟩) ← readValue longest? r₃
  match readMark ',' r₄ with
  | some ⟨r₅, h₅⟩ =>
    let (ms, ⟨r₆, h₆⟩) ← readMembers longest? r₅
    return ((key, v) :: ms, ⟨r₆, by omega⟩)
  | none =>
    let ⟨r₅, h₅⟩ ← needed (readMark '\x7d' r₄)
    return ([(key, v)], ⟨r₅, by omega⟩)
termination_by 2 * cs.length + 1

end

/-- The value that a text spells, with nothing but blanks around it. Integers are as long as
`longest?` at most, if it says so. -/
def read (longest? : Option Nat) (s : String) : Except ReadFault Json :=
  match readValue longest? s.toList with
  | .error e => .error e
  | .ok (v, ⟨r, _⟩) => if (dropBlanks r).1.isEmpty then .ok v else .error .notJson

/-- The value that a text spells, integers being as long as they like. -/
def read? (s : String) : Option Json := (read none s).toOption

end Json

end OperationHooks
