import OperationHooks.GraphQL.BlockString
import OperationHooks.GraphQL.Fault
import OperationHooks.Text.Escape

/-!
# The stream of tokens

A source as tokens, each with its place, up to the end or up to the first text that is no token.
Every scanner takes the text from where it stands and hands back a shorter one, which is why
scanning ends.
-/

namespace OperationHooks

/-! ### Blanks and comments -/

/-- Characters that separate tokens and mean nothing else. -/
def isIgnored (c : Char) : Bool :=
  c == ' ' || c == '\t' || c == ',' || c == '\n' || c == '\r' || c == '\ufeff'

/-- The characters that end a comment. -/
def isLineEnd (c : Char) : Bool := c == '\n' || c == '\r'

/-- The text behind blanks and comments; `comment` tells that the text starts inside a comment. -/
def dropIgnored (comment : Bool) : List Char → List Char
  | [] => []
  | c :: cs =>
    if comment then dropIgnored (!isLineEnd c) cs
    else if c == '#' then dropIgnored true cs
    else if isIgnored c then dropIgnored false cs
    else c :: cs

theorem length_dropIgnored_le (b : Bool) (cs : List Char) :
    (dropIgnored b cs).length ≤ cs.length := by
  induction cs generalizing b with
  | nil => simp [dropIgnored]
  | cons c cs ih =>
    unfold dropIgnored
    split
    · exact Nat.le_succ_of_le (ih _)
    · split
      · exact Nat.le_succ_of_le (ih _)
      · split
        · exact Nat.le_succ_of_le (ih _)
        · exact Nat.le_refl _

/-! ### Numbers -/

/-- Digits where digits have to be. -/
def scanDigits (cs : List Char) : Except SourceError (Digits × Shorter cs) :=
  match cs with
  | [] => .error ⟨.noDigit none, 0⟩
  | c :: r =>
    if h : c.isDigit then .ok (Digits.scan c h r)
    else .error ⟨.noDigit (some c), r.length + 1⟩

/-- The digits before the point: a zero stands alone. -/
def scanWhole (cs : List Char) :
    Except SourceError ({ d : Digits // d.head = '0' → d.tail = [] } × Shorter cs) :=
  match cs with
  | [] => .error ⟨.noDigit none, 0⟩
  | c :: r =>
    if h : c.isDigit then
      if h0 : c = '0' then
        match r with
        | [] => .ok (⟨⟨c, [], h, rfl⟩, fun _ => rfl⟩, ⟨[], by simp⟩)
        | d :: r' =>
          if d.isDigit then .error ⟨.digitAfterZero d, r'.length + 1⟩
          else .ok (⟨⟨c, [], h, rfl⟩, fun _ => rfl⟩, ⟨d :: r', by simp⟩)
      else
        .ok (⟨(Digits.scan c h r).1, fun h' => absurd h' h0⟩, (Digits.scan c h r).2)
    else .error ⟨.noDigit (some c), r.length + 1⟩

/-- The point and the digits behind it, if there is a point. -/
def scanFraction (cs : List Char) :
    Except SourceError (Option Digits × NoLonger cs) :=
  match cs with
  | '.' :: r => do
    let ⟨d, r', h⟩ ← scanDigits r
    return (some d, ⟨r', by simp; omega⟩)
  | cs => .ok (none, NoLonger.all cs)

/-- The exponent, if the text starts with its letter. -/
def scanExponent (cs : List Char) :
    Except SourceError (Option Exponent × NoLonger cs) :=
  match cs with
  | [] => .ok (none, NoLonger.all [])
  | c :: r =>
    if h : c = 'e' ∨ c = 'E' then do
      let (sign, r₁) := scanSign r
      let (d, r₂) ← scanDigits r₁.1
      return (some ⟨c, sign, d, h⟩, ((r₁.andThen r₂).behind c).weaken)
    else .ok (none, NoLonger.all (c :: r))

/-- What may not follow a number directly: a point, or what could start a name. -/
def checkNumberEnd : List Char → Except SourceError Unit
  | [] => .ok ()
  | c :: r =>
    if c = '.' ∨ isNameStart c then .error ⟨.noDigit (some c), r.length + 1⟩ else .ok ()

/-- A number, which ends where no digit, point or letter follows. -/
def scanNumber (cs : List Char) : Except SourceError (Number × Shorter cs) := do
  let negative := cs.head? == some '-'
  let ⟨start, h₀⟩ : NoLonger cs :=
    if negative then ⟨cs.tail, by simp⟩ else NoLonger.all cs
  let ⟨whole, r₁, h₁⟩ ← scanWhole start
  let ⟨fraction, r₂, h₂⟩ ← scanFraction r₁
  let ⟨exponent, r₃, h₃⟩ ← scanExponent r₂
  checkNumberEnd r₃
  return (⟨negative, whole.1, fraction, exponent, whole.2⟩, ⟨r₃, by omega⟩)

/-! ### Strings -/

/-- Refuses an escape by code point, showing so many characters of it. -/
def badUnicode {α : Type} (cs : List Char) (shown : Nat) : Except SourceError α :=
  .error ⟨.unicodeEscape (String.ofList (cs.take shown)), cs.length⟩

/-- An escape from its backslash on. A code point is written with four digits, as a pair of
surrogates with four digits each, or in braces with one to eight digits. -/
def scanEscape (cs : List Char) : Except SourceError (Char × Shorter cs) :=
  match cs with
  | '\\' :: 'u' :: '\x7b' :: r =>
    let digits := (r.take 9).takeWhile (fun c => (hexDigit? c).isSome)
    match h : r.drop digits.length with
    | '\x7d' :: rest =>
      let point := digits.foldl (fun n c => n * 16 + (hexDigit? c).getD 0) 0
      if digits.isEmpty ∨ digits.length = 9 then badUnicode cs (min 12 (digits.length + 4))
      else
        match scalar? point with
        | some c =>
          .ok (c, ⟨rest, by
            have := congrArg List.length h
            simp only [List.length_drop, List.length_cons] at this ⊢
            omega⟩)
        | none => badUnicode cs (digits.length + 4)
    | _ => badUnicode cs (min 12 (digits.length + 4))
  | '\\' :: 'u' :: a :: b :: c :: d :: r =>
    match hexQuad? a b c d with
    | none => badUnicode cs 6
    | some lead =>
      match scalar? lead with
      | some x => .ok (x, ⟨r, by simp only [List.length_cons]; omega⟩)
      | none =>
        match r with
        | '\\' :: 'u' :: e :: f :: g :: h :: r' =>
          match (hexQuad? e f g h).bind (surrogatePair? lead) with
          | some x => .ok (x, ⟨r', by simp only [List.length_cons]; omega⟩)
          | none => badUnicode cs 6
        | _ => badUnicode cs 6
  | '\\' :: 'u' :: _ => badUnicode cs 6
  | _ :: c :: r =>
    match simpleEscape? c with
    | some x => .ok (x, ⟨r, by simp only [List.length_cons]; omega⟩)
    | none => .error ⟨.characterEscape (String.ofList (cs.take 2)), cs.length⟩
  | cs => .error ⟨.characterEscape (String.ofList (cs.take 2)), cs.length⟩

/-- The value of a string behind its opening quote; it ends on the line it starts on. -/
def scanString (cs : List Char) : Except SourceError (List Char × Shorter cs) :=
  match cs with
  | [] => .error ⟨.unterminated, 0⟩
  | c :: r =>
    if c = '"' then .ok ([], (NoLonger.all r).behind c)
    else if c = '\\' then do
      let (x, r₁) ← scanEscape (c :: r)
      let (s, r₂) ← scanString r₁.1
      return (x :: s, r₁.andThen r₂)
    else if isLineEnd c then .error ⟨.unterminated, r.length + 1⟩
    else do
      let (s, r₁) ← scanString r
      return (c :: s, r₁.behind c)
termination_by cs.length
decreasing_by
  · exact r₁.2
  · exact Nat.lt_succ_self _

/-- The text of a block string behind its opening quotes, every line end as one line feed. -/
def scanBlock (cs : List Char) : Except SourceError (BlockRaw × Shorter cs) :=
  match cs with
  | [] => .error ⟨.unterminated, 0⟩
  | '"' :: '"' :: '"' :: r => .ok (.empty, (((NoLonger.all r).behind '"').behind '"').behind '"')
  | '\\' :: '"' :: '"' :: '"' :: r => do
    let (raw, r₁) ← scanBlock r
    return (((raw.behind '"').behind '"').behind '"',
      (((r₁.behind '"').behind '"').behind '"').behind '\\')
  | '\r' :: '\n' :: r => do
    let (raw, r₁) ← scanBlock r
    return (raw.behind '\n', (r₁.behind '\n').behind '\r')
  | c :: r => do
    let (raw, r₁) ← scanBlock r
    return (raw.behind c, r₁.behind c)

/-! ### Tokens -/

/-- The token that a text starts with, when the text does not start with blanks. -/
def scanToken (c : Char) (cs : List Char) : Except SourceError (Token × Shorter (c :: cs)) :=
  match c, cs with
  | '"', '"' :: '"' :: r => do
    let (s, r₁) ← scanBlock r
    return (.block (.ofRaw s),
      ((r₁.behind '"').behind '"').behind '"')
  | '"', r => do
    let (s, r₁) ← scanString r
    return (.string (String.ofList s), r₁.behind '"')
  | '.', '.' :: '.' :: r =>
    .ok (.mark .spread, (((NoLonger.all r).behind '.').behind '.').behind '.')
  | '.', '.' :: r => .error ⟨.twoDots, r.length + 2⟩
  | '.', r =>
    match r.takeWhile Char.isDigit with
    | [] => .error ⟨.character '.', r.length + 1⟩
    | ds => .error ⟨.noWholePart (String.ofList ds), r.length + 1⟩
  | '\'', r => .error ⟨.singleQuote, r.length + 1⟩
  | c, r =>
    match Punctuator.ofChar? c with
    | some p => .ok (.mark p, (NoLonger.all r).behind c)
    | none =>
      if c.isDigit ∨ c = '-' then do
        let ⟨n, rest⟩ ← scanNumber (c :: r)
        return (.number n, rest)
      else if h : isNameStart c then
        let ⟨n, rest⟩ := Name.scan c h r
        .ok (.name n, rest)
      else .error ⟨.character c, r.length + 1⟩

/-- The tokens of a source, each with the number of characters from its start to the end of the
source, and what comes behind the last of them: the end, or a text that is no token. -/
inductive Stream where
  | done
  | stuck (e : SourceError)
  | more (t : Token) (left : Nat) (rest : Stream)
deriving DecidableEq

namespace Stream

/-- The stream of a text. -/
def ofChars (cs : List Char) : Stream :=
  match _h : dropIgnored false cs with
  | [] => .done
  | c :: r =>
    match scanToken c r with
    | .error e => .stuck e
    | .ok (t, ⟨rest, hr⟩) => .more t (r.length + 1) (ofChars rest)
termination_by cs.length
decreasing_by
  have h₁ := length_dropIgnored_le false cs
  rw [_h] at h₁
  omega

/-- How many tokens a stream holds. -/
def size : Stream → Nat
  | .done => 0
  | .stuck _ => 0
  | .more _ _ rest => rest.size + 1

/-- The tokens of a stream that reaches the end of its source. -/
def tokens? : Stream → Option (List Token)
  | .done => some []
  | .stuck _ => none
  | .more t _ rest => rest.tokens?.map (t :: ·)

end Stream

/-- The tokens of a text, if it is made of tokens throughout. -/
def tokens? (cs : List Char) : Option (List Token) := (Stream.ofChars cs).tokens?

end OperationHooks
