import OperationHooks.GraphQL.Document
import OperationHooks.GraphQL.Stream

/-!
# Reading documents

The grammar of GraphQL over the stream of tokens. A token is only taken when the text behind it
can be scanned, so a fault of spelling is reported before a fault of grammar that shows later.

Every reader says in its type what it leaves: less than it was given (`Past`) or no more than it
was given (`From`). The recursion over nested types, values and selections ends for that reason.
Readers of what may be nested are told how deep they are, since there is a limit to that.
-/

namespace OperationHooks

/-- Reading succeeds or stops at the first fault. -/
abbrev Reading : Type → Type := Except SourceError

/-- Something read from a stream, and what is left: one token less at least. -/
abbrev Past (s : Stream) (α : Type) : Type := α × { r : Stream // r.size < s.size }

/-- Something read from a stream, perhaps without taking a token, and what is left. -/
abbrev From (s : Stream) (α : Type) : Type := α × { r : Stream // r.size ≤ s.size }

namespace Stream

/-- The token in front. -/
def token? : Stream → Option Token
  | .more t _ _ => some t
  | _ => none

/-- The number of characters from the token in front to the end. -/
def left : Stream → Nat
  | .done => 0
  | .stuck e => e.left
  | .more _ n _ => n

/-- Whether a mark is in front. -/
def startsWith (s : Stream) (p : Punctuator) : Bool := s.token? == some (.mark p)

/-- Whether a word is in front. -/
def startsWithWord (s : Stream) (word : String) : Bool :=
  match s.token? with
  | some (.name n) => n.text == word
  | _ => false

/-- Refuses a stream at the token in front. -/
def refuse {α : Type} (s : Stream) (f : Fault) : Reading α := .error ⟨f, s.left⟩

/-- Refuses the token in front. -/
def refuseFront {α : Type} (s : Stream) : Reading α := s.refuse (.unexpected s.token?)

/-- Takes the token in front, once what follows it is known to be a token or the end. -/
def advance (s : Stream) : Reading (Past s Token) :=
  match s with
  | .done => .error ⟨.unexpected none, 0⟩
  | .stuck e => .error e
  | .more _ _ (.stuck e) => .error e
  | .more t _ .done => .ok (t, ⟨.done, by simp [size]⟩)
  | .more t _ (.more u n r) => .ok (t, ⟨.more u n r, by simp [size]⟩)

/-- Takes a mark. -/
def expect (s : Stream) (p : Punctuator) : Reading (Past s Unit) :=
  if s.startsWith p then do
    let ⟨_, r⟩ ← s.advance
    return ((), r)
  else s.refuse (.expected (.mark p) s.token?)

/-- Takes a mark if it is in front. -/
def accept (s : Stream) (p : Punctuator) : Reading (From s Bool) :=
  if s.startsWith p then do
    let ⟨_, r, h⟩ ← s.advance
    return (true, ⟨r, Nat.le_of_lt h⟩)
  else .ok (false, ⟨s, Nat.le_refl _⟩)

/-- Takes a word. -/
def expectWord (s : Stream) (word : String) : Reading (Past s Unit) :=
  if s.startsWithWord word then do
    let ⟨_, r⟩ ← s.advance
    return ((), r)
  else s.refuse (.expected (.keyword word) s.token?)

/-- Takes a word if it is in front. -/
def acceptWord (s : Stream) (word : String) : Reading (From s Bool) :=
  if s.startsWithWord word then do
    let ⟨_, r, h⟩ ← s.advance
    return (true, ⟨r, Nat.le_of_lt h⟩)
  else .ok (false, ⟨s, Nat.le_refl _⟩)

/-- Takes a name. -/
def name (s : Stream) : Reading (Past s Name) :=
  match s.token? with
  | some (.name n) => do
    let ⟨_, r⟩ ← s.advance
    return (n, r)
  | found => s.refuse (.expected .name found)

/-! ### Repetition -/

/-- Items up to a closing mark, which is taken too. Items are read from streams smaller than
`bound`, so an item may be read by the very reader that calls this one. -/
def upTo {α : Type} (bound : Nat) (item : (s : Stream) → s.size < bound → Reading (Past s α))
    (close : Punctuator) (s : Stream) (h : s.size < bound) : Reading (Past s (List α)) :=
  if s.startsWith close then do
    let ⟨_, r⟩ ← s.advance
    return ([], r)
  else do
    let ⟨x, r₁, h₁⟩ ← item s h
    let ⟨xs, r₂, h₂⟩ ← upTo bound item close r₁ (Nat.lt_trans h₁ h)
    return (x :: xs, ⟨r₂, Nat.lt_trans h₂ h₁⟩)
termination_by s.size

/-- An opening mark, items, a closing mark. -/
def anyBetween {α : Type} (opening close : Punctuator) (s : Stream)
    (item : (r : Stream) → r.size < s.size → Reading (Past r α)) : Reading (Past s (List α)) := do
  let ⟨_, r₁, h₁⟩ ← s.expect opening
  let ⟨xs, r₂, h₂⟩ ← upTo s.size item close r₁ h₁
  return (xs, ⟨r₂, Nat.lt_trans h₂ h₁⟩)

/-- An opening mark, one item or more, a closing mark. -/
def someBetween {α : Type} (opening close : Punctuator) (item : (r : Stream) → Reading (Past r α))
    (s : Stream) : Reading (Past s (List α)) := do
  let ⟨_, r₁, h₁⟩ ← s.expect opening
  let ⟨x, r₂, h₂⟩ ← item r₁
  let ⟨xs, r₃, h₃⟩ ← upTo (r₂.size + 1) (fun r _ => item r) close r₂ (Nat.lt_succ_self _)
  return (x :: xs, ⟨r₃, by omega⟩)

/-- One item or more in marks, or nothing where the opening mark is missing. -/
def maybeBetween {α : Type} (opening close : Punctuator) (item : (r : Stream) → Reading (Past r α))
    (s : Stream) : Reading (From s (List α)) :=
  if s.startsWith opening then do
    let ⟨xs, r, h⟩ ← someBetween opening close item s
    return (xs, ⟨r, Nat.le_of_lt h⟩)
  else .ok ([], ⟨s, Nat.le_refl _⟩)

/-- Items as long as a mark stands before the next one. -/
def separated {α : Type} (mark : Punctuator) (item : (r : Stream) → Reading (Past r α))
    (s : Stream) : Reading (Past s (List α)) := do
  let ⟨x, r₁, h₁⟩ ← item s
  if r₁.startsWith mark then
    let ⟨_, r₂, h₂⟩ ← r₁.advance
    let ⟨xs, r₃, h₃⟩ ← separated mark item r₂
    return (x :: xs, ⟨r₃, by omega⟩)
  else return ([x], ⟨r₁, h₁⟩)
termination_by s.size

/-- Items with a mark between them, and possibly before the first. -/
def delimited {α : Type} (mark : Punctuator) (item : (r : Stream) → Reading (Past r α))
    (s : Stream) : Reading (Past s (List α)) := do
  let ⟨_, r₁, h₁⟩ ← s.accept mark
  let ⟨xs, r₂, h₂⟩ ← separated mark item r₁
  return (xs, ⟨r₂, by omega⟩)

/-- Items as long as a mark announces one. -/
def whileMark {α : Type} (mark : Punctuator) (item : (r : Stream) → Reading (Past r α))
    (s : Stream) : Reading (From s (List α)) :=
  if s.startsWith mark then do
    let ⟨x, r₁, h₁⟩ ← item s
    let ⟨xs, r₂, h₂⟩ ← whileMark mark item r₁
    return (x :: xs, ⟨r₂, by omega⟩)
  else .ok ([], ⟨s, Nat.le_refl _⟩)
termination_by s.size

/-! ### Nesting -/

/-- How many selection sets, lists and objects may stand inside each other, and how many list
types. -/
def greatestDepth : Nat := 200

/-- Refuses the token in front where nothing more may be nested. -/
def enter (depth : Nat) (s : Stream) : Reading Unit :=
  if depth < greatestDepth then .ok () else s.refuse .tooDeep

/-! ### Types -/

/-- A reference to a type, inside `depth` list types. -/
def nestedTypeRef (depth : Nat) (s : Stream) : Reading (Past s TypeRef) := do
  let ⟨inner, r₁, h₁⟩ : TypeRef × { r : Stream // r.size < s.size } ←
    if s.startsWith .bracketL then do
      let ⟨_, r₁, h₁⟩ ← s.advance
      enter depth r₁
      let ⟨t, r₂, h₂⟩ ← nestedTypeRef (depth + 1) r₁
      let ⟨_, r₃, h₃⟩ ← r₂.expect .bracketR
      pure (TypeRef.list t, ⟨r₃, by omega⟩)
    else do
      let ⟨n, r⟩ ← s.name
      pure (TypeRef.named n, r)
  let ⟨required, r₂, h₂⟩ ← r₁.accept .bang
  return (if required then .nonNull inner else inner, ⟨r₂, by omega⟩)
termination_by s.size

/-- A reference to a type. -/
def typeRef (s : Stream) : Reading (Past s TypeRef) := nestedTypeRef 0 s

/-! ### Values -/

/-- A variable. -/
def variableName (s : Stream) : Reading (Past s Name) := do
  let ⟨_, r₁, h₁⟩ ← s.expect .dollar
  let ⟨n, r₂, h₂⟩ ← r₁.name
  return (n, ⟨r₂, by omega⟩)

/-- Refuses a variable where only constants may stand. -/
def refuseVariable {α : Type} (s : Stream) : Reading α := do
  let ⟨_, r, _⟩ ← s.advance
  match r.token? with
  | some (.name n) => s.refuse (.constantVariable n)
  | _ => s.refuseFront

/-- A value inside `depth` selection sets, lists and objects; in a `constant` no variable may
occur. -/
def value (depth : Nat) (constant : Bool) (s : Stream) : Reading (Past s Value) :=
  match s.token? with
  | some (.mark .bracketL) => do
    enter depth s
    let ⟨xs, r⟩ ← anyBetween .bracketL .bracketR s (fun r _ => value (depth + 1) constant r)
    return (.list xs, r)
  | some (.mark .braceL) => do
    enter depth s
    let ⟨xs, r⟩ ← anyBetween .braceL .braceR s (fun r _ => do
      let ⟨n, r₁, h₁⟩ ← r.name
      let ⟨_, r₂, h₂⟩ ← r₁.expect .colon
      let ⟨v, r₃, h₃⟩ ← value (depth + 1) constant r₂
      return ((n, v), ⟨r₃, by omega⟩))
    return (.object xs, r)
  | some (.number n) => do
    let ⟨_, r⟩ ← s.advance
    return (.number n, r)
  | some (.string v) => do
    let ⟨_, r⟩ ← s.advance
    return (.string (.quoted v), r)
  | some (.block v) => do
    let ⟨_, r⟩ ← s.advance
    return (.string (.block v), r)
  | some (.name n) => do
    let ⟨_, r⟩ ← s.advance
    return (.word n, r)
  | some (.mark .dollar) =>
    if constant then s.refuseVariable
    else do
      let ⟨n, r⟩ ← s.variableName
      return (.var n, r)
  | _ => s.refuseFront
termination_by s.size

/-- An argument with its value. -/
def argument (depth : Nat) (constant : Bool) (s : Stream) :
    Reading (Past s (Name × Value)) := do
  let ⟨n, r₁, h₁⟩ ← s.name
  let ⟨_, r₂, h₂⟩ ← r₁.expect .colon
  let ⟨v, r₃, h₃⟩ ← value depth constant r₂
  return ((n, v), ⟨r₃, by omega⟩)

/-- Arguments in parentheses, or none. -/
def arguments (depth : Nat) (constant : Bool) (s : Stream) : Reading (From s Arguments) :=
  maybeBetween .parenL .parenR (argument depth constant) s

/-- A directive. -/
def directive (depth : Nat) (constant : Bool) (s : Stream) : Reading (Past s Directive) := do
  let ⟨_, r₁, h₁⟩ ← s.expect .at
  let ⟨n, r₂, h₂⟩ ← r₁.name
  let ⟨args, r₃, h₃⟩ ← arguments depth constant r₂
  return (⟨n, args⟩, ⟨r₃, by omega⟩)

/-- Directives, if there are any. -/
def directives (depth : Nat) (constant : Bool) (s : Stream) :
    Reading (From s (List Directive)) :=
  whileMark .at (directive depth constant) s

/-- Directives that are not nested, without variables. -/
def constantDirectives (s : Stream) : Reading (From s (List Directive)) := directives 0 true s

/-- The value behind an equals sign, if there is one. -/
def defaultValue (s : Stream) : Reading (From s (Option Value)) :=
  if s.startsWith .equals then do
    let ⟨_, r₁, h₁⟩ ← s.advance
    let ⟨v, r₂, h₂⟩ ← value 0 true r₁
    return (some v, ⟨r₂, by omega⟩)
  else .ok (none, ⟨s, Nat.le_refl _⟩)

/-- A description, if one is in front. -/
def description (s : Stream) : Reading (From s (Option StringLiteral)) :=
  match s.token? with
  | some (.string v) => do
    let ⟨_, r, h⟩ ← s.advance
    return (some (.quoted v), ⟨r, Nat.le_of_lt h⟩)
  | some (.block v) => do
    let ⟨_, r, h⟩ ← s.advance
    return (some (.block v), ⟨r, Nat.le_of_lt h⟩)
  | _ => .ok (none, ⟨s, Nat.le_refl _⟩)

/-! ### Operations and fragments -/

/-- A field inside `depth` selection sets, still without its own. -/
def field (depth : Nat) (s : Stream) : Reading (Past s Field) := do
  let ⟨first, r₁, h₁⟩ ← s.name
  let ⟨aliased, r₂, h₂⟩ ← r₁.accept .colon
  let ⟨n, r₃, h₃⟩ : Name × { r : Stream // r.size ≤ r₂.size } ←
    if aliased then do
      let ⟨n, r, h⟩ ← r₂.name
      pure (n, ⟨r, Nat.le_of_lt h⟩)
    else pure (first, ⟨r₂, Nat.le_refl _⟩)
  let ⟨args, r₄, h₄⟩ ← arguments depth false r₃
  let ⟨ds, r₅, h₅⟩ ← directives depth false r₄
  return (⟨if aliased then some first else none, n, args, ds⟩, ⟨r₅, by omega⟩)

/-- A selection inside `depth` selection sets: behind an ellipsis the spread of a fragment or an
inline fragment, otherwise a field. -/
def selection (depth : Nat) (s : Stream) : Reading (Past s Selection) :=
  if s.startsWith .spread then do
    let ⟨_, r₁, h₁⟩ ← s.advance
    let ⟨conditional, r₂, h₂⟩ ← r₁.acceptWord "on"
    match conditional, r₂.token? with
    | false, some (.name _) =>
      let ⟨n, r₃, h₃⟩ ← r₂.name
      let ⟨ds, r₄, h₄⟩ ← directives depth false r₃
      return (.spread n ds, ⟨r₄, by omega⟩)
    | _, _ =>
      let ⟨on?, r₃, h₃⟩ : Option Name × { r : Stream // r.size ≤ r₂.size } ←
        if conditional then do
          let ⟨n, r, h⟩ ← r₂.name
          pure (some n, ⟨r, Nat.le_of_lt h⟩)
        else pure (none, ⟨r₂, Nat.le_refl _⟩)
      let ⟨ds, r₄, h₄⟩ ← directives depth false r₃
      enter depth r₄
      let ⟨xs, r₅, h₅⟩ ← anyBetween .braceL .braceR r₄ (fun r h => selection (depth + 1) r)
      return (.inline on? ds xs, ⟨r₅, by omega⟩)
  else do
    let ⟨f, r₁, h₁⟩ ← field depth s
    if r₁.startsWith .braceL then
      enter depth r₁
      let ⟨xs, r₂, h₂⟩ ← anyBetween .braceL .braceR r₁ (fun r h => selection (depth + 1) r)
      return (.within f xs, ⟨r₂, by omega⟩)
    else return (.leaf f, ⟨r₁, h₁⟩)
termination_by s.size

/-- The selections of an operation or a fragment. -/
def selections (s : Stream) : Reading (Past s (List Selection)) :=
  anyBetween .braceL .braceR s (fun r _ => selection 1 r)

/-- A variable of an operation. -/
def variableDefinition (s : Stream) : Reading (Past s VariableDefinition) := do
  let ⟨d, r₀, h₀⟩ ← s.description
  let ⟨n, r₁, h₁⟩ ← r₀.variableName
  let ⟨_, r₂, h₂⟩ ← r₁.expect .colon
  let ⟨t, r₃, h₃⟩ ← r₂.typeRef
  let ⟨v, r₄, h₄⟩ ← r₃.defaultValue
  let ⟨ds, r₅, h₅⟩ ← constantDirectives r₄
  return (⟨d, n, t, v, ds⟩, ⟨r₅, by omega⟩)

/-- The word that says which operation is meant. -/
def operationKind (s : Stream) : Reading (Past s OperationKind) := do
  let ⟨n, r⟩ ← s.name
  match OperationKind.ofKeyword? n.text with
  | some k => return (k, r)
  | none => s.refuseFront

/-- An operation with its word. -/
def operation (s : Stream) : Reading (Past s Operation) := do
  let ⟨d, r₀, h₀⟩ ← s.description
  let ⟨kind, r₁, h₁⟩ ← r₀.operationKind
  let ⟨n, r₂, h₂⟩ : Option Name × { r : Stream // r.size ≤ r₁.size } ←
    match r₁.token? with
    | some (.name _) => do
      let ⟨n, r, h⟩ ← r₁.name
      pure (some n, ⟨r, Nat.le_of_lt h⟩)
    | _ => pure (none, ⟨r₁, Nat.le_refl _⟩)
  let ⟨vs, r₃, h₃⟩ ← maybeBetween .parenL .parenR variableDefinition r₂
  let ⟨ds, r₄, h₄⟩ ← directives 0 false r₃
  let ⟨xs, r₅, h₅⟩ ← r₄.selections
  return (⟨d, kind, n, vs, ds, xs⟩, ⟨r₅, by omega⟩)

/-- A query written as its selections alone. -/
def shorthand (s : Stream) : Reading (Past s Operation) := do
  let ⟨xs, r⟩ ← s.selections
  return (⟨none, .query, none, [], [], xs⟩, r)

/-- The name of a fragment, which is not the word `on`. -/
def fragmentName (s : Stream) : Reading (Past s Name) :=
  if s.token?.bind (·.value?) == some "on" then s.refuseFront else s.name

/-- A fragment. -/
def fragment (s : Stream) : Reading (Past s Fragment) := do
  let ⟨d, r₀, h₀⟩ ← s.description
  let ⟨_, r₁, h₁⟩ ← r₀.expectWord "fragment"
  let ⟨n, r₂, h₂⟩ ← r₁.fragmentName
  let ⟨_, r₃, h₃⟩ ← r₂.expectWord "on"
  let ⟨t, r₄, h₄⟩ ← r₃.name
  let ⟨ds, r₅, h₅⟩ ← directives 0 false r₄
  let ⟨xs, r₆, h₆⟩ ← r₅.selections
  return (⟨d, n, t, ds, xs⟩, ⟨r₆, by omega⟩)

/-! ### Types of a schema -/

/-- An argument definition, or a field of an input object. -/
def inputValue (s : Stream) : Reading (Past s InputValue) := do
  let ⟨d, r₀, h₀⟩ ← s.description
  let ⟨n, r₁, h₁⟩ ← r₀.name
  let ⟨_, r₂, h₂⟩ ← r₁.expect .colon
  let ⟨t, r₃, h₃⟩ ← r₂.typeRef
  let ⟨v, r₄, h₄⟩ ← r₃.defaultValue
  let ⟨ds, r₅, h₅⟩ ← constantDirectives r₄
  return (⟨d, n, t, v, ds⟩, ⟨r₅, by omega⟩)

/-- Argument definitions in parentheses, or none. -/
def argumentDefinitions (s : Stream) : Reading (From s (List InputValue)) :=
  maybeBetween .parenL .parenR inputValue s

/-- A field definition. -/
def fieldDefinition (s : Stream) : Reading (Past s FieldDefinition) := do
  let ⟨d, r₀, h₀⟩ ← s.description
  let ⟨n, r₁, h₁⟩ ← r₀.name
  let ⟨args, r₂, h₂⟩ ← r₁.argumentDefinitions
  let ⟨_, r₃, h₃⟩ ← r₂.expect .colon
  let ⟨t, r₄, h₄⟩ ← r₃.typeRef
  let ⟨ds, r₅, h₅⟩ ← constantDirectives r₄
  return (⟨d, n, args, t, ds⟩, ⟨r₅, by omega⟩)

/-- A value of an enumeration; the words for booleans and null are reserved. -/
def enumValue (s : Stream) : Reading (Past s EnumValue) := do
  let ⟨d, r₀, h₀⟩ ← s.description
  if let some t := r₀.token? then
    if t.value?.any (["true", "false", "null"].contains ·) then r₀.refuse (.reservedValue t)
  let ⟨n, r₁, h₁⟩ ← r₀.name
  let ⟨ds, r₂, h₂⟩ ← constantDirectives r₁
  return (⟨d, n, ds⟩, ⟨r₂, by omega⟩)

/-- The interfaces behind the word `implements`, or none. -/
def interfaces (s : Stream) : Reading (From s (List Name)) := do
  let ⟨announced, r₁, h₁⟩ ← s.acceptWord "implements"
  if announced then
    let ⟨ns, r₂, h₂⟩ ← delimited .amp name r₁
    return (ns, ⟨r₂, by omega⟩)
  else return ([], ⟨r₁, h₁⟩)

/-- The members behind an equals sign, or none. -/
def members (s : Stream) : Reading (From s (List Name)) := do
  let ⟨announced, r₁, h₁⟩ ← s.accept .equals
  if announced then
    let ⟨ns, r₂, h₂⟩ ← delimited .pipe name r₁
    return (ns, ⟨r₂, by omega⟩)
  else return ([], ⟨r₁, h₁⟩)

/-- The operation that starts at a type. -/
def root (s : Stream) : Reading (Past s (OperationKind × Name)) := do
  let ⟨k, r₁, h₁⟩ ← s.operationKind
  let ⟨_, r₂, h₂⟩ ← r₁.expect .colon
  let ⟨n, r₃, h₃⟩ ← r₂.name
  return ((k, n), ⟨r₃, by omega⟩)

/-- The kinds of type, by the word that introduces them. -/
inductive TypeWord where
  | scalar | object | interface | union | enum | input
deriving DecidableEq

/-- The word that introduces a kind of type. -/
def TypeWord.keyword : TypeWord → String
  | .scalar => "scalar"
  | .object => "type"
  | .interface => "interface"
  | .union => "union"
  | .enum => "enum"
  | .input => "input"

/-- The kind of type that a word introduces. -/
def TypeWord.ofKeyword? (word : String) : Option TypeWord :=
  [scalar, object, interface, union, enum, input].find? (·.keyword == word)

/-- Directives and body of a type, behind its name. -/
def typeBody (word : TypeWord) (s : Stream) : Reading (From s (List Directive × TypeBody)) :=
  match word with
  | .scalar => do
    let ⟨ds, r⟩ ← constantDirectives s
    return ((ds, .scalar), r)
  | .object => do
    let ⟨is, r₁, h₁⟩ ← s.interfaces
    let ⟨ds, r₂, h₂⟩ ← constantDirectives r₁
    let ⟨fs, r₃, h₃⟩ ← maybeBetween .braceL .braceR fieldDefinition r₂
    return ((ds, .object is fs), ⟨r₃, by omega⟩)
  | .interface => do
    let ⟨is, r₁, h₁⟩ ← s.interfaces
    let ⟨ds, r₂, h₂⟩ ← constantDirectives r₁
    let ⟨fs, r₃, h₃⟩ ← maybeBetween .braceL .braceR fieldDefinition r₂
    return ((ds, .interface is fs), ⟨r₃, by omega⟩)
  | .union => do
    let ⟨ds, r₁, h₁⟩ ← constantDirectives s
    let ⟨ms, r₂, h₂⟩ ← r₁.members
    return ((ds, .union ms), ⟨r₂, by omega⟩)
  | .enum => do
    let ⟨ds, r₁, h₁⟩ ← constantDirectives s
    let ⟨vs, r₂, h₂⟩ ← maybeBetween .braceL .braceR enumValue r₁
    return ((ds, .enum vs), ⟨r₂, by omega⟩)
  | .input => do
    let ⟨ds, r₁, h₁⟩ ← constantDirectives s
    let ⟨fs, r₂, h₂⟩ ← maybeBetween .braceL .braceR inputValue r₁
    return ((ds, .input fs), ⟨r₂, by omega⟩)

/-- A type definition, introduced by the word of its kind. -/
def typeDefinition (word : TypeWord) (s : Stream) : Reading (Past s TypeDefinition) := do
  let ⟨d, r₀, h₀⟩ ← s.description
  let ⟨_, r₁, h₁⟩ ← r₀.expectWord word.keyword
  let ⟨n, r₂, h₂⟩ ← r₁.name
  let ⟨⟨ds, body⟩, r₃, h₃⟩ ← r₂.typeBody word
  return (⟨d, n, ds, body⟩, ⟨r₃, by omega⟩)

/-- A schema definition. -/
def schemaDefinition (s : Stream) : Reading (Past s SchemaDefinition) := do
  let ⟨d, r₀, h₀⟩ ← s.description
  let ⟨_, r₁, h₁⟩ ← r₀.expectWord "schema"
  let ⟨ds, r₂, h₂⟩ ← constantDirectives r₁
  let ⟨roots, r₃, h₃⟩ ← someBetween .braceL .braceR root r₂
  return (⟨d, ds, roots⟩, ⟨r₃, by omega⟩)

/-- The places at which a directive may stand. -/
def directiveLocations : List String :=
  ["QUERY", "MUTATION", "SUBSCRIPTION", "FIELD", "FRAGMENT_DEFINITION", "FRAGMENT_SPREAD",
    "INLINE_FRAGMENT", "VARIABLE_DEFINITION", "SCHEMA", "SCALAR", "OBJECT", "FIELD_DEFINITION",
    "ARGUMENT_DEFINITION", "INTERFACE", "UNION", "ENUM", "ENUM_VALUE", "INPUT_OBJECT",
    "INPUT_FIELD_DEFINITION", "DIRECTIVE_DEFINITION", "FRAGMENT_VARIABLE_DEFINITION"]

/-- A place at which a directive may stand. -/
def directiveLocation (s : Stream) : Reading (Past s Name) := do
  let ⟨n, r⟩ ← s.name
  if directiveLocations.contains n.text then return (n, r) else s.refuseFront

/-- A directive definition. -/
def directiveDefinition (s : Stream) : Reading (Past s DirectiveDefinition) := do
  let ⟨d, r₀, h₀⟩ ← s.description
  let ⟨_, r₁, h₁⟩ ← r₀.expectWord "directive"
  let ⟨_, r₂, h₂⟩ ← r₁.expect .at
  let ⟨n, r₃, h₃⟩ ← r₂.name
  let ⟨args, r₄, h₄⟩ ← r₃.argumentDefinitions
  let ⟨ds, r₅, h₅⟩ ← constantDirectives r₄
  let ⟨repeatable, r₆, h₆⟩ ← r₅.acceptWord "repeatable"
  let ⟨_, r₇, h₇⟩ ← r₆.expectWord "on"
  let ⟨ls, r₈, h₈⟩ ← delimited .pipe directiveLocation r₇
  return (⟨d, n, args, ds, repeatable, ls⟩, ⟨r₈, by omega⟩)

/-! ### Extensions -/

/-- Whether a type body adds anything. -/
def TypeBody.isEmpty : TypeBody → Bool
  | .scalar => true
  | .object is fs => is.isEmpty && fs.isEmpty
  | .interface is fs => is.isEmpty && fs.isEmpty
  | .union ms => ms.isEmpty
  | .enum vs => vs.isEmpty
  | .input fs => fs.isEmpty

/-- An extension of a type, which must add something. -/
def typeExtension (word : TypeWord) (s : Stream) : Reading (Past s TypeDefinition) := do
  let ⟨_, r₀, h₀⟩ ← s.expectWord "extend"
  let ⟨_, r₁, h₁⟩ ← r₀.expectWord word.keyword
  let ⟨n, r₂, h₂⟩ ← r₁.name
  let ⟨⟨ds, body⟩, r₃, h₃⟩ ← r₂.typeBody word
  if ds.isEmpty && TypeBody.isEmpty body then r₃.refuseFront
  else return (⟨none, n, ds, body⟩, ⟨r₃, by omega⟩)

/-- An extension of the schema, which must add something. -/
def schemaExtension (s : Stream) : Reading (Past s SchemaDefinition) := do
  let ⟨_, r₀, h₀⟩ ← s.expectWord "extend"
  let ⟨_, r₁, h₁⟩ ← r₀.expectWord "schema"
  let ⟨ds, r₂, h₂⟩ ← constantDirectives r₁
  let ⟨roots, r₃, h₃⟩ ← maybeBetween .braceL .braceR root r₂
  if ds.isEmpty && roots.isEmpty then r₃.refuseFront
  else return (⟨none, ds, roots⟩, ⟨r₃, by omega⟩)

/-- An extension of the declaration of a directive, which must add something. -/
def directiveExtension (s : Stream) : Reading (Past s DirectiveExtension) := do
  let ⟨_, r₀, h₀⟩ ← s.expectWord "extend"
  let ⟨_, r₁, h₁⟩ ← r₀.expectWord "directive"
  let ⟨_, r₂, h₂⟩ ← r₁.expect .at
  let ⟨n, r₃, h₃⟩ ← r₂.name
  let ⟨ds, r₄, h₄⟩ ← constantDirectives r₃
  if ds.isEmpty then r₄.refuseFront
  else return (⟨n, ds⟩, ⟨r₄, by omega⟩)

/-- What follows the token in front: the place of a look ahead. -/
def ahead : Stream → Stream
  | .more _ _ rest => rest
  | s => s

/-- Refuses a stream whose front is no token. -/
def checkFront : Stream → Reading Unit
  | .stuck e => .error e
  | _ => .ok ()

/-- An extension, told from the others by the word behind `extend`. -/
def extension (s : Stream) : Reading (Past s Definition) := do
  let next := s.ahead
  checkFront next
  match next.token? with
  | some (.name n) =>
    if n.text = "schema" then
      let ⟨d, r⟩ ← s.schemaExtension
      return (.schemaExtension d, r)
    else if n.text = "directive" then
      let ⟨d, r⟩ ← s.directiveExtension
      return (.directiveExtension d, r)
    else
      match TypeWord.ofKeyword? n.text with
      | some word =>
        let ⟨d, r⟩ ← s.typeExtension word
        return (.typeExtension d, r)
      | none => next.refuseFront
  | _ => next.refuseFront

/-! ### Documents -/

/-- Whether a description is in front. -/
def startsWithDescription (s : Stream) : Bool :=
  match s.token? with
  | some (.string _) => true
  | some (.block _) => true
  | _ => false

/-- A definition, told from the others by its first word, which may stand behind a
description. -/
def definition (s : Stream) : Reading (Past s Definition) :=
  if s.startsWith .braceL then do
    let ⟨o, r⟩ ← s.shorthand
    return (.operation o, r)
  else do
    let described := s.startsWithDescription
    let front := if described then s.ahead else s
    checkFront front
    if described && front.startsWith .braceL then s.refuse .shorthandDescription
    else
      match front.token? with
      | some (.name n) =>
        match TypeWord.ofKeyword? n.text with
        | some word =>
          let ⟨t, r⟩ ← s.typeDefinition word
          return (.type t, r)
        | none =>
          if n.text = "schema" then
            let ⟨d, r⟩ ← s.schemaDefinition
            return (.schema d, r)
          else if n.text = "directive" then
            let ⟨d, r⟩ ← s.directiveDefinition
            return (.directive d, r)
          else if (OperationKind.ofKeyword? n.text).isSome then
            let ⟨o, r⟩ ← s.operation
            return (.operation o, r)
          else if n.text = "fragment" then
            let ⟨f, r⟩ ← s.fragment
            return (.fragment f, r)
          else if described then s.refuse .strayDescription
          else if n.text = "extend" then s.extension
          else s.refuseFront
      | _ => front.refuseFront

/-- Definitions up to the end. -/
def definitions (s : Stream) : Reading Document := do
  let ⟨d, r, _⟩ ← s.definition
  if r.token?.isNone then return [d] else return d :: (← definitions r)
termination_by s.size

end Stream

/-- The document that a source spells, one definition at least. -/
def Document.read (source : String) : Reading Document := do
  let s := Stream.ofChars source.toList
  s.checkFront
  s.definitions

end OperationHooks
