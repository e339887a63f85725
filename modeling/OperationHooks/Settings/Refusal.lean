/-!
# Refused options

Why an option is refused, and where it stands. Decoding goes on after a refusal, so that all of
them are reported together.
-/

namespace OperationHooks

/-- A step on the way to an option: the key of a mapping, or the index of an item. -/
inductive OptionStep where
  | key (name : String)
  | index (i : Nat)
deriving DecidableEq, Repr

/-- Why an option is refused. -/
inductive OptionFault where
  | missing
  | extra
  | notString
  | tooShort
  | notList
  | notDictionary
  | notModel (model : String)
  | notLiteral (word : String)
  | unknownTag (shown : String) (expected : List String)
  | noTag
  | unrecognized (shown : String)
  | badBoolean
  | notBoolean
deriving DecidableEq, Repr

/-- Words in single quotes with commas between them. -/
def quotedWords (words : List String) : String :=
  ", ".intercalate (words.map (fun w => "'" ++ w ++ "'"))

/-- The wording of a fault. -/
def OptionFault.message : OptionFault → String
  | .missing => "Field required"
  | .extra => "Extra inputs are not permitted"
  | .notString => "Input should be a valid string"
  | .tooShort => "String should have at least 1 character"
  | .notList => "Input should be a valid list"
  | .notDictionary => "Input should be a valid dictionary"
  | .notModel model => "Input should be a valid dictionary or instance of " ++ model
  | .notLiteral word => "Input should be '" ++ word ++ "'"
  | .unknownTag shown expected =>
    "Input tag '" ++ shown ++ "' found using 'kind' does not match any of the expected tags: "
      ++ quotedWords expected
  | .noTag => "Unable to extract tag using discriminator 'kind'"
  | .unrecognized shown => "Value error, Unrecognized fetcher configuration: " ++ shown
  | .badBoolean => "Input should be a valid boolean, unable to interpret input"
  | .notBoolean => "Input should be a valid boolean"

/-- A refused option: the way to it, and why it is refused. -/
structure Refusal where
  path : List OptionStep
  fault : OptionFault
deriving DecidableEq, Repr

/-! ### Decoding with several refusals -/

/-- A decoded value, or everything that keeps it from being decoded. -/
inductive Decoded (α : Type) where
  | accepted (value : α)
  | refused (refusals : List Refusal)

namespace Decoded

/-- A refusal of the option itself. -/
def refuse {α : Type} (fault : OptionFault) : Decoded α := .refused [⟨[], fault⟩]

/-- What keeps a value from being decoded. -/
def refusals {α : Type} : Decoded α → List Refusal
  | .accepted _ => []
  | .refused rs => rs

/-- The decoded value. -/
def value? {α : Type} : Decoded α → Option α
  | .accepted a => some a
  | .refused _ => none

/-- A decoded value with a function applied to it. -/
def map {α β : Type} (f : α → β) : Decoded α → Decoded β
  | .accepted a => .accepted (f a)
  | .refused rs => .refused rs

/-- Both parts have to be decoded; the refusals of both are kept. -/
def both {α β : Type} : Decoded (α → β) → Decoded α → Decoded β
  | .accepted f, .accepted a => .accepted (f a)
  | .accepted _, .refused rs => .refused rs
  | .refused rs, x => .refused (rs ++ x.refusals)

instance : Applicative Decoded where
  pure := .accepted
  map := map
  seq f x := both f (x ())

/-- The refusals of an option seen from one step above it. -/
def under {α : Type} (step : OptionStep) : Decoded α → Decoded α
  | .accepted a => .accepted a
  | .refused rs => .refused (rs.map (fun r => ⟨step :: r.path, r.fault⟩))

end Decoded

end OperationHooks
