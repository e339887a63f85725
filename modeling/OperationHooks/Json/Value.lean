import OperationHooks.Decimal.Binary64

/-!
# JSON values

Objects keep their members in order. A key occurs once in an object that was read or built with
`insertMember`: the first occurrence gives the place and the last one the value.

JSON can spell strings that are no texts, because half of a surrogate pair stands in them. A value
with such a string can be kept and passed on, but not written.

Integers have any length, but those that are longer than `longestInteger` can neither be read nor
written.
-/

namespace OperationHooks

/-- The greatest number of digits of an integer that is read or written. -/
def longestInteger : Nat := 4300

/-- The wording for an integer that is longer, with what is known of it. -/
def longIntegerMessage (found : String) : String :=
  "Exceeds the limit (" ++ toString longestInteger ++ " digits) for integer string conversion"
    ++ found ++ "; use sys.set_int_max_str_digits() to increase the limit"

/-- A JSON value; numbers with a point or an exponent differ from integers. -/
inductive Json where
  | null
  | bool (b : Bool)
  | int (n : Int)
  | float (x : Binary64)
  | str (s : String)
  | arr (items : List Json)
  | obj (members : List (String × Json))
  /-- A string with half of a surrogate pair, or an object with such a key, as it was spelled. -/
  | torn (spelling : String)

/-- The value of a key. -/
def lookupMember {α : Type} (key : String) : List (String × α) → Option α
  | [] => none
  | (k, v) :: ms => if k = key then some v else lookupMember key ms

/-- Members with one more; a key that is there already keeps its place and takes the new value. -/
def insertMember {α : Type} (key : String) (value : α) : List (String × α) → List (String × α)
  | [] => [(key, value)]
  | (k, v) :: ms => if k = key then (key, value) :: ms else (k, v) :: insertMember key value ms

/-- Members in the order of first occurrence, each with its last value. -/
def collectMembers {α : Type} (pairs : List (String × α)) : List (String × α) :=
  pairs.foldl (fun ms (k, v) => insertMember k v ms) []

namespace Json

/-- A value that counts as missing where options are expected: null, false, zero, and whatever is
empty. -/
def isFalsy : Json → Bool
  | null => true
  | bool b => !b
  | int n => n == 0
  | float x => x.isZero
  | str s => s == ""
  | arr items => items.isEmpty
  | obj members => members.isEmpty
  | torn _ => false

mutual

/-- Whether nothing in a value is torn. -/
def isWhole : Json → Bool
  | arr items => areWhole items
  | obj members => haveWhole members
  | torn _ => false
  | _ => true

/-- Whether nothing in values is torn. -/
def areWhole : List Json → Bool
  | [] => true
  | v :: vs => v.isWhole && areWhole vs

/-- Whether nothing in the values of members is torn. -/
def haveWhole : List (String × Json) → Bool
  | [] => true
  | (_, v) :: ms => v.isWhole && haveWhole ms

end

/-! ### The length of integers -/

mutual

/-- The integers in a value have as many digits as `longest?` says at most, if it says so. -/
def Fits (longest? : Option Nat) : Json → Prop
  | int n => ∀ longest ∈ longest?, (Nat.toDigits 10 n.natAbs).length ≤ longest
  | arr items => AllFit longest? items
  | obj members => MembersFit longest? members
  | _ => True

/-- The integers in values are short enough. -/
def AllFit (longest? : Option Nat) : List Json → Prop
  | [] => True
  | v :: vs => v.Fits longest? ∧ AllFit longest? vs

/-- The integers in the values of members are short enough. -/
def MembersFit (longest? : Option Nat) : List (String × Json) → Prop
  | [] => True
  | (_, v) :: ms => v.Fits longest? ∧ MembersFit longest? ms

end

mutual

/-- Whether a value fits can be told by going through it. -/
def decideFits (longest? : Option Nat) : (v : Json) → Decidable (v.Fits longest?)
  | int n =>
    inferInstanceAs (Decidable (∀ longest ∈ longest?, (Nat.toDigits 10 n.natAbs).length ≤ longest))
  | arr items => decideAllFit longest? items
  | obj members => decideMembersFit longest? members
  | null | bool _ | float _ | str _ | torn _ => .isTrue trivial

/-- Whether values fit can be told one after the other. -/
def decideAllFit (longest? : Option Nat) : (vs : List Json) → Decidable (AllFit longest? vs)
  | [] => .isTrue trivial
  | v :: vs => @instDecidableAnd _ _ (decideFits longest? v) (decideAllFit longest? vs)

/-- Whether members fit can be told one after the other. -/
def decideMembersFit (longest? : Option Nat) :
    (ms : List (String × Json)) → Decidable (MembersFit longest? ms)
  | [] => .isTrue trivial
  | (_, v) :: ms => @instDecidableAnd _ _ (decideFits longest? v) (decideMembersFit longest? ms)

end

instance (longest? : Option Nat) (v : Json) : Decidable (v.Fits longest?) := decideFits longest? v

end Json

end OperationHooks
