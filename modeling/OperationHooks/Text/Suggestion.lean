/-!
# Suggestions

The names that somebody may have meant by a name that does not exist: those that few edits lead
to. An edit inserts, deletes or replaces a character or swaps two neighbours, and small and capital
letters do not differ.
-/

namespace OperationHooks

/-! ### Distance -/

/-- The cells of a row of the table of distances, from left to right, for one character `x` of the
first text and the remaining characters of the second. `left` and `diagonal` are the cells before
and above that, `ups` the row above from here on; `before?` and `twoUp` are the characters passed
last and the row above the row above, which a swap goes back to. -/
def distanceCells (x : Char) (before? : Option Char) (left diagonal : Nat) (ups : List Nat)
    (passed? : Option Char) (twoUp : List Nat) : List Char → List Nat
  | [] => []
  | y :: ys =>
    match ups with
    | [] => []
    | up :: ups =>
      let edited := min (min (up + 1) (left + 1)) (diagonal + if x = y then 0 else 1)
      let cell :=
        match twoUp.head? with
        | some w => if passed? = some x ∧ before? = some y then min edited (w + 1) else edited
        | none => edited
      cell :: distanceCells x before? cell up ups (some y)
        (if passed?.isSome then twoUp.tail else twoUp) ys

/-- The last row of the table of distances, from the row that was reached and, after the first,
the character and the row before that. -/
def distanceRow (row : List Nat) (before? : Option (Char × List Nat)) (b : List Char) :
    List Char → List Nat
  | [] => row
  | x :: xs =>
    let above := row.headD 0
    let cells := distanceCells x (before?.map (·.1)) (above + 1) above row.tail none
      ((before?.map (·.2)).getD []) b
    distanceRow ((above + 1) :: cells) (some (x, row)) b xs

/-- The least number of edits between two texts. -/
def editDistance (a b : List Char) : Nat :=
  (distanceRow (List.range (b.length + 1)) none b a).getLastD 0

/-! ### Order -/

/-- Whether the first of two lists precedes the second at the first place where they differ. A
list precedes those that go on where it ends. -/
def precedesBy {α : Type} [DecidableEq α] (less : α → α → Bool) : List α → List α → Bool
  | _, [] => false
  | [], _ :: _ => true
  | x :: xs, y :: ys => if x = y then precedesBy less xs ys else less x y

/-- Whether one key precedes another: part by part, each part number by number. -/
def keyPrecedes : List (List Nat) → List (List Nat) → Bool := precedesBy (precedesBy Nat.blt)

/-- A text cut before and behind its digits, as code points. What is made of digits is compared by
value. -/
def naturalParts : List Char → List Nat → List Nat → List (List Nat)
  | [], text, [] => [text.reverse]
  | [], _, digits => [digitsPart digits, []]
  | c :: cs, text, [] =>
    if c.isDigit then text.reverse :: naturalParts cs [] [c.toNat]
    else naturalParts cs (c.toNat :: text) []
  | c :: cs, _, d :: ds =>
    if c.isDigit then naturalParts cs [] (c.toNat :: d :: ds)
    else digitsPart (d :: ds) :: naturalParts cs [c.toNat] []
where
  /-- Digits, the last first, with their value in front. -/
  digitsPart (digits : List Nat) : List Nat :=
    digits.reverse.foldl (fun n d => n * 10 + (d - 48)) 0 :: digits.reverse

/-! ### Suggestions -/

/-- How far an option is from a name: nothing if it is the name itself, and one if only small and
capital letters differ. -/
def optionDistance (name option : List Char) : Nat :=
  if option = name then 0
  else
    let small := option.map Char.toLower
    let wanted := name.map Char.toLower
    if small = wanted then 1 else editDistance small wanted

/-- The options that are near to a name, the nearest first; two in five characters may differ, and
one more. -/
def suggestions (name : String) (options : List String) : List String :=
  let limit := name.length * 2 / 5 + 1
  let measured := options.eraseDups.map (fun o => (optionDistance name.toList o.toList, o))
  let near := measured.filter (fun (d, _) => d ≤ limit)
  let keyed := near.map (fun (d, o) => ([d] :: naturalParts o.toList [] [], o))
  (keyed.mergeSort (fun a b => !keyPrecedes b.1 a.1)).map (·.2)

/-- Texts in single quotes, with commas and a last "or". -/
def alternatives (texts : List String) : String :=
  let quoted := texts.map (fun t => "'" ++ t ++ "'")
  match quoted.reverse with
  | [] => ""
  | [one] => one
  | [two, one] => one ++ " or " ++ two
  | last :: others => ", ".intercalate others.reverse ++ ", or " ++ last

/-- A question for the nearest options, at most five, to go behind a message. -/
def didYouMean (options : List String) : String :=
  if options = [] then "" else " Did you mean " ++ alternatives (options.take 5) ++ "?"

end OperationHooks
