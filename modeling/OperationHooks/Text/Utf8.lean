import OperationHooks.Text.Quoted

/-!
# Texts in bytes

Files hold bytes. Reading them as UTF-8 gives a text or the place where they stop being one: the
bytes there start no character, or start one that is not finished.
-/

namespace OperationHooks

/-- Why bytes are no character. -/
inductive Utf8Reason where
  | start
  | continuation
  | ending
deriving DecidableEq, Repr

/-- Where bytes stop being UTF-8: the first of the bytes at fault, by value and position, and how
many belong together. -/
structure Utf8Fault where
  reason : Utf8Reason
  first : UInt8
  position : Nat
  count : Nat
deriving DecidableEq, Repr

/-- The wording of the reason. -/
def Utf8Reason.message : Utf8Reason → String
  | .start => "invalid start byte"
  | .continuation => "invalid continuation byte"
  | .ending => "unexpected end of data"

/-- The wording of the fault. -/
def Utf8Fault.message (f : Utf8Fault) : String :=
  let bytes :=
    if f.count = 1 then
      "byte 0x" ++ String.ofList (hexLower 2 f.first.toNat) ++ " in position "
        ++ toString f.position
    else
      "bytes in position " ++ toString f.position ++ "-" ++ toString (f.position + f.count - 1)
  "'utf-8' codec can't decode " ++ bytes ++ ": " ++ f.reason.message

/-! ### Well-formed sequences -/

/-- Bytes from one to another, both included. -/
abbrev ByteRange : Type := UInt8 × UInt8

/-- The bytes that go on a character, unless the first byte narrows them. -/
def anyContinuation : ByteRange := (0x80, 0xbf)

/-- What has to follow the first byte of a character, byte by byte; nothing if it starts none.
The narrower ranges leave out spellings that are too long, surrogates, and what lies beyond the
last character. -/
def following? (first : UInt8) : Option (List ByteRange) :=
  if first < 0x80 then some []
  else if first < 0xc2 then none
  else if first < 0xe0 then some [anyContinuation]
  else if first = 0xe0 then some [(0xa0, 0xbf), anyContinuation]
  else if first = 0xed then some [(0x80, 0x9f), anyContinuation]
  else if first < 0xf0 then some [anyContinuation, anyContinuation]
  else if first = 0xf0 then some [(0x90, 0xbf), anyContinuation, anyContinuation]
  else if first < 0xf4 then some [anyContinuation, anyContinuation, anyContinuation]
  else if first = 0xf4 then some [(0x80, 0x8f), anyContinuation, anyContinuation]
  else none

/-- How many bytes are in the ranges, one after the other. -/
def countFollowing : List ByteRange → List UInt8 → Nat
  | (low, high) :: ranges, b :: bytes =>
    if low ≤ b ∧ b ≤ high then countFollowing ranges bytes + 1 else 0
  | _, _ => 0

/-- Where bytes that follow so many others stop being UTF-8. Bytes that are well-formed to their
end stop there. -/
def Utf8Fault.of (position : Nat) : List UInt8 → Utf8Fault
  | [] => ⟨.ending, 0, position, 0⟩
  | first :: rest =>
    match following? first with
    | none => ⟨.start, first, position, 1⟩
    | some ranges =>
      let n := countFollowing ranges rest
      if n = ranges.length then Utf8Fault.of (position + n + 1) (rest.drop n)
      else if n = rest.length then ⟨.ending, first, position, n + 1⟩
      else ⟨.continuation, first, position, n + 1⟩
termination_by bytes => bytes.length
decreasing_by simp only [List.length_cons, List.length_drop]; omega

/-! ### Reading -/

/-- The text that bytes spell, or where they stop spelling one. -/
def readUtf8 (bytes : ByteArray) : Except Utf8Fault String :=
  match String.fromUTF8? bytes with
  | some text => .ok text
  | none => .error (.of 0 bytes.toList)

end OperationHooks
