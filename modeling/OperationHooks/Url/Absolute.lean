import OperationHooks.Url.Host

/-!
# Absolute URLs

Whether a text is a URL on its own: it has a scheme, and if that needs a host, a well written host
and behind its colon, if there is one, the number of a service. Paths, queries and fragments may
hold anything. Blanks around the text and line breaks and tabs within it do not count.
-/

namespace OperationHooks

namespace Url

/-! ### Schemes -/

/-- What a scheme means for what is behind it. -/
inductive SchemeKind where
  | file
  | web
  | other
deriving DecidableEq

/-- Schemes whose URLs always have a host. -/
def webSchemes : List String := ["http", "https", "ws", "wss", "ftp"]

/-- The kind of a scheme. -/
def SchemeKind.ofName (name : List Char) : SchemeKind :=
  let small := String.ofList (name.map Char.toLower)
  if small = "file" then .file else if webSchemes.contains small then .web else .other

/-- Whether a scheme treats backslashes as slashes. -/
def SchemeKind.isSpecial (kind : SchemeKind) : Bool := kind != .other

/-- What a scheme is made of behind its first character, which is a letter. -/
def isSchemeChar (c : Char) : Bool := c.isAlphanum || c == '+' || c == '-' || c == '.'

/-- The kind of the scheme of a text, and what is behind its colon. -/
def scheme? (text : List Char) : Option (SchemeKind × List Char) :=
  let name := text.takeWhile isSchemeChar
  if !name.head?.any Char.isAlpha then none
  else
    match text.dropWhile isSchemeChar with
    | ':' :: rest => some (.ofName name, rest)
    | _ => none

/-! ### Authorities -/

/-- Whether a character is a slash for a scheme. -/
def isSlash (kind : SchemeKind) (c : Char) : Bool := c == '/' || (kind.isSpecial && c == '\\')

/-- Whether a character ends the authority, which is what stands before the path. -/
def endsAuthority (kind : SchemeKind) (c : Char) : Bool := isSlash kind c || c == '?' || c == '#'

/-- The characters before the first colon that is not in brackets. -/
def hostText (inBrackets : Bool) : List Char → List Char
  | [] => []
  | c :: cs =>
    if c = ':' ∧ !inBrackets then []
    else c :: hostText (if c = '[' then true else if c = ']' then false else inBrackets) cs

/-- Whether digits spell the number of a service on a host, at least up to a backslash. -/
def isServiceNumber (text : List Char) : Bool :=
  (Ipv4.digitsValue? 10 (text.takeWhile (· != '\\'))).any (· ≤ 65535)

/-- Whether an authority without its user is well written: a host, and a service behind a colon. -/
def isHostAndService (kind : SchemeKind) (text : List Char) : Bool :=
  let host := hostText false text
  let behind := text.drop host.length
  let hostFits := if kind.isSpecial then host ≠ [] && Host.isWellKnown host else Host.isOpaque host
  hostFits
    && match behind with
      | [] => true
      | _ :: service => host ≠ [] && isServiceNumber service

/-- The user in front of the last at sign of an authority, and what is behind that sign. -/
def splitUser (authority : List Char) : Option (List Char) × List Char :=
  let behind := (authority.reverse.takeWhile (· != '@')).reverse
  if behind.length = authority.length then (none, authority)
  else (some (authority.take (authority.length - behind.length - 1)), behind)

/-- Whether there is anything about a user besides a colon. -/
def saysUser (user : List Char) : Bool := user ≠ [] && user ≠ [':']

/-- Whether an authority is well written. `rest` is what stands behind it. A user needs a host, and
so does an at sign that something follows. -/
def isAuthority (kind : SchemeKind) (authority rest : List Char) : Bool :=
  let (user?, place) := splitUser authority
  let hostNeeded :=
    match user? with
    | none => false
    | some [] => rest ≠ []
    | some user => saysUser user
  isHostAndService kind place && (place ≠ [] || !hostNeeded)

/-- Whether a text that starts with an authority is well written. -/
def startsWithAuthority (kind : SchemeKind) (text : List Char) : Bool :=
  isAuthority kind (text.takeWhile (!endsAuthority kind ·)) (text.dropWhile (!endsAuthority kind ·))

/-! ### Files -/

/-- Whether a text is a letter of a drive with its mark. -/
def isDrive : List Char → Bool
  | [letter, mark] => letter.isAlpha && (mark == ':' || mark == '|')
  | _ => false

/-- Whether the host of a file is well written, where there is one. -/
def isFileHost (host : List Char) : Bool := host = [] || isDrive host || Host.isWellKnown host

/-- Whether what is behind the scheme of a file is well written. -/
def isFilePart : List Char → Bool
  | a :: b :: rest =>
    if isSlash .file a && isSlash .file b then
      isFileHost (rest.takeWhile (!endsAuthority .file ·))
    else true
  | _ => true

/-! ### URLs -/

/-- Blanks and control characters, which do not count around a URL. -/
def isOuter (c : Char) : Bool := c ≤ ' '

/-- Line breaks and tabs, which do not count anywhere. -/
def isBreak (c : Char) : Bool := c == '\t' || c == '\n' || c == '\x0d'

/-- The characters of a text that count. -/
def counting (text : List Char) : List Char :=
  let trimmed := ((text.dropWhile isOuter).reverse.dropWhile isOuter).reverse
  trimmed.filter (!isBreak ·)

/-- Whether what is behind a scheme is well written. -/
def isSchemePart (kind : SchemeKind) (rest : List Char) : Bool :=
  match kind with
  | .file => isFilePart rest
  | .web => startsWithAuthority .web (rest.dropWhile (isSlash .web))
  | .other =>
    match rest with
    | '/' :: '/' :: rest => startsWithAuthority .other rest
    | _ => true

/-- Whether a text is an absolute URL. -/
def isAbsolute (text : String) : Bool :=
  match scheme? (counting text.toList) with
  | none => false
  | some (kind, rest) => isSchemePart kind rest

end Url

end OperationHooks
