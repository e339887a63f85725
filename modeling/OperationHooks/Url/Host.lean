import OperationHooks.Text.Utf8
import OperationHooks.Url.Domain
import OperationHooks.Url.Ipv6

/-!
# Hosts

What may stand for a host in a URL. The hosts of well-known schemes are domain names or addresses;
other schemes have opaque hosts, which are only kept from holding certain characters. Brackets hold
an IPv6 address in both.
-/

namespace OperationHooks

namespace Host

/-- The text inside brackets, if a text starts with one. `some none` tells that the closing one is
missing. -/
def bracketed? : List Char → Option (Option (List Char))
  | '[' :: rest => some (if rest.getLast? = some ']' then some rest.dropLast else none)
  | _ => none

/-- Whether a text that may be in brackets is an address in brackets, or passes a test. -/
def isAddressOr (test : List Char → Bool) (host : List Char) : Bool :=
  match bracketed? host with
  | some (some address) => Ipv6.isAddress address
  | some none => false
  | none => test host

/-! ### Opaque hosts -/

/-- Characters that an opaque host may not hold. -/
def opaqueForbidden : List Char :=
  ['\x00', '\t', '\n', '\x0d', ' ', '#', '/', ':', '<', '>', '?', '@', '[', '\\', ']', '^', '|']

/-- Whether a text may be an opaque host. -/
def isOpaque (host : List Char) : Bool :=
  isAddressOr (fun h => !h.any opaqueForbidden.contains) host

/-! ### Hosts of well-known schemes -/

/-- The bytes of a text in which a percent sign with two hexadecimal digits stands for a byte. -/
def percentDecode : List Char → List UInt8
  | [] => []
  | '%' :: a :: b :: rest =>
    match Ipv4.hexValue? a, Ipv4.hexValue? b with
    | some x, some y => (x * 16 + y).toUInt8 :: percentDecode rest
    | _, _ => 0x25 :: percentDecode (a :: b :: rest)
  | c :: rest => String.utf8EncodeChar c ++ percentDecode rest

/-- Whether a text is a domain name or an IPv4 address. -/
def isDomain (host : List Char) : Bool :=
  match readUtf8 ⟨(percentDecode host).toArray⟩ with
  | .error _ => false
  | .ok text =>
    match Domain.labels? text.toList with
    | none => false
    | some labels =>
      let name := ['.'].intercalate labels
      name ≠ [] && (!Ipv4.endsInNumber name || Ipv4.isAddress name)

/-- Whether a text may be the host of a well-known scheme. -/
def isWellKnown (host : List Char) : Bool := isAddressOr isDomain host

end Host

end OperationHooks
