import ConferenceSync.Url.Address
import ConferenceSync.Url.Domain.Name
import ConferenceSync.Url.Escape

/-!
# Hosts

The canonical text of a host. Where the scheme has a fixed syntax a host is an address or a domain
name, whose labels are put into lower case and into ASCII; elsewhere it is an address in brackets
or any text.

## Main definitions

* `domainText?` — the host of a scheme with a fixed syntax
* `opaqueText?` — the host of another scheme
-/

namespace ConferenceSync.Url

/-- The text of octets, with the replacement character for octets that are no text. -/
def lossyText (octets : List UInt8) : List Char :=
  match String.fromUTF8? ⟨octets.toArray⟩ with
  | some s => s.toList
  | none => ['\ufffd']

/-- The canonical text of an address in brackets, after its opening bracket. -/
def bracketText? (cs : List Char) : Option String :=
  if cs.getLast? = some ']' then Address.ipv6Text? cs.dropLast else none

/-- The canonical text of the host of a scheme with a fixed syntax. -/
def domainText? : List Char → Option String
  | '[' :: cs => bracketText? cs
  | cs =>
    match Domain.canonical? (lossyText (unescape (String.ofList cs).toUTF8.toList)) with
    | none => none
    | some domain =>
      -- A name can vanish: all its characters may be ones that do not show.
      if domain.isEmpty then none
      else if Address.endsInNumber domain then Address.ipv4Text? domain
      else some (String.ofList domain)

/-- The canonical text of the host of another scheme. -/
def opaqueText? : List Char → Option String
  | '[' :: cs => bracketText? cs
  | cs =>
    if cs.any Domain.forbiddenInHost.contains then none
    else some (String.ofList (escape isControl cs))

end ConferenceSync.Url
