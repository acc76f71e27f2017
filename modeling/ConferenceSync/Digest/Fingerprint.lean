import ConferenceSync.Digest.Blake3

/-!
# Import fingerprints

The fingerprint of a record tells two versions of it apart. It is the digest of a canonical
rendering of the record's fields: label, number of octets of the value, value, one after another.

## Main definitions

* `Field` — a labelled value
* `Field.list` — a list as one field for each of its values
* `canonical` — the rendering of fields
* `fingerprint` — the digest of the rendering, in hexadecimal digits
-/

namespace ConferenceSync.Digest

/-- A labelled value of a record. -/
structure Field where
  label : String
  value : String
  deriving DecidableEq, Repr

/-- The octets of a text in UTF-8. -/
def octets (s : String) : List UInt8 :=
  s.toUTF8.data.toList

/-- A number below `256 ^ count` as octets, the lowest first. -/
def littleEndian : Nat → Nat → List UInt8
  | 0, _ => []
  | count + 1, n => UInt8.ofNat n :: littleEndian count (n / 256)

/-- The rendering of a field. The number of octets of its value takes eight octets. -/
def Field.canonical (f : Field) : List UInt8 :=
  octets f.label ++ littleEndian 8 (octets f.value).length ++ octets f.value

/-- A list as one field for each of its values; an empty list leaves no trace. -/
def Field.list (label : String) (values : List String) : List Field :=
  values.map fun v => ⟨label, v⟩

/-- The canonical rendering of fields. -/
def canonical (fields : List Field) : List UInt8 :=
  fields.flatMap Field.canonical

/-- The fingerprint of fields. -/
def fingerprint (fields : List Field) : String :=
  Text.hexOctets (Blake3.digest (canonical fields))

end ConferenceSync.Digest
