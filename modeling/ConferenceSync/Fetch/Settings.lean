import ConferenceSync.Digest.Fingerprint
import ConferenceSync.Error
import ConferenceSync.Fetch.Manifest

/-!
# Settings of the download

## Main definitions

* `Settings` — what to download and how
* `Settings.check` — whether the settings can be used
-/

namespace ConferenceSync.Fetch

/-- What to download and how. `override?` is the content of the file that may name another manifest,
if there is such a file, and `userAgent` the name that the client gives itself. -/
structure Settings where
  manifestUrl : String
  expectedFormat : String
  override? : Option String
  userAgent : String
  timeoutSeconds : Nat
  deriving DecidableEq, Repr

namespace Settings

/-- The settings for a manifest unless others are given. -/
def standard (manifestUrl : String) : Settings where
  manifestUrl
  expectedFormat := Manifest.knownFormat
  override? := none
  userAgent := "conference-sdk-core-rust/0.1.0"
  timeoutSeconds := 30

/-- Whether an octet may stand in a header of a request. -/
def isHeaderOctet (b : UInt8) : Bool :=
  (32 ≤ b && b ≠ 127) || b = 9

/-- The settings, if the name of the client can be sent. -/
def check (s : Settings) : Except SyncError Settings :=
  if (Digest.octets s.userAgent).all isHeaderOctet then .ok s
  else .error (.transport "-" .userAgent)

end Settings

end ConferenceSync.Fetch
