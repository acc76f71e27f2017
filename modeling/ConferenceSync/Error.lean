import ConferenceSync.Gzip.Huffman
import ConferenceSync.Json.Lexer
import ConferenceSync.Text.Quoted

/-!
# Errors

What can go wrong between the server, the data files and the database, each with its cause.

## Main definitions

* `DecodeFault`, `TransportCause`, `FileCause`, `StorageCause` — causes
* `SyncError` — an error, with `SyncError.message`
* `SyncError.ofStorage` — a database error, told apart from a database that cannot be reached
-/

namespace ConferenceSync

/-- Why octets are no text: they are faulty as compressed data, or they are not UTF-8. -/
inductive DecodeFault where
  | compression (fault : Gzip.Fault)
  | notText
  deriving DecidableEq, Repr

/-- Why a request gives no usable answer. With `userAgent` the name that the client gives itself
cannot be sent. -/
inductive TransportCause where
  | reported (text : String)
  | status (code : Nat)
  | undecodableManifest (fault : DecodeFault)
  | undecodableFile (fault : DecodeFault)
  | userAgent
  deriving DecidableEq, Repr

/-- Why a file cannot be read or written. With `notDirectory` a file stands on the way to it, where
a directory should be; with `notText` its octets are not UTF-8. -/
inductive FileCause where
  | missing
  | directory
  | notDirectory
  | nameTooLong
  | nulInPath
  | notText
  | denied
  deriving DecidableEq, Repr

/-- Why the database refuses a statement. With `timedOut` no connection became free in time, with
`rowMissing` there is no row where one is expected, and with `duplicate` a row with the same key is
there, whose columns are given. -/
inductive StorageCause where
  | connection (text : String)
  | closed
  | timedOut
  | rowMissing
  | workerCrashed
  | protocol (detail : String)
  | duplicate (columns : List String)
  | tableMissing (name : String)
  | patternTooLong
  | tooManyParameters
  deriving DecidableEq, Repr

/-- An error of the synchronization. With `unreadable` a text is not the JSON text that it should
be, with `storage` the database refuses a statement, with `unavailable` it cannot be reached, and
with `unauthorized` the server does not accept the user. -/
inductive SyncError where
  | transport (url : String) (cause : TransportCause)
  | manifestFormat (expected found : String)
  | emptyFile (url : String)
  | unreadable (what : String) (fault : Json.Fault)
  | file (path : String) (cause : FileCause)
  | storage (task : String) (cause : StorageCause)
  | unavailable (task : String) (cause : StorageCause)
  | unauthorized (text : String)
  | alreadyRunning
  | cancelled
  deriving DecidableEq, Repr

/-- The text of a fault of compressed data. -/
def Gzip.Fault.message : Gzip.Fault → String
  | .truncated => "the compressed data end too early"
  | .corrupt => "the compressed data are corrupt"

/-- The text of a cause. -/
def DecodeFault.message : DecodeFault → String
  | compression fault => fault.message
  | notText => "the octets are not UTF-8"

/-- The text of a cause. -/
def TransportCause.message : TransportCause → String
  | reported text => text
  | status code => "unexpected HTTP status " ++ toString code
  | undecodableManifest fault => "undecodable manifest body: " ++ fault.message
  | undecodableFile fault => "undecodable body: " ++ fault.message
  | userAgent => "invalid user agent: failed to parse header value"

/-- The text of a cause. -/
def FileCause.message : FileCause → String
  | missing => "no such file"
  | directory => "is a directory"
  | notDirectory => "not a directory"
  | nameTooLong => "file name too long"
  | nulInPath => "file name contains an unexpected NUL byte"
  | notText => "the octets are not UTF-8"
  | denied => "permission denied"

/-- The text of a fault. -/
def Json.Fault.message : Json.Fault → String
  | .truncated => "the text ends too early"
  | .malformed => "the text is not JSON"
  | .mismatched => "the value has the wrong shape"

/-- The text of a cause. -/
def StorageCause.message : StorageCause → String
  | connection text => "error communicating with database: " ++ text
  | closed => "attempted to acquire a connection on a closed pool"
  | timedOut => "pool timed out while waiting for an open connection"
  | rowMissing => "no rows returned by a query that expected to return at least one row"
  | workerCrashed => "attempted to communicate with a crashed background worker"
  | protocol detail => "encountered unexpected or invalid data: " ++ detail
  | duplicate columns =>
    "error returned from database: (code: 1555) UNIQUE constraint failed: " ++
      ", ".intercalate columns
  | tableMissing name => "error returned from database: (code: 1) no such table: " ++ name
  | patternTooLong => "error returned from database: (code: 1) LIKE or GLOB pattern too complex"
  | tooManyParameters => "error returned from database: (code: 1) too many SQL variables"

/-- Whether the cause is that the database cannot be reached. -/
def StorageCause.isUnreachable : StorageCause → Bool
  | connection _ => true
  | closed => true
  | timedOut => true
  | _ => false

namespace SyncError

/-- The error of a database that fails at a task. -/
def ofStorage (task : String) (cause : StorageCause) : SyncError :=
  if cause.isUnreachable then unavailable task cause else storage task cause

/-- Whether the server does not accept the user. -/
def isUnauthorized : SyncError → Bool
  | unauthorized _ => true
  | _ => false

/-- The text of an error. -/
def message : SyncError → String
  | transport url cause => "transport error for " ++ url ++ ": " ++ cause.message
  | manifestFormat expected found =>
    "manifest format not supported: expected " ++ Text.quoted expected ++ ", got " ++
      Text.quoted found
  | emptyFile url => "empty response from " ++ url
  | unreadable what fault => "failed to parse " ++ what ++ ": " ++ fault.message
  | file path cause => "cache io error at " ++ Text.quoted path ++ ": " ++ cause.message
  | storage task cause => "storage error (" ++ task ++ "): " ++ cause.message
  | unavailable task cause => "storage unavailable (" ++ task ++ "): " ++ cause.message
  | unauthorized text => "authentication failed: " ++ text
  | alreadyRunning => "a sync pass is already running"
  | cancelled => "sync pass cancelled before apply"

end SyncError

end ConferenceSync
