import ConferenceSync.Digest.UrlKey
import ConferenceSync.Fetch.Settings
import ConferenceSync.Text.Blank
import ConferenceSync.Time.HttpDate
import ConferenceSync.Url.Basic
import ConferenceSync.World.Basic

/-!
# A cycle of the download

A cycle asks for the manifest and then for the files that it names, in their order. A file that is
in the cache is not asked for again: a file under a URL never changes, a changed one gets another
URL. At the end of a cycle that has succeeded, everything that the manifest does not name is
removed from the cache. The cache only saves requests, so its failures are of no consequence.

## Main definitions

* `DataFile`, `Fetched` — a file, and what a cycle gives
* `fetchFile` — a file from the cache or from the server
* `fetchIfNewer` — a cycle
-/

namespace ConferenceSync.Fetch

variable {σ : Type}

/-- A file of a data set, and whether it was in the cache. -/
structure DataFile where
  url : String
  body : String
  fromCache : Bool
  deriving DecidableEq, Repr

/-- What a cycle gives: the files in the order of the manifest, and when the manifest was changed
last, if the server says so in a date that can be read. -/
structure Fetched where
  files : List DataFile
  timestamp? : Option String
  deriving DecidableEq, Repr

/-- The URL of the manifest that is asked for. A blank override counts for nothing. -/
def Settings.effectiveUrl (s : Settings) : String :=
  match s.override? with
  | some content => if Text.isBlankText content then s.manifestUrl else Text.trim content
  | none => s.manifestUrl

/-- The manifest of a response, which has to be of the expected format. -/
def manifestOf (expectedFormat url : String) (response : Response) : Except SyncError Manifest :=
  match decodeBody response.body with
  | .error fault => .error (.transport url (.undecodableManifest fault))
  | .ok text =>
    match Manifest.ofText text with
    | .error fault => .error (.unreadable "manifest" fault)
    | .ok manifest =>
      if manifest.format = expectedFormat then .ok manifest
      else .error (.manifestFormat expectedFormat manifest.format)

/-- The text of a file that is answered with a response. -/
def fileOf (url : String) (response : Response) : Except SyncError String :=
  if response.status ≠ 200 then .error (.transport url (.status response.status))
  else
    match decodeBody response.body with
    | .error fault => .error (.transport url (.undecodableFile fault))
    | .ok text => if Text.isBlankText text then .error (.emptyFile url) else .ok text

/-- The text that the cache holds under a key, nothing if it cannot be read. -/
def cached (key : String) : Action σ (Option String) :=
  .read fun d =>
    match d.cache.get key with
    | .ok text => text
    | .error _ => none

/-- Does to the cache what can be done. -/
def changeCache (f : Cache → Except SyncError Unit × Cache) : Action σ Unit :=
  .change fun d => { d with cache := (f d.cache).2 }

/-- A file from the cache or else from the server. -/
def fetchFile (env : Environment σ) (url : String) : Attempt σ DataFile := do
  let key := Digest.urlKey url
  match ← (cached key : Action σ (Option String)) with
  | some body => return ⟨url, body, true⟩
  | none =>
    let response ← env.get url none
    let body ← (fileOf url response : Except SyncError String)
    -- If the file cannot be kept, the next cycle asks for it again.
    (changeCache (·.put key body) : Action σ Unit)
    return ⟨url, body, false⟩

/-- Files, one after another. -/
def fetchFiles (env : Environment σ) : List String → Attempt σ (List DataFile)
  | [] => return []
  | url :: rest => do
    let file ← fetchFile env url
    let files ← fetchFiles env rest
    return file :: files

/-- The cache without the keys that are not in use. A key that cannot be removed stays. -/
def purge (used : List String) (cache : Cache) : Cache :=
  match cache.keys with
  | .error _ => cache
  | .ok keys =>
    (keys.filter fun key => !used.contains key).foldl (fun cache key => (cache.delete key).2) cache

/-- The files of a data set, if it is newer than a reference date. A reference that is no date
counts for nothing. -/
def fetchIfNewer (env : Environment σ) (settings : Settings) (reference? : Option String) :
    Attempt σ (Option Fetched) := do
  let manifestUrl := settings.effectiveUrl
  let response ← env.get manifestUrl (reference?.bind Time.normalizeHttpDate?)
  if response.status = 304 then return none
  else if response.status ≠ 200 then throw (.transport manifestUrl (.status response.status))
  else
    let manifest ← (manifestOf settings.expectedFormat manifestUrl response : Except _ _)
    -- References are seen from the URL that was asked for, an override included.
    let urls := manifest.files.map (Url.resolve manifestUrl)
    let files ← fetchFiles env urls
    (Action.change fun d => { d with cache := purge (urls.map Digest.urlKey) d.cache } :
      Action σ Unit)
    return some ⟨files, response.lastModified?.bind Time.normalizeHttpDate?⟩

end ConferenceSync.Fetch
