import ConferenceSync.Rehearsal.Play
import ConferenceSync.Store.Query
import ConferenceSync.Time.Scan

/-!
# The command line

One pass over files that stand for what a server would answer, on a new device. The pass is
reported in a few lines, with a summary of what is stored after it.

## Main definitions

* `CommandLine.Options`, `CommandLine.parse` — the options of a run
* `CommandLine.Files` — the files of a run, as far as they can be read
* `CommandLine.run` — the lines that a run prints
-/

namespace ConferenceSync.CommandLine

open Sync

/-- The options of a run. `override?` is the file that may name another manifest, and `served` are
URLs with the files that are served under them. -/
structure Options where
  manifestUrl : String
  override? : Option String
  seed? : Option String
  seedTimestamp? : Option String
  firstDay? : Option Time.Date
  lastDay? : Option Time.Date
  today? : Option Time.Date
  served : List (String × String)

/-- No options. -/
def Options.none : Options := ⟨"", .none, .none, .none, .none, .none, .none, []⟩

/-- A day such as `2014-06-25`. -/
def dayOfText? (s : String) : Option Time.Date := do
  let (year, rest) ← Time.scanNumber 4 4 s.toList
  let rest ← Time.scanChar '-' rest
  let (month, rest) ← Time.scanNumber 2 2 rest
  let rest ← Time.scanChar '-' rest
  let (day, rest) ← Time.scanNumber 2 2 rest
  if rest.isEmpty then Time.Date.of? year month day else .none

/-- The options with a day, or what is wrong with it. -/
def withDay (s : String) (f : Time.Date → Options) : Except String Options :=
  match dayOfText? s with
  | some day => .ok (f day)
  | .none => .error ("invalid day: " ++ s)

/-- The options that words stand for. A word without its value, or an unknown one, is an error. -/
def parse (options : Options) : List String → Except String Options
  | [] =>
    if options.manifestUrl == "" then .error "the option --manifest-url is missing" else .ok options
  | "--manifest-url" :: url :: rest => parse { options with manifestUrl := url } rest
  | "--manifest-override" :: file :: rest => parse { options with override? := some file } rest
  | "--bootstrap" :: file :: rest => parse { options with seed? := some file } rest
  | "--bootstrap-timestamp" :: date :: rest =>
    parse { options with seedTimestamp? := some date } rest
  | "--conference-start" :: day :: rest => do
    let options ← withDay day fun d => { options with firstDay? := some d }
    parse options rest
  | "--conference-end" :: day :: rest => do
    let options ← withDay day fun d => { options with lastDay? := some d }
    parse options rest
  | "--today" :: day :: rest => do
    let options ← withDay day fun d => { options with today? := some d }
    parse options rest
  | "--serve" :: url :: file :: rest =>
    parse { options with served := options.served ++ [(url, file)] } rest
  | word :: _ => .error ("unexpected argument: " ++ word)

/-- When a day starts, in milliseconds. -/
def dayStart (day : Time.Date) : Int := day.toDays * 86400000

/-- The waits between passes. Without the days of the conference it is always far off. -/
def Options.policy (options : Options) : Policy :=
  match options.firstDay?, options.lastDay? with
  | some first, some last => .standard (dayStart first) (dayStart last + 86400000 - 1)
  | _, _ => .standard 0x3fffffffffffffff 0x3fffffffffffffff

/-- The files of a run, as far as they can be read: two texts, and the octets that are served under
URLs. -/
structure Files where
  override? : Option String
  seed? : Option String
  served : List (String × List UInt8)

/-- The settings of a run. -/
def settings (options : Options) (files : Files) : Settings where
  fetch := { Fetch.Settings.standard options.manifestUrl with override? := files.override? }
  rules := .standard
  seed? := options.seed?.map fun name =>
    { name
      content :=
        match files.seed? with
        | some text => .ok text
        | .none => .error .missing
      timestamp := options.seedTimestamp?.getD Seed.oldestTimestamp }
  policy := options.policy

/-- A new device before a stage on which files are served, at the start of a day. -/
def theatre (files : Files) (today : Time.Date) : Rehearsal.Theatre where
  device := .start .initial .inMemory
  outside :=
    { served := .ofList (files.served.map fun (url, body) => (url, ⟨200, body, .none⟩))
      hooks := []
      user? := .none
      refresh := []
      feedback? := .none
      watch? := .none
      time := dayStart today
      events := [] }

/-- What became of the data of the conference, in words. -/
def outcomeText : ConferenceOutcome → String
  | .unchanged => "unchanged"
  | .updated applied stats => "updated with " ++ toString applied ++ " mutations: " ++ stats.text
  | .cancelled => "cancelled"
  | .failed e => "failed: " ++ e.message

/-- What became of another step, in words. -/
def stepText : StepOutcome → String
  | .done => "done"
  | .skipped e => "skipped: " ++ e.message
  | .failed e => "failed: " ++ e.message

/-- The lines about a pass. -/
def reportLines (report : Report) : List String :=
  ["conference data " ++ outcomeText report.conference,
    "user data " ++ stepText report.userData ++ ", feedback " ++ stepText report.feedback,
    toString report.consecutiveFailures ++ " failures in a row, next pass in " ++
      toString report.nextDelay.seconds ++ " s"]

/-- The lines about what is stored. -/
def summaryLines (db : Database) : List String :=
  match Query.sessions db, Query.speakers db, Query.rooms db, Query.tags db, Query.blocks db with
  | .ok sessions, .ok speakers, .ok rooms, .ok tags, .ok blocks =>
    ("store holds " ++ toString sessions.length ++ " sessions, " ++ toString speakers.length ++
      " speakers, " ++ toString rooms.length ++ " rooms, " ++ toString tags.length ++ " tags, " ++
      toString blocks.length ++ " blocks")
      :: (sessions.take 5).map fun row => "  - " ++ row.columns.id ++ " | " ++ row.columns.title
  | _, _, _, _, _ => ["the store cannot be read"]

/-- The lines that a run prints. A run without a day takes place in 1970. -/
def run (options : Options) (files : Files) : List String :=
  let settings := settings options files
  let today := options.today?.getD ⟨1970, 1, 1⟩
  let (result, world) :=
    Rehearsal.play settings (fun env => (sync env settings .manual).run) (theatre files today)
  (match result with
    | .ok report => reportLines report
    | .error e => [e.message]) ++ summaryLines world.device.db

end ConferenceSync.CommandLine
