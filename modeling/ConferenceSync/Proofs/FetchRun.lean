import ConferenceSync.Fetch.Cycle

/-!
# The run of a download

A cycle is written as a sequence of steps that may fail. Here it is what it gives for the world it
starts in, one step after another, with nothing left of the order of evaluation but the worlds in
between.

## Main definitions

* `World.mapCache` — a world with a function applied to the cache of its device
* `Cache.text?` — what a cache holds under a key, nothing if it cannot be read

## Main results

* `Fetch.run_fetchFile`, `Fetch.run_fetchFiles_cons`, `Fetch.run_fetchIfNewer` — what the parts of
  a cycle give
* `Fetch.exists_response_of_fetchIfNewer` — what a cycle that gives files has been answered
-/

namespace ConferenceSync

variable {σ : Type}

/-- The world with a function applied to the cache of its device. -/
def World.mapCache (w : World σ) (f : Cache → Cache) : World σ :=
  { w with device := { w.device with cache := f w.device.cache } }

/-- The text that a cache holds under a key, nothing if it cannot be read. -/
def Cache.text? (cache : Cache) (key : String) : Option String :=
  match cache.get key with
  | .ok text => text
  | .error _ => none

namespace Fetch

open Attempt (run_bind_of_ok run_bind_of_error)

variable (env : Environment σ) (w : World σ)

/-- A file is taken from the cache. Otherwise the server is asked for it, and its text is kept. -/
theorem run_fetchFile (url : String) :
    (fetchFile env url).run.run w =
      match w.device.cache.text? (Digest.urlKey url) with
      | some body => (.ok ⟨url, body, true⟩, w)
      | none =>
        match (env.get url none).run.run w with
        | (.error e, after) => (.error e, after)
        | (.ok response, after) =>
          match fileOf url response with
          | .error e => (.error e, after)
          | .ok body =>
            (.ok ⟨url, body, false⟩,
              after.mapCache fun cache => (cache.put (Digest.urlKey url) body).2) := by
  have looked : (ExceptT.lift (cached (Digest.urlKey url)) : Attempt σ (Option String)).run.run w =
      (.ok (w.device.cache.text? (Digest.urlKey url)), w) := rfl
  refine (run_bind_of_ok looked).trans ?_
  cases w.device.cache.text? (Digest.urlKey url) with
  | some body => rfl
  | none =>
    cases answered : (env.get url none).run.run w with
    | mk answer after =>
      cases answer with
      | error e => exact run_bind_of_error answered
      | ok response =>
        refine (run_bind_of_ok answered).trans ?_
        dsimp only
        cases fileOf url response with
        | error e => exact run_bind_of_error (Attempt.run_liftExcept (.error e) after)
        | ok body => exact run_bind_of_ok (Attempt.run_liftExcept (.ok body) after)

theorem run_fetchFiles_cons (url : String) (rest : List String) :
    (fetchFiles env (url :: rest)).run.run w =
      match (fetchFile env url).run.run w with
      | (.error e, after) => (.error e, after)
      | (.ok file, after) =>
        match (fetchFiles env rest).run.run after with
        | (.error e, last) => (.error e, last)
        | (.ok files, last) => (.ok (file :: files), last) := by
  rw [fetchFiles]
  cases first : (fetchFile env url).run.run w with
  | mk result after =>
    cases result with
    | error e => exact run_bind_of_error first
    | ok file =>
      refine (run_bind_of_ok first).trans ?_
      dsimp only
      cases others : (fetchFiles env rest).run.run after with
      | mk result last =>
        cases result with
        | error e => exact run_bind_of_error others
        | ok files => exact run_bind_of_ok others

/-- The URLs of the files that a manifest names. -/
def fileUrls (settings : Settings) (manifest : Manifest) : List String :=
  manifest.files.map (Url.resolve settings.effectiveUrl)

/-- The server is asked for the manifest, and the files that it names are fetched. What it does not
name is then removed from the cache. -/
theorem run_fetchIfNewer (settings : Settings) (reference? : Option String) :
    (fetchIfNewer env settings reference?).run.run w =
      match (env.get settings.effectiveUrl (reference?.bind Time.normalizeHttpDate?)).run.run w with
      | (.error e, after) => (.error e, after)
      | (.ok response, after) =>
        if response.status = 304 then (.ok none, after)
        else if response.status ≠ 200 then
          (.error (.transport settings.effectiveUrl (.status response.status)), after)
        else
          match manifestOf settings.expectedFormat settings.effectiveUrl response with
          | .error e => (.error e, after)
          | .ok manifest =>
            match (fetchFiles env (fileUrls settings manifest)).run.run after with
            | (.error e, last) => (.error e, last)
            | (.ok files, last) =>
              (.ok (some ⟨files, response.lastModified?.bind Time.normalizeHttpDate?⟩),
                last.mapCache (purge ((fileUrls settings manifest).map Digest.urlKey))) := by
  rw [fetchIfNewer]
  cases answered : (env.get settings.effectiveUrl
      (reference?.bind Time.normalizeHttpDate?)).run.run w with
  | mk answer after =>
    cases answer with
    | error e => exact run_bind_of_error answered
    | ok response =>
      refine (run_bind_of_ok answered).trans ?_
      by_cases unchanged : response.status = 304
      · simp only [unchanged, ↓reduceIte]
        rfl
      · by_cases refused : response.status ≠ 200
        · rw [if_neg unchanged, if_pos refused]
          dsimp only
          rw [if_neg unchanged, if_pos refused]
          rfl
        · rw [if_neg unchanged, if_neg refused]
          dsimp only
          rw [if_neg unchanged, if_neg refused]
          cases manifestOf settings.expectedFormat settings.effectiveUrl response with
          | error e => exact run_bind_of_error (Attempt.run_liftExcept (.error e) after)
          | ok manifest =>
            refine (run_bind_of_ok (Attempt.run_liftExcept (.ok manifest) after)).trans ?_
            dsimp only
            cases read : (fetchFiles env (fileUrls settings manifest)).run.run after with
            | mk result last =>
              cases result with
              | error e => exact run_bind_of_error read
              | ok files => exact run_bind_of_ok read

/-- A cycle that gives files has been answered with a manifest, gives the files that it names, and
has the date that came with it. -/
theorem exists_response_of_fetchIfNewer {env : Environment σ} {settings : Settings}
    {reference? : Option String} {fetched : Fetched} {w last : World σ}
    (cycle : (fetchIfNewer env settings reference?).run.run w = (.ok (some fetched), last)) :
    ∃ response after manifest, (env.get settings.effectiveUrl
        (reference?.bind Time.normalizeHttpDate?)).run.run w = (.ok response, after) ∧
      response.status = 200 ∧
      manifestOf settings.expectedFormat settings.effectiveUrl response = .ok manifest ∧
      fetched.timestamp? = response.lastModified?.bind Time.normalizeHttpDate? := by
  rw [run_fetchIfNewer] at cycle
  cases answered : (env.get settings.effectiveUrl
      (reference?.bind Time.normalizeHttpDate?)).run.run w with
  | mk answer after =>
    rw [answered] at cycle
    cases answer with
    | error e => cases cycle
    | ok response =>
      dsimp only at cycle
      by_cases unchanged : response.status = 304
      · rw [if_pos unchanged] at cycle
        cases cycle
      · rw [if_neg unchanged] at cycle
        by_cases refused : response.status ≠ 200
        · rw [if_pos refused] at cycle
          cases cycle
        · rw [if_neg refused] at cycle
          cases named : manifestOf settings.expectedFormat settings.effectiveUrl response with
          | error e =>
            rw [named] at cycle
            cases cycle
          | ok manifest =>
            refine ⟨response, after, manifest, rfl, Decidable.not_not.1 refused, named, ?_⟩
            rw [named] at cycle
            dsimp only at cycle
            cases read : (fetchFiles env (fileUrls settings manifest)).run.run after with
            | mk result next =>
              rw [read] at cycle
              cases result with
              | error e => cases cycle
              | ok files =>
                cases cycle
                rfl

end Fetch

end ConferenceSync
