import CtxRemote.Library.Transition
import Mathlib.Logic.Function.Basic

/-! The publication of a model bundle in a cache that processes share. An acquisition takes a lock, removes
what an interrupted one left, and then moves a verified bundle in place and puts a marker beside it; any
process may look for the bundle at any time, without the lock. Processes take steps in any order, and may
die at any point.

A bundle is told by what its verification makes of it. What is at a path can always be told and read; the
operations that change it may fail.
-/

namespace CtxRemote.Semantic
open CtxRemote.Library

-----------------------------------------------------------------------------------------
-- The cache
-----------------------------------------------------------------------------------------

/-- What the verification makes of a bundle: the hash of its manifest, if `verify_model_bundle` accepts it,
and whether the rest of the manifest is that of the descriptor, whose hash is `descriptorSha`.
-/
structure BundleChecks (Bundle : Type) where
  manifestSha : Bundle → Option String
  matchesDescriptor : Bundle → Bool
  isEmpty : Bundle → Bool
  descriptorSha : String

/-- What is at the path of the bundle. -/
inductive CacheEntry (Bundle : Type) where
  | absent
  | directory (bundle : Bundle)
  | other

/-- What is at the path of the completion marker: a file that matches the manifest, one that does not, or
one that is no marker, or anything else.
-/
inductive MarkerEntry where
  | absent
  | file (matching : Option Bool)
  | other
deriving DecidableEq

/-- What is in the cache. -/
structure CacheContent (Bundle : Type) where
  entry : CacheEntry Bundle
  marker : MarkerEntry

/-- How `cached_coreml_bundle_for` ends. -/
inductive LookupResult (Bundle : Type) where
  | missing
  | incomplete
  | unmatched
  | unverified
  | found (bundle : Bundle)

/-- Where `cached_coreml_bundle_for` is. -/
inductive Lookup (Bundle : Type) where
  | path
  | marker (pathExists : Bool)
  | matching
  | verifying
  | finished (result : LookupResult Bundle)

/-- How an acquisition ends. -/
inductive AcquireOutcome (Bundle : Type) where
  | acquired (bundle : Bundle)
  | refused
  | unavailable
  | integrity

/-- Where a process is, by what it does next. -/
inductive CachePhase (Bundle : Type) where
  | idle
  -- `cached_coreml_bundle_for` of a process without the lock
  | reading (lookup : Lookup Bundle)
  -- `repair_interrupted_cache_publication`
  | inspectingPath
  | inspectingMarker (path : CacheEntry Bundle)
  | removingDirectory
  | removingMarker
  -- `acquire_coreml_bundle_for`
  | checking (lookup : Lookup Bundle)
  | downloading
  -- `install_bundle`
  | moving (bundle : Bundle)
  | verifyingFinal
  -- `write_completion_marker_atomic`
  | verifyingMarked
  | matchingMarker
  | publishingMarker
  | rechecking (lookup : Lookup Bundle)
  | unlocking (outcome : AcquireOutcome Bundle)
  | done (outcome : AcquireOutcome Bundle)
  | dead

/-- Who has the lock, the cache, and all processes. -/
structure CacheWorld (Bundle : Type) where
  lock : Option Nat
  content : CacheContent Bundle
  processes : Nat → CachePhase Bundle

-----------------------------------------------------------------------------------------
-- Steps
-----------------------------------------------------------------------------------------

section Steps

variable {Bundle : Type} (checks : BundleChecks Bundle)

/-- `verify_descriptor_bundle`. -/
def BundleChecks.verify (bundle : Bundle) : Bool :=
  checks.manifestSha bundle = some checks.descriptorSha && checks.matchesDescriptor bundle

def CacheEntry.isAbsent : CacheEntry Bundle → Bool
  | .absent => true
  | _ => false

/-- One step of `cached_coreml_bundle_for`. -/
def Lookup.next (content : CacheContent Bundle) : Lookup Bundle → Lookup Bundle
  | .path => .marker !content.entry.isAbsent
  | .marker pathExists =>
      let markerExists := content.marker ≠ .absent
      if !pathExists && !markerExists then .finished .missing
      else if !pathExists || !markerExists then .finished .incomplete
      else .matching
  | .matching => if content.marker = .file (some true) then .verifying else .finished .unmatched
  | .verifying =>
      match content.entry with
      | .directory bundle =>
          if checks.verify bundle then .finished (.found bundle) else .finished .unverified
      | _ => .finished .unverified
  | .finished result => .finished result

/-- What the repair does with what it has found. -/
def repairPhase (path : CacheEntry Bundle) (marker : MarkerEntry) : CachePhase Bundle :=
  match path, marker with
  | .directory _, .absent => .removingDirectory
  | .absent, .file _ => .removingMarker
  | .other, .absent => .unlocking .refused
  | .absent, .other => .unlocking .refused
  | _, _ => .checking .path

/-- A step that goes as it should. -/
def proceed (content : CacheContent Bundle)
    : CachePhase Bundle → Option (CacheContent Bundle × CachePhase Bundle)
  | .reading (.finished _) => none
  | .reading lookup => some (content, .reading (lookup.next checks content))
  | .inspectingPath => some (content, .inspectingMarker content.entry)
  | .inspectingMarker path => some (content, repairPhase path content.marker)
  | .removingDirectory => some ({ content with entry := .absent }, .checking .path)
  | .removingMarker => some ({ content with marker := .absent }, .checking .path)
  | .checking (.finished .missing) => some (content, .downloading)
  | .checking (.finished (.found bundle)) => some (content, .unlocking (.acquired bundle))
  | .checking (.finished _) => some (content, .unlocking .integrity)
  | .checking lookup => some (content, .checking (lookup.next checks content))
  | .moving bundle =>
      match content.entry with
      | .absent => some ({ content with entry := .directory bundle }, .verifyingMarked)
      | .directory old =>
          -- a directory takes the place of an empty one
          if checks.isEmpty old then
            some ({ content with entry := .directory bundle }, .verifyingMarked)
          else some (content, .verifyingFinal)
      | .other => some (content, .verifyingFinal)
  | .verifyingFinal =>
      match content.entry with
      | .directory bundle =>
          some (content, if checks.verify bundle then .verifyingMarked else .unlocking .integrity)
      | _ => some (content, .unlocking .integrity)
  | .verifyingMarked =>
      match content.entry with
      | .directory bundle =>
          some (content,
            if checks.manifestSha bundle = some checks.descriptorSha then .matchingMarker
            else .unlocking .integrity)
      | _ => some (content, .unlocking .integrity)
  | .matchingMarker =>
      match content.marker with
      | .file (some true) => some (content, .rechecking .path)
      | .absent | .file (some false) => some (content, .publishingMarker)
      | .file none | .other => some (content, .unlocking .integrity)
  | .publishingMarker => some ({ content with marker := .file (some true) }, .rechecking .path)
  | .rechecking (.finished (.found bundle)) => some (content, .unlocking (.acquired bundle))
  | .rechecking (.finished _) => some (content, .unlocking .integrity)
  | .rechecking lookup => some (content, .rechecking (lookup.next checks content))
  | _ => none

/-- Where a process goes when an operation fails. -/
def failed (content : CacheContent Bundle) : CachePhase Bundle → Option (CachePhase Bundle)
  | .idle => some (.done .unavailable)
  | .removingDirectory | .removingMarker | .downloading => some (.unlocking .unavailable)
  | .moving _ => some (if content.entry.isAbsent then .unlocking .unavailable else .verifyingFinal)
  | .publishingMarker => some (.unlocking .integrity)
  | _ => none

/-- What a process may do. A removal goes on with a part of the bundle, and a download that succeeds leaves
a bundle in a directory of its own.
-/
inductive CacheAction (Bundle : Type) where
  | read
  | lock
  | unlock
  | proceed
  | fail
  | erode (rest : Bundle)
  | stage (bundle : Bundle)
  | die

/-- What a step of a process does to its lock, the cache and its phase. The lock of a process that dies is
gone with it.
-/
def CachePhase.act (owner : Nat) (lock : Option Nat) (content : CacheContent Bundle)
    (phase : CachePhase Bundle)
    : CacheAction Bundle → Option (Option Nat × CacheContent Bundle × CachePhase Bundle)
  | .read =>
      match phase with
      | .idle => some (lock, content, .reading .path)
      | _ => none
  | .lock =>
      match phase, lock with
      | .idle, none => some (some owner, content, .inspectingPath)
      | _, _ => none
  | .unlock =>
      match phase with
      | .unlocking outcome => some (none, content, .done outcome)
      | _ => none
  | .proceed => (proceed checks content phase).map fun next => (lock, next.1, next.2)
  | .fail => (failed content phase).map fun phase => (lock, content, phase)
  | .erode rest =>
      match phase with
      | .removingDirectory =>
          some (lock, { content with entry := .directory rest }, .removingDirectory)
      | _ => none
  | .stage bundle =>
      match phase with
      | .downloading =>
          some (lock, content,
            if checks.verify bundle then .moving bundle else .unlocking .integrity)
      | _ => none
  | .die =>
      match phase with
      | .idle | .done _ | .dead => none
      | _ => some (if lock = some owner then none else lock, content, .dead)

/-- One step. -/
def CacheWorld.step (world : CacheWorld Bundle) (label : Nat × CacheAction Bundle)
    : Option (CacheWorld Bundle) :=
  ((world.processes label.1).act checks label.1 world.lock world.content label.2).map fun next =>
    ⟨next.1, next.2.1, Function.update world.processes label.1 next.2.2⟩

/-- No process has begun. -/
def CacheWorld.fresh (content : CacheContent Bundle) : CacheWorld Bundle where
  lock := none
  content
  processes _ := .idle

end Steps

end CtxRemote.Semantic
