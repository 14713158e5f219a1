import CtxRemote.Integrations.SlashCommands

/-! What installs keep over their runs, between which the user edits the commands: an install that is not
forced replaces only contents that an earlier one has bundled, also after installs that were cut short.
-/

namespace CtxRemote.Integrations
open CtxRemote.Library CtxRemote.Library.Interruptible

variable {externals : Externals} {install : Installation} {target : CommandFileTarget} {dir : CommandDir}

-----------------------------------------------------------------------------------------
-- The status
-----------------------------------------------------------------------------------------

/-- What the metadata of a directory record for a name. -/
def CommandDir.recorded (externals : Externals) (dir : CommandDir) (name : String) : Option String :=
  (dir.metadata.bind externals.fromSlice).bind (·.files.lookup name)

/-- What a status says of the file at the path of a command. -/
def Says (externals : Externals) (target : CommandFileTarget) (dir : CommandDir)
    : SlashCommandInstallStatus → Prop
  | .current => ∃ body, dir.entries target.filename = some (.file body)
      ∧ externals.sha256Hex body = target.bundledHash externals
  | .stale => ∃ body, dir.entries target.filename = some (.file body)
      ∧ externals.sha256Hex body ≠ target.bundledHash externals
      ∧ dir.recorded externals target.filename = some (externals.sha256Hex body)
  | .missing => ∀ body, dir.entries target.filename ≠ some (.file body)
  | .modified => ∀ body, dir.entries target.filename = some (.file body)
      → externals.sha256Hex body ≠ target.bundledHash externals

variable {stopped : Option InstallError → CommandDir → Prop}

theorem ensures_ensurePathInside {done : Unit → CommandDir → Prop} (kept : ∀ ending, stopped ending dir)
    (finished : done () dir) : Ensures (ensurePathInside target) dir done stopped := by
  simp only [ensurePathInside, ensures_ite, ensures_fail, ensures_pure]
  exact ⟨fun _ => kept _, fun _ => ⟨fun _ => kept _, fun _ => finished⟩⟩

theorem ensures_readMetadata {done : Option SlashCommandMetadata → CommandDir → Prop}
    (kept : ∀ ending, stopped ending dir) (unread : done none dir)
    (finished : done (dir.metadata.bind externals.fromSlice) dir)
    : Ensures (readMetadata externals) dir done stopped := by
  simp only [readMetadata, ensures_bind, ensures_read, ensures_attempt, ensures_operation, ensures_pure]
  refine ⟨kept _, unread, ?_⟩
  intro final same
  cases same
  exact finished

theorem ensures_installedHash {done : Option String → CommandDir → Prop}
    (kept : ∀ ending, stopped ending dir)
    (regular : ∀ body, dir.entries target.filename = some (.file body)
      → done (some (externals.sha256Hex body)) dir)
    (other : (∀ body, dir.entries target.filename ≠ some (.file body)) → done none dir)
    : Ensures (installedHash externals target) dir done stopped := by
  simp only [installedHash, ensures_bind, ensures_operation, ensures_read]
  refine ⟨kept _, kept _, ?_⟩
  intro final same
  cases same
  cases there : dir.entries target.filename with
  | none => exact ensures_pure.mpr (other (by simp [there]))
  | some entry =>
      cases entry with
      | file body =>
          simp only [ensures_bind, ensures_operation, ensures_pure]
          refine ⟨kept _, kept _, ?_⟩
          intro final same
          cases same
          exact regular body there
      | directory => exact ensures_pure.mpr (other (by simp [there]))
      | symlink resolves => exact ensures_pure.mpr (other (by simp [there]))

theorem ensures_pathExists {done : Bool → CommandDir → Prop} (kept : ∀ ending, stopped ending dir)
    (absent : done false dir) (present : done true dir)
    : Ensures (pathExists target) dir done stopped := by
  simp only [pathExists, ensures_bind, ensures_read, ensures_attempt, ensures_operation, ensures_pure]
  refine ⟨kept _, absent, ?_⟩
  intro final same
  cases same
  cases there : dir.entries target.filename with
  | none => exact absent
  | some entry =>
      cases entry with
      | file body => exact present
      | directory => exact present
      | symlink resolves => cases resolves <;> assumption

/-- The status is read off the directory, and leaves it as it is. -/
theorem ensures_classifyFileTarget {done : StatusResult → CommandDir → Prop}
    {metadata : Option SlashCommandMetadata} (kept : ∀ ending, stopped ending dir)
    (read : ∀ name hash, metadata.bind (·.files.lookup name) = some hash
      → dir.recorded externals name = some hash)
    (finished : ∀ result, Says externals target dir result.status → done result dir)
    : Ensures (classifyFileTarget externals target metadata) dir done stopped := by
  rw [classifyFileTarget, ensures_bind]
  apply ensures_installedHash kept
  · intro body there
    simp only [ensures_ite, ensures_pure]
    refine ⟨fun same => finished _ ⟨body, there, same⟩, fun other => ⟨fun same => ?_, fun _ => ?_⟩⟩
    · exact finished _ ⟨body, there, other, read _ _ same⟩
    · apply finished
      intro found isThere
      cases there.symm.trans isThere
      exact other
  · intro other
    simp only [ensures_bind, ensures_ite, ensures_pure]
    apply ensures_pathExists kept
    · exact ⟨fun wrong => absurd wrong Bool.false_ne_true, fun _ => finished _ other⟩
    · refine ⟨fun _ => finished _ fun body there => absurd there (other body), fun wrong => ?_⟩
      exact absurd rfl wrong

theorem ensures_statusFileTarget {done : StatusResult → CommandDir → Prop}
    (kept : ∀ ending, stopped ending dir)
    (finished : ∀ result, Says externals target dir result.status → done result dir)
    : Ensures (statusFileTarget externals target) dir done stopped := by
  rw [statusFileTarget, ensures_bind]
  apply ensures_ensurePathInside kept
  rw [ensures_bind]
  apply ensures_readMetadata kept
  · exact ensures_classifyFileTarget kept (fun _ _ none => absurd none (by simp)) finished
  · exact ensures_classifyFileTarget kept (fun _ _ same => same) finished

-----------------------------------------------------------------------------------------
-- The writes
-----------------------------------------------------------------------------------------

/-- Metadata after an install are as before, or a part of what it writes. -/
def MetadataKept (externals : Externals) (install : Installation) (dir final : CommandDir) : Prop :=
  final.metadata = dir.metadata
    ∨ ∃ size, final.metadata
      = some ((externals.toVecPretty (.current externals install)).take size)

/-- The file of a command after an install, of which a part may have been written. -/
def Overwritten (install : Installation) (dir final : CommandDir) : Prop :=
  (∀ resolves, dir.entries install.target.filename ≠ some (.symlink resolves))
    ∧ dir.entries install.target.filename ≠ some .directory
    ∧ ∃ size, final.entries = (dir.put install.target.filename (install.target.body.take size)).entries

theorem ensures_writeMetadata {before : CommandDir} (kept : MetadataKept externals install before dir)
    {done : Unit → CommandDir → Prop}
    (stops : ∀ ending final, final.entries = dir.entries → MetadataKept externals install before final
      → stopped ending final)
    (finished : ∀ final, final.entries = dir.entries
      → final.metadata = some (externals.toVecPretty (.current externals install)) → done () final)
    : Ensures (writeMetadata externals install) dir done stopped := by
  simp only [writeMetadata, ensures_bind, ensures_operation, ensures_lengthy]
  refine ⟨stops _ _ rfl kept, stops _ _ rfl kept, ?_⟩
  intro middle same
  cases same
  refine ⟨stops _ _ rfl kept, stops _ _ rfl (.inr ⟨install.cut, rfl⟩), stops _ _ rfl kept,
    stops _ _ rfl (.inr ⟨install.cut, rfl⟩), ?_⟩
  intro final same
  cases same
  exact finished _ rfl rfl

/-- What a write to the path of a command leaves, whole or cut short. -/
theorem overwritten_of_write {size : Nat} {final : CommandDir}
    (wrote : dir.write install.target.filename (install.target.body.take size) = some final)
    : final.metadata = dir.metadata ∧ (final.entries = dir.entries ∨ Overwritten install dir final) := by
  unfold CommandDir.write at wrote
  split at wrote
  next => cases wrote
  next => cases wrote; exact ⟨rfl, .inl rfl⟩
  next regular linked =>
      cases wrote
      exact ⟨rfl, .inr ⟨linked, regular, size, rfl⟩⟩

/-- What the writes of a command leave, whole or cut short. -/
theorem ensures_writeCommandFile {done : Unit → CommandDir → Prop}
    (stops : ∀ ending final, MetadataKept externals install dir final
      → (final.entries = dir.entries ∨ Overwritten install dir final) → stopped ending final)
    (finished : ∀ final wrote, dir.write install.target.filename install.target.body = some wrote
      → final.entries = wrote.entries
      → final.metadata = some (externals.toVecPretty (.current externals install)) → done () final)
    : Ensures (writeCommandFile externals install) dir done stopped := by
  have unchanged (ending : Option InstallError) : stopped ending dir := stops _ _ (.inl rfl) (.inl rfl)
  have part (ending : Option InstallError)
      : stopped ending
        ((dir.write install.target.filename (install.target.body.take install.cut)).getD dir) := by
    cases wrote : dir.write install.target.filename (install.target.body.take install.cut) with
    | none => exact unchanged ending
    | some final =>
        obtain ⟨same, entries⟩ := overwritten_of_write wrote
        exact stops _ _ (.inl same) entries
  have writes
      : Ensures (do
          operation .create some
          lengthy .write
            (fun dir =>
              (dir.write install.target.filename (install.target.body.take install.cut)).getD dir)
            (·.write install.target.filename install.target.body)
          writeMetadata externals install) dir done stopped := by
    simp only [ensures_bind, ensures_operation, ensures_lengthy]
    refine ⟨unchanged _, unchanged _, ?_⟩
    intro middle same
    cases same
    refine ⟨unchanged _, part _, unchanged _, part _, ?_⟩
    intro wrote written
    have whole := written
    rw [← List.take_length (l := install.target.body)] at whole
    obtain ⟨same, entries⟩ := overwritten_of_write whole
    apply ensures_writeMetadata (.inl same)
    · intro ending final untouched metadata
      exact stops ending final metadata
        (entries.imp untouched.trans fun changed =>
          ⟨changed.1, changed.2.1, by rw [untouched]; exact changed.2.2⟩)
    · intro final untouched metadata
      exact finished final wrote written untouched metadata
  rw [writeCommandFile, ensures_bind]
  apply ensures_ensurePathInside unchanged
  simp only [ensures_bind, ensures_read, ensures_attempt, ensures_operation]
  refine ⟨unchanged _, ?_, ?_⟩
  · simpa only [ensures_bind, ensures_operation] using writes
  · intro middle same
    cases same
    split
    next => exact ensures_fail.mpr (unchanged _)
    next => exact ensures_fail.mpr (unchanged _)
    next => simpa only [ensures_bind] using writes

-----------------------------------------------------------------------------------------
-- The install
-----------------------------------------------------------------------------------------

/-- An install may overwrite what is at its path: contents that are not its own, where it is forced or the
metadata record them.
-/
def MayOverwrite (externals : Externals) (install : Installation) (dir : CommandDir) : Prop :=
  ∀ body, dir.entries install.target.filename = some (.file body)
    → externals.sha256Hex body ≠ install.target.bundledHash externals
      ∧ (install.force = true
        ∨ dir.recorded externals install.target.filename = some (externals.sha256Hex body))

/-- What an install may have done when it ends, also when it is cut short. -/
structure Effect (externals : Externals) (install : Installation) (dir final : CommandDir) : Prop where
  metadata : MetadataKept externals install dir final
  entries : final.entries = dir.entries
    ∨ Overwritten install dir final ∧ MayOverwrite externals install dir

/-- What an install that returns has done: its command is there and recorded, or it was refused and nothing
has changed.
-/
def Answers (externals : Externals) (install : Installation) (dir : CommandDir) (result : InstallResult)
    (final : CommandDir) : Prop :=
  if result.success then
    result.status = .current
      ∧ ((∃ body, final.entries install.target.filename = some (.file body)
          ∧ externals.sha256Hex body = install.target.bundledHash externals)
        ∨ ∃ resolves, dir.entries install.target.filename = some (.symlink resolves))
  else
    result.status = .modified ∧ install.force = false ∧ final = dir

/-- One install from any directory. -/
theorem ensures_installFileTarget
    : Ensures (installFileTarget externals install) dir
      (fun result final => Answers externals install dir result final ∧ Effect externals install dir final)
      (fun _ final => Effect externals install dir final) := by
  have unchanged : Effect externals install dir dir := ⟨.inl rfl, .inl rfl⟩
  rw [installFileTarget, ensures_bind]
  apply ensures_statusFileTarget (fun _ => unchanged)
  intro previous status
  have writes (may : MayOverwrite externals install dir) (result : InstallResult)
      (success : result.success = true) (current : result.status = .current)
      : Ensures (do
          writeCommandFile externals install
          pure result) dir
        (fun result final =>
          Answers externals install dir result final ∧ Effect externals install dir final)
        (fun _ final => Effect externals install dir final) := by
    simp only [ensures_bind, ensures_pure]
    apply ensures_writeCommandFile
    · intro ending final metadata entries
      exact ⟨metadata, entries.imp id fun written => ⟨written, may⟩⟩
    · intro final wrote written same metadata
      have whole := written
      rw [← List.take_length (l := install.target.body)] at whole
      obtain ⟨-, entries⟩ := overwritten_of_write whole
      refine ⟨?_, .inr ⟨_, by rw [metadata, List.take_length]⟩, ?_⟩
      · rw [Answers, if_pos success]
        refine ⟨current, ?_⟩
        unfold CommandDir.write at written
        split at written
        next => cases written
        next resolves linked => exact .inr ⟨resolves, linked⟩
        next =>
            cases written
            refine .inl ⟨install.target.body, ?_, rfl⟩
            rw [same]
            exact Function.update_self ..
      · rw [same]
        exact entries.imp id fun changed =>
          ⟨⟨changed.1, changed.2.1, by rw [same]; exact changed.2.2⟩, may⟩
  simp only [ensures_ite, ensures_bind, ensures_pure]
  refine ⟨fun current => ⟨fun _ => ?_, fun _ => ?_⟩, fun other => ⟨fun refused => ?_, fun goes => ?_⟩⟩
  · rw [current] at status
    obtain ⟨body, there, same⟩ := status
    apply ensures_writeMetadata (.inl rfl)
    · intro ending final entries metadata
      exact ⟨metadata, .inl entries⟩
    · intro final entries metadata
      refine ⟨?_, .inr ⟨_, by rw [metadata, List.take_length]⟩, .inl entries⟩
      rw [Answers, if_pos rfl]
      exact ⟨rfl, .inl ⟨body, by rw [entries]; exact there, same⟩⟩
  · rw [current] at status
    obtain ⟨body, there, same⟩ := status
    refine ⟨?_, unchanged⟩
    rw [Answers, if_pos rfl]
    exact ⟨rfl, .inl ⟨body, there, same⟩⟩
  · refine ⟨?_, unchanged⟩
    rw [Answers, if_neg Bool.false_ne_true]
    exact ⟨refused.1, by simpa using refused.2, rfl⟩
  · have may : MayOverwrite externals install dir := by
      intro body there
      cases found : previous.status with
      | current => exact absurd found other
      | missing =>
          rw [found] at status
          exact absurd there (status body)
      | stale =>
          rw [found] at status
          obtain ⟨same, isThere, different, recorded⟩ := status
          cases there.symm.trans isThere
          exact ⟨different, .inr recorded⟩
      | modified =>
          rw [found] at status
          cases forced : install.force with
          | true => exact ⟨status body there, .inl rfl⟩
          | false => exact absurd ⟨found, by rw [forced]; rfl⟩ goes
    simpa only [ensures_bind, ensures_pure] using writes may _ rfl rfl

theorem effect_of_mem {run : Ending InstallError InstallResult × CommandDir}
    (ran : run ∈ installFileTarget externals install dir) : Effect externals install dir run.2 := by
  apply Ensures.final (Ensures.mono ensures_installFileTarget ?_ ?_) ran
  · exact fun _ _ both => both.2
  · exact fun _ _ effect => effect

-----------------------------------------------------------------------------------------
-- Runs
-----------------------------------------------------------------------------------------

/-- The directory after some installs, the last one first, each of which may have been cut short. Between
them the user changes commands in any way, and may remove the metadata.
-/
inductive Reached (externals : Externals) (start : CommandDir) : List Installation → CommandDir → Prop
  | start : Reached externals start [] start
  | install {past dir run} (install : Installation) (before : Reached externals start past dir)
    (ran : run ∈ installFileTarget externals install dir)
    : Reached externals start (install :: past) run.2
  | edit {past dir final} (before : Reached externals start past dir)
    (metadata : final.metadata = dir.metadata ∨ final.metadata = none)
    : Reached externals start past final

/-- What is read of the metadata that an install writes, also of a part of them: these or nothing. -/
def ReadsBack (externals : Externals) (install : Installation) : Prop :=
  ∀ size, externals.fromSlice ((externals.toVecPretty (.current externals install)).take size)
    ∈ [none, some (.current externals install)]

/-- Some install has this hash for its file at a name. -/
def Bundled (externals : Externals) (past : List Installation) (name hash : String) : Prop :=
  ∃ earlier ∈ past, earlier.target.filename = name ∧ earlier.target.bundledHash externals = hash

/-- The metadata record nothing but hashes of installs. -/
def RecordsPast (externals : Externals) (past : List Installation) (dir : CommandDir) : Prop :=
  ∀ name hash, dir.recorded externals name = some hash → Bundled externals past name hash

theorem Effect.recordsPast {past : List Installation} {final : CommandDir}
    (effect : Effect externals install dir final) (reads : ReadsBack externals install)
    (records : RecordsPast externals past dir) : RecordsPast externals (install :: past) final := by
  intro name hash recorded
  rcases effect.metadata with same | ⟨size, written⟩
  · rw [CommandDir.recorded, same] at recorded
    obtain ⟨earlier, member, bundled⟩ := records name hash recorded
    exact ⟨earlier, List.mem_cons_of_mem _ member, bundled⟩
  · rw [CommandDir.recorded, written, Option.bind_some] at recorded
    rcases List.mem_cons.mp (reads size) with nothing | all
    · rw [nothing] at recorded
      cases recorded
    · rw [List.mem_singleton.mp all, Option.bind_some, SlashCommandMetadata.current] at recorded
      rw [List.lookup_cons] at recorded
      split at recorded
      next same =>
          cases recorded
          exact ⟨install, List.mem_cons_self, (eq_of_beq same).symm, rfl⟩
      next => cases recorded

/-- In every reached directory, by induction on the run. -/
theorem Reached.recordsPast {start : CommandDir} {past : List Installation}
    (reached : Reached externals start past dir) (fresh : start.metadata = none)
    (reads : ∀ install ∈ past, ReadsBack externals install) : RecordsPast externals past dir := by
  induction reached with
  | start =>
      intro name hash recorded
      rw [CommandDir.recorded, fresh] at recorded
      cases recorded
  | install install before ran ih =>
      have records := ih fun earlier member => reads earlier (List.mem_cons_of_mem _ member)
      exact (effect_of_mem ran).recordsPast (reads install List.mem_cons_self) records
  | edit before metadata ih =>
      intro name hash recorded
      rcases metadata with same | removed
      · rw [CommandDir.recorded, same] at recorded
        exact ih reads name hash recorded
      · rw [CommandDir.recorded, removed] at recorded
        cases recorded

/-- An install that is not forced changes at most its own file, and overwrites only contents whose hash an
earlier install has bundled for that name, wherever the installs were cut short. The first of them found a
directory without metadata, and the user changed commands between them or removed the metadata.
-/
theorem install_keeps_edits {start : CommandDir} (fresh : start.metadata = none)
    {past : List Installation} (reached : Reached externals start past dir)
    (reads : ∀ earlier ∈ past, ReadsBack externals earlier) (unforced : install.force = false)
    {run : Ending InstallError InstallResult × CommandDir}
    (ran : run ∈ installFileTarget externals install dir) {name : String}
    (changed : run.2.entries name ≠ dir.entries name)
    : name = install.target.filename
      ∧ (dir.entries name = none
        ∨ ∃ body, dir.entries name = some (.file body)
          ∧ ∃ earlier ∈ past, earlier.target.filename = name
            ∧ earlier.target.bundledHash externals = externals.sha256Hex body) := by
  rcases (effect_of_mem ran).entries with same | ⟨⟨linked, regular, size, wrote⟩, may⟩
  · exact absurd (congrFun same name) changed
  · have own : name = install.target.filename := by
      by_contra other
      apply changed
      rw [wrote]
      exact Function.update_of_ne other ..
    subst own
    refine ⟨rfl, ?_⟩
    cases there : dir.entries install.target.filename with
    | none => exact .inl rfl
    | some entry =>
        cases entry with
        | directory => exact absurd there regular
        | symlink resolves => exact absurd there (linked resolves)
        | file body =>
            right
            have recorded := (may body there).2.resolve_left (by rw [unforced]; exact Bool.false_ne_true)
            exact ⟨body, rfl, reached.recordsPast fresh reads _ _ recorded⟩

/-- An install that found no link at the path of its command and returns success has the command in place,
and any further install of the same target leaves all commands as they are, wherever it is cut short. One
that is refused has changed nothing.
-/
theorem install_settles {result : InstallResult} {final : CommandDir}
    (ran : (.done result, final) ∈ installFileTarget externals install dir)
    (unlinked : ∀ resolves, dir.entries install.target.filename ≠ some (.symlink resolves))
    : if result.success then
        (∃ body, final.entries install.target.filename = some (.file body)
          ∧ externals.sha256Hex body = install.target.bundledHash externals)
        ∧ ∀ again : Installation, again.target = install.target →
          ∀ run ∈ installFileTarget externals again final, run.2.entries = final.entries
      else result.status = .modified ∧ install.force = false ∧ final = dir := by
  have answers := (ensures_installFileTarget.of_done ran).1
  unfold Answers at answers
  split at answers
  next succeeded =>
      rw [if_pos succeeded]
      have there := answers.2.resolve_right fun linked => unlinked _ linked.choose_spec
      refine ⟨there, ?_⟩
      intro again same run ranAgain
      rcases (effect_of_mem ranAgain).entries with untouched | ⟨-, may⟩
      · exact untouched
      · obtain ⟨body, inPlace, own⟩ := there
        rw [← same] at inPlace own
        exact absurd own (may body inPlace).1
  next refused =>
      rw [if_neg refused]
      exact answers

-----------------------------------------------------------------------------------------
-- An update
-----------------------------------------------------------------------------------------

section Update

/-- The JSON of metadata with one file, whose texts need no escapes. -/
def plainPretty (metadata : SlashCommandMetadata) : List UInt8 :=
  let entry (key value : String) := "\"".toList ++ key.toList ++ "\": \"".toList ++ value.toList ++ ['"']
  let lines :=
    ["  \"schema_version\": 1,".toList, "  ".toList ++ entry "installer" metadata.installer ++ [','],
      "  ".toList ++ entry "command_name" metadata.commandName ++ [','],
      "  \"files\": \x7b".toList]
    ++ metadata.files.map (fun file => "    ".toList ++ entry file.1 file.2)
    ++ ["  \x7d,".toList, "  ".toList ++ entry "ctx_cli_version" metadata.ctxCliVersion ++ [','],
      "  ".toList ++ entry "installed_at" metadata.installedAt]
  (['\x7b'] ++ lines.flatMap (fun line => '\n' :: line) ++ "\n\x7d".toList).map
    fun ch => UInt8.ofNat ch.toNat

/-- An install of some text by some version. -/
def plainInstall (body : List UInt8) (version : String) : Installation where
  target := ⟨["/", "home", "user", ".qwen", "commands"], "ctx-history.md", body⟩
  force := false
  version
  now := "2026-01-01T00:00:00+00:00"
  cut := 0

/-- The hashes of the texts "" and "a". -/
def plainHash (body : List UInt8) : String :=
  if body = [] then "sha256:e3b0c44298fc1c149afbf4c8996fb92427ae41e4649b934ca495991b7852b855"
  else "sha256:ca978112ca1bbdcafac231b39a23dc4da786eff8147c4e72b9807785afee48bb"

/-- The metadata of an install. -/
def plainMetadata (body : List UInt8) (version : String) : SlashCommandMetadata :=
  ⟨1, "ctx-cli", bundledCommandName, [("ctx-history.md", plainHash body)], version,
    "2026-01-01T00:00:00+00:00"⟩

/-- What the first two installs write is read back. -/
def plainExternals : Externals where
  sha256Hex := plainHash
  toVecPretty := plainPretty
  fromSlice text :=
    [plainMetadata [] "0.1.0", plainMetadata [97] "0.2.0"].find? fun metadata =>
      plainPretty metadata = text

/-- The run of an install that is not cut short. -/
def wholeRun (install : Installation) (dir : CommandDir)
    : Ending InstallError InstallResult × CommandDir :=
  ((installFileTarget plainExternals install dir).getLast?).getD (.died, dir)

theorem wholeRun_mem {install : Installation} {dir : CommandDir}
    (some' : (installFileTarget plainExternals install dir).getLast?.isSome = true)
    : wholeRun install dir ∈ installFileTarget plainExternals install dir := by
  obtain ⟨run, last⟩ := Option.isSome_iff_exists.mp some'
  rw [wholeRun, last]
  exact List.mem_of_getLast? last

/-- The directory after a first install, in which the user has put a command of their own. -/
def installedDir : CommandDir :=
  (wholeRun (plainInstall [] "0.1.0") ⟨fun _ => none, none⟩).2.put "notes.md" [98]

/-- The directory after an update of the command. -/
def updatedDir : CommandDir := (wholeRun (plainInstall [97] "0.2.0") installedDir).2

/-- Of the metadata that the first install writes, a part is no metadata. -/
theorem readsBack_plain : ReadsBack plainExternals (plainInstall [] "0.1.0") := by
  intro size
  have others
      : plainPretty (plainMetadata [97] "0.2.0") ≠ plainPretty (plainMetadata [] "0.1.0")
        ∧ (plainPretty (plainMetadata [97] "0.2.0")).length
          = (plainPretty (plainMetadata [] "0.1.0")).length := by
    decide +kernel
  -- a part of its text that is as long as the other's is all of it
  have apart : plainPretty (plainMetadata [97] "0.2.0")
      ≠ (plainPretty (plainMetadata [] "0.1.0")).take size := by
    intro same
    have long := congrArg List.length same
    rw [others.2, List.length_take] at long
    rw [List.take_of_length_le (by omega)] at same
    exact others.1 same
  have current
      : SlashCommandMetadata.current plainExternals (plainInstall [] "0.1.0")
        = plainMetadata [] "0.1.0" := rfl
  rw [current]
  change plainExternals.fromSlice ((plainPretty (plainMetadata [] "0.1.0")).take size) ∈ _
  generalize (plainPretty (plainMetadata [] "0.1.0")).take size = text at apart ⊢
  unfold plainExternals
  dsimp only
  rw [List.find?_cons]
  split
  next => exact List.mem_cons_of_mem _ (List.mem_singleton_self _)
  next =>
      rw [List.find?_cons_of_neg (by simpa using apart)]
      exact List.mem_cons_self

theorem updatedDir_mem
    : wholeRun (plainInstall [97] "0.2.0") installedDir
      ∈ installFileTarget plainExternals (plainInstall [97] "0.2.0") installedDir :=
  wholeRun_mem (by decide +kernel)

/-- An update of the command that an earlier install wrote, which is its own. -/
theorem install_keeps_edits_update
    : updatedDir.entries "ctx-history.md" ≠ installedDir.entries "ctx-history.md"
      ∧ ∃ body, installedDir.entries "ctx-history.md" = some (.file body)
        ∧ plainHash [] = plainHash body := by
  have changed
      : updatedDir.entries "ctx-history.md" ≠ installedDir.entries "ctx-history.md" := by
    decide +kernel
  unfold updatedDir at changed ⊢
  have reached
      : Reached plainExternals ⟨fun _ => none, none⟩ [plainInstall [] "0.1.0"] installedDir :=
    .edit (.install _ .start (wholeRun_mem (by decide +kernel))) (.inl rfl)
  have kept := install_keeps_edits rfl reached
    (fun earlier member => List.mem_singleton.mp member ▸ readsBack_plain) rfl updatedDir_mem changed
  refine ⟨changed, ?_⟩
  obtain ⟨body, there, earlier, member, -, same⟩ := kept.2.resolve_left (by decide +kernel)
  rw [List.mem_singleton.mp member] at same
  exact ⟨body, there, same⟩

/-- The update puts its text in place of the earlier one. A further install that cannot read the metadata
and dies while it writes them again leaves both commands as they are.
-/
theorem install_settles_update
    : (wholeRun (plainInstall [97] "0.2.0") installedDir).1
        = .done ⟨true, .stale, .current, false, true, none⟩
      ∧ (∃ body, updatedDir.entries "ctx-history.md" = some (.file body)
        ∧ plainHash body = plainHash [97])
      ∧ ∃ run ∈ installFileTarget plainExternals { plainInstall [97] "0.3.0" with cut := 5 }
          updatedDir,
        run.1 = .died ∧ run.2.metadata.map List.length = some 5
          ∧ run.2.entries = updatedDir.entries := by
  unfold updatedDir
  have ended
      : (wholeRun (plainInstall [97] "0.2.0") installedDir).1
        = .done ⟨true, .stale, .current, false, true, none⟩ := by
    decide +kernel
  have ran
      : (.done ⟨true, .stale, .current, false, true, none⟩,
          (wholeRun (plainInstall [97] "0.2.0") installedDir).2)
        ∈ installFileTarget plainExternals (plainInstall [97] "0.2.0") installedDir := by
    rw [← ended, Prod.eta]
    exact updatedDir_mem
  have cutShort
      : ((installFileTarget plainExternals { plainInstall [97] "0.3.0" with cut := 5 }
          (wholeRun (plainInstall [97] "0.2.0") installedDir).2).any fun run =>
            decide (run.1 = .died ∧ run.2.metadata.map List.length = some 5)) = true := by
    decide +kernel
  have regular (resolves : Bool)
      : installedDir.entries "ctx-history.md" ≠ some (.symlink resolves) := by
    cases resolves <;> decide +kernel
  have settled := install_settles ran regular
  rw [if_pos rfl] at settled
  generalize (wholeRun (plainInstall [97] "0.2.0") installedDir).2 = after at settled cutShort ⊢
  obtain ⟨⟨body, there, same⟩, still⟩ := settled
  obtain ⟨run, member, died⟩ := List.any_eq_true.mp cutShort
  obtain ⟨died, written⟩ := of_decide_eq_true died
  exact ⟨ended, ⟨body, there, same⟩, run, member, died, written,
    still { plainInstall [97] "0.3.0" with cut := 5 } rfl run member⟩

end Update

end CtxRemote.Integrations
