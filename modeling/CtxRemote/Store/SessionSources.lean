import CtxRemote.Store.Events

/-! What the tables of sessions and of their sources share between the importer, the catalog and the
migrations, and how the triggers on provider sessions compare two sources.
-/

namespace CtxRemote.Store

/-- `AgentType`. -/
inductive AgentType where
  | primary | subagent | agentTeamMember | reviewer | implementer | unknown
deriving DecidableEq, Repr

/-- `SessionStatus`. -/
inductive SessionStatus where
  | started | active | idle | completed | failed | interrupted | imported
deriving DecidableEq, Repr

/-- `CaptureSourceKind`. -/
inductive CaptureSourceKind where
  | providerImport | providerHook | directCli | manual
deriving DecidableEq, Repr

/-- What the triggers on provider sessions read of a row of `capture_sources`. -/
structure TriggerSource where
  id : Uuid
  rawSourcePath : Option String
  sourceFormat : Option String
  sourceIdentity : Option String

/-- The comparison of two sources in the triggers on provider sessions. -/
def triggerSourcesMatch (existing incoming : TriggerSource) : Bool :=
  existing.id = incoming.id
  || (existing.sourceIdentity.isSome && existing.sourceIdentity = incoming.sourceIdentity)
  || (existing.rawSourcePath.isSome && existing.rawSourcePath = incoming.rawSourcePath
    && ((existing.sourceFormat.isSome && existing.sourceFormat = incoming.sourceFormat)
      || existing.sourceFormat.isNone || incoming.sourceFormat.isNone))

/-- A source matches itself. -/
@[simp] theorem triggerSourcesMatch_self (source : TriggerSource)
    : triggerSourcesMatch source source = true := by
  simp [triggerSourcesMatch]

end CtxRemote.Store
