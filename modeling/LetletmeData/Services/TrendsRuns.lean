import LetletmeData.Library.Runs
import LetletmeData.Library.Tables
import LetletmeData.Services.TournamentTrends

/-!
# Runs of trends publications

The source tables are written by transactions of their own, which take no part in the locking of
the publishers. A call makes up to three attempts. The transaction of an attempt sees the database
as it stood when the transaction asked for the lock, and by the time it has the lock others may
have written and published.
-/

namespace LetletmeData

open LetletmeData.Library

/-- A change of a row that the trends are computed from. -/
inductive SourceChange where
  | enterRoster (seasonId tournamentId entryId : ℕ)
  | leaveRoster (tournamentId entryId : ℕ)
  | saveEntry (seasonId entryId : ℕ) (startedEvent transfersSyncedThroughEventId : Option ℕ)
  | savePick (pick : TrendsPick)
  | deletePick (seasonId entryId eventId position : ℕ)
  | saveTransfer (transfer : TrendsTransfer)
  | deleteTransfer (seasonId transferId : ℕ)

/-- The primary key of a pick. -/
def TrendsPick.key (pick : TrendsPick) : ℕ × ℕ × ℕ × ℕ :=
  (pick.seasonId, pick.entryId, pick.eventId, pick.position)

/-- The primary key of a transfer. -/
def TrendsTransfer.key (transfer : TrendsTransfer) : ℕ × ℕ :=
  (transfer.seasonId, transfer.transferId)

/-- A change, which stamps what it saves. -/
def TrendsSource.change (writtenAt : ℕ) (source : TrendsSource) : SourceChange → TrendsSource
  | .enterRoster seasonId tournamentId entryId =>
    { source with roster := source.roster.insertAbsent (tournamentId, entryId) seasonId }
  | .leaveRoster tournamentId entryId =>
    { source with roster := source.roster.deleteWhere fun key _ => key = (tournamentId, entryId) }
  | .saveEntry seasonId entryId startedEvent transfersSyncedThroughEventId =>
    { source with
      entries := source.entries.upsert (seasonId, entryId)
        ⟨startedEvent, transfersSyncedThroughEventId, writtenAt⟩ }
  | .savePick pick =>
    { source with
      picks := (source.picks.filter fun old => old.key ≠ pick.key) ++
        [{ pick with sourceUpdatedAt := writtenAt }] }
  | .deletePick seasonId entryId eventId position =>
    { source with
      picks := source.picks.filter fun old => old.key ≠ (seasonId, entryId, eventId, position) }
  | .saveTransfer transfer =>
    { source with
      transfers := (source.transfers.filter fun old => old.key ≠ transfer.key) ++
        [{ transfer with updatedAt := writtenAt }] }
  | .deleteTransfer seasonId transferId =>
    { source with
      transfers := source.transfers.filter fun old => old.key ≠ (seasonId, transferId) }

/-- A transaction of a source writer. Its stamp is later than all before it and has a year of four
digits. -/
def TrendsSource.write (source : TrendsSource) (writtenAt : ℕ) (changes : List SourceChange) :
    TrendsSource :=
  if source.clock < writtenAt ∧ isoYear (writtenAt / 1000) < 10000 then
    { changes.foldl (TrendsSource.change writtenAt) source with clock := writtenAt }
  else source

/-- A call of `publishTournamentTrendScope` in progress: its attempt, and what the transaction of
that attempt sees once it has begun. -/
structure TrendsCall where
  scope : TrendsScope
  attempt : ℕ
  snapshot : Option TrendsSnapshot

/-- `MAX_PUBLICATION_ATTEMPTS`. -/
def maxPublicationAttempts : ℕ := 3

/-- The database and the calls. The sources that the publications were computed from are noted for
the statements; no code reads them. -/
structure TrendsWorld where
  source : TrendsSource
  tables : TrendsTables
  calls : ℕ → Option TrendsCall
  sources : KeyedTable ℕ TrendsSource

/-- Nothing is stored and nothing goes on. -/
def TrendsWorld.initial : TrendsWorld :=
  ⟨⟨.empty, .empty, [], [], 0⟩, ⟨.empty, .empty, 1⟩, fun _ => none, .empty⟩

/-- The steps of writers and calls. -/
inductive TrendsStep where
  | write (writtenAt : ℕ) (changes : List SourceChange)
  | call (callId : ℕ) (scope : TrendsScope)
  | begin (callId : ℕ)
  | finish (callId : ℕ) (now : ℕ)
  | fail (callId : ℕ)

/-- The arguments pass the checks of `publishTournamentTrendScope`. -/
def TrendsScope.Valid (scope : TrendsScope) : Prop :=
  0 < scope.tournamentId ∧ 1 ≤ scope.eventId ∧ scope.eventId ≤ 38

instance TrendsScope.decidableValid (scope : TrendsScope) : Decidable scope.Valid :=
  inferInstanceAs (Decidable (_ ∧ _ ∧ _))

/-- The scope and the snapshot of an attempt that is to finish. -/
def TrendsWorld.attempt (world : TrendsWorld) (callId : ℕ) : Option (TrendsScope × TrendsSnapshot) :=
  (world.calls callId).bind fun call => call.snapshot.map fun snapshot => (call.scope, snapshot)

/-- A conflict starts the next attempt, unless it was the last one. -/
def TrendsCall.afterError (call : TrendsCall) (error : PostgresError) : Option TrendsCall :=
  if ¬ error.isRetryable ∨ call.attempt = maxPublicationAttempts then none
  else some ⟨call.scope, call.attempt + 1, none⟩

/-- The end of an attempt. -/
def TrendsWorld.finish (host : TrendsHost) (world : TrendsWorld) (callId now : ℕ) : TrendsWorld :=
  match world.attempt callId with
  | some (scope, snapshot) =>
    match publishOnce host scope now snapshot world.tables with
    | .ok (result, tables) =>
      { world with
        tables
        calls := Function.update world.calls callId none
        sources := world.sources.insertAbsent result.publicationId snapshot.source }
    | .error error =>
      { world with
        calls := Function.update world.calls callId
          ((world.calls callId).bind fun call => call.afterError error) }
  | none => world

/-- One step. A call that fails otherwise leaves nothing behind. -/
def trendsStep (host : TrendsHost) (world : TrendsWorld) : TrendsStep → TrendsWorld
  | .write writtenAt changes => { world with source := world.source.write writtenAt changes }
  | .call callId scope =>
    if scope.Valid ∧ world.calls callId = none then
      { world with calls := Function.update world.calls callId (some ⟨scope, 1, none⟩) }
    else world
  | .begin callId =>
    { world with
      calls := Function.update world.calls callId ((world.calls callId).map fun call =>
        { call with snapshot := some (call.snapshot.getD ⟨world.source, world.tables⟩) }) }
  | .finish callId now => world.finish host callId now
  | .fail callId => { world with calls := Function.update world.calls callId none }

/-- What holds of every attempt that is to finish. -/
def TrendsWorld.AtFinish (finishing : ℕ → TrendsScope → TrendsSnapshot → Prop) (world : TrendsWorld) :
    TrendsStep → Prop
  | .finish callId now => ∀ attempt ∈ world.attempt callId, finishing now attempt.1 attempt.2
  | _ => True

instance (finishing : ℕ → TrendsScope → TrendsSnapshot → Prop)
    [∀ now scope snapshot, Decidable (finishing now scope snapshot)] (world : TrendsWorld) :
    ∀ step, Decidable (world.AtFinish finishing step)
  | .finish callId now => inferInstanceAs
      (Decidable (∀ attempt ∈ world.attempt callId, finishing now attempt.1 attempt.2))
  | .write _ _ => inferInstanceAs (Decidable True)
  | .call _ _ => inferInstanceAs (Decidable True)
  | .begin _ => inferInstanceAs (Decidable True)
  | .fail _ => inferInstanceAs (Decidable True)

end LetletmeData
