import Quant.Execution.Models

/-!
# The order audit logger

`OrderAuditLogger` of `execution/audit.py`: the queue, the writes of `flush` and `stop`, and their steps between two awaits. Of
the database it keeps what became of each row; a row holds the fields of its report.
-/

namespace Quant

/-! ## The database -/

/-- Integers from this one on raise `OverflowError` in the driver. -/
def sqliteIntegerBound : ℕ := 2 ^ 63

/-- The rows given to the database: committed, in the open transaction, those at which a statement raised, and those of a
transaction that was closed without a commit. -/
structure AuditDb where
  committed : List ExecutionReport := []
  pending : List ExecutionReport := []
  refused : List ExecutionReport := []
  rolledBack : List ExecutionReport := []
  deriving DecidableEq

/-- What a fault of the database undoes: the statement alone, or, as a full disk does, the open transaction. -/
inductive DbFault where
  | statement
  | transaction
  deriving DecidableEq

/-- What a write meets: the faults at the rows of its batch, the fault of its commit, and whether the commit of `stop` raises. -/
structure WriteFaults where
  row : ℕ → Option DbFault := fun _ => none
  commit : Option DbFault := none
  closingCommit : Bool := false

/-- The fault at row `i` of a batch: a time the driver does not convert never reaches the database. -/
def WriteFaults.atRow (faults : WriteFaults) (i : ℕ) (r : ExecutionReport) : Option DbFault :=
  if sqliteIntegerBound ≤ r.timestampNs then some .statement else faults.row i

namespace AuditDb

/-- All rows given to the database. -/
def handed (db : AuditDb) : List ExecutionReport := db.refused ++ db.rolledBack ++ db.pending ++ db.committed

/-- `close`: what is not committed is rolled back. -/
def close (db : AuditDb) : AuditDb := { db with
  rolledBack := db.rolledBack ++ db.pending
  pending := [] }

/-- What a fault leaves. -/
def afterFault (db : AuditDb) : DbFault → AuditDb
  | .statement => db
  | .transaction => db.close

/-- The exception of a row. -/
def rowError (r : ExecutionReport) : Exc :=
  if sqliteIntegerBound ≤ r.timestampNs then ⟨.overflowError, "Python int too large to convert to SQLite INTEGER", []⟩
  else ⟨.databaseError, "", []⟩

/-- `executemany`, from row number `i` of a batch on. The rows before the one that raises stay in the transaction, if that stays
open. -/
def executeMany (faults : WriteFaults) : ℕ → List ExecutionReport → AuditDb → Except Exc Unit × AuditDb
  | _, [], db => (.ok (), db)
  | i, r :: rs, db =>
    match faults.atRow i r with
    | some fault => (.error (rowError r), { db with refused := db.refused ++ [r] }.afterFault fault)
    | none => executeMany faults (i + 1) rs { db with pending := db.pending ++ [r] }

/-- The loop of `flush` over the chunks. -/
def executeChunks (faults : WriteFaults) : ℕ → List (List ExecutionReport) → AuditDb → Except Exc Unit × AuditDb
  | _, [], db => (.ok (), db)
  | i, chunk :: chunks, db =>
    match executeMany faults i chunk db with
    | (.error exc, db') => (.error exc, db')
    | (.ok (), db') => executeChunks faults (i + chunk.length) chunks db'

/-- `commit`. -/
def commit (db : AuditDb) : AuditDb := { db with
  committed := db.committed ++ db.pending
  pending := [] }

end AuditDb

/-! ## The logger -/

/-- The arguments of the constructor that its methods use. -/
structure AuditConfig where
  batchSize : ℕ
  maxQueueSize : ℕ
  batchSize_pos : 0 < batchSize
  maxQueueSize_pos : 0 < maxQueueSize

/-- The logger. The worker task is absent, alive or done. -/
structure OrderAuditLogger where
  config : AuditConfig
  queue : List ExecutionReport := []
  db : AuditDb := {}
  connOpen : Bool := false
  workerTask : Option Bool := none
  isRunning : Bool := false

namespace OrderAuditLogger

/-- `start`, where the database opens. A connection that is still open is dropped with its transaction. -/
def start (l : OrderAuditLogger) : OrderAuditLogger :=
  if l.isRunning ∧ l.connOpen then l
  else { l with
    db := l.db.close
    connOpen := true
    isRunning := true
    workerTask := some true }

/-- `log_report`. -/
def logReport (l : OrderAuditLogger) (report : ExecutionReport) : Except Exc Unit × OrderAuditLogger :=
  if l.config.maxQueueSize ≤ l.queue.length then (.error ⟨.queueFull, "", []⟩, l)
  else (.ok (), { l with queue := l.queue ++ [report] })

/-- The chunks of a batch: `range(0, len(reports), batch_size)`. -/
def chunks (batchSize : ℕ) (reports : List ExecutionReport) : List (List ExecutionReport) :=
  (List.range ((reports.length + batchSize - 1) / batchSize)).map fun k => (reports.drop (k * batchSize)).take batchSize

/-- `flush` under the lock: the queue is drained before the write. -/
def flush (l : OrderAuditLogger) (faults : WriteFaults) : Except Exc Unit × OrderAuditLogger :=
  if ¬ l.connOpen ∨ l.queue = [] then (.ok (), l)
  else
    match l.db.executeChunks faults 0 (chunks l.config.batchSize l.queue) with
    | (.error exc, db) => (.error exc, { l with queue := [], db := db })
    | (.ok (), db) =>
      match faults.commit with
      | some fault => (.error ⟨.databaseError, "", []⟩, { l with queue := [], db := db.afterFault fault })
      | none => (.ok (), { l with queue := [], db := db.commit })

/-- The end of `stop`: the last commit, whose exception is suppressed, and the connection is closed. -/
def closeConn (l : OrderAuditLogger) (faults : WriteFaults) : OrderAuditLogger :=
  if l.connOpen then { l with
    db := (if faults.closingCommit then l.db else l.db.commit).close
    connOpen := false }
  else l

/-- `stop` from where the worker has ended: one write of the whole queue, then the connection is closed. -/
def drain (l : OrderAuditLogger) (faults : WriteFaults) : Except Exc Unit × OrderAuditLogger :=
  let l := { l with workerTask := none }
  if l.connOpen ∧ l.queue ≠ [] then
    match l.db.executeMany faults 0 l.queue with
    | (.error exc, db) => (.error exc, { l with queue := [], db := db })
    | (.ok (), db) =>
      match faults.commit with
      | some fault => (.error ⟨.databaseError, "", []⟩, { l with queue := [], db := db.afterFault fault })
      | none => (.ok (), closeConn { l with queue := [], db := db.commit } faults)
  else (.ok (), l.closeConn faults)

end OrderAuditLogger

/-! ## Its calls interleaved -/

/-- A logger with its calls. `stopping` says that a `stop` waits for the worker, holding the lock; `accepted` are the reports that
`log_report` has put into the queue. -/
structure AuditWorld where
  logger : OrderAuditLogger
  stopping : Bool := false
  accepted : List ExecutionReport := []

/-- What happens between two awaits: a report is logged, a `flush` of a caller or of the worker gets the lock, a `stop` gets it,
or the worker that a `stop` cancelled has ended. -/
inductive AuditOp where
  | logReport (report : ExecutionReport)
  | flush (faults : WriteFaults)
  | stop (faults : WriteFaults)
  | workerEnded (faults : WriteFaults)

namespace AuditWorld

/-- A logger that was just started. -/
def start (config : AuditConfig) : AuditWorld := { logger := OrderAuditLogger.start { config := config } }

/-- One step; what waits for the lock does not happen while a `stop` holds it. -/
def step (w : AuditWorld) : AuditOp → Option AuditWorld
  | .logReport report =>
    match w.logger.logReport report with
    | (.error _, _) => some w
    | (.ok (), l) => some { w with logger := l, accepted := w.accepted ++ [report] }
  | .flush faults => if w.stopping then none else some { w with logger := (w.logger.flush faults).2 }
  | .stop faults =>
    if w.stopping then none
    else if ¬ w.logger.isRunning ∧ ¬ w.logger.connOpen then some w
    else if w.logger.workerTask = some true then
      some { w with logger := { w.logger with isRunning := false, workerTask := some false }, stopping := true }
    else some { w with logger := (OrderAuditLogger.drain { w.logger with isRunning := false } faults).2 }
  | .workerEnded faults =>
    if w.stopping then some { w with logger := (w.logger.drain faults).2, stopping := false } else none

end AuditWorld
end Quant
