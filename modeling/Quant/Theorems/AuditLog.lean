import Mathlib.Data.List.Perm.Basic
import Quant.Execution.Audit
import Quant.Pylib.Runs
import Quant.Theorems.LeavesAccounting

namespace Quant

open Pylib

/-! ## Reports the audit log keeps

A batch leaves the queue before it is written, and the write ends at the first row that raises. So a report is lost where the
database raises at a row with others behind it, or rolls a transaction back that holds rows.
-/

/-- A batch of which nothing is left behind: the database raises at no row but the last, and rolls back no transaction that holds
rows. -/
structure WriteFaults.Spares (faults : WriteFaults) (pending reports : List ExecutionReport) : Prop where
  last : ∀ i r, reports[i]? = some r → faults.atRow i r ≠ none → i + 1 = reports.length
  row : ∀ i r, reports[i]? = some r → faults.atRow i r = some .transaction → i = 0 ∧ pending = []
  commit : (∀ i r, reports[i]? = some r → faults.atRow i r = none) → faults.commit ≠ some .transaction

/-- A batch at whose rows nothing raises. -/
def WriteFaults.NoRow (faults : WriteFaults) (reports : List ExecutionReport) : Prop :=
  ∀ i r, reports[i]? = some r → faults.atRow i r = none

/-- A batch without a fault is spared, as long as its commit rolls nothing back. -/
theorem WriteFaults.NoRow.spares {faults : WriteFaults} {pending reports : List ExecutionReport} (h : faults.NoRow reports)
    (hcommit : faults.commit ≠ some .transaction) : faults.Spares pending reports where
  last i r hr hraises := absurd (h i r hr) hraises
  row i r hr hraises := by
    rw [h i r hr] at hraises
    cases hraises
  commit _ := hcommit

namespace AuditDb

variable {faults : WriteFaults}

/-! ### Writes -/

/-- What a write does: all rows are in the transaction, or it ends at the first that raises. -/
theorem executeMany_cases (faults : WriteFaults) (i : ℕ) (reports : List ExecutionReport) (db : AuditDb) :
    ((∀ j r, reports[j]? = some r → faults.atRow (i + j) r = none) ∧
      db.executeMany faults i reports = (.ok (), { db with pending := db.pending ++ reports })) ∨
    ∃ pre r post fault, reports = pre ++ r :: post ∧ faults.atRow (i + pre.length) r = some fault ∧
      db.executeMany faults i reports =
        (.error (rowError r), { db with pending := db.pending ++ pre, refused := db.refused ++ [r] }.afterFault fault) := by
  induction reports generalizing i db with
  | nil => exact .inl ⟨by simp, by simp [executeMany]⟩
  | cons r rs ih =>
    rw [executeMany]
    cases hrow : faults.atRow i r with
    | some fault => exact .inr ⟨[], r, rs, fault, rfl, hrow, by rw [List.append_nil]⟩
    | none =>
      rcases ih (i + 1) { db with pending := db.pending ++ [r] } with ⟨hnone, hok⟩ | ⟨pre, r', post, fault, hsplit, hraises, herr⟩
      · refine .inl ⟨fun j r' hj => ?_, by rw [hok]; simp⟩
        cases j with
        | zero =>
          cases Option.some.inj hj
          exact hrow
        | succ j =>
          have hlater := hnone j r' hj
          rwa [Nat.add_right_comm] at hlater
      · refine .inr ⟨r :: pre, r', post, fault, by rw [hsplit]; rfl, ?_, by rw [herr]; simp⟩
        rwa [List.length_cons, Nat.add_comm pre.length, ← Nat.add_assoc]

theorem executeMany_append (faults : WriteFaults) (i : ℕ) (xs ys : List ExecutionReport) (db : AuditDb) :
    db.executeMany faults i (xs ++ ys) =
      match db.executeMany faults i xs with
      | (.error exc, db') => (.error exc, db')
      | (.ok (), db') => db'.executeMany faults (i + xs.length) ys := by
  induction xs generalizing i db with
  | nil => rfl
  | cons x xs ih =>
    rw [List.cons_append, executeMany, executeMany]
    cases faults.atRow i x with
    | some fault => rfl
    | none =>
      dsimp only
      rw [ih, List.length_cons, Nat.add_comm xs.length, Nat.add_assoc]

/-- The write in chunks is one write of the whole batch. -/
theorem executeChunks_eq (faults : WriteFaults) (i : ℕ) (chunks : List (List ExecutionReport)) (db : AuditDb) :
    db.executeChunks faults i chunks = db.executeMany faults i chunks.flatten := by
  induction chunks generalizing i db with
  | nil => rfl
  | cons chunk chunks ih =>
    rw [executeChunks, List.flatten_cons, executeMany_append]
    cases db.executeMany faults i chunk with
    | mk res db' =>
      cases res with
      | error exc => rfl
      | ok u => exact ih _ _

theorem count_handed (db : AuditDb) (r : ExecutionReport) :
    db.handed.count r = db.refused.count r + db.rolledBack.count r + db.pending.count r + db.committed.count r := by
  simp only [handed, List.count_append]

theorem count_handed_commit (db : AuditDb) (r : ExecutionReport) : db.commit.handed.count r = db.handed.count r := by
  rw [count_handed, count_handed]
  simp only [commit, List.count_append, List.count_nil]
  omega

theorem count_handed_close (db : AuditDb) (r : ExecutionReport) : db.close.handed.count r = db.handed.count r := by
  rw [count_handed, count_handed]
  simp only [close, List.count_append, List.count_nil]
  omega

theorem count_handed_afterFault (db : AuditDb) (fault : DbFault) (r : ExecutionReport) :
    (db.afterFault fault).handed.count r = db.handed.count r := by
  cases fault with
  | statement => rfl
  | transaction => exact db.count_handed_close r

/-- Where only the last row of a batch can raise, the whole batch is given to the database. -/
theorem count_handed_executeMany {reports : List ExecutionReport} {db : AuditDb} (h : faults.Spares db.pending reports)
    (x : ExecutionReport) :
    (db.executeMany faults 0 reports).2.handed.count x = reports.count x + db.handed.count x := by
  rcases db.executeMany_cases faults 0 reports with ⟨-, hok⟩ | ⟨pre, r, post, fault, hsplit, hraises, herr⟩
  · rw [hok, count_handed, count_handed]
    simp only [List.count_append]
    omega
  · rw [Nat.zero_add] at hraises
    have hlast := h.last pre.length r (by simp [hsplit]) (by simp [hraises])
    have hpost : post = [] := by
      rw [hsplit, List.length_append, List.length_cons] at hlast
      exact List.length_eq_zero_iff.1 (by omega)
    rw [herr, hsplit, hpost, count_handed_afterFault, count_handed, count_handed]
    simp only [List.count_append]
    omega

/-- Such a write rolls nothing back. -/
theorem rolledBack_executeMany {reports : List ExecutionReport} {db : AuditDb} (h : faults.Spares db.pending reports) :
    (db.executeMany faults 0 reports).2.rolledBack = db.rolledBack := by
  rcases db.executeMany_cases faults 0 reports with ⟨-, hok⟩ | ⟨pre, r, post, fault, hsplit, hraises, herr⟩
  · rw [hok]
  · rw [Nat.zero_add] at hraises
    rw [herr]
    cases fault with
    | statement => rfl
    | transaction =>
      obtain ⟨hpre, hpending⟩ := h.row pre.length r (by simp [hsplit]) hraises
      rw [List.length_eq_zero_iff.1 hpre, hpending]
      exact List.append_nil _

/-- A write that succeeds raised at no row. -/
theorem noRow_of_executeMany {reports : List ExecutionReport} {db db' : AuditDb}
    (h : db.executeMany faults 0 reports = (.ok (), db')) : faults.NoRow reports := by
  rcases db.executeMany_cases faults 0 reports with ⟨hnone, -⟩ | ⟨pre, r, post, fault, -, -, herr⟩
  · simpa [WriteFaults.NoRow] using hnone
  · rw [herr] at h
    cases h

end AuditDb

/-! ### The logger -/

namespace OrderAuditLogger

variable {faults : WriteFaults}

/-- The chunks of a batch are the batch. -/
theorem flatten_chunks {batchSize : ℕ} (h : 0 < batchSize) (reports : List ExecutionReport) :
    (chunks batchSize reports).flatten = reports := by
  have htake : ∀ n, ((List.range n).map fun k => (reports.drop (k * batchSize)).take batchSize).flatten =
      reports.take (n * batchSize) := by
    intro n
    induction n with
    | zero => simp
    | succ n ih =>
      rw [List.range_succ, List.map_append, List.flatten_append, ih, Nat.succ_mul, List.take_add]
      simp
  have hlen : reports.length ≤ (reports.length + batchSize - 1) / batchSize * batchSize := by
    have hdiv := Nat.lt_div_mul_add h (a := reports.length + batchSize - 1)
    omega
  rw [chunks, htake, List.take_of_length_le hlen]

/-- What `flush` does with a batch: one write, and a commit unless something raised. -/
theorem flush_eq {l : OrderAuditLogger} (faults : WriteFaults) (hopen : l.connOpen = true) (hne : l.queue ≠ []) :
    (l.flush faults).2 = { l with queue := [], db := (l.db.executeMany faults 0 l.queue).2 } ∨
      (l.flush faults).2 = { l with queue := [], db := (l.db.executeMany faults 0 l.queue).2.commit } ∨
      ∃ fault, faults.NoRow l.queue ∧ faults.commit = some fault ∧
        (l.flush faults).2 = { l with queue := [], db := (l.db.executeMany faults 0 l.queue).2.afterFault fault } := by
  rw [flush, if_neg (by simp [hopen, hne]), AuditDb.executeChunks_eq, flatten_chunks l.config.batchSize_pos]
  rcases hwrite : l.db.executeMany faults 0 l.queue with ⟨res, db⟩
  cases res with
  | error exc => exact .inl rfl
  | ok u =>
    cases hcommit : faults.commit with
    | some fault => exact .inr (.inr ⟨fault, AuditDb.noRow_of_executeMany hwrite, rfl, rfl⟩)
    | none => exact .inr (.inl rfl)

theorem flush_skip {l : OrderAuditLogger} (h : ¬ l.connOpen = true ∨ l.queue = []) : (l.flush faults).2 = l := by
  rw [flush, if_pos h]

/-- All reports in the queue or given to the database, once for each time they are there. -/
def count (l : OrderAuditLogger) (r : ExecutionReport) : ℕ := l.queue.count r + l.db.handed.count r

/-- The calls that write keep every report where only the last row of their batch can raise, and roll nothing back before the
connection is closed. -/
structure Keeps (l l' : OrderAuditLogger) : Prop where
  count_eq : ∀ r, l'.count r = l.count r
  rolledBack_eq : l'.connOpen = true → l.connOpen = true ∧ l'.db.rolledBack = l.db.rolledBack

theorem Keeps.rfl {l : OrderAuditLogger} : Keeps l l := ⟨fun _ => Eq.refl _, fun h => ⟨h, Eq.refl _⟩⟩

/-- The write of a batch that is spared, and a fault of its commit, keep every report and roll nothing back. -/
theorem keeps_write {l : OrderAuditLogger} (h : faults.Spares l.db.pending l.queue) :
    Keeps l { l with queue := [], db := (l.db.executeMany faults 0 l.queue).2 } where
  count_eq r := by
    rw [count, count, AuditDb.count_handed_executeMany h, List.count_nil, Nat.zero_add]
  rolledBack_eq hopen := ⟨hopen, AuditDb.rolledBack_executeMany h⟩

theorem Keeps.commit {l l' : OrderAuditLogger} (h : Keeps l l') : Keeps l { l' with db := l'.db.commit } where
  count_eq r := by
    rw [← h.count_eq, count, count, AuditDb.count_handed_commit]
  rolledBack_eq := h.rolledBack_eq

theorem Keeps.afterCommit {l l' : OrderAuditLogger} (h : Keeps l l') {fault : DbFault}
    (hspares : faults.Spares l.db.pending l.queue)
    (hrows : faults.NoRow l.queue) (hcommit : faults.commit = some fault) : Keeps l { l' with db := l'.db.afterFault fault } where
  count_eq r := by
    rw [← h.count_eq, count, count, AuditDb.count_handed_afterFault]
  rolledBack_eq hopen := by
    cases fault with
    | statement => exact h.rolledBack_eq hopen
    | transaction => exact absurd hcommit (hspares.commit hrows)

theorem keeps_flush {l : OrderAuditLogger} (h : l.connOpen = true → faults.Spares l.db.pending l.queue) :
    Keeps l (l.flush faults).2 := by
  by_cases hskip : ¬ l.connOpen = true ∨ l.queue = []
  · rw [flush_skip hskip]
    exact .rfl
  · obtain ⟨hopen, hne⟩ := not_or.1 hskip
    rw [not_not] at hopen
    have hwrite := keeps_write (h hopen)
    rcases flush_eq faults hopen hne with heq | heq | ⟨fault, hrows, hcommit, heq⟩
    · rw [heq]
      exact hwrite
    · rw [heq]
      exact hwrite.commit
    · rw [heq]
      exact hwrite.afterCommit (h hopen) hrows hcommit

theorem keeps_closeConn (l : OrderAuditLogger) (faults : WriteFaults) : Keeps l (l.closeConn faults) := by
  rw [closeConn]
  split
  · refine ⟨fun r => ?_, fun h => nomatch h⟩
    rw [count, count, AuditDb.count_handed_close]
    split
    · rfl
    · rw [AuditDb.count_handed_commit]
  · exact .rfl

theorem Keeps.trans {l l' l'' : OrderAuditLogger} (h : Keeps l l') (h' : Keeps l' l'') : Keeps l l'' where
  count_eq r := (h'.count_eq r).trans (h.count_eq r)
  rolledBack_eq hopen := by
    obtain ⟨hopen', heq'⟩ := h'.rolledBack_eq hopen
    obtain ⟨hopen, heq⟩ := h.rolledBack_eq hopen'
    exact ⟨hopen, heq'.trans heq⟩

/-- What `stop` does after the worker has ended: it closes the connection, unless its write raises. -/
theorem drain_cases (l : OrderAuditLogger) (faults : WriteFaults) :
    ((l.drain faults).2 = closeConn { l with workerTask := none } faults ∧ (l.connOpen = true → l.queue = [])) ∨
      l.connOpen = true ∧
        ((l.drain faults).2 = { l with workerTask := none, queue := [], db := (l.db.executeMany faults 0 l.queue).2 } ∧
            ¬ faults.NoRow l.queue ∨
          (l.drain faults).2 =
            closeConn { l with workerTask := none, queue := [], db := (l.db.executeMany faults 0 l.queue).2.commit } faults ∨
          ∃ fault, faults.NoRow l.queue ∧ faults.commit = some fault ∧
            (l.drain faults).2 =
              { l with workerTask := none, queue := [], db := (l.db.executeMany faults 0 l.queue).2.afterFault fault }) := by
  rw [drain]
  dsimp only
  split
  · rename_i h
    refine .inr ⟨h.1, ?_⟩
    rcases l.db.executeMany_cases faults 0 l.queue with ⟨hnone, hok⟩ | ⟨pre, r, post, fault, hsplit, hraises, herr⟩
    · rw [hok]
      dsimp only
      cases hcommit : faults.commit with
      | some fault => exact .inr (.inr ⟨fault, by simpa [WriteFaults.NoRow] using hnone, rfl, rfl⟩)
      | none => exact .inr (.inl rfl)
    · rw [herr]
      refine .inl ⟨rfl, fun hrows => ?_⟩
      rw [Nat.zero_add, hrows pre.length r (by simp [hsplit])] at hraises
      cases hraises
  · rename_i h
    exact .inl ⟨rfl, fun hopen => by_contra fun hne => h ⟨hopen, hne⟩⟩

theorem keeps_drain {l : OrderAuditLogger} (h : l.connOpen = true → faults.Spares l.db.pending l.queue) :
    Keeps l (l.drain faults).2 := by
  have hworker : ∀ l' : OrderAuditLogger, Keeps l l' → Keeps l { l' with workerTask := none } :=
    fun _ hkeeps => ⟨hkeeps.count_eq, hkeeps.rolledBack_eq⟩
  rcases l.drain_cases faults with ⟨heq, -⟩ | ⟨hopen, ⟨heq, -⟩ | heq | ⟨fault, hrows, hcommit, heq⟩⟩
  · rw [heq]
    exact (hworker l .rfl).trans (keeps_closeConn _ faults)
  · rw [heq]
    exact hworker _ (keeps_write (h hopen))
  · rw [heq]
    exact (hworker _ (keeps_write (h hopen)).commit).trans (keeps_closeConn _ faults)
  · rw [heq]
    exact hworker _ ((keeps_write (h hopen)).afterCommit (h hopen) hrows hcommit)

/-- A `stop` in which nothing raises leaves no report in the queue or in a transaction, and rolls none back. -/
theorem drain_clean {l : OrderAuditLogger} (hopen : l.connOpen = true) (hrows : faults.NoRow l.queue)
    (hcommit : faults.commit = none) (hclosing : faults.closingCommit = false) :
    (l.drain faults).2.queue = [] ∧ (l.drain faults).2.db.pending = [] ∧
      (l.drain faults).2.db.rolledBack = l.db.rolledBack := by
  rcases l.drain_cases faults with ⟨heq, hqueue⟩ | ⟨-, ⟨-, hraised⟩ | heq | ⟨fault, -, hfault, -⟩⟩
  · rw [heq, closeConn, if_pos hopen, hclosing]
    exact ⟨hqueue hopen, rfl, List.append_nil _⟩
  · exact absurd hrows hraised
  · have hspares : faults.Spares l.db.pending l.queue := hrows.spares (by simp [hcommit])
    rw [heq, closeConn, if_pos hopen, hclosing]
    exact ⟨rfl, rfl, (List.append_nil _).trans (AuditDb.rolledBack_executeMany hspares)⟩
  · rw [hcommit] at hfault
    cases hfault

end OrderAuditLogger

/-! ### Runs -/

namespace AuditWorld

/-- The condition on a step: where it writes a batch, the database raises at no row but the last and rolls back no rows. -/
def Admits (w : AuditWorld) : AuditOp → Prop
  | .logReport _ => True
  | .flush faults => w.logger.connOpen = true → faults.Spares w.logger.db.pending w.logger.queue
  | .stop faults => w.logger.workerTask ≠ some true → w.logger.connOpen = true → faults.Spares w.logger.db.pending w.logger.queue
  | .workerEnded faults => w.logger.connOpen = true → faults.Spares w.logger.db.pending w.logger.queue

/-- Every accepted report is in the queue or was given to the database, as often as it was accepted, and nothing is rolled back
while the connection is open. -/
structure Lossless (w : AuditWorld) : Prop where
  count_eq : ∀ r, w.accepted.count r = w.logger.count r
  rolledBack_nil : w.logger.connOpen = true → w.logger.db.rolledBack = []

theorem Lossless.of_keeps {w : AuditWorld} {l : OrderAuditLogger} (h : w.Lossless) (hkeeps : w.logger.Keeps l) (stopping : Bool) :
    Lossless { w with logger := l, stopping := stopping } where
  count_eq r := (h.count_eq r).trans (hkeeps.count_eq r).symm
  rolledBack_nil hopen := by
    obtain ⟨hopen', heq⟩ := hkeeps.rolledBack_eq hopen
    exact heq.trans (h.rolledBack_nil hopen')

theorem lossless_start (config : AuditConfig) : (start config).Lossless where
  count_eq _ := rfl
  rolledBack_nil _ := rfl

theorem Lossless.step {w w' : AuditWorld} {op : AuditOp} (h : w.Lossless) (hadmits : w.Admits op) (hstep : w.step op = some w') :
    w'.Lossless := by
  cases op with
  | logReport report =>
    rw [AuditWorld.step, OrderAuditLogger.logReport] at hstep
    split at hstep
    · rename_i hfull
      split at hfull
      · cases hstep
        exact h
      · cases hfull
    · rename_i hput
      split at hput
      · cases hput
      · cases hput
        cases hstep
        refine ⟨fun r => ?_, h.rolledBack_nil⟩
        have hcount := h.count_eq r
        simp only [OrderAuditLogger.count, List.count_append] at hcount ⊢
        omega
  | flush faults =>
    rw [AuditWorld.step] at hstep
    split at hstep
    · cases hstep
    · cases hstep
      exact h.of_keeps (OrderAuditLogger.keeps_flush hadmits) w.stopping
  | stop faults =>
    rw [AuditWorld.step] at hstep
    split at hstep
    · cases hstep
    · split at hstep
      · cases hstep
        exact h
      · split at hstep
        · cases hstep
          have hcancel : w.logger.Keeps { w.logger with isRunning := false, workerTask := some false } :=
            ⟨fun _ => rfl, fun h => ⟨h, rfl⟩⟩
          exact h.of_keeps hcancel true
        · rename_i hworker
          cases hstep
          have hrunning : w.logger.Keeps { w.logger with isRunning := false } := ⟨fun _ => rfl, fun h => ⟨h, rfl⟩⟩
          exact h.of_keeps (hrunning.trans (OrderAuditLogger.keeps_drain (hadmits hworker))) w.stopping
  | workerEnded faults =>
    rw [AuditWorld.step] at hstep
    split at hstep
    · cases hstep
      exact h.of_keeps (OrderAuditLogger.keeps_drain hadmits) false
    · cases hstep

theorem lossless_run {config : AuditConfig} {w : AuditWorld}
    (hrun : Run (fun w op w' => w.step op = some w') Admits (start config) w) : w.Lossless :=
  hrun.invariant (fun _ _ _ h hadmits hstep => h.step hadmits hstep) (lossless_start config)

/-- In every state of a run in which the database raises at no row of a batch but the last and rolls back no rows, each accepted
report is in the queue or was given to the database, and a `stop` in which nothing raises then leaves each one committed, except
those at which the database raised. -/
theorem lossless_of_run {config : AuditConfig} {w : AuditWorld}
    (hrun : Run (fun w op w' => w.step op = some w') Admits (start config) w) :
    w.accepted.Perm (w.logger.queue ++ w.logger.db.handed) ∧
    (w.logger.connOpen = true → ∀ faults : WriteFaults, faults.NoRow w.logger.queue → faults.commit = none →
      faults.closingCommit = false →
      w.accepted.Perm ((w.logger.drain faults).2.db.refused ++ (w.logger.drain faults).2.db.committed)) := by
  have hlossless := lossless_run hrun
  constructor
  · rw [List.perm_iff_count]
    intro r
    rw [hlossless.count_eq, OrderAuditLogger.count, List.count_append]
  · intro hopen faults hrows hcommit hclosing
    obtain ⟨hqueue, hpending, hrolled⟩ := OrderAuditLogger.drain_clean hopen hrows hcommit hclosing
    have hkeeps : w.logger.Keeps (w.logger.drain faults).2 :=
      OrderAuditLogger.keeps_drain fun _ => hrows.spares (by simp [hcommit])
    rw [List.perm_iff_count]
    intro r
    have hcount := hkeeps.count_eq r
    rw [← hlossless.count_eq, OrderAuditLogger.count, AuditDb.count_handed, hqueue, hpending, hrolled,
      hlossless.rolledBack_nil hopen] at hcount
    simp only [List.count_nil] at hcount
    rw [List.count_append]
    omega

/-! Two reports, the first with a time the driver does not store. -/

/-- A logger with the limits of its defaults. -/
def defaultAudit : AuditConfig where
  batchSize := 100
  maxQueueSize := 50000
  batchSize_pos := Nat.succ_pos _
  maxQueueSize_pos := Nat.succ_pos _

/-- A report at a time. -/
def reportAt (timestampNs : ℕ) : ExecutionReport :=
  { reportAtHundred .buy .filled 1 Literal.one_nonneg with timestampNs := timestampNs }

/-- The state with reports logged since the start. -/
def logged (reports : List ExecutionReport) : AuditWorld :=
  { start defaultAudit with
    logger := { (start defaultAudit).logger with queue := reports }
    accepted := reports }

/-- The state after two reports were logged and flushed. -/
def flushedTwo (t t' : ℕ) : AuditWorld :=
  { logged [reportAt t, reportAt t'] with logger := ((logged [reportAt t, reportAt t']).logger.flush {}).2 }

theorem run_flushedTwo (cond : AuditWorld → AuditOp → Prop) (t t' : ℕ) (hlog : ∀ w r, cond w (.logReport r))
    (hflush : cond (logged [reportAt t, reportAt t']) (.flush {})) :
    Run (fun w op w' => w.step op = some w') cond (start defaultAudit) (flushedTwo t t') := by
  have hfirst : Run (fun w op w' => w.step op = some w') cond (start defaultAudit) (logged [reportAt t]) :=
    Run.refl.tail (hlog (start defaultAudit) (reportAt t)) rfl
  have hsecond : Run (fun w op w' => w.step op = some w') cond (start defaultAudit) (logged [reportAt t, reportAt t']) :=
    hfirst.tail (hlog (logged [reportAt t]) (reportAt t')) rfl
  exact hsecond.tail hflush rfl

theorem lossless_flushedTwo :
    (flushedTwo 1 2).accepted.Perm ((flushedTwo 1 2).logger.queue ++ (flushedTwo 1 2).logger.db.handed) := by
  have hrows : WriteFaults.NoRow {} [reportAt 1, reportAt 2] := by
    intro i r hr
    rcases i with _ | _ | i
    · cases hr
      decide
    · cases hr
      decide
    · cases hr
  exact (lossless_of_run (run_flushedTwo Admits 1 2 (fun _ _ => trivial) fun _ => hrows.spares (by decide))).1

theorem lost_flushedTwo : ¬ ∀ (config : AuditConfig) (w : AuditWorld),
    Run (fun w op w' => w.step op = some w') (fun _ _ => True) (start config) w →
      ∀ r ∈ w.accepted, r ∈ w.logger.queue ++ w.logger.db.handed := by
  intro h
  have hrun := run_flushedTwo (fun _ _ => True) (2 ^ 63) 1 (fun _ _ => trivial) trivial
  have hmem : reportAt 1 ∈ (flushedTwo (2 ^ 63) 1).accepted := List.mem_cons_of_mem _ List.mem_cons_self
  have hkept := h _ _ hrun (reportAt 1) hmem
  exact absurd hkept (by decide +kernel)

end AuditWorld
end Quant
