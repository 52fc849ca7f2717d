import SqlMonitor.Services.IndexOperations

set_option autoImplicit false

namespace SqlMonitor.Services

section Outcomes

variable {surroundings : OperationSurroundings}

/-- What can be built from the row of an instance: its string decodes, and there is a client. -/
def ClientBuilt (surroundings : OperationSurroundings) (record : Option InstanceRecord) : Prop :=
  ∀ row, record = some row → operationDsn row ≠ "" ∧
    ∃ connectionString client,
      surroundings.decryptConnectionString (operationDsn row) = .ok connectionString ∧
        surroundings.clientFactory connectionString = .ok client

/-- The audit is settled, and as a success exactly when its statement was carried out. -/
def Settles (audit : MissingIndexAudit) (run : IndexRun) : Prop :=
  ∃ stored, run.audit = some stored ∧
    stored = { audit with result := stored.result, errorMessage := stored.errorMessage } ∧
    (stored.result = .success ∨ stored.result = .failed) ∧
    (stored.result = .success ↔
      ∃ call ∈ run.executed, call.ddl = audit.ddlSummary ∧ call.outcome = .ok ())

theorem operationClient_eq_ok {row : InstanceRecord} {client : OperationClient} :
    operationClient surroundings row = .ok client ↔ operationDsn row ≠ "" ∧
      ∃ connectionString,
        surroundings.decryptConnectionString (operationDsn row) = .ok connectionString ∧
          surroundings.clientFactory connectionString = .ok client := by
  unfold operationClient operationConnectionString
  by_cases empty : operationDsn row = ""
  · simp [empty, bind_eq_ok]
  · simp [empty, bind_eq_ok]

theorem startIndexRun_cases (surroundings : OperationSurroundings) (audit : MissingIndexAudit)
    (record : Option InstanceRecord) :
    (record = none ∧ startIndexRun surroundings audit record =
      .ok (.finished .failed (some "INSTANCE_NOT_FOUND"))) ∨
    (∃ row client, record = some row ∧ operationClient surroundings row = .ok client ∧
      startIndexRun surroundings audit record =
        .ok (.executing client audit.ddlSummary (indexOperationTimeout row))) ∨
    (∃ row exc, record = some row ∧ operationClient surroundings row = .error exc ∧
      startIndexRun surroundings audit record = .error exc) := by
  cases record with
  | none => exact Or.inl ⟨rfl, rfl⟩
  | some row =>
      cases built : operationClient surroundings row with
      | ok client =>
          refine Or.inr (Or.inl ⟨row, client, rfl, built, ?_⟩)
          simp only [startIndexRun, built]
          rfl
      | error exc =>
          refine Or.inr (Or.inr ⟨row, exc, rfl, built, ?_⟩)
          simp only [startIndexRun, built]
          rfl

theorem executionResult_settled (codes : DdlErrorCodes) (outcome : Except DriverException Unit) :
    ((executionResult codes outcome).1 = .success ∧ outcome = .ok ()) ∨
      ((executionResult codes outcome).1 = .failed ∧ outcome ≠ .ok ()) := by
  cases outcome with
  | ok value => exact Or.inl ⟨rfl, rfl⟩
  | error raised => exact Or.inr ⟨rfl, by simp⟩

theorem runIndexDdl_settles_iff (codes : DdlErrorCodes) {audit : MissingIndexAudit}
    (running : audit.result = .running) (records : Uuid → Option InstanceRecord) :
    Settles audit (runIndexDdl surroundings codes (some audit) records) ↔
      ClientBuilt surroundings (records audit.instanceId) := by
  rcases startIndexRun_cases surroundings audit (records audit.instanceId) with
    ⟨missing, started⟩ | ⟨row, client, found, built, started⟩ | ⟨row, exc, found, raised, started⟩
  · refine iff_of_true ?_ (fun row found => absurd (missing.symm.trans found) (by simp))
    simp only [runIndexDdl, started, Settles, markIndexAuditFinished]
    exact ⟨_, rfl, rfl, Or.inr rfl, by simp⟩
  · have able : ClientBuilt surroundings (records audit.instanceId) := by
      intro other same
      obtain rfl : row = other := Option.some.inj (found.symm.trans same)
      obtain ⟨configured, connectionString, decoded, returned⟩ := operationClient_eq_ok.mp built
      exact ⟨configured, connectionString, client, decoded, returned⟩
    refine iff_of_true ?_ able
    simp only [runIndexDdl, started, Settles, markIndexAuditFinished]
    refine ⟨_, rfl, rfl, ?_⟩
    rcases executionResult_settled codes
      (client.execute audit.ddlSummary (indexOperationTimeout row)) with
        ⟨result, returned⟩ | ⟨result, failed⟩
    · simp [executionResult, returned]
    · simp [result, failed]
  · refine iff_of_false ?_ ?_
    · rintro ⟨stored, left, -, settled, -⟩
      simp only [runIndexDdl, started, Option.some.injEq] at left
      rw [← left, running] at settled
      simp at settled
    · intro able
      obtain ⟨configured, connectionString, client, decoded, returned⟩ := able row found
      have built := operationClient_eq_ok.mpr ⟨configured, connectionString, decoded, returned⟩
      rw [raised] at built
      exact absurd built (by simp)

theorem index_run_settles_iff (surroundings : OperationSurroundings) {audit : MissingIndexAudit}
    (running : audit.result = .running) (records : Uuid → Option InstanceRecord) :
    (Settles audit (runMissingIndexDdl surroundings (some audit) records) ↔
        ClientBuilt surroundings (records audit.instanceId)) ∧
      (Settles audit (runFragmentationDdl surroundings (some audit) records) ↔
        ClientBuilt surroundings (records audit.instanceId)) :=
  ⟨runIndexDdl_settles_iff createCodes running records,
    runIndexDdl_settles_iff maintenanceCodes running records⟩

end Outcomes

section SalesRuns

def salesRow : InstanceRecord where
  id := 1
  encryptedCollectDsn := "AAA"
  status := .online
  createdAt := 0
  name := "sales"
  host := "sql01"
  port := 1433
  databaseName := none
  encryptedKillDsn := none
  missingIndexCollectIntervalSeconds := 600
  indexFragmentationCollectIntervalSeconds := 600
  indexOperationTimeoutSeconds := 1800
  sqlserverVersion := none

def salesAudit : MissingIndexAudit :=
  writeIndexAudit ⟨1, "sales", "dbo", "orders", ["id"], [], "IX_orders_id"⟩ ⟨7, "dba"⟩
    "CREATE INDEX [IX_orders_id] ON [sales].[dbo].[orders] ([id])" .running none

-- Three characters are no text in base 64, so decoding them raises.
def paddingError : OperationSurroundings where
  decryptConnectionString := fun _ => .error ⟨"Error", "Incorrect padding", by decide⟩
  clientFactory := fun _ => .error ⟨"OperationalError", "no server", by decide⟩

def onlineClient : OperationClient where
  indexNames := fun _ _ _ => .ok []
  onlineSupport := .ok [⟨some 5, none, none⟩]
  execute := fun _ _ => .ok ()

def onlineServer : OperationSurroundings where
  decryptConnectionString := .ok
  clientFactory := fun _ => .ok onlineClient

theorem clientBuilt_onlineServer : ClientBuilt onlineServer (some salesRow) := by
  intro row same
  obtain rfl := Option.some.inj same
  exact ⟨by decide, operationDsn salesRow, onlineClient, rfl, rfl⟩

theorem index_run_settles_iff_executed :
    (Settles salesAudit (runMissingIndexDdl paddingError (some salesAudit) fun _ => none) ∧
      Settles salesAudit (runFragmentationDdl paddingError (some salesAudit) fun _ => none)) ∧
    (Settles salesAudit (runMissingIndexDdl onlineServer (some salesAudit) fun _ => some salesRow) ∧
      Settles salesAudit
        (runFragmentationDdl onlineServer (some salesAudit) fun _ => some salesRow)) ∧
    (runMissingIndexDdl onlineServer (some salesAudit) fun _ => some salesRow).executed =
      [⟨salesAudit.ddlSummary, 1800, .ok ()⟩] ∧
    ¬ Settles salesAudit
      (runMissingIndexDdl paddingError (some salesAudit) fun _ => some salesRow) := by
  have running : salesAudit.result = .running := rfl
  have gone := index_run_settles_iff paddingError running fun _ => none
  have online := index_run_settles_iff onlineServer running fun _ => some salesRow
  have undecodable := index_run_settles_iff paddingError running fun _ => some salesRow
  refine ⟨⟨gone.1.mpr (by simp [ClientBuilt]), gone.2.mpr (by simp [ClientBuilt])⟩,
    ⟨online.1.mpr clientBuilt_onlineServer, online.2.mpr clientBuilt_onlineServer⟩, rfl, ?_⟩
  intro settled
  obtain ⟨-, connectionString, client, decoded, -⟩ := undecodable.1.mp settled salesRow rfl
  simp [paddingError] at decoded

theorem undecodable_leaves_running :
    ((runMissingIndexDdl paddingError (some salesAudit) fun _ => some salesRow).audit =
        some salesAudit ∧ salesAudit.result = .running) ∧
      ¬ Settles salesAudit
        (runMissingIndexDdl paddingError (some salesAudit) fun _ => some salesRow) := by
  refine ⟨⟨rfl, rfl⟩, ?_⟩
  rintro ⟨stored, left, -, settled, -⟩
  obtain rfl : salesAudit = stored := Option.some.inj left
  exact absurd settled (by decide)

end SalesRuns

end SqlMonitor.Services
