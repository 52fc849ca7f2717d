import SqlMonitor.Frontend.KillViews
import SqlMonitor.Services.IndexPages

set_option autoImplicit false

namespace SqlMonitor.Frontend.IndexViews

open Services

section Data

variable (Item : Type)

structure IndexListOut extends IndexSnapshotPage Item where
  -- Answers about missing indexes have no such field.
  onlineRebuildSupported : Bool
  page : Nat
  pageSize : Nat

/-- The refs that an answer fills together. -/
structure Listing where
  rows : List Item
  checkedAt : Option Timestamp
  collectionStatus : CollectState
  collectionError : Option String
  stale : Bool
  onlineRebuildSupported : Bool
  total : Nat

structure ListRequest where
  instanceId : Uuid
  databaseName : String
  page : Nat
  pageSize : Nat
  requestSeq : Nat
deriving DecidableEq

variable {Item}

def Listing.cleared : Listing Item := ⟨[], none, .unknown, none, true, false, 0⟩

def Listing.failed (message : String) : Listing Item :=
  ⟨[], none, .failed, some message, true, false, 0⟩

def Listing.ofAnswer (data : IndexListOut Item) (pageSize : Nat) : Listing Item where
  rows := data.items.take pageSize
  checkedAt := data.checkedAt
  collectionStatus := data.collectionStatus
  collectionError := data.collectionError
  stale := data.stale
  onlineRebuildSupported := data.onlineRebuildSupported
  total := data.total

inductive Failure where
  | timeout
  | detail (text : String)
  | other

def requestMessage (failure : Failure) (fallback : String) : String :=
  match failure with
  | .timeout => "CLIENT_TIMEOUT"
  | .detail text => text
  | .other => fallback

structure ViewKind (Item : Type) where
  -- Whether the row has a button that opens the dialog.
  offered : Item → Bool
  -- Whether the dialog sends anything, for the index name that is left after trimming.
  sends : Item → String → Bool
  loadError : String
  operationSucceeded : Bool → String
  operationRunning : String
  operationUnsuccessful : String
  operationFailed : String
  knownErrors : List (String × String)
  finished : String
  auditTimeout : String
  auditFailed : String
  auditTimeoutText : String
  stillRunning : String

def ViewKind.operationErrorText (kind : ViewKind Item) (message : String) : String :=
  (kind.knownErrors.lookup message).getD message

def ViewKind.indexAuditErrorText (kind : ViewKind Item) (message : Option String) : String :=
  if message = some kind.auditTimeout then kind.auditTimeoutText
  else if message = some kind.auditFailed then kind.operationFailed
  else (message.filter (· ≠ "")).getD kind.operationFailed

-- `MissingIndexesView`
def missingIndexesView : ViewKind MissingIndexCandidate where
  offered := (·.createEnabled)
  sends := fun _ indexName => indexName ≠ ""
  loadError := "无法加载缺失索引本地快照"
  operationSucceeded := fun _ => "索引创建成功"
  operationRunning := "索引创建已提交后台执行，请稍后刷新确认结果"
  operationUnsuccessful := "索引创建未成功"
  operationFailed := "索引创建失败"
  knownErrors :=
    [("INDEX_NAME_CONFLICT", "索引名已存在，请修改索引名"),
      ("OPERATION_DSN_NOT_CONFIGURED", "未配置可执行数据库连接，无法创建索引"),
      ("INDEX_CREATE_TIMEOUT", "索引创建执行超时，请检查目标表大小、锁等待或稍后重试"),
      ("CLIENT_TIMEOUT", "前端等待索引创建超时，后台可能仍在执行，请稍后刷新确认结果")]
  finished := "索引创建完成"
  auditTimeout := "INDEX_CREATE_TIMEOUT"
  auditFailed := "INDEX_CREATE_FAILED"
  auditTimeoutText := "索引创建执行超时，请检查目标表大小、锁等待或稍后重试"
  stillRunning := "索引创建仍在后台执行，请稍后刷新确认结果"

-- `IndexFragmentationView`, where the dialog has no name to fill in.
def indexFragmentationView : ViewKind IndexFragmentationItem where
  offered := (·.actionEnabled)
  sends := fun target _ => target.recommendedAction ≠ .none
  loadError := "无法加载索引碎片本地快照"
  operationSucceeded := fun onlineUsed =>
    if onlineUsed then "索引维护已执行，使用 ONLINE = ON" else "索引维护已执行"
  operationRunning := "索引维护已提交后台执行，请稍后刷新确认结果"
  operationUnsuccessful := "索引维护未成功"
  operationFailed := "索引维护失败"
  knownErrors :=
    [("OPERATION_DSN_NOT_CONFIGURED", "未配置可执行数据库连接，无法执行索引维护"),
      ("INDEX_MAINTENANCE_TIMEOUT", "索引维护执行超时，请检查目标表大小、锁等待或稍后重试"),
      ("CLIENT_TIMEOUT", "前端等待索引维护超时，后台可能仍在执行，请稍后刷新确认结果")]
  finished := "索引维护完成"
  auditTimeout := "INDEX_MAINTENANCE_TIMEOUT"
  auditFailed := "INDEX_MAINTENANCE_FAILED"
  auditTimeoutText := "索引维护执行超时，请检查目标表大小、锁等待或稍后重试"
  stillRunning := "索引维护仍在后台执行，请稍后刷新确认结果"

end Data

section Views

variable (Item : Type)

-- The answer that fills the listing is noted with its request; the page keeps neither.
structure View where
  databases : List String
  selectedDatabase : Option String
  listing : Listing Item
  page : Nat
  pageSize : Nat
  databasesLoading : Bool
  listingLoading : Bool
  operationLoading : Bool
  error : String
  dialogVisible : Bool
  target : Option Item
  requestSeq : Nat
  source : Option (ListRequest × IndexListOut Item)
  -- The answer that the dialog was opened from, noted likewise.
  openedFrom : Option (ListRequest × IndexListOut Item)

inductive Awaiting where
  -- `onMounted` goes on when its own load of the instances is done.
  | instances (mount : Bool)
  | databases (instanceId : Uuid)
  | listing (request : ListRequest) (afterOperation : Bool)
  | operation
  | delay (auditId : Uuid) (attempt : Nat)
  | audit (auditId : Uuid) (attempt : Nat)
deriving DecidableEq

-- The body names the columns of the row; which answer the row was read from is noted.
structure Post where
  instanceId : Uuid
  target : Item
  indexName : String
  readFrom : Option (ListRequest × IndexListOut Item)

inductive OperationReply where
  | success (onlineUsed : Bool)
  | running (auditId : Uuid)
  | unsuccessful (errorMessage : Option String)
  | failed (failure : Failure)

inductive AuditReply where
  | running
  | success
  | unsuccessful (errorMessage : Option String)
  | failed

structure Page where
  store : InstancesStore
  view : View Item
  -- What the two watchers saw last.
  watchedInstance : Option Uuid
  watchedDatabase : Option String
  requests : List Awaiting
  messages : List String
  posts : List (Post Item)

variable {Item}

def freshView : View Item :=
  ⟨[], none, .cleared, 1, 20, false, false, false, "", false, none, 0, none, none⟩

/-- The rows of the table, where `DataState` shows one. -/
def View.onScreen (view : View Item) : List Item :=
  if view.databasesLoading ∨ (view.listingLoading ∧ view.listing.rows = []) ∨ view.error ≠ "" ∨
    view.selectedDatabase.filter (· ≠ "") = none then [] else view.listing.rows

end Views

section Handlers

variable {Item : Type} (kind : ViewKind Item) (page : Page Item)

def auditPollAttempts : Nat := 10

def onView (change : View Item → View Item) : Page Item := { page with view := change page.view }

def send (awaiting : Awaiting) : Page Item := { page with requests := page.requests ++ [awaiting] }

def notify (text : String) : Page Item := { page with messages := page.messages ++ [text] }

-- What the watcher of the database and `fetchDatabases` reset.
def View.clear (view : View Item) : View Item :=
  { view with listing := .cleared, source := none, page := 1 }

def fetchDatabases : Page Item :=
  let cleared := onView page fun view => { view.clear with databases := [], selectedDatabase := none }
  match page.store.currentInstance with
  | none => cleared
  | some instanceId =>
    send (onView cleared fun view => { view with databasesLoading := true, error := "" })
      (.databases instanceId)

def databasesArrive (data : Except Failure (List String)) : Page Item :=
  onView page fun view =>
    match data with
    | .ok names =>
      { view with databases := names, selectedDatabase := names.head?, databasesLoading := false }
    | .error failure =>
      { view with error := requestMessage failure "无法加载用户库列表", databasesLoading := false }

def endOperation (afterOperation : Bool) (view : View Item) : View Item :=
  { view with operationLoading := view.operationLoading && !afterOperation }

/--
`fetchMissingIndexes` and `fetchFragmentation`, up to their `await`. The request that is
aborted there stays among those awaited: its end is passed over like a late answer.
-/
def fetchListing (afterOperation : Bool) : Page Item :=
  match page.store.currentInstance, page.view.selectedDatabase.filter (· ≠ "") with
  | some instanceId, some databaseName =>
    let requestSeq := page.view.requestSeq + 1
    send (onView page fun view => { view with listingLoading := true, error := "", requestSeq })
      (.listing ⟨instanceId, databaseName, page.view.page, page.view.pageSize, requestSeq⟩
        afterOperation)
  | _, _ => onView page (endOperation afterOperation)

-- Their rest, from the answer on.
def receiveListing (request : ListRequest) (data : Except Failure (IndexListOut Item))
    (view : View Item) : View Item :=
  if request.requestSeq ≠ view.requestSeq then view
  else
    match data with
    | .ok data =>
      { view with
        listing := .ofAnswer data view.pageSize
        source := some (request, data)
        page := data.page
        pageSize := data.pageSize
        listingLoading := false }
    | .error failure =>
      let message := requestMessage failure kind.loadError
      { view with
        listing := .failed message, source := none, error := message, listingLoading := false }

def listingArrives (request : ListRequest) (afterOperation : Bool)
    (data : Except Failure (IndexListOut Item)) : Page Item :=
  onView page fun view => endOperation afterOperation (receiveListing kind request data view)

-- `refreshMissingIndexes` and `refreshFragmentation`
def refreshListing (afterOperation : Bool) : Page Item :=
  fetchListing (onView page fun view => { view with page := 1 }) afterOperation

def openDialog (row : Item) : Page Item :=
  onView page fun view =>
    { view with
      target := some row, dialogVisible := true, openedFrom := view.source }

/-- `createIndex` and `executeAction`, up to the answer. -/
def execute (indexName : String) : Page Item :=
  match page.store.currentInstance, page.view.target with
  | some instanceId, some target =>
    if kind.sends target indexName then
      send
        { page with
          view := { page.view with operationLoading := true }
          posts := page.posts ++ [⟨instanceId, target, indexName, page.view.openedFrom⟩] }
        .operation
    else page
  | _, _ => page

def closeDialog : Page Item := onView page fun view => { view with dialogVisible := false }

def operationAnswered (reply : OperationReply) : Page Item :=
  match reply with
  | .success onlineUsed =>
    refreshListing (closeDialog (notify page (kind.operationSucceeded onlineUsed))) true
  | .running auditId =>
    send (onView (closeDialog (notify page kind.operationRunning)) (endOperation true))
      (.delay auditId 0)
  | .unsuccessful errorMessage =>
    onView (notify page ((errorMessage.filter (· ≠ "")).getD kind.operationUnsuccessful))
      (endOperation true)
  | .failed failure =>
    onView (notify page (kind.operationErrorText (requestMessage failure kind.operationFailed)))
      (endOperation true)

-- The body of the loop in `pollIndexAudit`, from the answer on.
def auditAnswered (auditId : Uuid) (attempt : Nat) (reply : AuditReply) : Page Item :=
  match reply with
  | .running =>
    if attempt + 1 < auditPollAttempts then send page (.delay auditId (attempt + 1))
    else notify page kind.stillRunning
  | .success => refreshListing (notify page kind.finished) false
  | .unsuccessful errorMessage => notify page (kind.indexAuditErrorText errorMessage)
  | .failed => page

end Handlers

section Events

inductive Action (Item : Type) where
  | selectInstance (instanceId : Option Uuid)
  -- The selector of the instances.
  | loadInstances
  | instances (request : Nat) (data : Option (List Uuid))
  | databases (request : Nat) (data : Except Failure (List String))
  | selectDatabase (databaseName : String)
  | listing (request : Nat) (data : Except Failure (IndexListOut Item))
  | refresh
  | setPage (page : Nat)
  | setPageSize (pageSize : Nat)
  | openDialog (row : Item)
  | close
  | confirm (indexName : String)
  | operation (request : Nat) (reply : OperationReply)
  | delay (request : Nat)
  | audit (request : Nat) (reply : AuditReply)

variable {Item : Type} (page : Page Item)

def answered (request : Nat) : Page Item :=
  { page with requests := page.requests.eraseIdx request }

-- `watch(currentInstanceId, fetchDatabases)`
def watchInstance : Page Item :=
  if page.store.currentInstance = page.watchedInstance then page
  else fetchDatabases { page with watchedInstance := page.store.currentInstance }

def watchDatabase : Page Item :=
  if page.view.selectedDatabase = page.watchedDatabase then page
  else
    fetchListing
      { page with watchedDatabase := page.view.selectedDatabase, view := page.view.clear } false

def mounted (store : InstancesStore) : Page Item where
  store := store
  view := freshView
  watchedInstance := store.currentInstance
  watchedDatabase := none
  requests := [.instances true]
  messages := []
  posts := []

end Events

section Steps

variable {Item : Type} [DecidableEq Item] (kind : ViewKind Item) (page : Page Item)

-- Where the template disables or hides an element, its event does not occur.
def handle : Action Item → Option (Page Item)
  | .selectInstance instanceId => some { page with store := page.store.setCurrentInstance instanceId }
  | .loadInstances => some (send page (.instances false))
  | .instances request data =>
    match page.requests[request]? with
    | some (.instances mount) =>
      match data with
      | none => some (answered page request)
      | some items =>
        let loaded := { answered page request with store := page.store.fetched items }
        some (if mount then fetchDatabases loaded else loaded)
    | _ => none
  | .databases request data =>
    match page.requests[request]? with
    | some (.databases _) => some (databasesArrive (answered page request) data)
    | _ => none
  | .selectDatabase databaseName =>
    if databaseName ∈ page.view.databases then
      some (onView page fun view => { view with selectedDatabase := some databaseName })
    else none
  | .listing request data =>
    match page.requests[request]? with
    | some (.listing asked afterOperation) =>
      some (listingArrives kind (answered page request) asked afterOperation data)
    | _ => none
  | .refresh =>
    if page.view.listingLoading ∨ page.view.selectedDatabase.filter (· ≠ "") = none then none
    else some (refreshListing page false)
  -- The pagination also moves the page by itself, where it is disabled for the user.
  | .setPage number =>
    if page.view.onScreen = [] then none
    else some (fetchListing (onView page fun view => { view with page := number }) false)
  | .setPageSize pageSize =>
    if page.view.onScreen = [] ∨ page.view.listingLoading then none
    else some (fetchListing (onView page fun view => { view with pageSize, page := 1 }) false)
  | .openDialog row =>
    if row ∈ page.view.onScreen ∧ kind.offered row then some (openDialog page row) else none
  | .close => some (closeDialog page)
  | .confirm indexName =>
    if page.view.dialogVisible ∧ page.view.operationLoading = false then
      some (execute kind page indexName)
    else none
  | .operation request reply =>
    match page.requests[request]? with
    | some .operation => some (operationAnswered kind (answered page request) reply)
    | _ => none
  | .delay request =>
    match page.requests[request]? with
    | some (.delay auditId attempt) => some (send (answered page request) (.audit auditId attempt))
    | _ => none
  | .audit request reply =>
    match page.requests[request]? with
    | some (.audit auditId attempt) =>
      some (auditAnswered kind (answered page request) auditId attempt reply)
    | _ => none

-- The watchers run before the page is rendered again, and the first can set off the second.
def step (action : Action Item) : Option (Page Item) :=
  (handle kind page action).map fun page => watchDatabase (watchInstance page)

end Steps

end SqlMonitor.Frontend.IndexViews
