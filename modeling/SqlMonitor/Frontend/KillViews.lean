import SqlMonitor.Db.Models
import SqlMonitor.Shared.TransitionSystem

set_option autoImplicit false

namespace SqlMonitor.Frontend

section Store

structure InstancesStore where
  items : List Uuid
  currentInstanceId : Option Uuid

def InstancesStore.currentInstance (store : InstancesStore) : Option Uuid :=
  (store.items.find? (store.currentInstanceId = some ·)).or store.items.head?

-- `fetchInstances`, once its answer is there.
def InstancesStore.fetched (store : InstancesStore) (data : List Uuid) : InstancesStore where
  items := data
  currentInstanceId := store.currentInstanceId.or data.head?

def InstancesStore.setCurrentInstance (store : InstancesStore) (instanceId : Option Uuid) :
    InstancesStore :=
  { store with currentInstanceId := instanceId }

end Store

section Views

/-- What an endpoint returns, as far as it has a kill button. -/
inductive Snapshot where
  | blocking (rootSessionIds : List (Option Int))
  | sessions (sessionIds : List Int)
deriving DecidableEq

-- A chain without a root has no button.
def Snapshot.sessionIds : Snapshot → List Int
  | blocking roots => roots.filterMap id
  | sessions rows => rows

inductive ViewKind where
  | blocking
  | sessions
deriving DecidableEq

def ViewKind.loadError : ViewKind → String
  | .blocking => "无法加载阻塞链路"
  | .sessions => "无法加载会话数据"

def ViewKind.killError : ViewKind → String
  | .blocking => "终止根阻塞失败"
  | .sessions => "终止会话失败"

-- The request that a snapshot answered is noted here; the page does not keep it.
structure Fetched where
  instanceId : Uuid
  snapshot : Snapshot
deriving DecidableEq

structure View where
  kind : ViewKind
  fetched : Option Fetched
  loading : Bool
  error : String
  killVisible : Bool
  killSessionId : Option Int
  killLoading : Bool
  -- The instance whose snapshot the dialog was opened from, noted likewise.
  openedFrom : Option Uuid

def freshView (kind : ViewKind) : View := ⟨kind, none, false, "", false, none, false, none⟩

/-- What `DataState` shows: nothing while the view loads or has an error. -/
def View.onScreen (view : View) : Option Fetched :=
  if view.loading ∨ view.error ≠ "" then none else view.fetched

-- What goes on once `fetchInstances` returns, and in which view.
inductive Continuation where
  | nothing
  | mount (viewId : Nat)
  | fetch (viewId : Nat) (instanceId : Uuid) (afterKill : Bool)
deriving DecidableEq

inductive Awaiting where
  | instances (next : Continuation)
  | snapshot (viewId : Nat) (instanceId : Uuid) (afterKill : Bool)
  | kill (viewId : Nat) (kind : ViewKind)
deriving DecidableEq

structure Post where
  instanceId : Uuid
  sessionId : Int
  reason : String
deriving DecidableEq

inductive KillReply where
  | success
  | unsuccessful (errorMessage : Option String)
  | failed

structure Page where
  store : InstancesStore
  view : View
  viewId : Nat
  -- What the watcher of the current instance saw last.
  watched : Option Uuid
  requests : List Awaiting
  messages : List String
  posts : List Post
  -- The snapshots that were on the screen.
  shown : List Fetched

end Views

section Handlers

variable (page : Page)

-- An unmounted view is still written to, and no one sees it.
def onView (viewId : Nat) (change : View → View) : Page :=
  if page.viewId = viewId then { page with view := change page.view } else page

def send (awaiting : Awaiting) : Page := { page with requests := page.requests ++ [awaiting] }

def endKill (afterKill : Bool) (view : View) : View :=
  { view with killLoading := view.killLoading && !afterKill }

/-- `fetchBlocking` and `fetchSessions`, up to their first `await`. -/
def fetchSnapshot (viewId : Nat) (afterKill : Bool) : Page :=
  match page.store.currentInstance with
  | none => onView page viewId (endKill afterKill)
  | some instanceId =>
    send (onView page viewId fun view => { view with loading := true, error := "" })
      (.instances (.fetch viewId instanceId afterKill))

def failFetch (viewId : Nat) (afterKill : Bool) : Page :=
  onView page viewId fun view =>
    endKill afterKill { view with error := view.kind.loadError, loading := false }

def mountView (kind : ViewKind) : Page :=
  send
    { page with
      view := freshView kind, viewId := page.viewId + 1, watched := page.store.currentInstance }
    (.instances (.mount (page.viewId + 1)))

def instancesArrive (data : Option (List Uuid)) (next : Continuation) : Page :=
  match data, next with
  | some data, .nothing => { page with store := page.store.fetched data }
  | some data, .mount viewId =>
    fetchSnapshot { page with store := page.store.fetched data } viewId false
  | some data, .fetch viewId instanceId afterKill =>
    send { page with store := page.store.fetched data } (.snapshot viewId instanceId afterKill)
  | none, .fetch viewId _ afterKill => failFetch page viewId afterKill
  | none, _ => page

def snapshotArrives (data : Option Snapshot) (viewId : Nat) (instanceId : Uuid)
    (afterKill : Bool) : Page :=
  match data with
  | none => failFetch page viewId afterKill
  | some snapshot =>
    onView page viewId fun view =>
      endKill afterKill { view with fetched := some ⟨instanceId, snapshot⟩, loading := false }

/-- `openRootKill` and `openKill`. -/
def openKill (sessionId : Int) (fetched : Fetched) : Page :=
  { page with
    view := { page.view with
      killSessionId := some sessionId, killVisible := true, openedFrom := some fetched.instanceId } }

/-- `killRootSession` and `killSession`, up to the answer. -/
def killSession (reason : String) : Page :=
  match page.store.currentInstance, page.view.killSessionId with
  | some instanceId, some sessionId =>
    send
      { page with
        view := { page.view with killLoading := true }
        posts := page.posts ++ [⟨instanceId, sessionId, reason⟩] }
      (.kill page.viewId page.view.kind)
  | _, _ => page

def killAnswered (viewId : Nat) (kind : ViewKind) (reply : KillReply) : Page :=
  let closed := fun text =>
    fetchSnapshot
      (onView { page with messages := page.messages ++ [text] } viewId fun view =>
        { view with killVisible := false }) viewId true
  match reply with
  | .success => closed "终止请求已提交"
  | .unsuccessful errorMessage =>
    closed ((errorMessage.filter (· ≠ "")).getD "终止请求未成功")
  | .failed =>
    onView { page with messages := page.messages ++ [kind.killError] } viewId (endKill true)

end Handlers

section Steps

inductive Action where
  | mount (kind : ViewKind)
  | select (instanceId : Option Uuid)
  -- A tick of the refresh store, or another page, filter or order of the sessions.
  | refresh
  -- The selector of the instances, or a page without a kill button.
  | loadInstances
  | instances (request : Nat) (data : Option (List Uuid))
  | snapshot (request : Nat) (data : Option Snapshot)
  | openKill (sessionId : Int)
  | close
  -- The reason that is left after trimming.
  | confirm (reason : String)
  | killed (request : Nat) (reply : KillReply)

def answered (page : Page) (request : Nat) : Page :=
  { page with requests := page.requests.eraseIdx request }

def handle (page : Page) : Action → Option Page
  | .mount kind => some (mountView page kind)
  | .select instanceId => some { page with store := page.store.setCurrentInstance instanceId }
  | .refresh => some (fetchSnapshot page page.viewId false)
  | .loadInstances => some (send page (.instances .nothing))
  | .instances request data =>
    match page.requests[request]? with
    | some (.instances next) => some (instancesArrive (answered page request) data next)
    | _ => none
  | .snapshot request data =>
    match page.requests[request]? with
    | some (.snapshot viewId instanceId afterKill) =>
      some (snapshotArrives (answered page request) data viewId instanceId afterKill)
    | _ => none
  | .openKill sessionId =>
    match page.view.onScreen with
    | some fetched =>
      if sessionId ∈ fetched.snapshot.sessionIds then some (openKill page sessionId fetched)
      else none
    | none => none
  | .close => some { page with view := { page.view with killVisible := false } }
  | .confirm reason =>
    if page.view.killVisible ∧ page.view.killLoading = false ∧ reason ≠ "" then
      some (killSession page reason)
    else none
  | .killed request reply =>
    match page.requests[request]? with
    | some (.kill viewId kind) =>
      some (killAnswered (answered page request) viewId kind reply)
    | _ => none

-- The watcher of `currentInstance?.id` runs before the page is rendered again.
def runWatchers (page : Page) : Page :=
  if page.store.currentInstance = page.watched then page
  else fetchSnapshot { page with watched := page.store.currentInstance } page.viewId false

def render (page : Page) : Page :=
  { page with shown := page.shown ++ page.view.onScreen.toList }

def step (page : Page) (action : Action) : Option Page :=
  (handle page action).map fun page => render (runWatchers page)

def emptyPage : Page := ⟨⟨[], none⟩, freshView .blocking, 0, none, [], [], [], []⟩

end Steps

end SqlMonitor.Frontend
