import SqlMonitor.Frontend.KillViews

set_option autoImplicit false

namespace SqlMonitor.Frontend

open TransitionSystem

section Queues

variable {A B : Type} {ask : A → Option B} {entries : List A} {index : Nat} {entry : A} {value : B}

def TakenInOrder (ask : A → Option B) (entries : List A) (index : Nat) : Prop :=
  ∀ value, (entries[index]?).bind ask = some value →
    ∀ earlier < index, ∀ other, (entries[earlier]?).bind ask = some other → other = value

theorem filterMap_eraseIdx_of_none (found : entries[index]? = some entry)
    (asks : ask entry = none) :
    (entries.eraseIdx index).filterMap ask = entries.filterMap ask := by
  induction entries generalizing index with
  | nil => simp at found
  | cons first rest ih =>
      cases index with
      | zero =>
          obtain rfl : first = entry := by simpa using found
          simp [asks]
      | succ index =>
          rw [List.eraseIdx_cons_succ, List.filterMap_cons, List.filterMap_cons,
            ih (by simpa using found)]

theorem filterMap_eraseIdx_of_some (found : entries[index]? = some entry)
    (asks : ask entry = some value) (inOrder : TakenInOrder ask entries index) :
    entries.filterMap ask = value :: (entries.eraseIdx index).filterMap ask := by
  induction entries generalizing index with
  | nil => simp at found
  | cons first rest ih =>
      cases index with
      | zero =>
          obtain rfl : first = entry := by simpa using found
          simp [asks]
      | succ index =>
          have here : rest[index]? = some entry := by simpa using found
          have alike := inOrder value (by rw [found]; exact asks)
          have later : TakenInOrder ask rest index := by
            intro other asked earlier before another found'
            rw [here, Option.bind_some, asks, Option.some.injEq] at asked
            rw [← asked]
            exact alike (earlier + 1) (by omega) another (by simpa using found')
          rw [List.eraseIdx_cons_succ, List.filterMap_cons, List.filterMap_cons, ih here later]
          cases own : ask first with
          | none => rfl
          | some other =>
              obtain rfl := alike 0 (by omega) other (by simpa using own)
              rfl

end Queues

section Screens

def fetchAsked (viewId : Nat) : Awaiting → Option Uuid
  | .instances (.fetch asker instanceId _) => if asker = viewId then some instanceId else none
  | _ => none

def snapshotAsked (viewId : Nat) : Awaiting → Option Uuid
  | .snapshot asker instanceId _ => if asker = viewId then some instanceId else none
  | _ => none

variable (page : Page)

def asked : List Uuid :=
  page.requests.filterMap (snapshotAsked page.viewId) ++
    page.requests.filterMap (fetchAsked page.viewId)

/-- While there is a current instance, a view that waits for nothing shows it, or nothing. -/
def Settled : Prop :=
  asked page = [] → ∀ instanceId, page.store.currentInstance = some instanceId →
    ∀ fetched, page.view.onScreen = some fetched → fetched.instanceId = instanceId

/-- No answer overtakes one that the view asked for another instance. -/
def OvertakesNone : Action → Prop
  | .instances request _ => TakenInOrder (fetchAsked page.viewId) page.requests request
  | .snapshot request _ => TakenInOrder (snapshotAsked page.viewId) page.requests request
  | _ => True

def destined : Option Uuid := (asked page).getLast?.or (page.view.fetched.map (·.instanceId))

def Fits : Prop :=
  page.view.error = "" → ∀ instanceId, page.watched = some instanceId →
    ∀ shown, destined page = some shown → shown = instanceId

def Awaiting.viewId? : Awaiting → Option Nat
  | .instances .nothing => none
  | .instances (.mount viewId) | .instances (.fetch viewId _ _) => some viewId
  | .snapshot viewId _ _ => some viewId
  | .kill viewId _ => some viewId

/-- No request is made for a view that is not mounted yet. -/
def Mounted : Prop :=
  ∀ awaiting ∈ page.requests, ∀ viewId, awaiting.viewId? = some viewId → viewId ≤ page.viewId

end Screens

section Alike

variable {page middle next : Page} {viewId request : Nat} {awaiting : Awaiting}

structure Alike (page next : Page) : Prop where
  error : next.view.error = page.view.error
  fetched : next.view.fetched = page.view.fetched
  asked : asked next = asked page
  watched : next.watched = page.watched

theorem Alike.trans (first : Alike page middle) (second : Alike middle next) : Alike page next :=
  ⟨second.error.trans first.error, second.fetched.trans first.fetched,
    second.asked.trans first.asked, second.watched.trans first.watched⟩

theorem Fits.alike (fits : Fits page) (alike : Alike page next) : Fits next := by
  unfold Fits destined
  rw [alike.error, alike.fetched, alike.asked, alike.watched]
  exact fits

theorem alike_onView {change : View → View} (error : ∀ view, (change view).error = view.error)
    (fetched : ∀ view, (change view).fetched = view.fetched) :
    Alike page (onView page viewId change) := by
  unfold onView
  split
  next => exact ⟨error page.view, fetched page.view, rfl, rfl⟩
  next => exact ⟨rfl, rfl, rfl, rfl⟩

theorem onView_of_ne {change : View → View} (other : page.viewId ≠ viewId) :
    onView page viewId change = page := if_neg other

theorem alike_send (fetch : fetchAsked page.viewId awaiting = none)
    (snapshot : snapshotAsked page.viewId awaiting = none) : Alike page (send page awaiting) := by
  refine ⟨rfl, rfl, ?_, rfl⟩
  change (page.requests ++ [awaiting]).filterMap _ ++ (page.requests ++ [awaiting]).filterMap _ = _
  rw [List.filterMap_append, List.filterMap_append]
  simp [fetch, snapshot, asked, send]

theorem alike_answered (found : page.requests[request]? = some awaiting)
    (fetch : fetchAsked page.viewId awaiting = none)
    (snapshot : snapshotAsked page.viewId awaiting = none) :
    Alike page (answered page request) := by
  refine ⟨rfl, rfl, ?_, rfl⟩
  unfold asked answered
  rw [filterMap_eraseIdx_of_none found fetch, filterMap_eraseIdx_of_none found snapshot]

theorem asked_send_fetch (instanceId : Uuid) (afterKill : Bool) :
    asked (send page (.instances (.fetch page.viewId instanceId afterKill))) =
      asked page ++ [instanceId] := by
  change (page.requests ++ [_]).filterMap _ ++ (page.requests ++ [_]).filterMap _ = _
  rw [List.filterMap_append, List.filterMap_append]
  simp [fetchAsked, snapshotAsked, asked, send]

end Alike

section Handling

variable {page next : Page} {viewId request : Nat} {instanceId : Uuid} {afterKill : Bool}

def FitsWatched (page : Page) : Prop := page.store.currentInstance = page.watched → Fits page

theorem FitsWatched.alike (fits : FitsWatched page) (alike : Alike page next)
    (store : next.store = page.store) : FitsWatched next := by
  intro synced
  rw [store, alike.watched] at synced
  exact (fits synced).alike alike

theorem destined_append {instances : List Uuid} {last : Uuid}
    (asks : asked page = instances ++ [last]) : destined page = some last := by
  simp [destined, asks]

theorem fits_fetchSnapshot (synced : page.store.currentInstance = page.watched) :
    Fits (fetchSnapshot page page.viewId afterKill) := by
  unfold fetchSnapshot
  split
  next none =>
    intro _ watches watched
    have same : (onView page page.viewId (endKill afterKill)).watched = page.watched := by
      unfold onView
      split <;> rfl
    rw [same, ← synced, none] at watched
    exact absurd watched (by simp)
  next current is =>
    intro _ watches watched shown last
    rw [onView, if_pos rfl] at watched last
    have asks := destined_append (@asked_send_fetch
      { page with view := { page.view with loading := true, error := "" } } current afterKill)
    rw [asks] at last
    have same : page.watched = some watches := watched
    rw [← synced, is] at same
    exact (Option.some.inj last).symm.trans (Option.some.inj same)

theorem store_fetchSnapshot : (fetchSnapshot page viewId afterKill).store = page.store := by
  unfold fetchSnapshot onView
  split <;> split <;> rfl

theorem watched_fetchSnapshot : (fetchSnapshot page viewId afterKill).watched = page.watched := by
  unfold fetchSnapshot onView
  split <;> split <;> rfl

theorem fitsWatched_fetchSnapshot (fits : FitsWatched page) :
    FitsWatched (fetchSnapshot page viewId afterKill) := by
  by_cases own : page.viewId = viewId
  · subst own
    intro synced
    rw [store_fetchSnapshot, watched_fetchSnapshot] at synced
    exact fits_fetchSnapshot synced
  · unfold fetchSnapshot
    split
    next => rwa [onView_of_ne own]
    next current _ =>
      rw [onView_of_ne own]
      refine fits.alike (alike_send ?_ rfl) rfl
      exact if_neg fun same => own same.symm

theorem fitsWatched_failFetch_own (page : Page) (afterKill : Bool) :
    FitsWatched (failFetch page page.viewId afterKill) := by
  rw [failFetch, onView, if_pos rfl]
  intro _ failed
  have text : page.view.kind.loadError ≠ "" := by cases page.view.kind <;> decide
  exact absurd failed text

theorem fitsWatched_failFetch (fits : FitsWatched page) :
    FitsWatched (failFetch page viewId afterKill) := by
  by_cases own : page.viewId = viewId
  · subst own
    exact fitsWatched_failFetch_own page afterKill
  · unfold failFetch
    rwa [onView_of_ne own]

theorem fits_runWatchers (fits : FitsWatched page) : Fits (runWatchers page) := by
  unfold runWatchers
  split
  next synced => exact fits synced
  next =>
    exact @fits_fetchSnapshot { page with watched := page.store.currentInstance } false rfl

theorem asked_moved (found : page.requests[request]? =
      some (.instances (.fetch page.viewId instanceId afterKill)))
    (inOrder : TakenInOrder (fetchAsked page.viewId) page.requests request) :
    asked (send (answered page request) (.snapshot page.viewId instanceId afterKill)) =
      asked page := by
  have asks : fetchAsked page.viewId (.instances (.fetch page.viewId instanceId afterKill)) =
      some instanceId := if_pos rfl
  have first := filterMap_eraseIdx_of_some found asks inOrder
  have others : (page.requests.eraseIdx request).filterMap (snapshotAsked page.viewId) =
      page.requests.filterMap (snapshotAsked page.viewId) := filterMap_eraseIdx_of_none found rfl
  change (page.requests.eraseIdx request ++ [_]).filterMap _ ++
    (page.requests.eraseIdx request ++ [_]).filterMap _ = _
  rw [List.filterMap_append, List.filterMap_append]
  have moved : [Awaiting.snapshot page.viewId instanceId afterKill].filterMap
      (snapshotAsked page.viewId) = [instanceId] := by simp [snapshotAsked]
  have left : [Awaiting.snapshot page.viewId instanceId afterKill].filterMap
      (fetchAsked page.viewId) = [] := rfl
  simp only [answered, send, others, moved, left, List.append_nil, asked, first, List.append_assoc,
    List.singleton_append]

theorem destined_arrived (found : page.requests[request]? =
      some (.snapshot page.viewId instanceId afterKill))
    (inOrder : TakenInOrder (snapshotAsked page.viewId) page.requests request) {view : View}
    (fetched : view.fetched.map (·.instanceId) = some instanceId) :
    destined { answered page request with view } = destined page := by
  have asks : snapshotAsked page.viewId (.snapshot page.viewId instanceId afterKill) =
      some instanceId := if_pos rfl
  have first := filterMap_eraseIdx_of_some found asks inOrder
  have others : (page.requests.eraseIdx request).filterMap (fetchAsked page.viewId) =
      page.requests.filterMap (fetchAsked page.viewId) := filterMap_eraseIdx_of_none found rfl
  have split : asked page = instanceId :: asked { answered page request with view } := by
    simp only [asked, answered, first, others, List.cons_append]
  simp only [destined, split, fetched, List.getLast?_cons, Option.some_or]
  cases (asked { answered page request with view }).getLast? <;> rfl

theorem fitsWatched_instancesArrive (fits : Fits page) {data : Option (List Uuid)}
    {continuation : Continuation}
    (found : page.requests[request]? = some (.instances continuation))
    (inOrder : TakenInOrder (fetchAsked page.viewId) page.requests request) :
    FitsWatched (instancesArrive (answered page request) data continuation) := by
  have plain (other : fetchAsked page.viewId (.instances continuation) = none)
      (store : InstancesStore) : Fits { answered page request with store } :=
    (fits.alike (alike_answered found other rfl)).alike ⟨rfl, rfl, rfl, rfl⟩
  cases continuation with
  | nothing =>
      cases data with
      | none => exact fun _ => plain rfl page.store
      | some data => exact fun _ => plain rfl _
  | mount viewId =>
      cases data with
      | none => exact fun _ => plain rfl page.store
      | some data => exact fitsWatched_fetchSnapshot fun _ => plain rfl _
  | fetch viewId instanceId afterKill =>
      by_cases own : viewId = page.viewId
      · subst own
        cases data with
        | none => exact fitsWatched_failFetch_own (answered page request) afterKill
        | some data =>
            have moved := asked_moved found inOrder
            exact fun _ => fits.alike ⟨rfl, rfl, moved, rfl⟩
      · have other : fetchAsked page.viewId (.instances (.fetch viewId instanceId afterKill)) =
            none := if_neg own
        cases data with
        | none => exact fitsWatched_failFetch fun _ => plain other page.store
        | some data =>
            have stored := plain other (page.store.fetched data)
            refine fun _ => stored.alike (alike_send rfl ?_)
            exact if_neg own

theorem fitsWatched_snapshotArrives (fits : Fits page) {data : Option Snapshot}
    (found : page.requests[request]? = some (.snapshot viewId instanceId afterKill))
    (inOrder : TakenInOrder (snapshotAsked page.viewId) page.requests request) :
    FitsWatched (snapshotArrives (answered page request) data viewId instanceId afterKill) := by
  by_cases own : viewId = page.viewId
  · subst own
    cases data with
    | none => exact fitsWatched_failFetch_own (answered page request) afterKill
    | some snapshot =>
        simp only [snapshotArrives, onView, answered, if_pos]
        intro _ clear watches watched shown last
        refine fits clear watches watched shown ?_
        rw [← last]
        exact (destined_arrived found inOrder rfl).symm
  · have other : snapshotAsked page.viewId (.snapshot viewId instanceId afterKill) = none :=
      if_neg own
    have plain := fits.alike (alike_answered found rfl other)
    cases data with
    | none => exact fitsWatched_failFetch fun _ => plain
    | some snapshot =>
        have elsewhere : (answered page request).viewId ≠ viewId := fun same => own same.symm
        simp only [snapshotArrives, onView_of_ne elsewhere]
        exact fun _ => plain

theorem fitsWatched_killAnswered (fits : Fits page) {kind : ViewKind} (reply : KillReply) :
    FitsWatched (killAnswered page viewId kind reply) := by
  have closed (text : String) : Alike page
      (onView { page with messages := page.messages ++ [text] } viewId fun view =>
        { view with killVisible := false }) := by
    have noted : Alike page { page with messages := page.messages ++ [text] } :=
      ⟨rfl, rfl, rfl, rfl⟩
    exact noted.trans (alike_onView (fun _ => rfl) (fun _ => rfl))
  cases reply with
  | success => exact fitsWatched_fetchSnapshot fun _ => fits.alike (closed _)
  | unsuccessful errorMessage => exact fitsWatched_fetchSnapshot fun _ => fits.alike (closed _)
  | failed =>
      have noted : Alike page { page with messages := page.messages ++ [kind.killError] } :=
        ⟨rfl, rfl, rfl, rfl⟩
      exact fun _ => fits.alike (noted.trans (alike_onView (fun _ => rfl) (fun _ => rfl)))

theorem fits_mountView (mounted : Mounted page) (kind : ViewKind) : Fits (mountView page kind) := by
  have unknown : ∀ awaiting ∈ page.requests ++ [.instances (.mount (page.viewId + 1))],
      snapshotAsked (page.viewId + 1) awaiting = none ∧
        fetchAsked (page.viewId + 1) awaiting = none := by
    intro awaiting member
    rcases List.mem_append.mp member with before | now
    · have known := mounted awaiting before
      cases awaiting with
      | instances next =>
          cases next with
          | nothing => exact ⟨rfl, rfl⟩
          | mount viewId => exact ⟨rfl, rfl⟩
          | fetch viewId instanceId afterKill =>
              have older := known viewId rfl
              exact ⟨rfl, if_neg (by omega)⟩
      | snapshot viewId instanceId afterKill =>
          have older := known viewId rfl
          exact ⟨if_neg (by omega), rfl⟩
      | kill viewId kind => exact ⟨rfl, rfl⟩
    · rw [List.mem_singleton.mp now]
      exact ⟨rfl, rfl⟩
  have nothing : asked (mountView page kind) = [] := by
    have snapshots := List.filterMap_eq_nil_iff.mpr fun awaiting member =>
      (unknown awaiting member).1
    have fetches := List.filterMap_eq_nil_iff.mpr fun awaiting member =>
      (unknown awaiting member).2
    exact List.append_eq_nil_iff.mpr ⟨snapshots, fetches⟩
  intro _ instanceId _ shown last
  rw [destined, nothing] at last
  exact absurd last (by simp [mountView, send, freshView])

theorem fitsWatched_handle {action : Action} (fits : Fits page) (mounted : Mounted page)
    (synced : page.store.currentInstance = page.watched) (inOrder : OvertakesNone page action)
    (handled : handle page action = some next) : FitsWatched next := by
  cases action with
  | mount kind =>
      obtain rfl := Option.some.inj handled
      exact fun _ => fits_mountView mounted kind
  | select instanceId =>
      obtain rfl := Option.some.inj handled
      exact fun _ => fits
  | refresh =>
      obtain rfl := Option.some.inj handled
      exact fun _ => fits_fetchSnapshot synced
  | loadInstances =>
      obtain rfl := Option.some.inj handled
      exact fun _ => fits.alike (alike_send rfl rfl)
  | instances request data =>
      simp only [handle] at handled
      split at handled
      next found =>
        obtain rfl := Option.some.inj handled
        exact fitsWatched_instancesArrive fits found inOrder
      next => simp at handled
  | snapshot request data =>
      simp only [handle] at handled
      split at handled
      next found =>
        obtain rfl := Option.some.inj handled
        exact fitsWatched_snapshotArrives fits found inOrder
      next => simp at handled
  | openKill sessionId =>
      simp only [handle] at handled
      split at handled
      next =>
        obtain ⟨-, rfl⟩ := of_guarded handled
        exact fun _ => fits.alike ⟨rfl, rfl, rfl, rfl⟩
      next => simp at handled
  | close =>
      obtain rfl := Option.some.inj handled
      exact fun _ => fits.alike ⟨rfl, rfl, rfl, rfl⟩
  | confirm reason =>
      obtain ⟨-, rfl⟩ := of_guarded handled
      unfold killSession
      split
      next instanceId sessionId _ _ =>
        have posted : Alike page
            { page with
              view := { page.view with killLoading := true }
              posts := page.posts ++ [⟨instanceId, sessionId, reason⟩] } :=
          ⟨rfl, rfl, rfl, rfl⟩
        exact fun _ => fits.alike (posted.trans (alike_send rfl rfl))
      next => exact fun _ => fits
  | killed request reply =>
      simp only [handle] at handled
      split at handled
      next found =>
        obtain rfl := Option.some.inj handled
        exact fitsWatched_killAnswered (fits.alike (alike_answered found rfl rfl)) reply
      next => simp at handled

end Handling

section Runs

variable {page next : Page} {viewId request : Nat} {awaiting : Awaiting} {action : Action}

theorem Mounted.keep (mounted : Mounted page) (viewIds : next.viewId = page.viewId)
    (requests : ∀ awaiting ∈ next.requests, awaiting ∈ page.requests) : Mounted next := by
  intro awaiting member viewId asks
  rw [viewIds]
  exact mounted awaiting (requests awaiting member) viewId asks

theorem mounted_send (mounted : Mounted page)
    (known : ∀ viewId, awaiting.viewId? = some viewId → viewId ≤ page.viewId) :
    Mounted (send page awaiting) := by
  intro other member viewId asks
  rcases List.mem_append.mp member with before | now
  · exact mounted other before viewId asks
  · rw [List.mem_singleton.mp now] at asks
    exact known viewId asks

theorem mounted_onView (mounted : Mounted page) {change : View → View} :
    Mounted (onView page viewId change) := by
  unfold onView
  split
  next => exact mounted.keep rfl fun _ => id
  next => exact mounted

theorem mounted_fetchSnapshot (mounted : Mounted page) (known : viewId ≤ page.viewId)
    (afterKill : Bool) : Mounted (fetchSnapshot page viewId afterKill) := by
  unfold fetchSnapshot
  split
  next => exact mounted_onView mounted
  next current _ =>
    refine mounted_send (mounted_onView mounted) fun other asks => ?_
    obtain rfl := Option.some.inj asks
    unfold onView
    split <;> exact known

theorem mounted_answered (mounted : Mounted page) : Mounted (answered page request) :=
  mounted.keep rfl fun _ => List.mem_of_mem_eraseIdx

theorem mounted_instancesArrive (mounted : Mounted page) {continuation : Continuation}
    (known : ∀ viewId, (Awaiting.instances continuation).viewId? = some viewId →
      viewId ≤ page.viewId) (data : Option (List Uuid)) :
    Mounted (instancesArrive page data continuation) := by
  cases data with
  | none =>
      cases continuation with
      | nothing | mount => exact mounted
      | fetch viewId instanceId afterKill => exact mounted_onView mounted
  | some data =>
      have stored : Mounted { page with store := page.store.fetched data } :=
        mounted.keep rfl fun _ => id
      cases continuation with
      | nothing => exact stored
      | mount viewId => exact mounted_fetchSnapshot stored (known viewId rfl) false
      | fetch viewId instanceId afterKill => exact mounted_send stored known

theorem mounted_killAnswered (mounted : Mounted page) (known : viewId ≤ page.viewId)
    (kind : ViewKind) (reply : KillReply) : Mounted (killAnswered page viewId kind reply) := by
  have noted (text : String) : Mounted { page with messages := page.messages ++ [text] } :=
    mounted.keep rfl fun _ => id
  have closed (text : String) : Mounted (fetchSnapshot
      (onView { page with messages := page.messages ++ [text] } viewId fun view =>
        { view with killVisible := false }) viewId true) := by
    refine mounted_fetchSnapshot (mounted_onView (noted text)) ?_ true
    unfold onView
    split <;> exact known
  cases reply with
  | success => exact closed _
  | unsuccessful errorMessage => exact closed _
  | failed => exact mounted_onView (noted _)

theorem mounted_handle (mounted : Mounted page) (handled : handle page action = some next) :
    Mounted next := by
  cases action with
  | mount kind =>
      obtain rfl := Option.some.inj handled
      intro awaiting member viewId asks
      rcases List.mem_append.mp member with before | now
      · exact Nat.le_succ_of_le (mounted awaiting before viewId asks)
      · rw [List.mem_singleton.mp now] at asks
        exact (Option.some.inj asks).symm.le
  | select instanceId =>
      obtain rfl := Option.some.inj handled
      exact mounted
  | refresh =>
      obtain rfl := Option.some.inj handled
      exact mounted_fetchSnapshot mounted (Nat.le_refl _) false
  | loadInstances =>
      obtain rfl := Option.some.inj handled
      exact mounted_send mounted fun _ asks => absurd asks (by simp [Awaiting.viewId?])
  | instances request data =>
      simp only [handle] at handled
      split at handled
      next found =>
        obtain rfl := Option.some.inj handled
        exact mounted_instancesArrive (mounted_answered mounted)
          (mounted _ (List.mem_of_getElem? found)) data
      next => simp at handled
  | snapshot request data =>
      simp only [handle] at handled
      split at handled
      next =>
        obtain rfl := Option.some.inj handled
        cases data <;> exact mounted_onView (mounted_answered mounted)
      next => simp at handled
  | openKill sessionId =>
      simp only [handle] at handled
      split at handled
      next =>
        obtain ⟨-, rfl⟩ := of_guarded handled
        exact mounted
      next => simp at handled
  | close =>
      obtain rfl := Option.some.inj handled
      exact mounted
  | confirm reason =>
      obtain ⟨-, rfl⟩ := of_guarded handled
      unfold killSession
      split
      next =>
        exact mounted_send (mounted.keep rfl fun _ => id)
          fun _ asks => (Option.some.inj asks).symm.le
      next => exact mounted
  | killed request reply =>
      simp only [handle] at handled
      split at handled
      next viewId kind found =>
        obtain rfl := Option.some.inj handled
        exact mounted_killAnswered (mounted_answered mounted)
          (mounted _ (List.mem_of_getElem? found) viewId rfl) kind reply
      next => simp at handled

structure Orderly (page : Page) : Prop where
  mounted : Mounted page
  fits : Fits page
  synced : page.store.currentInstance = page.watched

theorem orderly_step (orderly : Orderly page) (inOrder : OvertakesNone page action)
    (stepped : step page action = some next) : Orderly next := by
  obtain ⟨after, handled, rfl⟩ := Option.map_eq_some_iff.mp stepped
  have mounted := mounted_handle orderly.mounted handled
  have fits := fitsWatched_handle orderly.fits orderly.mounted orderly.synced inOrder handled
  refine ⟨?_, fits_runWatchers fits, ?_⟩
  · change Mounted (runWatchers after)
    unfold runWatchers
    split
    next => exact mounted
    next =>
      have watched : Mounted { after with watched := after.store.currentInstance } :=
        mounted.keep rfl fun _ => id
      exact mounted_fetchSnapshot watched (Nat.le_refl _) false
  · change (runWatchers after).store.currentInstance = (runWatchers after).watched
    unfold runWatchers
    split
    next synced => exact synced
    next => rw [store_fetchSnapshot, watched_fetchSnapshot]

theorem Orderly.settled (orderly : Orderly page) : Settled page := by
  intro nothing instanceId current fetched visible
  rw [View.onScreen] at visible
  split at visible
  next => exact absurd visible (by simp)
  next clear =>
    have error : page.view.error = "" := by
      by_contra shown
      exact clear (Or.inr shown)
    refine orderly.fits error instanceId (orderly.synced.symm.trans current) fetched.instanceId ?_
    simp [destined, nothing, visible]

theorem settled_screens (actions : List Action)
    (inOrder : Along step OvertakesNone emptyPage actions) :
    Throughout step Settled emptyPage actions := by
  have initial : Orderly emptyPage :=
    ⟨fun awaiting member => absurd member (by simp [emptyPage]),
      fun _ instanceId watched => absurd watched (by simp [emptyPage]), rfl⟩
  exact (Throughout.of_along (fun _ _ _ orderly inOrder stepped =>
    orderly_step orderly inOrder stepped) initial inOrder).mono fun _ orderly => orderly.settled

theorem takenInOrder_zero {A B : Type} (ask : A → Option B) (entries : List A) :
    TakenInOrder ask entries 0 :=
  fun _ _ earlier before => absurd before (Nat.not_lt_zero earlier)

def selectedMeanwhile : List Action :=
  [.mount .blocking, .instances 0 (some [1, 2]), .select (some 2),
    .instances 0 (some [1, 2]), .instances 0 (some [1, 2]), .instances 0 (some [1, 2])]

def answersInOrder : List Action :=
  [.snapshot 0 (some (.blocking [some 60])), .snapshot 0 (some (.blocking [some 61])),
    .snapshot 0 (some (.blocking [some 70]))]

theorem settled_screens_selectedMeanwhile :
    Throughout step Settled emptyPage (selectedMeanwhile ++ answersInOrder) ∧
      ∃ page, run step emptyPage (selectedMeanwhile ++ answersInOrder) = some page ∧
        asked page = [] ∧ page.view.onScreen = some ⟨2, .blocking [some 70]⟩ := by
  refine ⟨settled_screens _ ?_, _, rfl, by decide, by decide⟩
  rw [selectedMeanwhile, answersInOrder]
  simp only [List.cons_append, List.nil_append]
  refine (along_cons rfl).mpr ⟨trivial, ?_⟩
  refine (along_cons rfl).mpr ⟨takenInOrder_zero _ _, ?_⟩
  refine (along_cons rfl).mpr ⟨trivial, ?_⟩
  iterate 6 refine (along_cons rfl).mpr ⟨takenInOrder_zero _ _, ?_⟩
  exact along_nil

-- The snapshots of the first instance come last and stay on the screen.
example : ∃ page, run step emptyPage (selectedMeanwhile ++
    [.snapshot 2 (some (.blocking [some 70])), .snapshot 0 (some (.blocking [some 60])),
      .snapshot 0 (some (.blocking [some 61]))]) = some page ∧
    asked page = [] ∧ page.store.currentInstance = some 2 ∧
    page.view.onScreen = some ⟨1, .blocking [some 61]⟩ :=
  ⟨_, rfl, by decide, by decide, by decide⟩

end Runs

end SqlMonitor.Frontend
