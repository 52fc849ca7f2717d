import SqlMonitor.Frontend.IndexViews

set_option autoImplicit false

namespace SqlMonitor.Frontend.IndexViews

open Services TransitionSystem

section Invariant

variable {Item : Type}

def Awaiting.listing? : Awaiting → Option ListRequest
  | .listing request _ => some request
  | _ => none

def awaited (page : Page Item) : List ListRequest := page.requests.filterMap Awaiting.listing?

variable (page : Page Item)

structure Numbered : Prop where
  distinct : ((awaited page).map (·.requestSeq)).Nodup
  numbered : ∀ request ∈ awaited page, request.requestSeq ≤ page.view.requestSeq
  loading : page.view.listingLoading = true ↔
    ∃ request ∈ awaited page, request.requestSeq = page.view.requestSeq
  sized : ∀ request ∈ awaited page, request.requestSeq = page.view.requestSeq →
    request.pageSize = page.view.pageSize
  answered : ∀ request data, page.view.source = some (request, data) →
    page.view.listing = .ofAnswer data request.pageSize ∧
      (page.view.listingLoading = false → request.requestSeq = page.view.requestSeq)
  empty : page.view.source = none → page.view.listing.rows = []

/-- A request for the database that the watchers saw selected. -/
def ForWatched (request : ListRequest) : Prop :=
  ∀ instanceId databaseName, page.watchedInstance = some instanceId →
    page.watchedDatabase = some databaseName → databaseName ≠ "" →
      request.instanceId = instanceId ∧ request.databaseName = databaseName

structure Followed : Prop where
  asked : ∀ request ∈ awaited page, request.requestSeq = page.view.requestSeq →
    ForWatched page request
  shown : ∀ request data, page.view.source = some (request, data) → ForWatched page request

structure Sound : Prop extends Numbered page, Followed page

structure Watched : Prop where
  onInstance : page.watchedInstance = page.store.currentInstance
  onDatabase : page.watchedDatabase = page.view.selectedDatabase

structure Keeps (view next : View Item) : Prop where
  listing : next.listing = view.listing
  source : next.source = view.source
  listingLoading : next.listingLoading = view.listingLoading
  requestSeq : next.requestSeq = view.requestSeq
  pageSize : next.pageSize = view.pageSize

variable {page} {next : Page Item}

theorem Numbered.keep (numbered : Numbered page) (same : awaited next = awaited page)
    (keeps : Keeps page.view next.view) : Numbered next := by
  obtain ⟨listing, source, loading, seq, size⟩ := keeps
  refine ⟨?_, ?_, ?_, ?_, ?_, ?_⟩
  · rw [same]
    exact numbered.distinct
  · rw [same, seq]
    exact numbered.numbered
  · rw [same, seq, loading]
    exact numbered.loading
  · rw [same, seq, size]
    exact numbered.sized
  · rw [source, listing, loading, seq]
    exact numbered.answered
  · rw [source, listing]
    exact numbered.empty

theorem Sound.keep (sound : Sound page) (same : awaited next = awaited page)
    (keeps : Keeps page.view next.view) (onInstance : next.watchedInstance = page.watchedInstance)
    (onDatabase : next.watchedDatabase = page.watchedDatabase) : Sound next := by
  refine ⟨sound.toNumbered.keep same keeps, ?_, ?_⟩
  · unfold ForWatched
    rw [same, keeps.requestSeq, onInstance, onDatabase]
    exact sound.asked
  · unfold ForWatched
    rw [keeps.source, onInstance, onDatabase]
    exact sound.shown

theorem followed_of_none (none : page.watchedDatabase = none) : Followed page := by
  refine ⟨?_, ?_⟩
  · intro request _ _ instanceId databaseName _ watched
    simp [none] at watched
  · intro request data _ instanceId databaseName _ watched
    simp [none] at watched

end Invariant

section Requests

variable {Item : Type} {page : Page Item}

theorem awaited_send {awaiting : Awaiting} (other : awaiting.listing? = none) :
    awaited (send page awaiting) = awaited page := by
  simp [awaited, send, other]

theorem awaited_send_listing (request : ListRequest) (afterOperation : Bool) :
    awaited (send page (.listing request afterOperation)) = awaited page ++ [request] := by
  simp [awaited, send, Awaiting.listing?]

theorem awaited_answered_perm {number : Nat} {awaiting : Awaiting}
    (found : page.requests[number]? = some awaiting) :
    (awaited page).Perm (awaiting.listing?.toList ++ awaited (answered page number)) := by
  obtain ⟨inside, rfl⟩ := List.getElem?_eq_some_iff.mp found
  have perm := (List.getElem_cons_eraseIdx_perm inside).symm.filterMap Awaiting.listing?
  rw [List.filterMap_cons] at perm
  cases kind : (page.requests[number]).listing? <;> simpa [awaited, answered, kind] using perm

theorem awaited_answered {number : Nat} {awaiting : Awaiting}
    (found : page.requests[number]? = some awaiting) (other : awaiting.listing? = none) :
    awaited (answered page number) = awaited page := by
  obtain ⟨inside, rfl⟩ := List.getElem?_eq_some_iff.mp found
  rw [awaited, answered, awaited, List.eraseIdx_eq_take_drop_succ, List.filterMap_append]
  conv_rhs => rw [← List.take_append_drop number page.requests, List.drop_eq_getElem_cons inside]
  rw [List.filterMap_append, List.filterMap_cons, other]

end Requests

section Handlers

variable {Item : Type} {kind : ViewKind Item} {page : Page Item}

theorem keeps_refl (view : View Item) : Keeps view view := ⟨rfl, rfl, rfl, rfl, rfl⟩

theorem keeps_endOperation (afterOperation : Bool) (view : View Item) :
    Keeps view (endOperation afterOperation view) := ⟨rfl, rfl, rfl, rfl, rfl⟩

theorem numbered_clear (numbered : Numbered page) (change : View Item → View Item)
    (keeps : ∀ view : View Item, Keeps view.clear (change view)) :
    Numbered (onView page change) := by
  have cleared : Numbered (onView page View.clear) := by
    refine ⟨numbered.distinct, numbered.numbered, numbered.loading, numbered.sized, ?_, fun _ => rfl⟩
    intro request data found
    simp [onView, View.clear] at found
  exact cleared.keep rfl (keeps page.view)

theorem numbered_fetchListing (numbered : Numbered page) (afterOperation : Bool) :
    Numbered (fetchListing page afterOperation) := by
  unfold fetchListing
  split
  next instanceId databaseName _ _ =>
    let request : ListRequest :=
      ⟨instanceId, databaseName, page.view.page, page.view.pageSize, page.view.requestSeq + 1⟩
    have requests : ∀ change : View Item → View Item,
        awaited (send (onView page change) (.listing request afterOperation)) =
          awaited page ++ [request] := fun _ => awaited_send_listing request afterOperation
    have older : ∀ other ∈ awaited page, other.requestSeq ≠ page.view.requestSeq + 1 := by
      intro other member same
      have bounded := numbered.numbered other member
      omega
    refine ⟨?_, ?_, ?_, ?_, ?_, numbered.empty⟩
    · rw [requests, List.map_append, List.nodup_append]
      refine ⟨numbered.distinct, by simp, ?_⟩
      intro seq member new single
      obtain ⟨other, inside, rfl⟩ := List.mem_map.mp member
      obtain rfl : new = page.view.requestSeq + 1 := by simpa [request] using single
      exact older other inside
    · rw [requests]
      intro other member
      rcases List.mem_append.mp member with old | new
      · exact (numbered.numbered other old).trans (Nat.le_succ _)
      · rw [List.mem_singleton.mp new]
        exact le_rfl
    · rw [requests]
      exact iff_of_true rfl ⟨request, by simp, rfl⟩
    · rw [requests]
      intro other member live
      rcases List.mem_append.mp member with old | new
      · exact absurd live (older other old)
      · rw [List.mem_singleton.mp new]
        rfl
    · intro other data found
      exact ⟨(numbered.answered other data found).1, fun idle => by simp [send, onView] at idle⟩
  next => exact numbered.keep rfl (keeps_endOperation _ _)

theorem sound_fetchListing (sound : Sound page) (watched : Watched page) (afterOperation : Bool) :
    Sound (fetchListing page afterOperation) := by
  refine ⟨numbered_fetchListing sound.toNumbered afterOperation, ?_⟩
  unfold fetchListing
  split
  next instanceId databaseName current selected =>
    refine ⟨?_, sound.shown⟩
    intro request member live
    rw [awaited_send_listing] at member
    rcases List.mem_append.mp member with old | new
    · have bounded := sound.numbered request old
      have same : request.requestSeq = page.view.requestSeq + 1 := live
      omega
    · rw [List.mem_singleton.mp new]
      intro watchedInstance watchedDatabase onInstance onDatabase _
      have here : page.watchedInstance = some watchedInstance := onInstance
      have chosen : page.watchedDatabase = some watchedDatabase := onDatabase
      rw [watched.onInstance, current] at here
      rw [watched.onDatabase] at chosen
      obtain ⟨kept, -⟩ := Option.filter_eq_some_iff.mp selected
      exact ⟨Option.some.inj here, Option.some.inj (kept.symm.trans chosen)⟩
  next =>
    have kept : Sound (onView page (endOperation afterOperation)) :=
      sound.keep rfl (keeps_endOperation _ _) rfl rfl
    exact kept.toFollowed

theorem sound_listingArrives (sound : Sound page) {number : Nat} {request : ListRequest}
    {afterOperation : Bool} (found : page.requests[number]? = some (.listing request afterOperation))
    (data : Except Failure (IndexListOut Item)) :
    Sound (listingArrives kind (answered page number) request afterOperation data) := by
  have perm : (awaited page).Perm (request :: awaited (answered page number)) :=
    awaited_answered_perm found
  have asked : request ∈ awaited page := perm.mem_iff.mpr List.mem_cons_self
  have rest : ∀ other ∈ awaited (answered page number), other ∈ awaited page :=
    fun other member => perm.mem_iff.mpr (List.mem_cons_of_mem request member)
  have distinct := (perm.map (·.requestSeq)).nodup_iff.mp sound.distinct
  rw [List.map_cons, List.nodup_cons] at distinct
  have apart : ∀ other ∈ awaited (answered page number), other.requestSeq ≠ request.requestSeq :=
    fun other member same => distinct.1 (List.mem_map.mpr ⟨other, member, same⟩)
  by_cases late : request.requestSeq = page.view.requestSeq
  · have followed := sound.asked request asked late
    have nothing : ∀ other ∈ awaited (answered page number),
        other.requestSeq ≠ page.view.requestSeq := late ▸ apart
    have idle : ¬ ∃ other ∈ awaited (answered page number),
        other.requestSeq = page.view.requestSeq := by
      rintro ⟨other, member, same⟩
      exact nothing other member same
    suffices received : Sound (onView (answered page number) (receiveListing kind request data)) from
      received.keep rfl (keeps_endOperation _ _) rfl rfl
    cases data with
    | ok data =>
        have filled : receiveListing kind request (.ok data) (answered page number).view =
            { page.view with
              listing := .ofAnswer data page.view.pageSize
              source := some (request, data)
              page := data.page
              pageSize := data.pageSize
              listingLoading := false } := if_neg fun no => no late
        have sized := sound.sized request asked late
        rw [onView, filled]
        refine ⟨⟨distinct.2, fun other member => sound.numbered other (rest other member),
          iff_of_false Bool.false_ne_true idle,
          fun other member live => absurd live (nothing other member), ?_, by simp⟩,
          fun other member live => absurd live (nothing other member), ?_⟩
        · intro other shown source
          obtain ⟨rfl, rfl⟩ := Prod.mk.inj (Option.some.inj source)
          exact ⟨by rw [sized], fun _ => late⟩
        · intro other shown source
          obtain ⟨rfl, rfl⟩ := Prod.mk.inj (Option.some.inj source)
          exact followed
    | error failure =>
        have filled : receiveListing kind request (.error failure) (answered page number).view =
            { page.view with
              listing := .failed (requestMessage failure kind.loadError)
              source := none
              error := requestMessage failure kind.loadError
              listingLoading := false } := if_neg fun no => no late
        rw [onView, filled]
        exact ⟨⟨distinct.2, fun other member => sound.numbered other (rest other member),
          iff_of_false Bool.false_ne_true idle,
          fun other member live => absurd live (nothing other member), by simp, fun _ => rfl⟩,
          fun other member live => absurd live (nothing other member), by simp⟩
  · have loading : (∃ other ∈ awaited page, other.requestSeq = page.view.requestSeq) ↔
        ∃ other ∈ awaited (answered page number), other.requestSeq = page.view.requestSeq := by
      constructor
      · rintro ⟨other, member, same⟩
        rcases List.mem_cons.mp (perm.mem_iff.mp member) with rfl | inside
        · exact absurd same late
        · exact ⟨other, inside, same⟩
      · rintro ⟨other, member, same⟩
        exact ⟨other, rest other member, same⟩
    have left : Sound (answered page number) :=
      ⟨⟨distinct.2, fun other member => sound.numbered other (rest other member),
        sound.loading.trans loading, fun other member => sound.sized other (rest other member),
        sound.answered, sound.empty⟩,
        fun other member => sound.asked other (rest other member), sound.shown⟩
    have passed : receiveListing kind request data (answered page number).view = page.view :=
      if_pos late
    refine left.keep rfl ?_ rfl rfl
    simp only [listingArrives, onView, passed]
    exact keeps_endOperation afterOperation _

theorem sound_refreshListing (sound : Sound page) (watched : Watched page) (afterOperation : Bool) :
    Sound (refreshListing page afterOperation) := by
  have first : Sound (onView page fun view => { view with page := 1 }) :=
    sound.keep rfl ⟨rfl, rfl, rfl, rfl, rfl⟩ rfl rfl
  exact sound_fetchListing first ⟨watched.onInstance, watched.onDatabase⟩ afterOperation

theorem sound_fetchDatabases (sound : Sound page) : Sound (fetchDatabases page) := by
  have cleared : Sound (onView page fun view =>
      { view.clear with databases := [], selectedDatabase := none }) := by
    refine ⟨numbered_clear sound.toNumbered _ fun _ => ⟨rfl, rfl, rfl, rfl, rfl⟩, sound.asked, ?_⟩
    intro request data found
    simp [onView, View.clear] at found
  unfold fetchDatabases
  split
  next => exact cleared
  next => exact cleared.keep (awaited_send rfl) ⟨rfl, rfl, rfl, rfl, rfl⟩ rfl rfl

theorem sound_operationAnswered (sound : Sound page) (watched : Watched page)
    (reply : OperationReply) : Sound (operationAnswered kind page reply) := by
  have kept : ∀ text, Sound (notify page text) :=
    fun text => sound.keep rfl (keeps_refl _) rfl rfl
  have closed : ∀ text, Sound (closeDialog (notify page text)) :=
    fun text => (kept text).keep rfl ⟨rfl, rfl, rfl, rfl, rfl⟩ rfl rfl
  cases reply with
  | success onlineUsed =>
      exact sound_refreshListing (closed _) ⟨watched.onInstance, watched.onDatabase⟩ true
  | running auditId =>
      exact (closed kind.operationRunning).keep (awaited_send rfl) (keeps_endOperation _ _) rfl rfl
  | unsuccessful errorMessage => exact (kept _).keep rfl (keeps_endOperation _ _) rfl rfl
  | failed failure => exact (kept _).keep rfl (keeps_endOperation _ _) rfl rfl

theorem sound_auditAnswered (sound : Sound page) (watched : Watched page) (auditId : Uuid)
    (attempt : Nat) (reply : AuditReply) :
    Sound (auditAnswered kind page auditId attempt reply) := by
  have kept : ∀ text, Sound (notify page text) :=
    fun text => sound.keep rfl (keeps_refl _) rfl rfl
  cases reply with
  | running =>
      by_cases more : attempt + 1 < auditPollAttempts
      · have again : auditAnswered kind page auditId attempt .running =
            send page (.delay auditId (attempt + 1)) := if_pos more
        rw [again]
        exact sound.keep (awaited_send rfl) (keeps_refl _) rfl rfl
      · have ended : auditAnswered kind page auditId attempt .running =
            notify page kind.stillRunning := if_neg more
        rw [ended]
        exact kept _
  | success => exact sound_refreshListing (kept _) ⟨watched.onInstance, watched.onDatabase⟩ false
  | unsuccessful errorMessage => exact kept _
  | failed => exact sound

end Handlers

section Watchers

variable {Item : Type} {page : Page Item}

theorem watched_fetchListing (watched : Watched page) (afterOperation : Bool) :
    Watched (fetchListing page afterOperation) := by
  unfold fetchListing
  split
  next => exact ⟨watched.onInstance, watched.onDatabase⟩
  next => exact ⟨watched.onInstance, watched.onDatabase⟩

theorem fetchDatabases_selects (page : Page Item) :
    (fetchDatabases page).view.selectedDatabase = none ∧
      (fetchDatabases page).watchedInstance = page.watchedInstance ∧
      (fetchDatabases page).store = page.store := by
  unfold fetchDatabases
  split
  next => exact ⟨rfl, rfl, rfl⟩
  next => exact ⟨rfl, rfl, rfl⟩

theorem sound_watchDatabase (numbered : Numbered page)
    (onInstance : page.watchedInstance = page.store.currentInstance)
    (followed : page.view.selectedDatabase = page.watchedDatabase → Followed page) :
    Sound (watchDatabase page) ∧ Watched (watchDatabase page) := by
  unfold watchDatabase
  split
  next same => exact ⟨⟨numbered, followed same⟩, onInstance, same.symm⟩
  next =>
    let emptied : Page Item :=
      { page with watchedDatabase := page.view.selectedDatabase, view := page.view.clear }
    have watched : Watched emptied := ⟨onInstance, rfl⟩
    have cleared : Numbered emptied :=
      (numbered_clear numbered View.clear fun view => keeps_refl _).keep rfl (keeps_refl _)
    refine ⟨⟨numbered_fetchListing cleared false, ?_⟩, watched_fetchListing watched false⟩
    unfold fetchListing
    split
    next instanceId databaseName current selected =>
      refine ⟨?_, fun request data found => by simp [send, onView, View.clear] at found⟩
      intro request member live
      rw [awaited_send_listing] at member
      rcases List.mem_append.mp member with old | new
      · have bounded := numbered.numbered request old
        have same : request.requestSeq = page.view.requestSeq + 1 := live
        omega
      · rw [List.mem_singleton.mp new]
        intro watchedInstance watchedDatabase here chosen _
        have here : page.watchedInstance = some watchedInstance := here
        have current : page.store.currentInstance = some instanceId := current
        obtain ⟨kept, -⟩ := Option.filter_eq_some_iff.mp selected
        rw [onInstance, current] at here
        exact ⟨Option.some.inj here, Option.some.inj (kept.symm.trans chosen)⟩
    next nothing =>
      -- Without an instance or a database no request is for what the watchers saw.
      have apart : ∀ request, ForWatched emptied request := by
        intro request instanceId databaseName here chosen nonempty
        have current : page.store.currentInstance = some instanceId := onInstance.symm.trans here
        have selected : page.view.selectedDatabase.filter (· ≠ "") = some databaseName :=
          Option.filter_eq_some_iff.mpr ⟨chosen, decide_eq_true nonempty⟩
        exact absurd selected (nothing instanceId databaseName current)
      exact ⟨fun request _ _ => apart request, fun request _ _ => apart request⟩

theorem sound_watchers (sound : Sound page) :
    Sound (watchDatabase (watchInstance page)) ∧ Watched (watchDatabase (watchInstance page)) := by
  unfold watchInstance
  split
  next same => exact sound_watchDatabase sound.toNumbered same.symm fun _ => sound.toFollowed
  next =>
    let noticed : Page Item := { page with watchedInstance := page.store.currentInstance }
    obtain ⟨selected, here, store⟩ := fetchDatabases_selects noticed
    have numbered : Numbered (fetchDatabases noticed) := by
      have cleared := @numbered_clear _ noticed (sound.toNumbered.keep rfl (keeps_refl _))
        (fun view => { view.clear with databases := [], selectedDatabase := none })
        fun _ => ⟨rfl, rfl, rfl, rfl, rfl⟩
      unfold fetchDatabases
      split
      next => exact cleared
      next => exact cleared.keep (awaited_send rfl) ⟨rfl, rfl, rfl, rfl, rfl⟩
    exact sound_watchDatabase numbered (by rw [here, store]) fun same =>
      followed_of_none (same.symm.trans selected)

end Watchers

section Steps

variable {Item : Type} [DecidableEq Item] {kind : ViewKind Item} {page next : Page Item}

theorem sound_handle {action : Action Item} (sound : Sound page) (watched : Watched page)
    (handled : handle kind page action = some next) : Sound next := by
  have without : ∀ {number : Nat} {awaiting : Awaiting},
      page.requests[number]? = some awaiting → awaiting.listing? = none →
        Sound (answered page number) :=
    fun found other => sound.keep (awaited_answered found other) (keeps_refl _) rfl rfl
  cases action with
  | selectInstance instanceId =>
      obtain rfl := Option.some.inj handled
      exact sound.keep rfl (keeps_refl _) rfl rfl
  | loadInstances =>
      obtain rfl := Option.some.inj handled
      exact sound.keep (awaited_send rfl) (keeps_refl _) rfl rfl
  | instances number data =>
      simp only [handle] at handled
      split at handled
      next mount found =>
        have left := without found rfl
        cases data with
        | none =>
            obtain rfl := Option.some.inj handled
            exact left
        | some items =>
            have loaded : Sound
                { answered page number with store := page.store.fetched items } :=
              left.keep rfl (keeps_refl _) rfl rfl
            obtain rfl := Option.some.inj handled
            cases mount with
            | true => exact sound_fetchDatabases loaded
            | false => exact loaded
      next => simp at handled
  | databases number data =>
      simp only [handle] at handled
      split at handled
      next found =>
        obtain rfl := Option.some.inj handled
        refine (without found rfl).keep rfl ?_ rfl rfl
        cases data <;> exact ⟨rfl, rfl, rfl, rfl, rfl⟩
      next => simp at handled
  | selectDatabase databaseName =>
      obtain ⟨-, rfl⟩ := of_guarded handled
      exact sound.keep rfl ⟨rfl, rfl, rfl, rfl, rfl⟩ rfl rfl
  | listing number data =>
      simp only [handle] at handled
      split at handled
      next found =>
        obtain rfl := Option.some.inj handled
        exact sound_listingArrives sound found data
      next => simp at handled
  | refresh =>
      obtain ⟨-, same⟩ := Option.ite_none_left_eq_some.mp handled
      obtain rfl := Option.some.inj same
      exact sound_refreshListing sound watched false
  | setPage number =>
      obtain ⟨-, same⟩ := Option.ite_none_left_eq_some.mp handled
      obtain rfl := Option.some.inj same
      have moved : Sound (onView page fun view => { view with page := number }) :=
        sound.keep rfl ⟨rfl, rfl, rfl, rfl, rfl⟩ rfl rfl
      exact sound_fetchListing moved ⟨watched.onInstance, watched.onDatabase⟩ false
  | setPageSize pageSize =>
      obtain ⟨allowed, same⟩ := Option.ite_none_left_eq_some.mp handled
      obtain rfl := Option.some.inj same
      -- With nothing awaited, no answer is cut at another size than it was asked for.
      have idle : ¬ ∃ request ∈ awaited page, request.requestSeq = page.view.requestSeq :=
        fun live => allowed (Or.inr (sound.loading.mpr live))
      have sized : Sound (onView page fun view => { view with pageSize, page := 1 }) :=
        ⟨⟨sound.distinct, sound.numbered, sound.loading,
          fun request member live => absurd ⟨request, member, live⟩ idle, sound.answered,
          sound.empty⟩, sound.asked, sound.shown⟩
      exact sound_fetchListing sized ⟨watched.onInstance, watched.onDatabase⟩ false
  | openDialog row =>
      obtain ⟨-, rfl⟩ := of_guarded handled
      exact sound.keep rfl ⟨rfl, rfl, rfl, rfl, rfl⟩ rfl rfl
  | close =>
      obtain rfl := Option.some.inj handled
      exact sound.keep rfl ⟨rfl, rfl, rfl, rfl, rfl⟩ rfl rfl
  | confirm indexName =>
      obtain ⟨-, rfl⟩ := of_guarded handled
      unfold execute
      split
      next =>
        split
        next => exact sound.keep (awaited_send rfl) ⟨rfl, rfl, rfl, rfl, rfl⟩ rfl rfl
        next => exact sound
      next => exact sound
  | operation number reply =>
      simp only [handle] at handled
      split at handled
      next found =>
        obtain rfl := Option.some.inj handled
        exact sound_operationAnswered (without found rfl) ⟨watched.onInstance, watched.onDatabase⟩ reply
      next => simp at handled
  | delay number =>
      simp only [handle] at handled
      split at handled
      next found =>
        obtain rfl := Option.some.inj handled
        exact (without found rfl).keep (awaited_send rfl) (keeps_refl _) rfl rfl
      next => simp at handled
  | audit number reply =>
      simp only [handle] at handled
      split at handled
      next auditId attempt found =>
        obtain rfl := Option.some.inj handled
        exact sound_auditAnswered (without found rfl) ⟨watched.onInstance, watched.onDatabase⟩
          auditId attempt reply
      next => simp at handled

theorem sound_step {action : Action Item} (sound : Sound page) (watched : Watched page)
    (stepped : step kind page action = some next) : Sound next ∧ Watched next := by
  obtain ⟨after, handled, rfl⟩ := Option.map_eq_some_iff.mp stepped
  exact sound_watchers (sound_handle sound watched handled)

omit [DecidableEq Item] in
theorem sound_mounted (store : InstancesStore) :
    Sound (mounted store : Page Item) ∧ Watched (mounted store : Page Item) := by
  have none : awaited (mounted store : Page Item) = [] := rfl
  refine ⟨⟨⟨?_, ?_, ?_, ?_, ?_, fun _ => rfl⟩, followed_of_none rfl⟩, rfl, rfl⟩
  · simp [none]
  · simp [none]
  · rw [none]
    simp [mounted, freshView]
  · simp [none]
  · simp [mounted, freshView]

theorem sound_run {store : InstancesStore} {actions : List (Action Item)}
    (ran : run (step kind) (mounted store) actions = some page) : Sound page ∧ Watched page :=
  run_invariant (I := fun page => Sound page ∧ Watched page)
    (fun _ _ _ kept stepped => sound_step kept.1 kept.2 stepped) (sound_mounted store) ran

omit [DecidableEq Item] in
theorem rows_of_onScreen {view : View Item} {row : Item} (shown : row ∈ view.onScreen) :
    row ∈ view.listing.rows ∧ ∃ databaseName, view.selectedDatabase = some databaseName ∧
      databaseName ≠ "" := by
  unfold View.onScreen at shown
  split at shown
  next => simp at shown
  next visible =>
    refine ⟨shown, ?_⟩
    cases selected : view.selectedDatabase.filter (· ≠ "") with
    | none => exact absurd (Or.inr (Or.inr (Or.inr selected))) visible
    | some databaseName =>
        obtain ⟨kept, nonempty⟩ := Option.filter_eq_some_iff.mp selected
        exact ⟨databaseName, kept, of_decide_eq_true nonempty⟩

end Steps

theorem table_answers_selection {Item : Type} [DecidableEq Item] (kind : ViewKind Item)
    (store : InstancesStore) (actions : List (Action Item)) (page : Page Item)
    (ran : run (step kind) (mounted store) actions = some page) :
    (page.view.listingLoading = true ↔
      ∃ request ∈ awaited page, request.requestSeq = page.view.requestSeq) ∧
    ∀ instanceId, page.store.currentInstance = some instanceId → page.view.onScreen ≠ [] →
      ∃ request data, page.view.source = some (request, data) ∧
        page.view.listing = .ofAnswer data request.pageSize ∧
        request.instanceId = instanceId ∧
        page.view.selectedDatabase = some request.databaseName ∧
        (page.view.listingLoading = false → request.requestSeq = page.view.requestSeq) := by
  obtain ⟨sound, watched⟩ := sound_run ran
  refine ⟨sound.loading, ?_⟩
  intro instanceId current visible
  obtain ⟨row, shown⟩ := List.exists_mem_of_ne_nil _ visible
  obtain ⟨listed, databaseName, selected, nonempty⟩ := rows_of_onScreen shown
  cases filled : page.view.source with
  | none =>
      rw [sound.empty filled] at listed
      simp at listed
  | some source =>
      obtain ⟨request, data⟩ := source
      obtain ⟨whole, last⟩ := sound.answered request data filled
      obtain ⟨own, named⟩ := sound.shown request data filled instanceId databaseName
        (watched.onInstance.trans current) (watched.onDatabase.trans selected) nonempty
      exact ⟨request, data, rfl, whole, own, named ▸ selected, last⟩

def ordersIndex (databaseName : String) : IndexFragmentationItem where
  databaseName := databaseName
  schemaName := "dbo"
  tableName := "orders"
  indexName := "ix_orders"
  indexType := "NONCLUSTERED"
  partitionNumber := 1
  avgFragmentationInPercent := 40
  pageCount := 2000
  recommendedAction := .rebuild
  actionEnabled := true
  onlineRebuildSupported := false
  errorMessage := none

def fragmentationAnswer (databaseName : String) : IndexListOut IndexFragmentationItem where
  items := [ordersIndex databaseName]
  total := 1
  checkedAt := some 0
  collectionStatus := .success
  collectionError := none
  stale := false
  onlineRebuildSupported := false
  page := 1
  pageSize := 20

def leftDatabase : List (Action IndexFragmentationItem) :=
  [.instances 0 (some [7, 8]), .databases 0 (.ok ["sales", "stock"]),
    .databases 0 (.ok ["sales", "stock"]), .selectDatabase "stock",
    .listing 1 (.ok (fragmentationAnswer "stock")), .listing 0 (.ok (fragmentationAnswer "sales"))]

theorem table_answers_selection_leftDatabase :
    ∃ page request data, run (step indexFragmentationView) (mounted ⟨[], none⟩) leftDatabase =
        some page ∧
      page.view.onScreen = [ordersIndex "stock"] ∧ page.view.source = some (request, data) ∧
      request.instanceId = 7 ∧ page.view.selectedDatabase = some request.databaseName := by
  have ends : (run (step indexFragmentationView) (mounted ⟨[], none⟩) leftDatabase).map
      (fun page => (page.store.currentInstance, page.view.onScreen)) =
        some (some 7, [ordersIndex "stock"]) := by
    decide +kernel
  obtain ⟨page, ran, same⟩ := Option.map_eq_some_iff.mp ends
  obtain ⟨current, visible⟩ := Prod.mk.inj same
  obtain ⟨-, shows⟩ := table_answers_selection indexFragmentationView ⟨[], none⟩ leftDatabase page ran
  obtain ⟨request, data, filled, -, own, named, -⟩ := shows 7 current (by simp [visible])
  exact ⟨page, request, data, ran, visible, filled, own, named⟩

end SqlMonitor.Frontend.IndexViews
