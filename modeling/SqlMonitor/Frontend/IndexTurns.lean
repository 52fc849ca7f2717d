import SqlMonitor.Frontend.IndexScreens

set_option autoImplicit false

namespace SqlMonitor.Frontend.IndexViews

open Services TransitionSystem

section Accounts

variable {Item : Type}

def Awaiting.underway : Awaiting → Bool
  | .operation => true
  | .listing _ afterOperation => afterOperation
  | _ => false

def underway (page : Page Item) : Nat := page.requests.countP Awaiting.underway

/-- What is awaited and, in the middle of a step, what is still owed make up the mark. -/
def Accounted (page : Page Item) (owed : Bool) : Prop :=
  underway page + owed.toNat = page.view.operationLoading.toNat

variable {kind : ViewKind Item} {page next : Page Item} {owed : Bool}

theorem Accounted.keep (accounted : Accounted page owed) (requests : next.requests = page.requests)
    (loading : next.view.operationLoading = page.view.operationLoading) : Accounted next owed := by
  rw [Accounted, underway, requests, loading]
  exact accounted

theorem underway_send (awaiting : Awaiting) :
    underway (send page awaiting) = underway page + awaiting.underway.toNat := by
  rw [underway, send, List.countP_append, List.countP_singleton, underway]
  cases awaiting.underway <;> rfl

theorem Accounted.send {awaiting : Awaiting} (accounted : Accounted page awaiting.underway) :
    Accounted (send page awaiting) false := by
  rw [Accounted, underway_send]
  exact accounted

theorem underway_answered {number : Nat} {awaiting : Awaiting}
    (found : page.requests[number]? = some awaiting) :
    underway (answered page number) + awaiting.underway.toNat = underway page := by
  obtain ⟨inside, rfl⟩ := List.getElem?_eq_some_iff.mp found
  have perm := List.getElem_cons_eraseIdx_perm inside
  rw [underway, underway, ← perm.countP_eq, List.countP_cons, answered]
  cases (page.requests[number]).underway <;> rfl

theorem Accounted.answered {number : Nat} {awaiting : Awaiting} (accounted : Accounted page false)
    (found : page.requests[number]? = some awaiting) :
    Accounted (answered page number) awaiting.underway := by
  rw [Accounted, underway_answered found]
  exact accounted

theorem Accounted.endOperation (accounted : Accounted page owed) :
    Accounted (onView page (endOperation owed)) false := by
  have before : underway page + owed.toNat = page.view.operationLoading.toNat := accounted
  have at_most_one := Bool.toNat_le page.view.operationLoading
  cases owed with
  | false => simpa [Accounted, underway, onView, IndexViews.endOperation] using before
  | true =>
      have nothing : underway page = 0 := by
        simp only [Bool.toNat_true] at before
        omega
      simpa [Accounted, underway, onView, IndexViews.endOperation] using nothing

theorem Accounted.fetchListing (accounted : Accounted page owed) :
    Accounted (fetchListing page owed) false := by
  unfold IndexViews.fetchListing
  split
  next =>
    refine Accounted.send ?_
    exact accounted.keep rfl rfl
  next => exact accounted.endOperation

theorem Accounted.refreshListing (accounted : Accounted page owed) :
    Accounted (refreshListing page owed) false := by
  refine Accounted.fetchListing ?_
  exact accounted.keep rfl rfl

theorem Accounted.fetchDatabases (accounted : Accounted page false) :
    Accounted (fetchDatabases page) false := by
  unfold IndexViews.fetchDatabases
  split
  next => exact accounted.keep rfl rfl
  next =>
    refine Accounted.send ?_
    exact accounted.keep rfl rfl

theorem Accounted.listingArrives {request : ListRequest} (accounted : Accounted page owed)
    (data : Except Failure (IndexListOut Item)) :
    Accounted (listingArrives kind page request owed data) false := by
  have received : Accounted (onView page (receiveListing kind request data)) owed := by
    refine accounted.keep rfl ?_
    simp only [onView, receiveListing]
    split
    next => rfl
    next => cases data <;> rfl
  exact received.endOperation

theorem Accounted.operationAnswered (accounted : Accounted page true) (reply : OperationReply) :
    Accounted (operationAnswered kind page reply) false := by
  have told : ∀ text, Accounted (notify page text) true := fun _ => accounted.keep rfl rfl
  cases reply with
  | success onlineUsed =>
      refine Accounted.refreshListing ?_
      exact (told _).keep rfl rfl
  | running auditId =>
      have closed : Accounted (closeDialog (notify page kind.operationRunning)) true :=
        (told _).keep rfl rfl
      exact Accounted.send closed.endOperation
  | unsuccessful errorMessage => exact (told _).endOperation
  | failed failure => exact (told _).endOperation

theorem Accounted.auditAnswered (accounted : Accounted page false) (auditId : Uuid) (attempt : Nat)
    (reply : AuditReply) : Accounted (auditAnswered kind page auditId attempt reply) false := by
  cases reply with
  | running =>
      simp only [IndexViews.auditAnswered]
      split
      next => exact Accounted.send accounted
      next => exact accounted.keep rfl rfl
  | success =>
      refine Accounted.refreshListing ?_
      exact accounted.keep rfl rfl
  | unsuccessful errorMessage => exact accounted.keep rfl rfl
  | failed => exact accounted

theorem Accounted.watchers (accounted : Accounted page false) :
    Accounted (watchDatabase (watchInstance page)) false := by
  have first : Accounted (watchInstance page) false := by
    unfold watchInstance
    split
    next => exact accounted
    next =>
      refine Accounted.fetchDatabases ?_
      exact accounted.keep rfl rfl
  unfold watchDatabase
  split
  next => exact first
  next =>
    refine Accounted.fetchListing ?_
    exact first.keep rfl rfl

theorem Accounted.execute (accounted : Accounted page false)
    (idle : page.view.operationLoading = false) (indexName : String) :
    Accounted (execute kind page indexName) false := by
  unfold IndexViews.execute
  split
  next =>
    split
    next =>
      refine Accounted.send ?_
      have nothing : underway page = false.toNat := idle ▸ accounted
      exact congrArg (· + 1) nothing
    next => exact accounted
  next => exact accounted

end Accounts

section Steps

variable {Item : Type} [DecidableEq Item] {kind : ViewKind Item} {page next : Page Item}

theorem accounted_handle {action : Action Item} (accounted : Accounted page false)
    (handled : handle kind page action = some next) : Accounted next false := by
  cases action with
  | selectInstance instanceId =>
      obtain rfl := Option.some.inj handled
      exact accounted.keep rfl rfl
  | loadInstances =>
      obtain rfl := Option.some.inj handled
      exact Accounted.send accounted
  | instances number data =>
      simp only [handle] at handled
      split at handled
      next mount found =>
        have left : Accounted (answered page number) false := accounted.answered found
        cases data with
        | none =>
            obtain rfl := Option.some.inj handled
            exact left
        | some items =>
            obtain rfl := Option.some.inj handled
            have loaded : Accounted
                { answered page number with store := page.store.fetched items } false :=
              left.keep rfl rfl
            cases mount with
            | true => exact loaded.fetchDatabases
            | false => exact loaded
      next => simp at handled
  | databases number data =>
      simp only [handle] at handled
      split at handled
      next found =>
        obtain rfl := Option.some.inj handled
        have left : Accounted (answered page number) false := accounted.answered found
        cases data <;> exact left.keep rfl rfl
      next => simp at handled
  | selectDatabase databaseName =>
      obtain ⟨-, rfl⟩ := of_guarded handled
      exact accounted.keep rfl rfl
  | listing number data =>
      simp only [handle] at handled
      split at handled
      next asked afterOperation found =>
        obtain rfl := Option.some.inj handled
        exact (accounted.answered found).listingArrives data
      next => simp at handled
  | refresh =>
      obtain ⟨-, same⟩ := Option.ite_none_left_eq_some.mp handled
      obtain rfl := Option.some.inj same
      exact accounted.refreshListing
  | setPage number =>
      obtain ⟨-, same⟩ := Option.ite_none_left_eq_some.mp handled
      obtain rfl := Option.some.inj same
      refine Accounted.fetchListing ?_
      exact accounted.keep rfl rfl
  | setPageSize pageSize =>
      obtain ⟨-, same⟩ := Option.ite_none_left_eq_some.mp handled
      obtain rfl := Option.some.inj same
      refine Accounted.fetchListing ?_
      exact accounted.keep rfl rfl
  | openDialog row =>
      obtain ⟨-, rfl⟩ := of_guarded handled
      exact accounted.keep rfl rfl
  | close =>
      obtain rfl := Option.some.inj handled
      exact accounted.keep rfl rfl
  | confirm indexName =>
      obtain ⟨⟨-, idle⟩, rfl⟩ := of_guarded handled
      exact accounted.execute idle indexName
  | operation number reply =>
      simp only [handle] at handled
      split at handled
      next found =>
        obtain rfl := Option.some.inj handled
        exact (accounted.answered found).operationAnswered reply
      next => simp at handled
  | delay number =>
      simp only [handle] at handled
      split at handled
      next auditId attempt found =>
        obtain rfl := Option.some.inj handled
        have left : Accounted (answered page number) false := accounted.answered found
        exact Accounted.send left
      next => simp at handled
  | audit number reply =>
      simp only [handle] at handled
      split at handled
      next auditId attempt found =>
        obtain rfl := Option.some.inj handled
        exact (accounted.answered found).auditAnswered auditId attempt reply
      next => simp at handled

theorem accounted_step {action : Action Item} (accounted : Accounted page false)
    (stepped : step kind page action = some next) : Accounted next false := by
  obtain ⟨after, handled, rfl⟩ := Option.map_eq_some_iff.mp stepped
  exact (accounted_handle accounted handled).watchers

end Steps

theorem operations_one_at_a_time {Item : Type} [DecidableEq Item] (kind : ViewKind Item)
    (store : InstancesStore) (actions : List (Action Item)) (page : Page Item)
    (ran : run (step kind) (mounted store) actions = some page) :
    page.requests.countP Awaiting.underway ≤ 1 ∧
      (page.view.operationLoading = true ↔
        ∃ awaiting ∈ page.requests, awaiting.underway = true) := by
  have initial : Accounted (mounted store : Page Item) false := rfl
  have accounted : page.requests.countP Awaiting.underway = page.view.operationLoading.toNat :=
    run_invariant (I := fun page => Accounted page false)
      (fun _ _ _ accounted stepped => accounted_step accounted stepped) initial ran
  rw [← List.countP_pos_iff, accounted]
  refine ⟨Bool.toNat_le _, ?_⟩
  cases page.view.operationLoading <;> decide

def rereadListing : List (Action IndexFragmentationItem) :=
  leftDatabase ++ [.openDialog (ordersIndex "stock"), .confirm "", .operation 0 (.success false)]

theorem operations_one_at_a_time_rereadListing :
    ∃ page, run (step indexFragmentationView) (mounted ⟨[], none⟩) rereadListing = some page ∧
      page.view.dialogVisible = false ∧ page.view.operationLoading = true := by
  have ends : (run (step indexFragmentationView) (mounted ⟨[], none⟩) rereadListing).map
      (fun page => (page.view.dialogVisible, page.requests)) =
        some (false, [.listing ⟨7, "stock", 1, 20, 3⟩ true]) := by
    decide +kernel
  obtain ⟨page, ran, same⟩ := Option.map_eq_some_iff.mp ends
  obtain ⟨closed, awaited⟩ := Prod.mk.inj same
  obtain ⟨-, held⟩ :=
    operations_one_at_a_time indexFragmentationView ⟨[], none⟩ rereadListing page ran
  exact ⟨page, ran, closed, held.mpr (by simp [awaited, Awaiting.underway])⟩

end SqlMonitor.Frontend.IndexViews
