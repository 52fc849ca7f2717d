import SqlMonitor.Frontend.IndexScreens

set_option autoImplicit false

namespace SqlMonitor.Frontend.IndexViews

open Services TransitionSystem

section Dialog

variable {Item : Type}

structure Quiet (page next : Page Item) : Prop where
  target : next.view.target = page.view.target
  openedFrom : next.view.openedFrom = page.view.openedFrom
  posts : next.posts = page.posts

variable {kind : ViewKind Item} {page middle next : Page Item}

theorem Quiet.refl (page : Page Item) : Quiet page page := ⟨rfl, rfl, rfl⟩

theorem Quiet.trans (first : Quiet page middle) (second : Quiet middle next) : Quiet page next :=
  ⟨second.target.trans first.target, second.openedFrom.trans first.openedFrom,
    second.posts.trans first.posts⟩

theorem Quiet.fetchListing (quiet : Quiet page middle) (afterOperation : Bool) :
    Quiet page (fetchListing middle afterOperation) := by
  refine quiet.trans ?_
  unfold IndexViews.fetchListing
  split
  next => exact ⟨rfl, rfl, rfl⟩
  next => exact ⟨rfl, rfl, rfl⟩

theorem Quiet.refreshListing (quiet : Quiet page middle) (afterOperation : Bool) :
    Quiet page (refreshListing middle afterOperation) := by
  refine Quiet.fetchListing ?_ afterOperation
  exact ⟨quiet.target, quiet.openedFrom, quiet.posts⟩

theorem Quiet.fetchDatabases (quiet : Quiet page middle) : Quiet page (fetchDatabases middle) := by
  refine quiet.trans ?_
  unfold IndexViews.fetchDatabases
  split
  next => exact ⟨rfl, rfl, rfl⟩
  next => exact ⟨rfl, rfl, rfl⟩

theorem quiet_listingArrives (page : Page Item) (request : ListRequest) (afterOperation : Bool)
    (data : Except Failure (IndexListOut Item)) :
    Quiet page (listingArrives kind page request afterOperation data) := by
  have kept : (receiveListing kind request data page.view).target = page.view.target ∧
      (receiveListing kind request data page.view).openedFrom = page.view.openedFrom := by
    unfold receiveListing
    split
    next => exact ⟨rfl, rfl⟩
    next => cases data <;> exact ⟨rfl, rfl⟩
  exact ⟨kept.1, kept.2, rfl⟩

theorem quiet_operationAnswered (page : Page Item) (reply : OperationReply) :
    Quiet page (operationAnswered kind page reply) := by
  cases reply with
  | success onlineUsed =>
      refine Quiet.refreshListing ?_ true
      exact ⟨rfl, rfl, rfl⟩
  | running auditId => exact ⟨rfl, rfl, rfl⟩
  | unsuccessful errorMessage => exact ⟨rfl, rfl, rfl⟩
  | failed failure => exact ⟨rfl, rfl, rfl⟩

theorem quiet_auditAnswered (page : Page Item) (auditId : Uuid) (attempt : Nat)
    (reply : AuditReply) : Quiet page (auditAnswered kind page auditId attempt reply) := by
  cases reply with
  | running =>
      unfold auditAnswered
      by_cases more : attempt + 1 < auditPollAttempts
      · simp only [if_pos more]
        exact ⟨rfl, rfl, rfl⟩
      · simp only [if_neg more]
        exact ⟨rfl, rfl, rfl⟩
  | success =>
      refine Quiet.refreshListing ?_ false
      exact ⟨rfl, rfl, rfl⟩
  | unsuccessful errorMessage => exact ⟨rfl, rfl, rfl⟩
  | failed => exact Quiet.refl page

theorem quiet_watchers (page : Page Item) : Quiet page (watchDatabase (watchInstance page)) := by
  have first : Quiet page (watchInstance page) := by
    unfold watchInstance
    split
    next => exact Quiet.refl page
    next =>
      refine Quiet.fetchDatabases ?_
      exact ⟨rfl, rfl, rfl⟩
  refine first.trans ?_
  unfold watchDatabase
  split
  next => exact Quiet.refl _
  next =>
    refine Quiet.fetchListing ?_ false
    exact ⟨rfl, rfl, rfl⟩

end Dialog

section Effects

variable {Item : Type} [DecidableEq Item] {kind : ViewKind Item} {page next : Page Item}

theorem handle_cases {action : Action Item} (handled : handle kind page action = some next) :
    (∃ row, row ∈ page.view.onScreen ∧ kind.offered row = true ∧ (∀ name, action ≠ .confirm name) ∧
      next = openDialog page row) ∨
    (∃ indexName, action = .confirm indexName ∧ next = execute kind page indexName) ∨
    ((∀ name, action ≠ .confirm name) ∧ Quiet page next) := by
  have quietly : (∀ name, action ≠ .confirm name) → Quiet page next →
      (∃ row, row ∈ page.view.onScreen ∧ kind.offered row = true ∧
        (∀ name, action ≠ .confirm name) ∧ next = openDialog page row) ∨
      (∃ indexName, action = .confirm indexName ∧ next = execute kind page indexName) ∨
      ((∀ name, action ≠ .confirm name) ∧ Quiet page next) :=
    fun other quiet => Or.inr (Or.inr ⟨other, quiet⟩)
  have left : ∀ number, Quiet page (answered page number) := fun _ => ⟨rfl, rfl, rfl⟩
  cases action with
  | openDialog row =>
      obtain ⟨⟨shown, offered⟩, rfl⟩ := of_guarded handled
      exact Or.inl ⟨row, shown, offered, by simp, rfl⟩
  | confirm indexName =>
      obtain ⟨-, rfl⟩ := of_guarded handled
      exact Or.inr (Or.inl ⟨indexName, rfl, rfl⟩)
  | selectInstance instanceId =>
      obtain rfl := Option.some.inj handled
      exact quietly (by simp) ⟨rfl, rfl, rfl⟩
  | loadInstances =>
      obtain rfl := Option.some.inj handled
      exact quietly (by simp) ⟨rfl, rfl, rfl⟩
  | instances number data =>
      refine quietly (by simp) ?_
      simp only [handle] at handled
      split at handled
      next mount _ =>
        cases data with
        | none =>
            obtain rfl := Option.some.inj handled
            exact left number
        | some items =>
            obtain rfl := Option.some.inj handled
            have loaded : Quiet page
                { answered page number with store := page.store.fetched items } := ⟨rfl, rfl, rfl⟩
            cases mount with
            | true => exact loaded.fetchDatabases
            | false => exact loaded
      next => simp at handled
  | databases number data =>
      refine quietly (by simp) ?_
      simp only [handle] at handled
      split at handled
      next =>
        obtain rfl := Option.some.inj handled
        cases data <;> exact ⟨rfl, rfl, rfl⟩
      next => simp at handled
  | selectDatabase databaseName =>
      obtain ⟨-, rfl⟩ := of_guarded handled
      exact quietly (by simp) ⟨rfl, rfl, rfl⟩
  | listing number data =>
      refine quietly (by simp) ?_
      simp only [handle] at handled
      split at handled
      next asked afterOperation _ =>
        obtain rfl := Option.some.inj handled
        exact (left number).trans (quiet_listingArrives _ asked afterOperation data)
      next => simp at handled
  | refresh =>
      obtain ⟨-, same⟩ := Option.ite_none_left_eq_some.mp handled
      obtain rfl := Option.some.inj same
      exact quietly (by simp) ((Quiet.refl page).refreshListing false)
  | setPage number =>
      obtain ⟨-, same⟩ := Option.ite_none_left_eq_some.mp handled
      obtain rfl := Option.some.inj same
      refine quietly (by simp) (Quiet.fetchListing ?_ false)
      exact ⟨rfl, rfl, rfl⟩
  | setPageSize pageSize =>
      obtain ⟨-, same⟩ := Option.ite_none_left_eq_some.mp handled
      obtain rfl := Option.some.inj same
      refine quietly (by simp) (Quiet.fetchListing ?_ false)
      exact ⟨rfl, rfl, rfl⟩
  | close =>
      obtain rfl := Option.some.inj handled
      exact quietly (by simp) ⟨rfl, rfl, rfl⟩
  | operation number reply =>
      refine quietly (by simp) ?_
      simp only [handle] at handled
      split at handled
      next =>
        obtain rfl := Option.some.inj handled
        exact (left number).trans (quiet_operationAnswered _ reply)
      next => simp at handled
  | delay number =>
      refine quietly (by simp) ?_
      simp only [handle] at handled
      split at handled
      next =>
        obtain rfl := Option.some.inj handled
        exact ⟨rfl, rfl, rfl⟩
      next => simp at handled
  | audit number reply =>
      refine quietly (by simp) ?_
      simp only [handle] at handled
      split at handled
      next auditId attempt _ =>
        obtain rfl := Option.some.inj handled
        exact (left number).trans (quiet_auditAnswered _ auditId attempt reply)
      next => simp at handled

end Effects

section Posts

variable {Item : Type} (kind : ViewKind Item)

def ReadFrom (source : Option (ListRequest × IndexListOut Item)) (row : Item) : Prop :=
  ∃ request data, source = some (request, data) ∧ row ∈ data.items ∧ kind.offered row = true

structure Offered (page : Page Item) : Prop where
  dialog : ∀ row, page.view.target = some row → ReadFrom kind page.view.openedFrom row
  posts : ∀ post ∈ page.posts, ReadFrom kind post.readFrom post.target ∧
    kind.sends post.target post.indexName = true

def PostOwn (post : Post Item) : Prop :=
  ∀ request data, post.readFrom = some (request, data) → request.instanceId = post.instanceId

def PostsOwn (page : Page Item) : Prop := ∀ post ∈ page.posts, PostOwn post

/-- A confirmation that sends anything is made while the instance of the row is the current one. -/
def ConfirmsOwn (page : Page Item) : Action Item → Prop
  | .confirm indexName => ∀ instanceId row, page.store.currentInstance = some instanceId →
    page.view.target = some row → kind.sends row indexName = true →
      ∀ request data, page.view.openedFrom = some (request, data) → request.instanceId = instanceId
  | _ => True

variable {kind} {page next : Page Item}

theorem Offered.quiet (offered : Offered kind page) (quiet : Quiet page next) :
    Offered kind next := by
  obtain ⟨target, openedFrom, posts⟩ := quiet
  refine ⟨?_, ?_⟩
  · rw [target, openedFrom]
    exact offered.dialog
  · rw [posts]
    exact offered.posts

theorem offered_openDialog (offered : Offered kind page) (numbered : Numbered page) {row : Item}
    (shown : row ∈ page.view.onScreen) (button : kind.offered row = true) :
    Offered kind (openDialog page row) := by
  refine ⟨?_, offered.posts⟩
  intro other opened
  obtain rfl : row = other := Option.some.inj opened
  obtain ⟨listed, -⟩ := rows_of_onScreen shown
  cases filled : page.view.source with
  | none =>
      rw [numbered.empty filled] at listed
      simp at listed
  | some source =>
      obtain ⟨request, data⟩ := source
      rw [(numbered.answered request data filled).1] at listed
      exact ⟨request, data, filled, List.mem_of_mem_take listed, button⟩

theorem offered_execute (offered : Offered kind page) (indexName : String) :
    Offered kind (execute kind page indexName) := by
  unfold execute
  split
  next instanceId row current opened =>
    split
    next sends =>
      refine ⟨offered.dialog, ?_⟩
      intro post sent
      rcases List.mem_append.mp sent with before | now
      · exact offered.posts post before
      · rw [List.mem_singleton.mp now]
        exact ⟨offered.dialog row opened, sends⟩
    next => exact offered
  next => exact offered

theorem postsOwn_execute_iff (own : PostsOwn page) (indexName : String) :
    PostsOwn (execute kind page indexName) ↔ ConfirmsOwn kind page (.confirm indexName) := by
  unfold execute
  split
  next instanceId row current opened =>
    split
    next sends =>
      have confirmed : ConfirmsOwn kind page (.confirm indexName) ↔
          PostOwn (⟨instanceId, row, indexName, page.view.openedFrom⟩ : Post Item) := by
        constructor
        · intro confirms
          exact confirms instanceId row current opened sends
        · intro goes other shown here there _
          obtain rfl := Option.some.inj (current.symm.trans here)
          exact goes
      rw [confirmed, PostsOwn, send, List.forall_mem_append, List.forall_mem_singleton]
      exact and_iff_right own
    next silent =>
      refine iff_of_true own ?_
      intro other shown _ there sends
      obtain rfl := Option.some.inj (opened.symm.trans there)
      exact absurd sends silent
  next nothing =>
    refine iff_of_true own ?_
    intro other shown here there
    exact absurd there (nothing other shown here)

end Posts

section Runs

variable {Item : Type} [DecidableEq Item] {kind : ViewKind Item} {page next : Page Item}

structure Kept (kind : ViewKind Item) (page : Page Item) : Prop where
  sound : Sound page
  watched : Watched page
  offered : Offered kind page

theorem offered_step {action : Action Item} (kept : Kept kind page)
    (stepped : step kind page action = some next) : Offered kind next := by
  obtain ⟨after, handled, rfl⟩ := Option.map_eq_some_iff.mp stepped
  refine Offered.quiet ?_ (quiet_watchers after)
  obtain ⟨row, shown, button, -, rfl⟩ | ⟨indexName, -, rfl⟩ | ⟨-, quiet⟩ := handle_cases handled
  · exact offered_openDialog kept.offered kept.sound.toNumbered shown button
  · exact offered_execute kept.offered indexName
  · exact kept.offered.quiet quiet

theorem kept_step {action : Action Item} (kept : Kept kind page)
    (stepped : step kind page action = some next) : Kept kind next := by
  obtain ⟨sound, watched⟩ := sound_step kept.sound kept.watched stepped
  exact ⟨sound, watched, offered_step kept stepped⟩

omit [DecidableEq Item] in
theorem kept_mounted (store : InstancesStore) : Kept kind (mounted store) := by
  obtain ⟨sound, watched⟩ := sound_mounted store
  exact ⟨sound, watched, by simp [mounted, freshView], by simp [mounted]⟩

omit [DecidableEq Item] in
theorem postsOwn_quiet (quiet : Quiet page next) : PostsOwn next ↔ PostsOwn page := by
  rw [PostsOwn, quiet.posts, PostsOwn]

theorem postsOwn_step {action : Action Item} (own : PostsOwn page)
    (stepped : step kind page action = some next) :
    PostsOwn next ↔ ConfirmsOwn kind page action := by
  obtain ⟨after, handled, rfl⟩ := Option.map_eq_some_iff.mp stepped
  rw [postsOwn_quiet (quiet_watchers after)]
  have other : (∀ name, action ≠ .confirm name) → ConfirmsOwn kind page action := by
    intro apart
    cases action with
    | confirm indexName => exact absurd rfl (apart indexName)
    | _ => trivial
  obtain ⟨row, -, -, apart, rfl⟩ | ⟨indexName, rfl, rfl⟩ | ⟨apart, quiet⟩ := handle_cases handled
  · exact iff_of_true own (other apart)
  · exact postsOwn_execute_iff own indexName
  · exact iff_of_true ((postsOwn_quiet quiet).mpr own) (other apart)

end Runs

theorem operations_go_where_read_iff {Item : Type} [DecidableEq Item] (kind : ViewKind Item)
    (store : InstancesStore) (actions : List (Action Item)) (page : Page Item)
    (ran : run (step kind) (mounted store) actions = some page) :
    (∀ post ∈ page.posts, ReadFrom kind post.readFrom post.target ∧
      kind.sends post.target post.indexName = true) ∧
    (Throughout (step kind) PostsOwn (mounted store) actions ↔
      Along (step kind) (ConfirmsOwn kind) (mounted store) actions) := by
  constructor
  · have kept : Kept kind page :=
      run_invariant (fun _ _ _ kept stepped => kept_step kept stepped) (kept_mounted store) ran
    exact kept.offered.posts
  · have initial : PostsOwn (mounted store : Page Item) := by simp [PostsOwn, mounted]
    have preserved : ∀ state action next, True → step kind state action = some next → True :=
      fun _ _ _ _ _ => trivial
    exact throughout_iff_along preserved (fun _ _ _ _ own stepped => postsOwn_step own stepped)
      trivial initial ran

def leftInstance : List (Action IndexFragmentationItem) :=
  leftDatabase ++ [.openDialog (ordersIndex "stock"), .selectInstance (some 8), .confirm ""]

theorem operations_go_where_read_iff_leftInstance :
    ∃ page, run (step indexFragmentationView) (mounted ⟨[], none⟩) leftInstance = some page ∧
      ¬ Along (step indexFragmentationView) (ConfirmsOwn indexFragmentationView)
        (mounted ⟨[], none⟩) leftInstance := by
  have ends : (run (step indexFragmentationView) (mounted ⟨[], none⟩) leftInstance).map
      (fun page => page.posts.map fun post =>
        (post.instanceId, post.readFrom.map fun read => read.1.instanceId)) =
        some [(8, some 7)] := by
    decide +kernel
  obtain ⟨page, ran, sent⟩ := Option.map_eq_some_iff.mp ends
  refine ⟨page, ran, ?_⟩
  rw [← (operations_go_where_read_iff indexFragmentationView ⟨[], none⟩ leftInstance page ran).2]
  intro throughout
  obtain ⟨post, single⟩ := List.map_eq_singleton_iff.mp sent
  obtain ⟨posts, addressed⟩ := single
  have own := throughout leftInstance [] page (by simp) ran post (by simp [posts])
  obtain ⟨here, there⟩ := Prod.mk.inj addressed
  obtain ⟨⟨request, data⟩, read, asked⟩ := Option.map_eq_some_iff.mp there
  have same := own request data read
  rw [here, asked] at same
  exact absurd same (by decide)

end SqlMonitor.Frontend.IndexViews
