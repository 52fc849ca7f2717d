import SqlMonitor.Frontend.KillViews

set_option autoImplicit false

namespace SqlMonitor.Frontend

open TransitionSystem

def PostsShown (page : Page) : Prop :=
  ∀ post ∈ page.posts, ∃ fetched ∈ page.shown,
    fetched.instanceId = post.instanceId ∧ post.sessionId ∈ fetched.snapshot.sessionIds

instance (page : Page) : Decidable (PostsShown page) := List.decidableBAll ..

/-- A dialog is confirmed while the instance it was opened from is the current one. -/
def ConfirmsOwn (page : Page) : Action → Prop
  | .confirm _ => ∀ instanceId, page.store.currentInstance = some instanceId →
    page.view.openedFrom = some instanceId
  | _ => True

section Quiet

structure Quiet (page next : Page) : Prop where
  session : next.view.killSessionId = page.view.killSessionId
  origin : next.view.openedFrom = page.view.openedFrom
  shown : next.shown = page.shown
  posts : next.posts = page.posts

variable {page middle next : Page} {viewId : Nat}

theorem Quiet.refl (page : Page) : Quiet page page := ⟨rfl, rfl, rfl, rfl⟩

theorem Quiet.trans (first : Quiet page middle) (second : Quiet middle next) : Quiet page next :=
  ⟨second.session.trans first.session, second.origin.trans first.origin,
    second.shown.trans first.shown, second.posts.trans first.posts⟩

theorem quiet_onView {change : View → View}
    (session : ∀ view, (change view).killSessionId = view.killSessionId)
    (origin : ∀ view, (change view).openedFrom = view.openedFrom) :
    Quiet page (onView page viewId change) := by
  unfold onView
  split
  next => exact ⟨session page.view, origin page.view, rfl, rfl⟩
  next => exact Quiet.refl page

theorem quiet_fetchSnapshot (page : Page) (viewId : Nat) (afterKill : Bool) :
    Quiet page (fetchSnapshot page viewId afterKill) := by
  unfold fetchSnapshot
  split
  next => exact quiet_onView (fun _ => rfl) (fun _ => rfl)
  next =>
    have loading : Quiet page
        (onView page viewId fun view => { view with loading := true, error := "" }) :=
      quiet_onView (fun _ => rfl) (fun _ => rfl)
    exact ⟨loading.session, loading.origin, loading.shown, loading.posts⟩

theorem quiet_instancesArrive (page : Page) (data : Option (List Uuid)) (next : Continuation) :
    Quiet page (instancesArrive page data next) := by
  unfold instancesArrive
  split
  next => exact ⟨rfl, rfl, rfl, rfl⟩
  next data viewId =>
    have stored : Quiet page { page with store := page.store.fetched data } := ⟨rfl, rfl, rfl, rfl⟩
    exact stored.trans (quiet_fetchSnapshot _ viewId false)
  next => exact ⟨rfl, rfl, rfl, rfl⟩
  next => exact quiet_onView (fun _ => rfl) (fun _ => rfl)
  next => exact Quiet.refl page

theorem quiet_snapshotArrives (page : Page) (data : Option Snapshot) (instanceId : Uuid)
    (afterKill : Bool) : Quiet page (snapshotArrives page data viewId instanceId afterKill) := by
  unfold snapshotArrives
  split
  next => exact quiet_onView (fun _ => rfl) (fun _ => rfl)
  next => exact quiet_onView (fun _ => rfl) (fun _ => rfl)

theorem quiet_killAnswered (page : Page) (kind : ViewKind) (reply : KillReply) :
    Quiet page (killAnswered page viewId kind reply) := by
  have noted : ∀ text, Quiet page { page with messages := page.messages ++ [text] } :=
    fun _ => ⟨rfl, rfl, rfl, rfl⟩
  have hidden : ∀ text, Quiet { page with messages := page.messages ++ [text] }
      (onView { page with messages := page.messages ++ [text] } viewId fun view =>
        { view with killVisible := false }) :=
    fun _ => quiet_onView (fun _ => rfl) (fun _ => rfl)
  have closed := fun text =>
    ((noted text).trans (hidden text)).trans (quiet_fetchSnapshot _ viewId true)
  cases reply with
  | success => exact closed _
  | unsuccessful errorMessage => exact closed _
  | failed => exact (noted _).trans (quiet_onView (fun _ => rfl) (fun _ => rfl))

theorem quiet_runWatchers (page : Page) : Quiet page (runWatchers page) := by
  unfold runWatchers
  split
  next => exact Quiet.refl page
  next =>
    have noted : Quiet page { page with watched := page.store.currentInstance } :=
      ⟨rfl, rfl, rfl, rfl⟩
    exact noted.trans (quiet_fetchSnapshot _ _ false)

end Quiet

section Handling

variable {page next : Page}

theorem handle_cases {action : Action} (handled : handle page action = some next) :
    (∃ kind, next = mountView page kind) ∨
    (∃ sessionId fetched, page.view.onScreen = some fetched ∧
      sessionId ∈ fetched.snapshot.sessionIds ∧ next = openKill page sessionId fetched) ∨
    (∃ reason, action = .confirm reason ∧ next = killSession page reason) ∨ Quiet page next := by
  cases action with
  | mount kind => exact Or.inl ⟨kind, (Option.some.inj handled).symm⟩
  | select instanceId =>
      obtain rfl := Option.some.inj handled
      exact Or.inr (Or.inr (Or.inr ⟨rfl, rfl, rfl, rfl⟩))
  | refresh =>
      obtain rfl := Option.some.inj handled
      exact Or.inr (Or.inr (Or.inr (quiet_fetchSnapshot page _ _)))
  | loadInstances =>
      obtain rfl := Option.some.inj handled
      exact Or.inr (Or.inr (Or.inr ⟨rfl, rfl, rfl, rfl⟩))
  | instances request data =>
      simp only [handle] at handled
      split at handled
      next continuation _ =>
        obtain rfl := Option.some.inj handled
        have left : Quiet page (answered page request) := ⟨rfl, rfl, rfl, rfl⟩
        exact Or.inr (Or.inr (Or.inr (left.trans (quiet_instancesArrive _ data continuation))))
      next => simp at handled
  | snapshot request data =>
      simp only [handle] at handled
      split at handled
      next viewId instanceId afterKill _ =>
        obtain rfl := Option.some.inj handled
        have left : Quiet page (answered page request) := ⟨rfl, rfl, rfl, rfl⟩
        exact Or.inr (Or.inr (Or.inr
          (left.trans (quiet_snapshotArrives _ data instanceId afterKill))))
      next => simp at handled
  | openKill sessionId =>
      simp only [handle] at handled
      split at handled
      next fetched visible =>
        obtain ⟨member, rfl⟩ := of_guarded handled
        exact Or.inr (Or.inl ⟨sessionId, fetched, visible, member, rfl⟩)
      next => simp at handled
  | close =>
      obtain rfl := Option.some.inj handled
      exact Or.inr (Or.inr (Or.inr ⟨rfl, rfl, rfl, rfl⟩))
  | confirm reason =>
      obtain ⟨-, rfl⟩ := of_guarded handled
      exact Or.inr (Or.inr (Or.inl ⟨reason, rfl, rfl⟩))
  | killed request reply =>
      simp only [handle] at handled
      split at handled
      next viewId kind _ =>
        obtain rfl := Option.some.inj handled
        have left : Quiet page (answered page request) := ⟨rfl, rfl, rfl, rfl⟩
        exact Or.inr (Or.inr (Or.inr (left.trans (quiet_killAnswered _ kind reply))))
      next => simp at handled

structure Addressed (page : Page) : Prop where
  dialog : ∀ sessionId, page.view.killSessionId = some sessionId →
    ∃ fetched ∈ page.shown, page.view.openedFrom = some fetched.instanceId ∧
      sessionId ∈ fetched.snapshot.sessionIds
  posts : PostsShown page

theorem Addressed.quiet (addressed : Addressed page) (quiet : Quiet page next) :
    Addressed next := by
  refine ⟨?_, ?_⟩
  · rw [quiet.session, quiet.origin, quiet.shown]
    exact addressed.dialog
  · unfold PostsShown
    rw [quiet.posts, quiet.shown]
    exact addressed.posts

theorem addressed_render (addressed : Addressed page) : Addressed (render page) := by
  refine ⟨fun sessionId opened => ?_, fun post sent => ?_⟩
  · obtain ⟨fetched, member, found⟩ := addressed.dialog sessionId opened
    exact ⟨fetched, List.mem_append_left _ member, found⟩
  · obtain ⟨fetched, member, found⟩ := addressed.posts post sent
    exact ⟨fetched, List.mem_append_left _ member, found⟩

theorem addressed_killSession (addressed : Addressed page) (reason : String)
    (own : ConfirmsOwn page (.confirm reason)) : Addressed (killSession page reason) := by
  unfold killSession
  split
  next instanceId sessionId current opened =>
    obtain ⟨fetched, member, origin, inside⟩ := addressed.dialog sessionId opened
    have same : fetched.instanceId = instanceId :=
      Option.some.inj (origin.symm.trans (own instanceId current))
    refine ⟨addressed.dialog, fun post sent => ?_⟩
    rcases List.mem_append.mp sent with before | now
    · exact addressed.posts post before
    · rw [List.mem_singleton.mp now]
      exact ⟨fetched, member, same, inside⟩
  next => exact addressed

structure Noted (page : Page) : Prop extends Addressed page where
  screen : ∀ fetched, page.view.onScreen = some fetched → fetched ∈ page.shown

theorem noted_step {action : Action} (noted : Noted page) (own : ConfirmsOwn page action)
    (stepped : step page action = some next) : Noted next := by
  obtain ⟨after, handled, rfl⟩ := Option.map_eq_some_iff.mp stepped
  have addressed : Addressed after := by
    rcases handle_cases handled with ⟨kind, rfl⟩ | ⟨sessionId, fetched, visible, inside, rfl⟩ |
      ⟨reason, rfl, rfl⟩ | quiet
    · exact ⟨fun sessionId opened => by simp [mountView, send, freshView] at opened, noted.posts⟩
    · refine ⟨fun other opened => ?_, noted.posts⟩
      obtain rfl : sessionId = other := Option.some.inj opened
      exact ⟨fetched, noted.screen fetched visible, rfl, inside⟩
    · exact addressed_killSession noted.toAddressed reason own
    · exact noted.toAddressed.quiet quiet
  refine ⟨addressed_render (addressed.quiet (quiet_runWatchers after)), fun fetched visible => ?_⟩
  have same : (runWatchers after).view.onScreen = some fetched := visible
  simp [render, same]

theorem noted_emptyPage : Noted emptyPage := by
  refine ⟨⟨?_, ?_⟩, ?_⟩ <;> simp [emptyPage, freshView, PostsShown, View.onScreen]

end Handling

theorem kills_address_shown (actions : List Action)
    (own : Along step ConfirmsOwn emptyPage actions) :
    Throughout step PostsShown emptyPage actions :=
  (Throughout.of_along (fun _ _ _ noted own stepped => noted_step noted own stepped)
    noted_emptyPage own).mono fun _ noted => noted.posts

def openedDialog : List Action :=
  [.mount .blocking, .loadInstances, .instances 1 (some [1, 2]), .instances 0 (some [1, 2]),
    .instances 0 (some [1, 2]), .instances 0 (some [1, 2]),
    .snapshot 0 (some (.blocking [some 60])), .snapshot 0 (some (.blocking [some 60])),
    .openKill 60]

theorem kills_address_shown_opened :
    Throughout step PostsShown emptyPage (openedDialog ++ [.confirm "blocks the load"]) := by
  refine kills_address_shown _ ?_
  rw [openedDialog]
  simp only [List.cons_append, List.nil_append]
  iterate 9 refine (along_cons rfl).mpr ⟨trivial, ?_⟩
  refine (along_cons rfl).mpr ⟨fun _ current => current, ?_⟩
  intro before action after page split
  simp at split

theorem kill_addresses_other :
    ∃ page, run step emptyPage (openedDialog ++
        [.refresh, .instances 0 (some [2]), .confirm "blocks the load"]) = some page ∧
      page.posts = [⟨2, 60, "blocks the load"⟩] ∧ ¬ PostsShown page :=
  ⟨_, rfl, by decide, by decide⟩

end SqlMonitor.Frontend
