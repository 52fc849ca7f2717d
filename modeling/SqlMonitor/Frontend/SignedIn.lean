import SqlMonitor.Services.Logins

set_option autoImplicit false

namespace SqlMonitor.Frontend.SignedIn

open Services TransitionSystem

section Data

structure AuthUser where
  id : String
  username : String
  displayName : Option String
  role : String
deriving DecidableEq

variable (Token : Type)

/-- `localStorage`. -/
structure Storage where
  accessToken : Option Token
  -- The user and the time of the login.
  authState : Option (AuthUser × Timestamp)

structure ApiRequest where
  isLogin : Bool
  authorization : Option Token

structure Tab where
  route : String
  token : Option Token
  user : Option AuthUser
  loginAt : Option Timestamp
  loading : Bool
  requests : List (ApiRequest Token)

abbrev TabId := Nat

structure Browser where
  storage : Storage Token
  tabs : TabId → Option (Tab Token)
  -- The user that was shown and the token, for every request but the logins.
  sent : List (Option AuthUser × Option Token)

/-- What a login answers: the token stands for the user that is named. -/
structure LoginAnswer (owner : Token → String) extends LoginResponse Token where
  owned : owner accessToken = userId

inductive Action (owner : Token → String) where
  -- A tab is opened, or its page is loaded again.
  | load (tab : TabId) (route : String)
  | close (tab : TabId)
  | navigate (tab : TabId) (route : String)
  | send (tab : TabId)
  | submitLogin (tab : TabId)
  | success (tab : TabId) (request : Nat)
  | signIn (tab : TabId) (request : Nat) (data : LoginAnswer Token owner) (now : Timestamp)
  | unauthorized (tab : TabId) (request : Nat)
  | failure (tab : TabId) (request : Nat)
  | logout (tab : TabId)

end Data

section Pages

variable {Token : Type} (storage : Storage Token)

def clearAccessToken : Storage Token := { storage with accessToken := none }

-- `router.beforeEach`
def guardRoute (route : String) : String :=
  if route ≠ "login" ∧ storage.accessToken.isNone then "login"
  else if route = "login" ∧ storage.accessToken.isSome then "dashboard"
  else route

/-- The state of the store is read from what is stored. -/
def loadPage (route : String) : Tab Token where
  route := guardRoute storage route
  token := storage.accessToken
  user := storage.authState.map Prod.fst
  loginAt := storage.authState.map Prod.snd
  loading := false
  requests := []

variable {owner : Token → String} (page : Tab Token)

def authUser (data : LoginAnswer Token owner) : AuthUser :=
  ⟨data.userId, data.username, data.displayName, data.role⟩

def answered (request : Nat) : Tab Token := { page with requests := page.requests.eraseIdx request }

-- The rest of the `login` action, from its answer on.
def signIn (data : LoginAnswer Token owner) (now : Timestamp) : Tab Token :=
  { page with
    token := some data.accessToken, user := some (authUser data), loginAt := some now, loading := false }

def endLogin (request : ApiRequest Token) : Tab Token :=
  { page with loading := page.loading && !request.isLogin }

/-- The interceptor of the answers: where it does not stay on the page, it loads the login page. -/
def unauthorizedPage (request : ApiRequest Token) : Tab Token :=
  if request.isLogin ∨ page.route = "login" then endLogin page request
  else loadPage (clearAccessToken storage) "login"

end Pages

section Steps

variable {Token : Type} {owner : Token → String} (browser : Browser Token)

def withTab (tab : TabId) (page : Tab Token) : Browser Token :=
  { browser with tabs := Function.update browser.tabs tab (some page) }

def request? (tab : TabId) (request : Nat) : Option (Tab Token × ApiRequest Token) :=
  (browser.tabs tab).bind fun page =>
    (page.requests[request]?).map fun asked => (answered page request, asked)

def step : Action Token owner → Option (Browser Token)
  | .load tab route => some (withTab browser tab (loadPage browser.storage route))
  | .close tab => some { browser with tabs := Function.update browser.tabs tab none }
  | .navigate tab route =>
    (browser.tabs tab).map fun page =>
      withTab browser tab { page with route := guardRoute browser.storage route }
  | .send tab =>
    (browser.tabs tab).map fun page =>
      { withTab browser tab
          { page with requests := page.requests ++ [⟨false, browser.storage.accessToken⟩] } with
        sent := browser.sent ++ [(page.user, browser.storage.accessToken)] }
  | .submitLogin tab =>
    (browser.tabs tab).bind fun page =>
      if page.route = "login" ∧ page.loading = false then
        some (withTab browser tab
          { page with
            loading := true
            requests := page.requests ++ [⟨true, browser.storage.accessToken⟩] })
      else none
  | .success tab request =>
    (request? browser tab request).bind fun (page, asked) =>
      if asked.isLogin then none else some (withTab browser tab page)
  | .signIn tab request data now =>
    (request? browser tab request).bind fun (page, asked) =>
      if asked.isLogin then
        some
          { withTab browser tab (signIn page data now) with
            storage := ⟨some data.accessToken, some (authUser data, now)⟩ }
      else none
  | .unauthorized tab request =>
    (request? browser tab request).map fun (page, asked) =>
      { withTab browser tab (unauthorizedPage browser.storage page asked) with
        storage := clearAccessToken browser.storage }
  | .failure tab request =>
    (request? browser tab request).map fun (page, asked) =>
      withTab browser tab (endLogin page asked)
  | .logout tab =>
    (browser.tabs tab).map fun page =>
      { withTab browser tab { page with token := none, user := none, loginAt := none } with
        storage := ⟨none, none⟩ }

end Steps

section Shown

variable {Token : Type} (owner : Token → String)

def StoredOwn (storage : Storage Token) : Prop :=
  ∀ user now token, storage.authState = some (user, now) → storage.accessToken = some token →
    owner token = user.id

structure ActsAsShown (browser : Browser Token) : Prop where
  tabs : ∀ tab page user token, browser.tabs tab = some page → page.user = some user →
    browser.storage.accessToken = some token → owner token = user.id
  sent : ∀ user token, (some user, some token) ∈ browser.sent → owner token = user.id

variable {owner} {browser next : Browser Token} {action : Action Token owner}

theorem ActsAsShown.keep (acts : ActsAsShown owner browser) (own : StoredOwn owner browser.storage)
    (token : ∀ token, next.storage.accessToken = some token →
      browser.storage.accessToken = some token)
    (shown : ∀ tab page user, next.tabs tab = some page → page.user = some user →
      (∃ before, browser.tabs tab = some before ∧ before.user = some user) ∨
        ∃ now, browser.storage.authState = some (user, now))
    (sent : ∀ user token, (some user, some token) ∈ next.sent → owner token = user.id) :
    ActsAsShown owner next := by
  refine ⟨?_, sent⟩
  intro tab page user held opened shows stored
  rcases shown tab page user opened shows with ⟨before, stood, same⟩ | ⟨now, named⟩
  · exact acts.tabs tab before user held stood same (token held stored)
  · exact own user now held named (token held stored)

end Shown

section Exact

variable {Token : Type} {owner : Token → String} {browser next : Browser Token}
  {action : Action Token owner}

end Exact

end SqlMonitor.Frontend.SignedIn
