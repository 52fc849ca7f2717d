import SqlMonitor.Services.Tokens
import SqlMonitor.Shared.TransitionSystem

set_option autoImplicit false

namespace SqlMonitor.Services

open TransitionSystem

variable {Token : Type} {library : TokenLibrary Token} {now : Timestamp} {token : Token}

section Decoding

theorem text?_eq_some {value : Json} {text : String} :
    value.text? = some text ↔ value = .string text := by
  cases value <;> simp [Json.text?]

theorem bind_text?_eq_some {claims : Claims} {name text : String} :
    (claims.get? name).bind Json.text? = some text ↔ claims.get? name = some (.string text) := by
  simp [Option.bind_eq_some_iff, text?_eq_some]

theorem ite_error_eq_ok {A : Type} {condition : Prop} [Decidable condition] {exc : PyException}
    {otherwise : Raises A} {result : A} :
    (if condition then .error exc else otherwise) = .ok result ↔
      ¬ condition ∧ otherwise = .ok result := by
  split <;> simp_all

theorem decodeAccessToken_eq_ok {payload : Claims}
    (decoded : decodeAccessToken library now token = .ok payload) :
    library.jwt.decode token library.secretKey ["exp", "sub", "type"] now = some payload ∧
      ∃ subject, payload.get? "sub" = some (.string subject) ∧
        payload.get? "type" = some (.string "access") := by
  unfold decodeAccessToken at decoded
  split at decoded
  next => simp at decoded
  next claims checked =>
    obtain ⟨named, decoded⟩ := ite_error_eq_ok.mp decoded
    cases typed : claims.get? "type" with
    | none => simp [typed] at decoded
    | some kind =>
        simp only [typed] at decoded
        obtain ⟨access, rfl⟩ : kind.text? = some "access" ∧ claims = payload := by
          split at decoded
          next access => exact ⟨access, Except.ok.inj decoded⟩
          next => simp at decoded
        refine ⟨checked, ?_⟩
        cases subject : (claims.get? "sub").bind Json.text? with
        | none => simp [subject] at named
        | some text =>
            exact ⟨text, bind_text?_eq_some.mp subject, by rw [typed, text?_eq_some.mp access]⟩

theorem verifyCaptcha_eq_true {code : String}
    (verified : verifyCaptcha library now token code = true) :
    ∃ payload, library.jwt.decode token library.secretKey
        ["exp", "type", "captcha_hash", "nonce"] now = some payload ∧
      payload.get? "type" = some (.string "captcha") := by
  unfold verifyCaptcha at verified
  split at verified
  next => simp at verified
  next =>
    split at verified
    next => simp at verified
    next payload checked =>
      split at verified
      next => simp at verified
      next typed => exact ⟨payload, checked, bind_text?_eq_some.mp (not_not.mp typed)⟩

theorem currentUser_eq_ok {users : UserTable} {user : UserRow}
    (accepted : currentUser library now users token = .ok user) :
    ∃ payload subject id, decodeAccessToken library now token = .ok payload ∧
      payload.get? "sub" = some (.string subject) ∧ library.parseUuid subject = .ok id ∧
      users.get? id = some user ∧ user.status = .active := by
  unfold currentUser at accepted
  split at accepted
  next => split at accepted <;> simp at accepted
  next id named =>
    simp only [tokenUserId, bind_eq_ok] at named
    obtain ⟨payload, decoded, parsed⟩ := named
    obtain ⟨-, subject, stored, -⟩ := decodeAccessToken_eq_ok decoded
    rw [bind_text?_eq_some.mpr stored, Option.getD_some] at parsed
    refine ⟨payload, subject, id, decoded, stored, parsed, ?_⟩
    cases found : activeUser users id with
    | error => simp [found, Except.mapError] at accepted
    | ok row =>
        obtain rfl : row = user := by simpa [found, Except.mapError] using accepted
        exact activeUser_eq_ok.mp found

theorem userWithRole_eq_ok {users : UserTable} {roles : List Role} {user : UserRow}
    (accepted : userWithRole library now users roles token = .ok user) :
    currentUser library now users token = .ok user ∧ user.role ∈ roles := by
  unfold userWithRole at accepted
  cases found : currentUser library now users token with
  | error => simp [found, bind, Except.bind] at accepted
  | ok row =>
      rw [found] at accepted
      cases allowed : requireRoles roles row with
      | error => simp [allowed, bind, Except.bind, Except.mapError] at accepted
      | ok other =>
          obtain rfl : other = user := by
            simpa [allowed, bind, Except.bind, Except.mapError] using accepted
          obtain ⟨rfl, member⟩ := requireRoles_eq_ok.mp allowed
          exact ⟨rfl, member⟩

end Decoding

section Runs

inductive Made where
  | access (subject role : String) (additionalClaims : Option Payload) (expiresDelta : Option Int)
  | captcha (code : Option String) (drawn : Nat) (nonce : String)

structure Issued (Token : Type) where
  token : Token
  madeAt : Timestamp
  made : Made

structure TokenState (Token : Type) where
  now : Timestamp
  users : UserTable
  issued : List (Issued Token)

inductive TokenAction (Token : Type) where
  | setClock (now : Timestamp)
  | setUsers (users : UserTable)
  | make (made : Made)
  | request (token : Token) (roles : List Role)
  | verifyCaptcha (token : Token) (code : String)

variable (library)

def makeToken (now : Timestamp) : Made → Raises Token
  | .access subject role additionalClaims expiresDelta =>
    createAccessToken library now subject role additionalClaims expiresDelta
  | .captcha code drawn nonce =>
    (createCaptchaChallenge library now code drawn nonce).map CaptchaChallenge.captchaToken

-- Requests read the state, and a call that raises issues nothing.
def tokenStep (state : TokenState Token) : TokenAction Token → Option (TokenState Token)
  | .setClock now => some { state with now }
  | .setUsers users => some { state with users }
  | .make made =>
    match makeToken library state.now made with
    | .ok token => some { state with issued := state.issued ++ [⟨token, state.now, made⟩] }
    | .error _ => some state
  | .request _ _ | .verifyCaptcha _ _ => some state

/-- No signature is forged: a token that is checked and decodes was issued before. -/
def Unforged (state : TokenState Token) : TokenAction Token → Prop
  | .request token _ | .verifyCaptcha token _ => ∀ required claims,
    library.jwt.decode token library.secretKey required state.now = some claims →
      ∃ issued ∈ state.issued, issued.token = token
  | _ => True

def ActsAs (state : TokenState Token) (token : Token) (user : UserRow) : Prop :=
  ∃ issued ∈ state.issued, issued.token = token ∧
    ∃ subject role additionalClaims expiresDelta id,
      issued.made = .access subject role additionalClaims expiresDelta ∧
        state.now < expireAt issued.madeAt expiresDelta ∧
        library.parseUuid subject = .ok id ∧ state.users.get? id = some user ∧
        user.status = .active

def Rightly (state : TokenState Token) : TokenAction Token → Prop
  | .request token roles =>
    (∀ user, currentUser library state.now state.users token = .ok user →
      ActsAs library state token user) ∧
    ∀ user, userWithRole library state.now state.users roles token = .ok user →
      ActsAs library state token user ∧ user.role ∈ roles
  | .verifyCaptcha token code => verifyCaptcha library state.now token code = true →
    ∃ issued ∈ state.issued, issued.token = token ∧
      ∃ made drawn nonce, issued.made = .captcha made drawn nonce
  | _ => True

/-- The claims that only `create_access_token` sets. -/
structure SetsReserved {A : Type} (convert : ClaimValue → A) (claims : InsertionDict String A)
    (subject : String) (expires : Timestamp) : Prop where
  sub : claims.get? "sub" = some (convert (.json (.string subject)))
  type : claims.get? "type" = some (convert (.json (.string "access")))
  exp : claims.get? "exp" = some (convert (.datetime expires))

def KeepsKind (issued : Issued Token) : Prop :=
  match issued.made with
  | .access subject _ _ expiresDelta =>
    (∃ payload, library.jwt.encode payload library.secretKey = .ok issued.token ∧
      SetsReserved id payload subject (expireAt issued.madeAt expiresDelta)) ∧
    (∀ required now claims,
      library.jwt.decode issued.token library.secretKey required now = some claims →
        SetsReserved ClaimValue.encoded claims subject (expireAt issued.madeAt expiresDelta)) ∧
    ∀ now code, verifyCaptcha library now issued.token code = false
  | .captcha _ _ _ =>
    ∀ now payload, decodeAccessToken library now issued.token ≠ .ok payload

variable {library}

section Kinds

variable {subject role : String} {additionalClaims : Option Payload} {expiresDelta : Option Int}

theorem createAccessToken_eq_ok
    (made : createAccessToken library now subject role additionalClaims expiresDelta = .ok token) :
    (∀ name ∈ reservedAccessTokenClaims, name ∉ (additionalClaims.getD .empty).keys) ∧
      library.jwt.encode (accessPayload now subject role additionalClaims expiresDelta)
        library.secretKey = .ok token := by
  obtain ⟨free, encoded⟩ := ite_error_eq_ok.mp made
  refine ⟨fun name reserved conflicts => ?_, encoded⟩
  have listed : name ∈ conflictingClaims (additionalClaims.getD .empty) :=
    List.mem_filter.mpr ⟨reserved, decide_eq_true conflicts⟩
  rw [not_not.mp free] at listed
  simp at listed

variable (now subject role expiresDelta) in
theorem setsReserved_accessPayload
    (free : ∀ name ∈ reservedAccessTokenClaims, name ∉ (additionalClaims.getD .empty).keys) :
    SetsReserved id (accessPayload now subject role additionalClaims expiresDelta) subject
      (expireAt now expiresDelta) := by
  simp only [reservedAccessTokenClaims, List.forall_mem_cons] at free
  obtain ⟨exp, sub, type, -⟩ := free
  refine ⟨?_, ?_, ?_⟩
  · rw [accessPayload, InsertionDict.get?_update_of_absent sub]
    simp [InsertionDict.get?_ofList]
  · rw [accessPayload, InsertionDict.get?_update_of_absent type]
    simp [InsertionDict.get?_ofList]
  · rw [accessPayload, InsertionDict.get?_update_of_absent exp]
    simp [InsertionDict.get?_ofList]

theorem captcha_eq_ok {code : Option String} {drawn : Nat} {nonce : String}
    (made : makeToken library now (.captcha code drawn nonce) = .ok token) :
    ∃ shown, library.jwt.encode (captchaPayload library now shown nonce) library.secretKey =
      .ok token := by
  cases created : createCaptchaChallenge library now code drawn nonce with
  | error => simp [makeToken, created, Except.map] at made
  | ok challenge =>
      obtain rfl : challenge.captchaToken = token := by
        simpa [makeToken, created, Except.map] using made
      obtain ⟨other, encoded, returned⟩ := bind_eq_ok.mp created
      obtain rfl := pure_eq_ok.mp returned
      exact ⟨_, encoded⟩

theorem type_captchaPayload (code nonce : String) :
    (captchaPayload library now code nonce).get? "type" = some (.json (.string "captcha")) := by
  simp [captchaPayload, InsertionDict.get?_ofList]

theorem keepsKind_makeToken (faithful : library.jwt.Faithful) {made : Made}
    (makes : makeToken library now made = .ok token) : KeepsKind library ⟨token, now, made⟩ := by
  cases made with
  | access subject role additionalClaims expiresDelta =>
      obtain ⟨free, encoded⟩ := createAccessToken_eq_ok makes
      have payload := setsReserved_accessPayload now subject role expiresDelta free
      have decoded : ∀ required later claims,
          library.jwt.decode token library.secretKey required later = some claims →
            SetsReserved ClaimValue.encoded claims subject (expireAt now expiresDelta) := by
        intro required later claims checked
        have same := faithful.claims _ _ _ _ _ _ encoded checked
        exact ⟨by rw [same, payload.sub]; rfl, by rw [same, payload.type]; rfl,
          by rw [same, payload.exp]; rfl⟩
      refine ⟨⟨_, encoded, payload⟩, decoded, fun later code => ?_⟩
      refine Bool.eq_false_iff.mpr fun verified => ?_
      obtain ⟨claims, checked, typed⟩ := verifyCaptcha_eq_true verified
      rw [(decoded _ _ _ checked).type] at typed
      simp [ClaimValue.encoded] at typed
  | captcha code drawn nonce =>
      intro later payload accepted
      obtain ⟨checked, subject, -, typed⟩ := decodeAccessToken_eq_ok accepted
      obtain ⟨shown, encoded⟩ := captcha_eq_ok makes
      rw [faithful.claims _ _ _ _ _ _ encoded checked, type_captchaPayload] at typed
      simp [ClaimValue.encoded] at typed

end Kinds

section Requests

variable {state next : TokenState Token}

theorem actsAs_of_currentUser (faithful : library.jwt.Faithful)
    (kinds : ∀ issued ∈ state.issued, KeepsKind library issued) {roles : List Role}
    (unforged : Unforged library state (.request token roles)) {user : UserRow}
    (accepted : currentUser library state.now state.users token = .ok user) :
    ActsAs library state token user := by
  obtain ⟨payload, subject, id, decoded, named, parsed, stored⟩ := currentUser_eq_ok accepted
  obtain ⟨checked, -⟩ := decodeAccessToken_eq_ok decoded
  obtain ⟨issued, member, rfl⟩ := unforged _ _ checked
  have kind := kinds issued member
  unfold KeepsKind at kind
  split at kind
  next maker role additionalClaims expiresDelta made =>
    have reserved := kind.2.1 _ _ _ checked
    obtain rfl : maker = subject := by
      simpa [ClaimValue.encoded] using reserved.sub.symm.trans named
    have early := faithful.unexpired _ _ _ _ _ _ checked reserved.exp
    have whole := Int.ediv_mul_le (expireAt issued.madeAt expiresDelta)
      (by decide : (1000000 : Int) ≠ 0)
    exact ⟨issued, member, rfl, maker, role, additionalClaims, expiresDelta, id, made,
      lt_of_lt_of_le early whole, parsed, stored⟩
  next => exact absurd decoded (kind _ _)

theorem rightly_of_unforged (faithful : library.jwt.Faithful)
    (kinds : ∀ issued ∈ state.issued, KeepsKind library issued) {action : TokenAction Token}
    (unforged : Unforged library state action) : Rightly library state action := by
  cases action with
  | request token roles =>
      refine ⟨fun user accepted => actsAs_of_currentUser faithful kinds unforged accepted, ?_⟩
      intro user accepted
      obtain ⟨known, allowed⟩ := userWithRole_eq_ok accepted
      exact ⟨actsAs_of_currentUser faithful kinds unforged known, allowed⟩
  | verifyCaptcha token code =>
      intro verified
      obtain ⟨payload, checked, -⟩ := verifyCaptcha_eq_true verified
      obtain ⟨issued, member, rfl⟩ := unforged _ _ checked
      have kind := kinds issued member
      unfold KeepsKind at kind
      split at kind
      next => simp [kind.2.2] at verified
      next made drawn nonce same => exact ⟨issued, member, rfl, made, drawn, nonce, same⟩
  | _ => trivial

theorem keepsKind_step (faithful : library.jwt.Faithful) {action : TokenAction Token}
    (kinds : ∀ issued ∈ state.issued, KeepsKind library issued)
    (stepped : tokenStep library state action = some next) :
    ∀ issued ∈ next.issued, KeepsKind library issued := by
  cases action with
  | make made =>
      cases makes : makeToken library state.now made with
      | error =>
          simp only [tokenStep, makes, Option.some.injEq] at stepped
          exact stepped ▸ kinds
      | ok token =>
          simp only [tokenStep, makes, Option.some.injEq] at stepped
          obtain rfl := stepped
          intro issued member
          rcases List.mem_append.mp member with old | new
          · exact kinds issued old
          · rw [List.mem_singleton.mp new]
            exact keepsKind_makeToken faithful makes
  | _ =>
      obtain rfl := Option.some.inj stepped
      exact kinds

end Requests

end Runs

theorem tokens_apart (library : TokenLibrary Token) (faithful : library.jwt.Faithful)
    (start : TokenState Token) (actions : List (TokenAction Token)) (empty : start.issued = [])
    (unforged : Along (tokenStep library) (Unforged library) start actions) :
    Along (tokenStep library) (Rightly library) start actions ∧
      Throughout (tokenStep library)
        (fun state => ∀ issued ∈ state.issued, KeepsKind library issued) start actions := by
  have kinds : ∀ before state, run (tokenStep library) start before = some state →
      ∀ issued ∈ state.issued, KeepsKind library issued := by
    intro before state ran
    exact run_invariant (I := fun state => ∀ issued ∈ state.issued, KeepsKind library issued)
      (fun _ _ _ kept stepped => keepsKind_step faithful kept stepped) (by simp [empty]) ran
  refine ⟨?_, fun before after state _ ran => kinds before state ran⟩
  intro before action after state split ran
  exact rightly_of_unforged faithful (kinds before state ran)
    (unforged before action after state split ran)

def unexpired (claims : Claims) (now : Timestamp) : Bool :=
  match claims.get? "exp" with
  | some (.integer seconds) => now < seconds * 1000000
  | _ => false

def plainJwt : Jwt (Payload × String) where
  encode := fun payload key => .ok (payload, key)
  decode := fun token key required now =>
    let claims := token.1.mapValues ClaimValue.encoded
    if token.2 = key ∧ required.all (· ∈ claims.keys) ∧ unexpired claims now then some claims
    else none

theorem faithful_plainJwt : plainJwt.Faithful := by
  refine ⟨?_, ?_⟩
  · intro payload key token required now claims made decoded name
    obtain rfl : (payload, key) = token := Except.ok.inj made
    obtain ⟨-, rfl⟩ := of_guarded decoded
    simp
  · intro token key required now claims seconds decoded expires
    obtain ⟨⟨-, -, early⟩, rfl⟩ := of_guarded decoded
    simpa [unexpired, expires] using early

def aliceId : String := "00000000-0000-0000-0000-000000000007"

def plainLibrary : TokenLibrary (Payload × String) where
  jwt := plainJwt
  secretKey := "test-secret-key-with-at-least-32-bytes"
  parseUuid := fun text => if text = aliceId then .ok 7 else .error (valueError "badly formed")
  sha256Hex := id
  isDigit := Char.isDigit

def onlyUser (role : Role) : UserTable :=
  .ofList [(7, ⟨⟨7, "alice", none, role⟩, "hash", .active⟩)]

def adminToken : Payload × String :=
  (accessPayload 0 aliceId "admin" (some (.ofList [("nonce", .json (.string "a"))])) none,
    plainLibrary.secretKey)

def demotion : List (TokenAction (Payload × String)) :=
  [.make (.access aliceId "admin" (some (.ofList [("nonce", .json (.string "a"))])) none),
    .setUsers (onlyUser .viewer), .request adminToken [.admin], .request adminToken [.viewer]]

def beforeTokens : TokenState (Payload × String) := ⟨0, onlyUser .admin, []⟩

theorem tokens_apart_demotion :
    (currentUser plainLibrary 0 (onlyUser .viewer) adminToken).isOk ∧
      Along (tokenStep plainLibrary) (Rightly plainLibrary) beforeTokens demotion ∧
        Throughout (tokenStep plainLibrary)
          (fun state => ∀ issued ∈ state.issued, KeepsKind plainLibrary issued) beforeTokens
          demotion := by
  refine ⟨by decide, tokens_apart plainLibrary faithful_plainJwt beforeTokens demotion rfl ?_⟩
  have made : tokenStep plainLibrary beforeTokens (.make (.access aliceId "admin"
      (some (.ofList [("nonce", .json (.string "a"))])) none)) =
        some ⟨0, onlyUser .admin, [⟨adminToken, 0, .access aliceId "admin"
          (some (.ofList [("nonce", .json (.string "a"))])) none⟩]⟩ := rfl
  rw [demotion, along_cons made, along_cons rfl, along_cons rfl, along_cons rfl]
  refine ⟨trivial, trivial, ?_, ?_, ?_⟩
  · exact fun _ _ _ => ⟨_, List.mem_singleton_self _, rfl⟩
  · exact fun _ _ _ => ⟨_, List.mem_singleton_self _, rfl⟩
  · intro before action after state split
    simp at split

end SqlMonitor.Services
