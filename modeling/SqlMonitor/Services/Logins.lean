import SqlMonitor.Services.TokenKinds

set_option autoImplicit false

namespace SqlMonitor.Services

section Login

structure LoginLibrary (Token : Type) where
  tokens : TokenLibrary Token
  -- `bcrypt.checkpw`, of the encoded texts.
  checkpw : String → String → Raises Bool
  -- `str`, of a `uuid.UUID`.
  uuidText : Uuid → String

structure LoginRequest (Token : Type) where
  username : String
  password : String
  -- An empty text stands for no token.
  captchaToken : Option Token
  captchaCode : Option String

structure LoginResponse (Token : Type) where
  accessToken : Token
  tokenType : String
  userId : String
  username : String
  displayName : Option String
  role : String

def Role.text : Role → String
  | .viewer => "viewer"
  | .developer => "developer"
  | .dba => "dba"
  | .admin => "admin"

variable {Token : Type} (library : LoginLibrary Token)

def verifyPassword (password passwordHash : String) : Raises Bool :=
  match library.checkpw password passwordHash with
  | .ok same => .ok same
  | .error exc => if exc.className = "ValueError" then .ok false else .error exc

def authenticateUser (users : UserTable) (username password : String) : Raises (Option UserRow) :=
  match users.values.find? (·.username = username) with
  | none => .ok none
  | some user =>
    if user.status ≠ .active then .ok none
    else
      match verifyPassword library password user.passwordHash with
      | .ok same => .ok (if same then some user else none)
      | .error exc => .error exc

def captchaRefused : HttpError := ⟨400, "验证码错误或已过期"⟩

def loginRefused : HttpError := ⟨401, "用户名或密码错误"⟩

def loginClaims (username : String) : Payload := .ofList [("username", .json (.string username))]

def loginToken (issuedAt : Timestamp) (user : UserRow) : Raises Token :=
  createAccessToken library.tokens issuedAt (library.uuidText user.id) user.role.text
    (some (loginClaims user.username)) none

def loginResponse (user : UserRow) (token : Token) : LoginResponse Token where
  accessToken := token
  tokenType := "bearer"
  userId := library.uuidText user.id
  username := user.username
  displayName := user.displayName
  role := user.role.text

/-- The clock is read for the captcha, and again once the user has been found. -/
def login (checkedAt issuedAt : Timestamp) (users : UserTable) (request : LoginRequest Token) :
    Except Refusal (LoginResponse Token) :=
  match request.captchaToken, request.captchaCode.filter (· ≠ "") with
  | some captchaToken, some captchaCode =>
    if verifyCaptcha library.tokens checkedAt captchaToken captchaCode then
      match authenticateUser library users request.username request.password with
      | .error exc => .error (.raised exc)
      | .ok none => .error (.http loginRefused)
      | .ok (some user) =>
        match loginToken library issuedAt user with
        | .error exc => .error (.raised exc)
        | .ok token => .ok (loginResponse library user token)
    else .error (.http captchaRefused)
  | _, _ => .error (.http captchaRefused)

def CaptchaPasses (checkedAt : Timestamp) (request : LoginRequest Token) : Prop :=
  ∃ captchaToken captchaCode, request.captchaToken = some captchaToken ∧
    request.captchaCode = some captchaCode ∧
    verifyCaptcha library.tokens checkedAt captchaToken captchaCode = true

variable {library} {users : UserTable} {username password : String} {user : UserRow}

theorem verifyPassword_eq_true {passwordHash : String} :
    verifyPassword library password passwordHash = .ok true ↔
      library.checkpw password passwordHash = .ok true := by
  unfold verifyPassword
  cases library.checkpw password passwordHash with
  | ok same => rfl
  | error exc =>
      simp only [reduceCtorEq, iff_false]
      split <;> simp

theorem authenticateUser_eq_some :
    authenticateUser library users username password = .ok (some user) ↔
      users.values.find? (·.username = username) = some user ∧ user.status = .active ∧
        library.checkpw password user.passwordHash = .ok true := by
  unfold authenticateUser
  cases users.values.find? (·.username = username) with
  | none => simp
  | some found =>
      by_cases active : found.status = .active
      · simp only [active, ne_eq, not_true_eq_false, if_false, Option.some.injEq,
          ← verifyPassword_eq_true]
        cases checked : verifyPassword library password found.passwordHash with
        | error exc =>
            simp only [reduceCtorEq, false_iff, not_and]
            rintro rfl
            simp [checked]
        | ok same =>
            cases same with
            | false =>
                simp only [Bool.false_eq_true, if_false, Except.ok.injEq, reduceCtorEq, false_iff,
                  not_and]
                rintro rfl
                simp [checked]
            | true =>
                simp only [if_true, Except.ok.injEq, Option.some.injEq]
                constructor
                · rintro rfl
                  exact ⟨rfl, active, checked⟩
                · exact And.left
      · simp only [active, ne_eq, not_false_eq_true, if_true, Except.ok.injEq, reduceCtorEq,
          Option.some.injEq, false_iff, not_and]
        rintro rfl no
        exact absurd no active

theorem login_eq_ok {checkedAt issuedAt : Timestamp} {request : LoginRequest Token}
    {response : LoginResponse Token} :
    login library checkedAt issuedAt users request = .ok response ↔
      CaptchaPasses library checkedAt request ∧ ∃ user token,
        authenticateUser library users request.username request.password = .ok (some user) ∧
          loginToken library issuedAt user = .ok token ∧
            loginResponse library user token = response := by
  unfold login CaptchaPasses
  cases request.captchaToken with
  | none => simp
  | some captchaToken =>
      cases request.captchaCode with
      | none => simp
      | some captchaCode =>
          by_cases empty : captchaCode = ""
          · -- An empty code has not the length of one.
            simp [empty, verifyCaptcha]
          · simp only [Option.filter_some, empty, ne_eq, not_false_eq_true, decide_true, if_true,
              Option.some.injEq, exists_and_left, exists_eq_left']
            cases verifyCaptcha library.tokens checkedAt captchaToken captchaCode with
            | false => simp
            | true =>
                simp only [if_true, true_and]
                cases authenticateUser library users request.username request.password with
                | error exc => simp
                | ok found =>
                    cases found with
                    | none => simp
                    | some user =>
                        cases made : loginToken library issuedAt user <;> simp [made]

end Login

section Sessions

variable {Token : Type}

-- What the library checks by itself where a token has it.
def registeredClaims : List String := ["iat", "nbf", "aud", "iss", "jti"]

structure Jwt.Accepting (jwt : Jwt Token) (key : String) : Prop where
  signs : ∀ payload : Payload,
    (∀ name time, payload.get? name = some (.datetime time) → name = "exp") →
      ∃ token, jwt.encode payload key = .ok token
  accepts : ∀ (payload : Payload) token required now time,
    jwt.encode payload key = .ok token →
      (∀ value, payload.get? "sub" = some value → ∃ subject, value = .json (.string subject)) →
      payload.get? "exp" = some (.datetime time) → now < time / 1000000 * 1000000 →
      (∀ name ∈ required, payload.get? name ≠ none) →
      (∀ name ∈ registeredClaims, payload.get? name = none) →
      ∃ claims, jwt.decode token key required now = some claims

structure LoginLibrary.Reliable (library : LoginLibrary Token) : Prop where
  faithful : library.tokens.jwt.Faithful
  accepting : library.tokens.jwt.Accepting library.tokens.secretKey
  parses : ∀ userId, library.tokens.parseUuid (library.uuidText userId) = .ok userId
  written : ∀ userId, library.uuidText userId ≠ ""

-- An expiry counts in whole seconds.
def loginExpiry (issuedAt : Timestamp) : Timestamp := expireAt issuedAt none / 1000000 * 1000000

variable {library : LoginLibrary Token} {issuedAt now : Timestamp} {users : UserTable}
  {user row : UserRow} {token : Token}

theorem entries_loginPayload (issuedAt : Timestamp) (subject role username : String) :
    (accessPayload issuedAt subject role (some (loginClaims username)) none).entries =
      [("sub", .json (.string subject)), ("role", .json (.string role)),
        ("type", .json (.string "access")), ("exp", .datetime (expireAt issuedAt none)),
        ("username", .json (.string username))] := rfl

theorem keys_loginPayload (issuedAt : Timestamp) (subject role username : String) :
    (accessPayload issuedAt subject role (some (loginClaims username)) none).keys =
      ["sub", "role", "type", "exp", "username"] := rfl

theorem exists_loginToken (reliable : library.Reliable) (issuedAt : Timestamp) (user : UserRow) :
    ∃ token, loginToken library issuedAt user = .ok token := by
  refine reliable.accepting.signs _ ?_
  intro name time timed
  rw [InsertionDict.get?_eq_some_iff] at timed
  simp only [entries_loginPayload, List.mem_cons, Prod.mk.injEq, reduceCtorEq, and_false,
    List.not_mem_nil, or_false, false_or] at timed
  exact timed.1

variable (now) in
theorem decode_loginToken (reliable : library.Reliable)
    (issued : loginToken library issuedAt user = .ok token) :
    (∀ claims, library.tokens.jwt.decode token library.tokens.secretKey ["exp", "sub", "type"] now =
        some claims → now < loginExpiry issuedAt ∧
      SetsReserved ClaimValue.encoded claims (library.uuidText user.id) (expireAt issuedAt none)) ∧
    (now < loginExpiry issuedAt →
      ∃ claims, library.tokens.jwt.decode token library.tokens.secretKey ["exp", "sub", "type"] now =
        some claims) := by
  have kind : KeepsKind library.tokens ⟨token, issuedAt, .access (library.uuidText user.id)
      user.role.text (some (loginClaims user.username)) none⟩ :=
    keepsKind_makeToken reliable.faithful issued
  have encoded := (createAccessToken_eq_ok issued).2
  constructor
  · intro claims checked
    have reserved := kind.2.1 _ _ _ checked
    exact ⟨reliable.faithful.unexpired _ _ _ _ _ _ checked reserved.exp, reserved⟩
  · intro early
    refine reliable.accepting.accepts _ token _ now _ encoded ?_ ?_ early ?_ ?_
    · intro value named
      rw [InsertionDict.get?_eq_some_iff] at named
      exact ⟨_, by simpa [entries_loginPayload] using named⟩
    · simp [InsertionDict.get?_eq_some_iff, entries_loginPayload]
    · simp only [ne_eq, InsertionDict.get?_eq_none_iff, not_not, keys_loginPayload]
      decide
    · simp only [InsertionDict.get?_eq_none_iff, keys_loginPayload]
      decide

theorem decodeAccessToken_of_claims {tokens : TokenLibrary Token} {claims : Claims}
    {subject : String} {expires : Timestamp}
    (checked : tokens.jwt.decode token tokens.secretKey ["exp", "sub", "type"] now = some claims)
    (reserved : SetsReserved ClaimValue.encoded claims subject expires) (named : subject ≠ "") :
    decodeAccessToken tokens now token = .ok claims := by
  simp [decodeAccessToken, checked, reserved.sub, reserved.type, ClaimValue.encoded, Json.text?, named]

theorem currentUser_loginToken (reliable : library.Reliable)
    (issued : loginToken library issuedAt user = .ok token) :
    currentUser library.tokens now users token = .ok row ↔
      now < loginExpiry issuedAt ∧ users.get? user.id = some row ∧ row.status = .active := by
  obtain ⟨tells, accepted⟩ := decode_loginToken now reliable issued
  constructor
  · intro current
    obtain ⟨payload, subject, id, decoded, named, parsed, found, active⟩ := currentUser_eq_ok current
    obtain ⟨early, reserved⟩ := tells payload (decodeAccessToken_eq_ok decoded).1
    obtain rfl : library.uuidText user.id = subject := by
      simpa [ClaimValue.encoded] using reserved.sub.symm.trans named
    obtain rfl : user.id = id := Except.ok.inj ((reliable.parses user.id).symm.trans parsed)
    exact ⟨early, found, active⟩
  · rintro ⟨early, found, active⟩
    obtain ⟨claims, checked⟩ := accepted early
    obtain ⟨-, reserved⟩ := tells claims checked
    have decoded := decodeAccessToken_of_claims checked reserved (reliable.written user.id)
    have named : tokenUserId library.tokens now token = .ok user.id := by
      simp [tokenUserId, decoded, reserved.sub, ClaimValue.encoded, Json.text?, bind, Except.bind,
        reliable.parses]
    have opened : activeUser users user.id = .ok row := activeUser_eq_ok.mpr ⟨found, active⟩
    simp only [currentUser, named, opened]
    rfl

theorem userWithRole_of_current {tokens : TokenLibrary Token} {roles : List Role}
    (current : currentUser tokens now users token = .ok row) (allowed : row.role ∈ roles) :
    userWithRole tokens now users roles token = .ok row := by
  have checked : requireRoles roles row = .ok row := requireRoles_eq_ok.mpr ⟨rfl, allowed⟩
  simp only [userWithRole, current, bind, Except.bind, checked]
  rfl

end Sessions

section Plain

def uuidHead : String := "00000000-0000-0000-0000-00000000000"

def plainLogins : LoginLibrary (Payload × String) where
  tokens :=
    { plainLibrary with
      parseUuid := fun text =>
        .ok (Nat.ofDigitChars 10 (text.toList.drop uuidHead.length) 0) }
  checkpw := fun password passwordHash => .ok (passwordHash = "$2b$12$" ++ password)
  uuidText := fun userId => uuidHead ++ userId.repr

theorem reliable_plainLogins : plainLogins.Reliable := by
  refine ⟨faithful_plainJwt, ⟨fun payload _ => ⟨_, rfl⟩, ?_⟩, ?_, ?_⟩
  · intro payload token required now time made _ expires early present _
    obtain rfl : (payload, plainLogins.tokens.secretKey) = token := Except.ok.inj made
    refine ⟨payload.mapValues ClaimValue.encoded, if_pos ⟨rfl, ?_, ?_⟩⟩
    · refine List.all_eq_true.mpr fun name asked => decide_eq_true ?_
      rw [InsertionDict.mem_keys_iff, InsertionDict.get?_mapValues]
      obtain ⟨value, found⟩ := Option.ne_none_iff_exists'.mp (present name asked)
      exact ⟨_, by rw [found]; rfl⟩
    · simpa [unexpired, expires, ClaimValue.encoded] using early
  · intro userId
    refine congrArg Except.ok ?_
    rw [plainLogins, String.toList_append, List.drop_left' String.length_toList, Nat.toList_repr]
    exact Nat.ofDigitChars_toDigits (by decide) (by decide)
  · intro userId empty
    exact Nat.repr_ne_empty (String.append_eq_empty_iff.mp empty).2

end Plain

end SqlMonitor.Services
