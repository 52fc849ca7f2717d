import SqlMonitor.Services.IndexOperations
import SqlMonitor.Services.InstanceDsn
import SqlMonitor.Services.Users

set_option autoImplicit false

namespace SqlMonitor.Services

inductive Json where
  | null
  | bool (value : Bool)
  | integer (value : Int)
  | real (value : Rat)
  | string (value : String)
  | array (items : List Json)
  | object (members : List (String × Json))

def Json.text? : Json → Option String
  | .string value => some value
  | _ => none

inductive ClaimValue where
  | json (value : Json)
  | datetime (time : Timestamp)

-- A time is encoded in whole seconds.
def ClaimValue.encoded : ClaimValue → Json
  | .json value => value
  | .datetime time => .integer (time / 1000000)

abbrev Payload := InsertionDict String ClaimValue

abbrev Claims := InsertionDict String Json

/-- The library that signs and checks tokens; the algorithm is the same everywhere. -/
structure Jwt (Token : Type) where
  encode : Payload → String → Raises Token
  -- `none` for every `InvalidTokenError`.
  decode : Token → String → List String → Timestamp → Option Claims

structure Jwt.Faithful {Token : Type} (jwt : Jwt Token) : Prop where
  claims : ∀ payload key token required now claims, jwt.encode payload key = .ok token →
    jwt.decode token key required now = some claims →
      ∀ name, claims.get? name = (payload.get? name).map ClaimValue.encoded
  unexpired : ∀ token key required now claims seconds,
    jwt.decode token key required now = some claims →
      claims.get? "exp" = some (.integer seconds) → now < seconds * 1000000

structure TokenLibrary (Token : Type) where
  jwt : Jwt Token
  secretKey : String
  -- `uuid.UUID`.
  parseUuid : String → Raises Uuid
  sha256Hex : String → String
  -- `str.isdigit`, for a single character.
  isDigit : Char → Bool

variable {Token : Type} (library : TokenLibrary Token) (now : Timestamp)

section AccessTokens

def accessTokenExpireMinutes : Int := 60

def reservedAccessTokenClaims : List String := ["exp", "sub", "type"]

-- `expires_delta or timedelta(...)`: a delta of zero is none.
def expireAt (now : Timestamp) (expiresDelta : Option Int) : Timestamp :=
  now + (expiresDelta.filter (· ≠ 0)).getD (accessTokenExpireMinutes * 60 * 1000000)

-- The reserved claims are listed in the order that sorting gives them.
def conflictingClaims (additionalClaims : Payload) : List String :=
  reservedAccessTokenClaims.filter (· ∈ additionalClaims.keys)

def accessPayload (subject role : String) (additionalClaims : Option Payload)
    (expiresDelta : Option Int) : Payload :=
  let payload : Payload := .ofList
    [("sub", .json (.string subject)), ("role", .json (.string role)),
      ("type", .json (.string "access")), ("exp", .datetime (expireAt now expiresDelta))]
  payload.update (additionalClaims.getD .empty)

def createAccessToken (subject role : String) (additionalClaims : Option Payload)
    (expiresDelta : Option Int) : Raises Token :=
  let conflicting := conflictingClaims (additionalClaims.getD .empty)
  if conflicting ≠ [] then
    .error (valueError ("additional_claims 不允许覆盖保留 claim: " ++ ", ".intercalate conflicting))
  else
    library.jwt.encode (accessPayload now subject role additionalClaims expiresDelta)
      library.secretKey

theorem keyError_named : "KeyError" ≠ "" := by decide

def keyError (key : String) : PyException := ⟨"KeyError", "'" ++ key ++ "'", keyError_named⟩

def decodeAccessToken (token : Token) : Raises Claims :=
  match library.jwt.decode token library.secretKey ["exp", "sub", "type"] now with
  | none => .error (valueError "无效的访问令牌")
  | some payload =>
    if ((payload.get? "sub").bind Json.text?).getD "" = "" then .error (valueError "无效的令牌主体")
    else
      match payload.get? "type" with
      | none => .error (keyError "type")
      | some kind =>
        if kind.text? = some "access" then .ok payload else .error (valueError "无效的令牌类型")

end AccessTokens

section Captchas

def captchaExpireSeconds : Int := 300

structure CaptchaChallenge (Token : Type) where
  captchaToken : Token
  imageDataUrl : String
  expiresInSeconds : Int

def generateCaptchaCode (drawn : Nat) : String :=
  String.ofList (List.replicate (6 - (toString drawn).length) '0') ++ toString drawn

def captchaHash (code nonce : String) : String :=
  library.sha256Hex (code ++ ":" ++ nonce ++ ":" ++ library.secretKey)

-- `html.escape`
def escapeHtml (text : String) : String :=
  String.join (text.toList.map fun c =>
    if c = '&' then "&amp;" else if c = '<' then "&lt;" else if c = '>' then "&gt;"
    else if c = '"' then "&quot;" else if c = '\'' then "&#x27;" else c.toString)

def renderSvgDataUrl (code : String) : String :=
  let svg :=
    "<svg xmlns=\"http://www.w3.org/2000/svg\" width=\"132\" height=\"44\" viewBox=\"0 0 132 44\">\n" ++
    "  <rect width=\"132\" height=\"44\" rx=\"6\" fill=\"#F8FAFC\"/>\n" ++
    "  <path d=\"M8 12 C24 4, 38 20, 54 12 S88 4, 124 14\" fill=\"none\" stroke=\"#CBD5E1\" stroke-width=\"2\"/>\n" ++
    "  <path d=\"M10 34 C30 24, 42 40, 62 30 S94 22, 122 34\" fill=\"none\" stroke=\"#E2E8F0\" stroke-width=\"2\"/>\n" ++
    "  <text x=\"66\" y=\"29\" text-anchor=\"middle\" " ++
    "font-family=\"ui-monospace, SFMono-Regular, Menlo, Consolas, monospace\" font-size=\"24\" " ++
    "font-weight=\"700\" letter-spacing=\"4\" fill=\"#1E293B\">" ++ escapeHtml code ++ "</text>\n</svg>"
  "data:image/svg+xml;base64," ++ String.ofList (Base64.encode (utf8Bytes svg))

def captchaPayload (code nonce : String) : Payload :=
  .ofList [("type", .json (.string "captcha")),
    ("captcha_hash", .json (.string (captchaHash library code nonce))),
    ("nonce", .json (.string nonce)), ("exp", .datetime (now + captchaExpireSeconds * 1000000))]

def createCaptchaChallenge (code : Option String) (drawn : Nat) (nonce : String) :
    Raises (CaptchaChallenge Token) := do
  let captchaCode := (code.filter (· ≠ "")).getD (generateCaptchaCode drawn)
  let token ← library.jwt.encode (captchaPayload library now captchaCode nonce) library.secretKey
  return ⟨token, renderSvgDataUrl captchaCode, captchaExpireSeconds⟩

def verifyCaptcha (captchaToken : Token) (captchaCode : String) : Bool :=
  if captchaCode.length ≠ 6 ∨ ¬ captchaCode.toList.all library.isDigit then false
  else
    match library.jwt.decode captchaToken library.secretKey
      ["exp", "type", "captcha_hash", "nonce"] now with
    | none => false
    | some payload =>
      if (payload.get? "type").bind Json.text? ≠ some "captcha" then false
      else
        match (payload.get? "captcha_hash").bind Json.text?, (payload.get? "nonce").bind Json.text? with
        | some expectedHash, some nonce => captchaHash library captchaCode nonce = expectedHash
        | _, _ => false

end Captchas

section Requests

-- What ends a request: an answer with an error, or an exception that no one catches.
inductive Refusal where
  | http (error : HttpError)
  | raised (exc : PyException)

-- The subject is a text once `decode_access_token` has returned.
def tokenUserId (token : Token) : Raises Uuid := do
  let payload ← decodeAccessToken library now token
  library.parseUuid (((payload.get? "sub").bind Json.text?).getD "")

def currentUser (users : UserTable) (token : Token) : Except Refusal UserRow :=
  match tokenUserId library now token with
  | .error exc =>
    if exc.className ∈ ["TypeError", "ValueError"] then .error (.http credentialsError)
    else .error (.raised exc)
  | .ok userId => (activeUser users userId).mapError .http

-- The dependency that `require_roles` makes, behind `current_user`.
def userWithRole (users : UserTable) (roles : List Role) (token : Token) :
    Except Refusal UserRow := do
  let user ← currentUser library now users token
  (requireRoles roles user).mapError .http

end Requests

end SqlMonitor.Services
