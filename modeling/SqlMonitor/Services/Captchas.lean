import SqlMonitor.Services.Logins

set_option autoImplicit false

namespace SqlMonitor.Services

variable {Token : Type} {tokens : TokenLibrary Token} {madeAt now : Timestamp} {drawn : Nat}
  {nonce typed : String} {token : Token}

def captchaExpiry (madeAt : Timestamp) : Timestamp :=
  (madeAt + captchaExpireSeconds * 1000000) / 1000000 * 1000000

def MatchesCode (tokens : TokenLibrary Token) (code nonce typed : String) : Prop :=
  typed.length = 6 ∧ typed.toList.all tokens.isDigit = true ∧
    captchaHash tokens typed nonce = captchaHash tokens code nonce

theorem get?_captchaPayload (tokens : TokenLibrary Token) (madeAt : Timestamp)
    (code nonce name : String) :
    (captchaPayload tokens madeAt code nonce).get? name =
      [("type", ClaimValue.json (.string "captcha")),
        ("captcha_hash", .json (.string (captchaHash tokens code nonce))),
        ("nonce", .json (.string nonce)),
        ("exp", .datetime (madeAt + captchaExpireSeconds * 1000000))].lookup name := rfl

theorem keys_captchaPayload (tokens : TokenLibrary Token) (madeAt : Timestamp)
    (code nonce : String) :
    (captchaPayload tokens madeAt code nonce).keys = ["type", "captcha_hash", "nonce", "exp"] := rfl

theorem generateCaptchaCode_digits (inRange : drawn < 1000000) :
    (generateCaptchaCode drawn).length = 6 ∧
      ∀ c ∈ (generateCaptchaCode drawn).toList, c.isDigit = true := by
  have short : (toString drawn).length ≤ 6 := (Nat.length_repr_le_iff (by decide)).mpr inRange
  constructor
  · rw [generateCaptchaCode, String.length_append, String.length_ofList, List.length_replicate]
    omega
  · intro c member
    rw [generateCaptchaCode, String.toList_append, String.toList_ofList] at member
    rcases List.mem_append.mp member with zero | digit
    · rw [List.eq_of_mem_replicate zero]
      rfl
    · have inside : c ∈ Nat.toDigits 10 drawn := by simpa using digit
      exact Nat.isDigit_of_mem_toDigits (by decide) (by decide) inside

theorem verifyCaptcha_of_claims {claims : Claims} {expected : String}
    (checked : tokens.jwt.decode token tokens.secretKey
      ["exp", "type", "captcha_hash", "nonce"] now = some claims)
    (type : claims.get? "type" = some (.string "captcha"))
    (hash : claims.get? "captcha_hash" = some (.string expected))
    (stored : claims.get? "nonce" = some (.string nonce)) :
    verifyCaptcha tokens now token typed = true ↔ typed.length = 6 ∧
      typed.toList.all tokens.isDigit = true ∧ captchaHash tokens typed nonce = expected := by
  unfold verifyCaptcha
  by_cases wellFormed : typed.length = 6 ∧ typed.toList.all tokens.isDigit = true
  · simp [wellFormed, checked, type, hash, stored, Json.text?]
  · have malformed : typed.length ≠ 6 ∨ ¬ typed.toList.all tokens.isDigit = true := by tauto
    rw [if_pos malformed]
    simp only [Bool.false_eq_true, false_iff]
    exact fun both => wellFormed ⟨both.1, both.2.1⟩

theorem verifyCaptcha_challenge (faithful : tokens.jwt.Faithful)
    (accepting : tokens.jwt.Accepting tokens.secretKey) {code : String}
    (encoded : tokens.jwt.encode (captchaPayload tokens madeAt code nonce) tokens.secretKey =
      .ok token) :
    verifyCaptcha tokens now token typed = true ↔
      now < captchaExpiry madeAt ∧ MatchesCode tokens code nonce typed := by
  have read : ∀ claims, tokens.jwt.decode token tokens.secretKey
      ["exp", "type", "captcha_hash", "nonce"] now = some claims →
        (verifyCaptcha tokens now token typed = true ↔ MatchesCode tokens code nonce typed) := by
    intro claims checked
    have same := faithful.claims _ _ _ _ _ _ encoded checked
    refine verifyCaptcha_of_claims checked ?_ ?_ ?_
    · rw [same, get?_captchaPayload]
      rfl
    · rw [same, get?_captchaPayload]
      rfl
    · rw [same, get?_captchaPayload]
      rfl
  constructor
  · intro verified
    obtain ⟨claims, checked, -⟩ := verifyCaptcha_eq_true verified
    have expires := faithful.claims _ _ _ _ _ _ encoded checked "exp"
    rw [get?_captchaPayload] at expires
    exact ⟨faithful.unexpired _ _ _ _ _ _ checked expires, (read claims checked).mp verified⟩
  · rintro ⟨early, typedRight⟩
    have accepted : ∃ claims, tokens.jwt.decode token tokens.secretKey
        ["exp", "type", "captcha_hash", "nonce"] now = some claims := by
      refine accepting.accepts _ token _ now _ encoded ?_ (get?_captchaPayload ..) early ?_ ?_
      · intro value named
        rw [get?_captchaPayload] at named
        exact absurd named.symm (Option.some_ne_none value)
      · simp only [ne_eq, InsertionDict.get?_eq_none_iff, not_not, keys_captchaPayload]
        decide
      · simp only [InsertionDict.get?_eq_none_iff, keys_captchaPayload]
        decide
    obtain ⟨claims, checked⟩ := accepted
    exact (read claims checked).mpr typedRight

theorem captcha_accepted_iff {Token : Type} (tokens : TokenLibrary Token)
    (faithful : tokens.jwt.Faithful) (accepting : tokens.jwt.Accepting tokens.secretKey)
    (digits : ∀ c : Char, c.isDigit = true → tokens.isDigit c = true) {drawn : Nat}
    (inRange : drawn < 1000000) {madeAt : Timestamp} {nonce : String}
    {challenge : CaptchaChallenge Token}
    (created : createCaptchaChallenge tokens madeAt none drawn nonce = .ok challenge)
    (now : Timestamp) (typed : String) :
    (verifyCaptcha tokens now challenge.captchaToken (generateCaptchaCode drawn) = true ↔
      now < captchaExpiry madeAt) ∧
    (verifyCaptcha tokens now challenge.captchaToken typed = true ↔
      now < captchaExpiry madeAt ∧
        MatchesCode tokens (generateCaptchaCode drawn) nonce typed) := by
  obtain ⟨token, encoded, returned⟩ := bind_eq_ok.mp created
  obtain rfl := pure_eq_ok.mp returned
  have checked : ∀ text, verifyCaptcha tokens now token text = true ↔ now < captchaExpiry madeAt ∧
      MatchesCode tokens (generateCaptchaCode drawn) nonce text :=
    fun text => verifyCaptcha_challenge faithful accepting encoded
  refine ⟨?_, checked typed⟩
  obtain ⟨length, shown⟩ := generateCaptchaCode_digits inRange
  have own : MatchesCode tokens (generateCaptchaCode drawn) nonce (generateCaptchaCode drawn) :=
    ⟨length, List.all_eq_true.mpr fun c member => digits c (shown c member), rfl⟩
  rw [checked, and_iff_left own]

theorem captcha_accepted_iff_leadingZeros :
    ∃ challenge, createCaptchaChallenge plainLogins.tokens 0 none 42 "n" = .ok challenge ∧
      (∀ typed, verifyCaptcha plainLogins.tokens 299999999 challenge.captchaToken typed = true ↔
        MatchesCode plainLogins.tokens "000042" "n" typed) ∧
      verifyCaptcha plainLogins.tokens 300000000 challenge.captchaToken "000042" = false := by
  have code : generateCaptchaCode 42 = "000042" := by decide +kernel
  obtain ⟨challenge, created⟩ : ∃ challenge,
      createCaptchaChallenge plainLogins.tokens 0 none 42 "n" = .ok challenge := ⟨_, rfl⟩
  have checked := captcha_accepted_iff plainLogins.tokens reliable_plainLogins.faithful
    reliable_plainLogins.accepting (fun _ digit => digit) (by decide) created
  rw [code] at checked
  refine ⟨challenge, created, ?_, ?_⟩
  · intro typed
    rw [(checked 299999999 typed).2]
    exact and_iff_right (by decide)
  · refine Bool.eq_false_iff.mpr fun verified => ?_
    exact absurd ((checked 300000000 "").1.mp verified) (by decide)

end SqlMonitor.Services
