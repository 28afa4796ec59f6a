import GizmoSqlOdbc.AuthSelection

/-! The three `Authenticate` implementations of `flight_sql_auth_method.cc`, and
one run equation for each. `UserPasswordAuthMethod` and `OAuthAuthMethod::Discover`
issue their exchange on fresh options carrying the login timeout;
`TokenAuthMethod` pushes its bearer header before its validation handshake and
leaves it there whatever the handshake answers; `WaitForToken` polls on options
with no timeout at all. -/
namespace GizmoSqlOdbc.AuthMethods
open GizmoSqlOdbc.Flight GizmoSqlOdbc.AuthSelection

/-- The options of a login exchange: a fresh `FlightCallOptions` whose timeout is
`LOGIN_TIMEOUT` when the attribute is set and positive. The source's second test
`timeout_seconds > 0` repeats the first: a `uint32_t` converts exactly to `double`. -/
def loginTimeoutOptions (connection : FlightSqlConnection) : FlightCallOptions :=
  match connection.loginTimeout with
  | some t => if 0 < t then { timeout := some t.toNat } else {}
  | none => {}

@[simp] theorem loginTimeoutOptions_headers (connection : FlightSqlConnection) :
    (loginTimeoutOptions connection).headers = [] := by
  unfold loginTimeoutOptions; split <;> (try split) <;> rfl

/-- The failure classification `UserPasswordAuthMethod` and `TokenAuthMethod`
share: an unauthenticated status raises the method's own authentication message,
an unavailable one a communication failure, anything else a driver failure. -/
def classifyFailure (authenticationMessage : String) (status : Status) : Exception :=
  match status.detail with
  | some flightStatus =>
    if flightStatus.code = .unauthenticated then .authentication authenticationMessage
    else if flightStatus.code = .unavailable then .communication status.message
    else .driver status.message
  | none => .driver status.message

/-- `UserPasswordAuthMethod::Authenticate`. -/
def UserPasswordAuthMethod.Authenticate (client : FlightClient) (connection : FlightSqlConnection)
    (user password : String) : AuthM Unit := do
  let bearerResult ← authenticateBasicToken client (loginTimeoutOptions connection) user password
  match bearerResult with
  | .error status =>
    throw (classifyFailure
      ("Failed to authenticate with user and password: " ++ status.description) status)
  | .ok header => pushHeader header

/-- The header `TokenAuthMethod` and `OAuthAuthMethod` build from a bare token. -/
def bearerHeader (token : String) : String × String := ("authorization", "Bearer " ++ token)

/-- `TokenAuthMethod::Authenticate`. -/
def TokenAuthMethod.Authenticate (client : FlightClient) (token : String) : AuthM Unit := do
  pushHeader (bearerHeader token)
  let status ← authenticate client (← getCallOptions)
  match status with
  | .ok () => pure ()
  | .error status =>
    throw (classifyFailure
      ("Failed to authenticate with token: " ++ token ++ " Message: " ++ status.message) status)

def discoverUser : String := "__discover__"

/-- `OAuthAuthMethod::Discover`. -/
def OAuthAuthMethod.Discover (client : FlightClient) (connection : FlightSqlConnection) :
    AuthM String := do
  let bearerResult ← authenticateBasicToken client (loginTimeoutOptions connection) discoverUser ""
  match bearerResult with
  | .error status =>
    match status.detail with
    | some flightStatus =>
      if flightStatus.code = .unauthenticated ∧ flightStatus.extraInfo ≠ "" then
        pure flightStatus.extraInfo
      else throw (.authentication ("OAuth discovery failed: " ++ status.description))
    | none => throw (.authentication ("OAuth discovery failed: " ++ status.description))
  | .ok headerPair => pure headerPair.2

/-- What a C function reads of `s.c_str()`: the characters before the first NUL. -/
def c_str (s : String) : String := ⟨s.toList.takeWhile (· ≠ '\x00')⟩

/-- What `OAuthAuthMethod::LaunchBrowser` hands to the operating system: the command
`system` runs, or the URL `ShellExecuteA` opens, each as its `c_str()` reads. -/
def browserRequest : Platform → String → Request
  | .apple, url => .system (c_str ("open \"" ++ url ++ "\""))
  | .windows, url => .shellExecute (c_str url)
  | .other, url => .system (c_str ("xdg-open \"" ++ url ++ "\""))

/-- `OAuthAuthMethod::LaunchBrowser`: fire and forget. -/
def OAuthAuthMethod.LaunchBrowser (platform : Platform) (url : String) : AuthM Unit :=
  issue (browserRequest platform url)

def max_attempts : Nat := 120

/-- The loop of `OAuthAuthMethod::WaitForToken`, over the attempts still to make:
sleep one second, then the sentinel exchange on a fresh `poll_options`. -/
def OAuthAuthMethod.pollAttempts (client : FlightClient) : Nat → AuthM (Option String)
  | 0 => pure none
  | attempts + 1 => do
    issue (.sleepFor 1)
    let result ← authenticateBasicToken client {} discoverUser ""
    match result with
    | .ok headerPair =>
      if headerPair.2 ≠ "" then pure (some headerPair.2)
      else OAuthAuthMethod.pollAttempts client attempts
    | .error _ => OAuthAuthMethod.pollAttempts client attempts

def timedOutMessage : String := "OAuth authentication timed out waiting for browser login."

/-- `OAuthAuthMethod::WaitForToken`. The connection is not read. -/
def OAuthAuthMethod.WaitForToken (client : FlightClient) (_connection : FlightSqlConnection) :
    AuthM String := do
  match ← OAuthAuthMethod.pollAttempts client max_attempts with
  | some token => pure token
  | none => throw (.authentication timedOutMessage)

/-- `OAuthAuthMethod::Authenticate`. -/
def OAuthAuthMethod.Authenticate (platform : Platform) (client : FlightClient)
    (connection : FlightSqlConnection) : AuthM Unit := do
  let oauthUrl ← OAuthAuthMethod.Discover client connection
  OAuthAuthMethod.LaunchBrowser platform oauthUrl
  let bearerToken ← OAuthAuthMethod.WaitForToken client connection
  pushHeader (bearerHeader bearerToken)

/-- The virtual `FlightSqlAuthMethod::Authenticate`, dispatched on the method. -/
def Authenticate (platform : Platform) (client : FlightClient) (connection : FlightSqlConnection) :
    FlightSqlAuthMethod → AuthM Unit
  | .userPassword user password => UserPasswordAuthMethod.Authenticate client connection user password
  | .token token => TokenAuthMethod.Authenticate client token
  | .oauth _ _ _ => OAuthAuthMethod.Authenticate platform client connection

section
variable (client : FlightClient) (connection : FlightSqlConnection) (s : Session)

theorem UserPasswordAuthMethod.exec_Authenticate (user password : String) :
    (UserPasswordAuthMethod.Authenticate client connection user password).exec s =
      let s' := s.issueAll [.authenticateBasicToken (loginTimeoutOptions connection) user password]
      match client.basicToken (basicTokenCalls s.requests) with
      | .ok header => (.ok (), { s' with callOptions := s'.callOptions.pushHeader header })
      | .error status => (.error (classifyFailure
          ("Failed to authenticate with user and password: " ++ status.description) status), s') := by
  simp only [UserPasswordAuthMethod.Authenticate, exec_bind, exec_authenticateBasicToken]
  cases client.basicToken (basicTokenCalls s.requests) <;> rfl

theorem TokenAuthMethod.exec_Authenticate (token : String) :
    (TokenAuthMethod.Authenticate client token).exec s =
      let options := s.callOptions.pushHeader (bearerHeader token)
      let s' := { s with callOptions := options }.issueAll [.authenticate options]
      match client.handshake (handshakeCalls s.requests) with
      | .ok () => (.ok (), s')
      | .error status => (.error (classifyFailure
          ("Failed to authenticate with token: " ++ token ++ " Message: " ++ status.message) status),
          s') := by
  simp only [TokenAuthMethod.Authenticate, exec_bind, exec_pushHeader, exec_getCallOptions,
    exec_authenticate]
  cases client.handshake (handshakeCalls s.requests) <;> rfl

end

end GizmoSqlOdbc.AuthMethods
