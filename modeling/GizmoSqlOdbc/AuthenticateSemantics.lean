import GizmoSqlOdbc.OAuthProtocol

/-! What `Authenticate` does to the caller's options, and which options its own
exchanges travel on, over every method and every answer of the service.

A successful `Authenticate` appends exactly one header; a failed one leaves the
caller's options as they were, except `TokenAuthMethod`'s, whose bearer header
is pushed before the validation handshake and stays after it fails. The exchanges
never carry the caller's headers; the user-password and discovery exchanges carry
the login timeout, and the polls carry none. The header the OAuth flow appends is
built from the polled value with a second `Bearer ` prefix, while the user-password
method appends the service's pair as it is. -/
namespace GizmoSqlOdbc.AuthenticateSemantics
open GizmoSqlOdbc.Flight GizmoSqlOdbc.AuthSelection GizmoSqlOdbc.AuthMethods
open GizmoSqlOdbc.OAuthProtocol

/-- The options a method leaves to its caller when it throws: the caller's own,
except that `TokenAuthMethod` has already pushed its bearer header. -/
def optionsAfterFailure (c : FlightCallOptions) : FlightSqlAuthMethod → FlightCallOptions
  | .token token => c.pushHeader (bearerHeader token)
  | _ => c

section
variable (platform : Platform) (client : FlightClient) (connection : FlightSqlConnection)

/-- A token the service rejects still leaves its bearer header in the caller's options. -/
theorem token_failure_keeps_bearer_header :
    let rejecting : FlightClient :=
      ⟨fun _ => .error ⟨"", "", none⟩,
        fun _ => .error ⟨"denied", "", some ⟨.unauthenticated, ""⟩⟩⟩
    let run := (Authenticate .other rejecting ⟨none⟩ (.token "t")).exec (Session.start {})
    run.1 = .error (.authentication "Failed to authenticate with token: t Message: denied") ∧
      run.2.callOptions = { headers := [("authorization", "Bearer t")] } :=
  ⟨rfl, rfl⟩

/-- **Options on exit.** Returning normally, every method has appended exactly one
header to the caller's options, keeping the rest and the timeout; throwing, it
leaves them as `optionsAfterFailure` says. -/
theorem authenticate_call_options_on_exit (method : FlightSqlAuthMethod) (s : Session) :
    match (Authenticate platform client connection method).exec s with
    | (.ok (), s') => ∃ header, s'.callOptions = s.callOptions.pushHeader header
    | (.error _, s') => s'.callOptions = optionsAfterFailure s.callOptions method := by
  cases method with
  | userPassword user password =>
    rw [Authenticate, UserPasswordAuthMethod.exec_Authenticate]
    cases client.basicToken (basicTokenCalls s.requests) with
    | error status => rfl
    | ok header => exact ⟨header, rfl⟩
  | token token =>
    rw [Authenticate, TokenAuthMethod.exec_Authenticate]
    cases client.handshake (handshakeCalls s.requests) with
    | error status => rfl
    | ok _ => exact ⟨_, rfl⟩
  | oauth host port useEncryption =>
    rw [Authenticate, OAuthAuthMethod.exec_Authenticate]
    simp only [oauthProtocol]
    cases discoveryOutcome (client.basicToken (basicTokenCalls s.requests + 0)) with
    | error text => rfl
    | ok url => cases firstTokenPoll _ with
      | none => rfl
      | some k => exact ⟨_, rfl⟩

/-- The user-password method appends the pair the exchange returns, `("authorization",
"Bearer xyz")`; the OAuth flow, polling the same pair, appends
`("authorization", "Bearer Bearer xyz")`. -/
theorem oauth_prefixes_polled_bearer_value :
    let exchange : FlightClient := ⟨fun _ => .ok ("authorization", "Bearer xyz"), fun _ => .ok ()⟩
    let polling : FlightClient :=
      ⟨fun n => if n = 0 then .ok ("", "https://idp.example/authorize")
        else .ok ("authorization", "Bearer xyz"), fun _ => .ok ()⟩
    ((Authenticate .other exchange ⟨none⟩ (.userPassword "u" "p")).exec
        (Session.start {})).2.callOptions.headers = [("authorization", "Bearer xyz")] ∧
      ((Authenticate .other polling ⟨none⟩ (.oauth "localhost" 32010 true)).exec
        (Session.start {})).2.callOptions.headers = [("authorization", "Bearer Bearer xyz")] :=
  ⟨rfl, rfl⟩

/-! ## The options the exchanges travel on -/

/-- Fresh options, with the login timeout or with none. -/
def ExchangeOptions (connection : FlightSqlConnection) (options : FlightCallOptions) : Prop :=
  options = loginTimeoutOptions connection ∨ options = {}

/-- A request that is a basic-token exchange travels on `ExchangeOptions`. -/
def FreshExchange (connection : FlightSqlConnection) : Request → Prop
  | .authenticateBasicToken options _ _ => ExchangeOptions connection options
  | _ => True

/-- Every basic-token exchange among `requests` travels on `ExchangeOptions`. -/
def ExchangesFresh (connection : FlightSqlConnection) (requests : List Request) : Prop :=
  ∀ request ∈ requests, FreshExchange connection request

theorem exchangesFresh_pollRequests (polls : Nat) : ExchangesFresh connection (pollRequests polls) := by
  induction polls with
  | zero => simp [ExchangesFresh]
  | succ polls ih =>
    rw [pollRequests_succ, ExchangesFresh, List.forall_mem_append]
    exact ⟨by simp [FreshExchange, ExchangeOptions, pollRound, pollRequest], ih⟩

/-- The protocol's own requests: discovery on the login options, the launch, and
polls on fresh options. -/
theorem oauthProtocol_exchangesFresh (answers : Nat → OAuthProtocol.Answer) (c : FlightCallOptions) :
    ExchangesFresh connection (oauthProtocol platform connection answers c).2.requests := by
  have launched (url : String) :
      ExchangesFresh connection [discoveryRequest connection, browserRequest platform url] := by
    cases platform <;> simp [ExchangesFresh, FreshExchange, ExchangeOptions, discoveryRequest,
      browserRequest]
  unfold oauthProtocol
  split
  · simp [ExchangesFresh, FreshExchange, ExchangeOptions, discoveryRequest]
  · split <;>
      exact List.forall_mem_append.mpr ⟨launched _, exchangesFresh_pollRequests connection _⟩

/-- **Exchanges never carry the caller's headers.** From any session, every method
only appends requests, and every basic-token exchange among them travels on fresh
options: the login timeout's, or none at all. -/
theorem authenticate_exchanges_on_fresh_options (method : FlightSqlAuthMethod) (s : Session) :
    ∃ issued, ((Authenticate platform client connection method).exec s).2.requests =
      s.requests ++ issued ∧ ExchangesFresh connection issued := by
  cases method with
  | userPassword user password =>
    rw [Authenticate, UserPasswordAuthMethod.exec_Authenticate]
    have fresh : ExchangesFresh connection
        [.authenticateBasicToken (loginTimeoutOptions connection) user password] := by
      simp [ExchangesFresh, FreshExchange, ExchangeOptions]
    cases client.basicToken (basicTokenCalls s.requests) <;> exact ⟨_, rfl, fresh⟩
  | token token =>
    rw [Authenticate, TokenAuthMethod.exec_Authenticate]
    have fresh : ExchangesFresh connection
        [.authenticate (s.callOptions.pushHeader (bearerHeader token))] := by
      simp [ExchangesFresh, FreshExchange]
    cases client.handshake (handshakeCalls s.requests) <;> exact ⟨_, rfl, fresh⟩
  | oauth host port useEncryption =>
    rw [Authenticate, OAuthAuthMethod.exec_Authenticate]
    exact ⟨_, rfl, oauthProtocol_exchangesFresh platform connection _ _⟩

/-- With `LOGIN_TIMEOUT` at 30 s, discovery travels with a 30 s timeout and the poll
with none. -/
theorem poll_ignores_login_timeout :
    let client : FlightClient :=
      ⟨fun n => if n = 0 then .ok ("", "https://idp.example/authorize")
        else .ok ("authorization", "tok"),
        fun _ => .ok ()⟩
    ((Authenticate .other client ⟨some 30⟩ (.oauth "localhost" 32010 true)).exec
        (Session.start {})).2.requests =
      [.authenticateBasicToken { timeout := some 30 } "__discover__" "",
        .system "xdg-open \"https://idp.example/authorize\"",
        .sleepFor 1, .authenticateBasicToken {} "__discover__" ""] :=
  rfl

end

end GizmoSqlOdbc.AuthenticateSemantics
