import Mathlib

/-! The Flight client as the authentication methods see it. A method issues
requests (basic-token exchanges, the generic handshake, sleeps, the browser
launch) and reads the service's answers; the caller's `FlightCallOptions` is the
only other state it touches. `AuthM` threads both, and a thrown exception keeps
every change made before it, exactly as a C++ exception does. Each primitive has
one `exec_…` equation, so later proofs never unfold the monad. -/
namespace GizmoSqlOdbc.Flight

/-- `arrow::flight::FlightStatusCode`. -/
inductive FlightStatusCode where
  | internal | timedOut | cancelled | unauthenticated | unauthorized | unavailable | failed
  deriving DecidableEq, Repr

/-- `arrow::flight::FlightStatusDetail`: the status code and its `extra_info`. -/
structure FlightStatusDetail where
  code : FlightStatusCode
  extraInfo : String
  deriving DecidableEq, Repr

/-- A failed `arrow::Status`. `description` is the text `ToString()` prints, and
`detail` is what `FlightStatusDetail::UnwrapStatus` finds (`nullptr` is `none`). -/
structure Status where
  message : String
  description : String
  detail : Option FlightStatusDetail
  deriving DecidableEq, Repr

/-- `arrow::flight::FlightCallOptions`, reduced to the two fields the driver sets.
A freshly constructed options object is `{}`. -/
structure FlightCallOptions where
  headers : List (String × String) := []
  /-- `TimeoutDuration` in seconds; `none` leaves the transport default. -/
  timeout : Option Nat := none
  deriving DecidableEq, Repr

/-- `call_options.headers.push_back(header)`. -/
def FlightCallOptions.pushHeader (options : FlightCallOptions) (header : String × String) :
    FlightCallOptions :=
  { options with headers := options.headers ++ [header] }

@[simp] theorem FlightCallOptions.pushHeader_headers (options : FlightCallOptions) header :
    (options.pushHeader header).headers = options.headers ++ [header] := rfl

@[simp] theorem FlightCallOptions.pushHeader_timeout (options : FlightCallOptions) header :
    (options.pushHeader header).timeout = options.timeout := rfl

/-- The one connection attribute the methods read: `LOGIN_TIMEOUT`, in seconds,
when the attribute is set. -/
structure FlightSqlConnection where
  loginTimeout : Option UInt32

/-- Where `OAuthAuthMethod::LaunchBrowser` was compiled: macOS, Windows, or else. -/
inductive Platform where
  | apple | windows | other
  deriving DecidableEq, Repr

/-- The exceptions the modelled code throws: the driver's three classes, and the
two `std::stoi` raises. -/
inductive Exception where
  | authentication (message : String)
  | communication (message : String)
  | driver (message : String)
  | invalidArgument
  | outOfRange
  deriving DecidableEq, Repr

/-- Every effect an authentication method has outside the caller's options. `system`
and `shellExecute` carry the C string the call reads. -/
inductive Request where
  | authenticateBasicToken (options : FlightCallOptions) (user password : String)
  | authenticate (options : FlightCallOptions)
  | sleepFor (seconds : Nat)
  | system (command : String)
  | shellExecute (url : String)
  deriving DecidableEq, Repr

@[simp] def Request.isBasicToken : Request → Bool
  | .authenticateBasicToken .. => true
  | _ => false

def Request.isHandshake : Request → Bool
  | .authenticate _ => true
  | _ => false

/-- The Flight service's answers: the `n`-th basic-token exchange of a session
gets `basicToken n`, its `n`-th generic handshake gets `handshake n`. -/
structure FlightClient where
  basicToken : Nat → Except Status (String × String)
  handshake : Nat → Except Status Unit

/-- The caller's options and the requests issued so far, oldest first. -/
structure Session where
  callOptions : FlightCallOptions
  requests : List Request
  deriving DecidableEq, Repr

/-- A session before `Authenticate` runs: the caller's options, nothing issued. -/
def Session.start (callOptions : FlightCallOptions) : Session := ⟨callOptions, []⟩

def Session.issueAll (s : Session) (requests : List Request) : Session :=
  { s with requests := s.requests ++ requests }

@[simp] theorem Session.issueAll_callOptions (s : Session) requests :
    (s.issueAll requests).callOptions = s.callOptions := rfl

@[simp] theorem Session.issueAll_requests (s : Session) requests :
    (s.issueAll requests).requests = s.requests ++ requests := rfl

@[simp] theorem Session.issueAll_nil (s : Session) : s.issueAll [] = s := by
  simp [Session.issueAll]

@[simp] theorem Session.issueAll_issueAll (s : Session) requests requests' :
    (s.issueAll requests).issueAll requests' = s.issueAll (requests ++ requests') := by
  simp [Session.issueAll]

def basicTokenCalls (requests : List Request) : Nat := requests.countP Request.isBasicToken

def handshakeCalls (requests : List Request) : Nat := requests.countP Request.isHandshake

/-- A step of an authentication method: it may throw, and the session it leaves
keeps whatever was done before the throw. -/
abbrev AuthM := ExceptT Exception (StateM Session)

def AuthM.exec (x : AuthM α) (s : Session) : Except Exception α × Session := x.run.run s

def issue (request : Request) : AuthM Unit := modify fun s => s.issueAll [request]

/-- `client_.AuthenticateBasicToken(options, user, password)`. -/
def authenticateBasicToken (client : FlightClient) (options : FlightCallOptions)
    (user password : String) : AuthM (Except Status (String × String)) := do
  let s ← get
  issue (.authenticateBasicToken options user password)
  pure (client.basicToken (basicTokenCalls s.requests))

/-- `client_.Authenticate(options, handler)` with the `NoOpClientAuthHandler`. -/
def authenticate (client : FlightClient) (options : FlightCallOptions) :
    AuthM (Except Status Unit) := do
  let s ← get
  issue (.authenticate options)
  pure (client.handshake (handshakeCalls s.requests))

def getCallOptions : AuthM FlightCallOptions := do pure (← get).callOptions

def pushHeader (header : String × String) : AuthM Unit :=
  modify fun s => { s with callOptions := s.callOptions.pushHeader header }

@[simp] theorem exec_bind (x : AuthM α) (f : α → AuthM β) (s : Session) :
    (x >>= f).exec s = match x.exec s with
      | (.ok a, s') => (f a).exec s'
      | (.error e, s') => (.error e, s') := by
  unfold AuthM.exec
  rcases h : x.run.run s with ⟨_ | a, s'⟩ <;>
    simp only [bind, ExceptT.bind, ExceptT.mk, ExceptT.run, StateT.bind, StateT.run] at h ⊢ <;>
    simp only [h] <;> rfl

@[simp] theorem exec_pure (a : α) (s : Session) : (pure a : AuthM α).exec s = (.ok a, s) := rfl

@[simp] theorem exec_throw (e : Exception) (s : Session) :
    (throw e : AuthM α).exec s = (.error e, s) := rfl

@[simp] theorem exec_issue (request : Request) (s : Session) :
    (issue request).exec s = (.ok (), s.issueAll [request]) := rfl

@[simp] theorem exec_authenticateBasicToken (client : FlightClient) options user password
    (s : Session) :
    (authenticateBasicToken client options user password).exec s =
      (.ok (client.basicToken (basicTokenCalls s.requests)),
        s.issueAll [.authenticateBasicToken options user password]) := rfl

@[simp] theorem exec_authenticate (client : FlightClient) options (s : Session) :
    (authenticate client options).exec s =
      (.ok (client.handshake (handshakeCalls s.requests)), s.issueAll [.authenticate options]) := rfl

@[simp] theorem exec_getCallOptions (s : Session) :
    getCallOptions.exec s = (.ok s.callOptions, s) := rfl

@[simp] theorem exec_pushHeader header (s : Session) :
    (pushHeader header).exec s =
      (.ok (), { s with callOptions := s.callOptions.pushHeader header }) := rfl

@[simp] theorem basicTokenCalls_append (rs rs' : List Request) :
    basicTokenCalls (rs ++ rs') = basicTokenCalls rs + basicTokenCalls rs' := by
  simp [basicTokenCalls]

@[simp] theorem basicTokenCalls_nil : basicTokenCalls [] = 0 := rfl

@[simp] theorem basicTokenCalls_cons (request : Request) (requests : List Request) :
    basicTokenCalls (request :: requests) =
      (if request.isBasicToken then 1 else 0) + basicTokenCalls requests := by
  rw [basicTokenCalls, basicTokenCalls, List.countP_cons, Nat.add_comm]

end GizmoSqlOdbc.Flight
