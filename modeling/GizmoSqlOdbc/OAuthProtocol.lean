import GizmoSqlOdbc.AuthMethods

/-! The OAuth flow of `OAuthAuthMethod::Authenticate` as a protocol against the
service's answers. `oauthProtocol` says what the three phases do, in the spec's
terms, with its literals written out: one discovery exchange as `__discover__` whose
answer yields a URL or ends the run, one browser launch with that URL, then sentinel
polls one second apart until the first answer that carries a token, appended as
`("authorization", "Bearer " + token)`, or 120 polls. `exec_Authenticate` proves
that the code runs exactly this protocol from any session: the same outcome, the
same requests in the same order, the same options left to the caller.

The answers are any function of the exchange's position, so every interleaving of
failures, empty tokens and successes the service might produce is covered. -/
namespace GizmoSqlOdbc.OAuthProtocol
open GizmoSqlOdbc.Flight GizmoSqlOdbc.AuthSelection GizmoSqlOdbc.AuthMethods

/-- One answer of `AuthenticateBasicToken`. -/
abbrev Answer := Except Status (String × String)

/-- How discovery reads its answer: a success gives its second element as the
URL; a failure gives a URL only when it is `Unauthenticated` with a non-empty
`extra_info`; any other answer ends discovery with the status text. -/
def discoveryOutcome : Answer → Except String String
  | .ok (_, url) => .ok url
  | .error status =>
    match status.detail with
    | some ⟨.unauthenticated, extraInfo⟩ =>
      if extraInfo = "" then .error status.description else .ok extraInfo
    | _ => .error status.description

/-- The token a poll answer carries: a success with a non-empty second element. -/
def polledToken : Answer → Option String
  | .ok (_, token) => if token = "" then none else some token
  | .error _ => none

/-- The first poll whose answer carries a token, among the 120 polls. Polls are
numbered from 1: answer 0 is discovery's. -/
def firstTokenPoll (answers : Nat → Answer) : Option Nat :=
  (List.range' 1 120).find? fun k => (polledToken (answers k)).isSome

/-- `firstTokenPoll` is the least poll number in `1..120` with a token. -/
theorem firstTokenPoll_eq_some_iff (answers : Nat → Answer) (k : Nat) :
    firstTokenPoll answers = some k ↔
      1 ≤ k ∧ k ≤ 120 ∧ (polledToken (answers k)).isSome ∧
        ∀ j, 1 ≤ j → j < k → polledToken (answers j) = none := by
  simp only [firstTokenPoll, List.find?_range'_eq_some, List.mem_range'_1, Bool.not_eq_true',
    ← Option.not_isSome_iff_eq_none, Bool.not_eq_true]
  constructor
  · rintro ⟨token, ⟨low, high⟩, before⟩
    exact ⟨low, by omega, token, before⟩
  · rintro ⟨low, high, token, before⟩
    exact ⟨token, ⟨low, by omega⟩, before⟩

def discoveryRequest (connection : FlightSqlConnection) : Request :=
  .authenticateBasicToken (loginTimeoutOptions connection) "__discover__" ""

def pollRequest : Request := .authenticateBasicToken {} "__discover__" ""

/-- One round of `WaitForToken`: a one-second sleep, then the sentinel exchange. -/
def pollRound : List Request := [.sleepFor 1, pollRequest]

def pollRequests (polls : Nat) : List Request := (List.replicate polls pollRound).flatten

@[simp] theorem pollRequests_zero : pollRequests 0 = [] := rfl

theorem pollRequests_succ (polls : Nat) : pollRequests (polls + 1) = pollRound ++ pollRequests polls :=
  rfl

def discoveryFailed (text : String) : Exception := .authentication ("OAuth discovery failed: " ++ text)

/-- The three-phase protocol against `answers` (answer 0 is discovery's), from the
caller's options `c`: its outcome, and the options and requests it leaves. -/
def oauthProtocol (platform : Platform) (connection : FlightSqlConnection)
    (answers : Nat → Answer) (c : FlightCallOptions) : Except Exception Unit × Session :=
  match discoveryOutcome (answers 0) with
  | .error text => (.error (discoveryFailed text), ⟨c, [discoveryRequest connection]⟩)
  | .ok url =>
    let launched := [discoveryRequest connection, browserRequest platform url]
    match firstTokenPoll answers with
    | some k =>
      -- poll `k` was chosen for its token, so `getD` never falls back
      (.ok (), ⟨c.pushHeader ("authorization", "Bearer " ++ (polledToken (answers k)).getD ""),
        launched ++ pollRequests k⟩)
    | none =>
      (.error (.authentication "OAuth authentication timed out waiting for browser login."),
        ⟨c, launched ++ pollRequests 120⟩)

section
variable (platform : Platform) (client : FlightClient) (connection : FlightSqlConnection)

theorem Discover_exec (s : Session) :
    (OAuthAuthMethod.Discover client connection).exec s =
      ((discoveryOutcome (client.basicToken (basicTokenCalls s.requests))).mapError discoveryFailed,
        s.issueAll [discoveryRequest connection]) := by
  simp only [OAuthAuthMethod.Discover, exec_bind, exec_authenticateBasicToken]
  rcases client.basicToken (basicTokenCalls s.requests) with
    ⟨message, description, _ | ⟨code, extraInfo⟩⟩ | headerPair
  · rfl
  · by_cases empty : extraInfo = "" <;> cases code <;>
      simp [discoveryOutcome, empty, discoveryRequest, discoveryFailed, Except.mapError, discoverUser]
  · rfl

/-- One round of the poll loop: a token ends it, anything else goes on to the next. -/
theorem pollAttempts_succ_exec (attempts : Nat) (s : Session) :
    (OAuthAuthMethod.pollAttempts client (attempts + 1)).exec s =
      match polledToken (client.basicToken (basicTokenCalls s.requests)) with
      | some token => (.ok (some token), s.issueAll pollRound)
      | none => (OAuthAuthMethod.pollAttempts client attempts).exec (s.issueAll pollRound) := by
  have asleep : basicTokenCalls (s.requests ++ [.sleepFor 1]) = basicTokenCalls s.requests := by simp
  simp only [OAuthAuthMethod.pollAttempts, exec_bind, exec_issue, exec_authenticateBasicToken,
    Session.issueAll_requests, asleep, Session.issueAll_issueAll, List.singleton_append]
  rcases client.basicToken (basicTokenCalls s.requests) with status | ⟨name, token⟩
  · rfl
  · by_cases empty : token = "" <;> simp [polledToken, empty] <;> rfl

/-- The whole poll loop: it stops at the first answer carrying a token, after as
many rounds as it took, or runs all its attempts. -/
theorem pollAttempts_exec (attempts : Nat) (s : Session) :
    (OAuthAuthMethod.pollAttempts client attempts).exec s =
      match (List.range' (basicTokenCalls s.requests) attempts).find?
          (fun k => (polledToken (client.basicToken k)).isSome) with
      | some k => (.ok (polledToken (client.basicToken k)),
          s.issueAll (pollRequests (k + 1 - basicTokenCalls s.requests)))
      | none => (.ok none, s.issueAll (pollRequests attempts)) := by
  induction attempts generalizing s with
  | zero => simp [OAuthAuthMethod.pollAttempts]
  | succ attempts ih =>
    rw [pollAttempts_succ_exec, List.range'_succ, List.find?_cons]
    cases token : polledToken (client.basicToken (basicTokenCalls s.requests)) with
    | some token => simp [token, pollRequests_succ]
    | none =>
      have next : basicTokenCalls (s.issueAll pollRound).requests = basicTokenCalls s.requests + 1 := by
        simp [pollRound, pollRequest]
      simp only [Option.isSome_none, ih, next]
      rcases found : (List.range' (basicTokenCalls s.requests + 1) attempts).find?
          (fun k => (polledToken (client.basicToken k)).isSome) with _ | k
      · simp [pollRequests_succ]
      · have later := List.mem_range'_1.mp (List.mem_of_find?_eq_some found)
        have rounds : k + 1 - basicTokenCalls s.requests =
            k + 1 - (basicTokenCalls s.requests + 1) + 1 := by omega
        simp [rounds, pollRequests_succ]

theorem WaitForToken_exec (s : Session) :
    (OAuthAuthMethod.WaitForToken client connection).exec s =
      match (List.range' (basicTokenCalls s.requests) max_attempts).find?
          (fun k => (polledToken (client.basicToken k)).isSome) with
      | some k => (.ok ((polledToken (client.basicToken k)).getD ""),
          s.issueAll (pollRequests (k + 1 - basicTokenCalls s.requests)))
      | none => (.error (.authentication timedOutMessage), s.issueAll (pollRequests max_attempts)) := by
  simp only [OAuthAuthMethod.WaitForToken, exec_bind, pollAttempts_exec]
  rcases found : (List.range' (basicTokenCalls s.requests) max_attempts).find?
      (fun k => (polledToken (client.basicToken k)).isSome) with _ | k
  · rfl
  · have carries := List.find?_some found
    obtain ⟨token, carried⟩ := Option.isSome_iff_exists.mp carries
    simp [carried]

private theorem find?_range'_succ_shift (p : Nat → Bool) (first n : Nat) :
    (List.range' (first + 1) n).find? p =
      ((List.range' 1 n).find? fun k => p (first + k)).map (first + ·) := by
  rw [← List.map_add_range', List.find?_map]
  rfl

/-- **The code runs the protocol.** From any session, `OAuthAuthMethod::Authenticate`
ends as `oauthProtocol` says on the answers still to come, appending exactly the
protocol's requests to those already issued. -/
theorem OAuthAuthMethod.exec_Authenticate (s : Session) :
    (OAuthAuthMethod.Authenticate platform client connection).exec s =
      let run := oauthProtocol platform connection
        (fun i => client.basicToken (basicTokenCalls s.requests + i)) s.callOptions
      (run.1, ⟨run.2.callOptions, s.requests ++ run.2.requests⟩) := by
  simp only [OAuthAuthMethod.Authenticate, exec_bind, Discover_exec, oauthProtocol, Nat.add_zero]
  cases discoveryOutcome (client.basicToken (basicTokenCalls s.requests)) with
  | error text => rfl
  | ok url =>
    have next : basicTokenCalls
        (s.issueAll [discoveryRequest connection, browserRequest platform url]).requests =
          basicTokenCalls s.requests + 1 := by
      cases platform <;> simp [discoveryRequest, browserRequest]
    simp only [Except.mapError, OAuthAuthMethod.LaunchBrowser, exec_issue, Session.issueAll_issueAll,
      List.singleton_append, WaitForToken_exec, next, firstTokenPoll, max_attempts]
    rw [find?_range'_succ_shift]
    cases (List.range' 1 120).find?
        (fun k => (polledToken (client.basicToken (basicTokenCalls s.requests + k))).isSome) with
    | none => rfl
    | some k =>
      simp only [Option.map_some', Nat.add_sub_add_right, Nat.add_sub_cancel_left, exec_pushHeader,
        Session.issueAll_issueAll]
      rfl

/-- **The three phases.** Against every sequence of answers, OAuth's `Authenticate`
from the caller's options `c` issues one discovery exchange, launches the browser
once with the URL it yields (or stops with the discovery error), and then polls
until the first token among 120 polls, appending one bearer header
built from it, or stops with the timeout error after all of them. -/
theorem oauth_authenticate_runs_protocol (host : String) (port : Int) (useEncryption : Bool)
    (c : FlightCallOptions) :
    (Authenticate platform client connection (.oauth host port useEncryption)).exec
        (Session.start c) =
      oauthProtocol platform connection client.basicToken c := by
  simp only [Authenticate, OAuthAuthMethod.exec_Authenticate, Session.start, basicTokenCalls_nil,
    Nat.zero_add, List.nil_append]

/-! ## Outcome and request sequence -/

theorem firstTokenPoll_isSome_iff (answers : Nat → Answer) :
    (firstTokenPoll answers).isSome ↔
      ∃ k, 1 ≤ k ∧ k ≤ 120 ∧ (polledToken (answers k)).isSome := by
  simp only [firstTokenPoll, List.find?_isSome, List.mem_range'_1]
  constructor
  · rintro ⟨k, ⟨low, high⟩, token⟩
    exact ⟨k, low, by omega, token⟩
  · rintro ⟨k, low, high, token⟩
    exact ⟨k, ⟨low, by omega⟩, token⟩

theorem oauthProtocol_ok_iff (answers : Nat → Answer) (c : FlightCallOptions) :
    (oauthProtocol platform connection answers c).1 = .ok () ↔
      (∃ url, discoveryOutcome (answers 0) = .ok url) ∧ (firstTokenPoll answers).isSome := by
  unfold oauthProtocol
  cases discoveryOutcome (answers 0) with
  | error text => simp
  | ok url => cases firstTokenPoll answers <;> simp

/-- **When the flow succeeds.** From any session, OAuth's `Authenticate` returns
normally exactly when discovery yields a URL and one of the next 120 answers carries a
token. -/
theorem oauth_authenticate_ok_iff (host : String) (port : Int) (useEncryption : Bool) (s : Session) :
    ((Authenticate platform client connection (.oauth host port useEncryption)).exec s).1 = .ok () ↔
      (∃ url, discoveryOutcome (client.basicToken (basicTokenCalls s.requests)) = .ok url) ∧
        ∃ k, 1 ≤ k ∧ k ≤ 120 ∧
          (polledToken (client.basicToken (basicTokenCalls s.requests + k))).isSome := by
  simp only [Authenticate, OAuthAuthMethod.exec_Authenticate, oauthProtocol_ok_iff,
    firstTokenPoll_isSome_iff, Nat.add_zero]

/-- What the protocol issues: discovery alone, or discovery, the launch with the URL
discovery yielded and at most 120 sleep-and-poll rounds. -/
theorem oauthProtocol_requests (answers : Nat → Answer) (c : FlightCallOptions) :
    (oauthProtocol platform connection answers c).2.requests = [discoveryRequest connection] ∨
      ∃ url k, discoveryOutcome (answers 0) = .ok url ∧ k ≤ 120 ∧
        (oauthProtocol platform connection answers c).2.requests =
          discoveryRequest connection :: browserRequest platform url :: pollRequests k := by
  unfold oauthProtocol
  cases discoveryOutcome (answers 0) with
  | error text => exact .inl rfl
  | ok url =>
    refine .inr ⟨url, ?_⟩
    cases found : firstTokenPoll answers with
    | none => exact ⟨120, rfl, le_refl _, rfl⟩
    | some k => exact ⟨k, rfl, ((firstTokenPoll_eq_some_iff answers k).mp found).2.1, rfl⟩

/-- **The flow issues its three phases and nothing else.** From any session, OAuth's
`Authenticate` appends to the requests already issued one discovery exchange, then
either nothing more, or one browser launch with the URL discovery yielded followed by
at most 120 rounds of a one-second sleep and a sentinel poll. -/
theorem oauth_authenticate_request_sequence (host : String) (port : Int) (useEncryption : Bool)
    (s : Session) :
    ∃ appended, ((Authenticate platform client connection (.oauth host port useEncryption)).exec
        s).2.requests = s.requests ++ appended ∧
      (appended = [discoveryRequest connection] ∨
        ∃ url k, discoveryOutcome (client.basicToken (basicTokenCalls s.requests)) = .ok url ∧
          k ≤ 120 ∧
          appended = discoveryRequest connection :: browserRequest platform url :: pollRequests k) := by
  simp only [Authenticate, OAuthAuthMethod.exec_Authenticate]
  exact ⟨_, rfl, by
    simpa only [Nat.add_zero] using oauthProtocol_requests platform connection _ s.callOptions⟩

end

end GizmoSqlOdbc.OAuthProtocol
