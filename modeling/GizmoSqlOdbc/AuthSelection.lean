import GizmoSqlOdbc.Flight

/-! `FlightSqlAuthMethod::FromProperties`: which authentication method a
connection's properties select. `auth-type = external` selects OAuth whatever
else is set, with the port read by `std::stoi`. Otherwise the user and the
password are resolved as a pair: `User` (or `User ID`) goes with `Password`, and
when that pair is incomplete both sides are read again from `UID` and `PWD`. A
found `User` without a `Password` is therefore dropped, not paired with an empty
password; `credentialSelection` states the rule and `from_properties_pairs_credentials`
proves the code follows it. -/
namespace GizmoSqlOdbc.AuthSelection
open GizmoSqlOdbc.Flight

/-- Modelled from the spec: `Connection::ConnPropertyMap`, whose definition is not in
the sources. The spec's data model makes its keys case-sensitive, so a key is found
only under its exact spelling: `List.lookup` is `std::map::find`, a key is present
when it finds a value, and an assignment puts its pair in front. -/
abbrev ConnPropertyMap := List (String × String)

/-- The key names of `FlightSqlConnection`, whose definitions are not in the sources.
The sources write four of them: `User ID` and `Password` in the comment on the
MSDASQL bridge, `UID` and `PWD` in the comment on the aliases and in `SQLConnect`,
and `authType` in the credentials message. The others are spelled as their
constants are named; only their being distinct is used. -/
def AUTH_TYPE : String := "authType"
def HOST : String := "Host"
def PORT : String := "Port"
def USE_ENCRYPTION : String := "useEncryption"
def USER : String := "User"
def USER_ID : String := "User ID"
def PASSWORD : String := "Password"
def UID : String := "UID"
def PWD : String := "PWD"
def TOKEN : String := "Token"

/-- The characters `isspace` accepts in the C locale. -/
def isCSpace (c : Char) : Bool :=
  c = ' ' || c = '\t' || c = '\n' || c = '\x0B' || c = '\x0C' || c = '\r'

/-- The value of a run of decimal digits. -/
def decimalValue (digits : List Char) : Nat :=
  digits.foldl (fun n d => 10 * n + (d.toNat - '0'.toNat)) 0

/-- `std::stoi(s)`, base 10: `strtol` skips leading white space, reads an optional
sign and the longest run of digits after it, and ignores whatever follows. No digit
raises `std::invalid_argument`; a value outside `int` raises `std::out_of_range`. -/
def stoi (s : String) : Except Exception Int :=
  let body := s.toList.dropWhile isCSpace
  let (negative, rest) : Bool × List Char := match body with
    | '-' :: rest => (true, rest)
    | '+' :: rest => (false, rest)
    | _ => (false, body)
  let digits := rest.takeWhile Char.isDigit
  if digits = [] then .error .invalidArgument
  else
    let value : Int := if negative then -(decimalValue digits : Int) else decimalValue digits
    if value < -2 ^ 31 ∨ 2 ^ 31 ≤ value then .error .outOfRange else .ok value

/-- Modelled from the spec: `odbcabstraction::AsBool`, which is not in the sources.
The spec only says the encryption flag is overridden by a boolean-parseable value;
`true`/`false` and `1`/`0`, in any case, are the values read here. -/
def AsBool (value : String) : Option Bool :=
  let lower := value.toLower
  if lower = "true" ∨ lower = "1" then some true
  else if lower = "false" ∨ lower = "0" then some false
  else none

/-- The three authentication methods, with what each stores. -/
inductive FlightSqlAuthMethod where
  | userPassword (user password : String)
  | token (token : String)
  | oauth (host : String) (port : Int) (useEncryption : Bool)
  deriving DecidableEq, Repr

def credentialsRequired : String :=
  "Authentication credentials are required. " ++
    "Provide user/password, a token, or set authType=external for OAuth."

/-- `FlightSqlAuthMethod::FromProperties`. -/
def FromProperties (properties : ConnPropertyMap) : Except Exception FlightSqlAuthMethod :=
  if properties.lookup AUTH_TYPE = some "external" then do
    let host := (properties.lookup HOST).getD "localhost"
    let port ← match properties.lookup PORT with
      | some port => stoi port
      | none => pure 32010
    let useEncryption := ((properties.lookup USE_ENCRYPTION).bind AsBool).getD true
    pure (.oauth host port useEncryption)
  else
    let itUser := (properties.lookup USER).orElse fun _ => properties.lookup USER_ID
    let itPassword := properties.lookup PASSWORD
    let itToken := properties.lookup TOKEN
    let (itUser, itPassword) :=
      if itUser.isNone || itPassword.isNone then (properties.lookup UID, properties.lookup PWD)
      else (itUser, itPassword)
    if itUser.isSome || itPassword.isSome then
      pure (.userPassword (itUser.getD "") (itPassword.getD ""))
    else match itToken with
      | some token => pure (.token token)
      | none => throw (.authentication credentialsRequired)

/-- The comment on the pair rule calls `UID` and `PWD` aliases for `User` and
`Password`, yet the primary keys lose to their aliases: `{User: alice, PWD: pw}` logs
in as `("", "pw")`, and `{User: alice}` raises the credentials error where
`{UID: alice}` logs in as `alice`. -/
theorem from_properties_drops_user_beside_pwd :
    FromProperties [(USER, "alice"), (PWD, "pw")] = .ok (.userPassword "" "pw") ∧
      FromProperties [(USER, "alice")] = .error (.authentication credentialsRequired) ∧
      FromProperties [(UID, "alice")] = .ok (.userPassword "alice" "") :=
  ⟨rfl, rfl, rfl⟩

/-- The properties `SQLConnect` and `SQLConnectW` hand to `connect`: those loaded from
the DSN, then `properties["UID"]` and `properties["PWD"]` set from the user name and
the password that are given (`none` for a null pointer), as decoded text. -/
def SQLConnectProperties (dsnProperties : ConnPropertyMap) (userName auth : Option String) :
    ConnPropertyMap :=
  let withUser := match userName with
    | some user => (UID, user) :: dsnProperties
    | none => dsnProperties
  match auth with
  | some password => (PWD, password) :: withUser
  | none => withUser

theorem lookup_connect_of_ne (D : ConnPropertyMap) (u w key : String)
    (notUid : key ≠ UID) (notPwd : key ≠ PWD) :
    (SQLConnectProperties D (some u) (some w)).lookup key = D.lookup key := by
  simp [SQLConnectProperties, List.lookup_cons, beq_false_of_ne notUid, beq_false_of_ne notPwd]

/-- A DSN that stores a `User` and a `Password` overrides the arguments of `SQLConnect`. -/
theorem dsn_credentials_override_connect :
    FromProperties (SQLConnectProperties [(USER, "dsn-user"), (PASSWORD, "dsn-secret")]
      (some "alice") (some "secret")) = .ok (.userPassword "dsn-user" "dsn-secret") := rfl

/-- **Whose credentials `SQLConnect` logs in with.** For every DSN whose auth-type is
not `external` and every user name `u` and password `w` given to `SQLConnect`, the
method selected is the DSN's own `User` (else `User ID`) with its `Password` when the
DSN stores both, and `UserPasswordAuthMethod(u, w)` otherwise. -/
theorem connect_credentials_yield_to_dsn_pair (D : ConnPropertyMap) (u w : String)
    (notExternal : D.lookup AUTH_TYPE ≠ some "external") :
    FromProperties (SQLConnectProperties D (some u) (some w)) =
      .ok (match (D.lookup USER).orElse (fun _ => D.lookup USER_ID), D.lookup PASSWORD with
        | some user, some password => .userPassword user password
        | _, _ => .userPassword u w) := by
  have uid : (SQLConnectProperties D (some u) (some w)).lookup UID = some u := by
    simp [SQLConnectProperties, List.lookup_cons, UID, PWD]
  have pwd : (SQLConnectProperties D (some u) (some w)).lookup PWD = some w := by
    simp [SQLConnectProperties]
  simp only [FromProperties, uid, pwd,
    lookup_connect_of_ne D u w AUTH_TYPE (by decide) (by decide),
    lookup_connect_of_ne D u w USER (by decide) (by decide),
    lookup_connect_of_ne D u w USER_ID (by decide) (by decide),
    lookup_connect_of_ne D u w PASSWORD (by decide) (by decide), if_neg notExternal]
  cases (D.lookup USER).orElse fun _ => D.lookup USER_ID <;> cases D.lookup PASSWORD <;> rfl

theorem connect_credentials_without_dsn_pair :
    [(USER, "dsn-user")].lookup AUTH_TYPE ≠ some "external" ∧
      FromProperties (SQLConnectProperties [(USER, "dsn-user")] (some "alice") (some "secret")) =
        .ok (match ([(USER, "dsn-user")].lookup USER).orElse
            (fun _ => [(USER, "dsn-user")].lookup USER_ID),
            [(USER, "dsn-user")].lookup PASSWORD with
          | some user, some password => .userPassword user password
          | _, _ => .userPassword "alice" "secret") :=
  ⟨by decide, connect_credentials_yield_to_dsn_pair _ _ _ (by decide)⟩

/-! ### What `std::stoi` accepts as a port -/

/-- The numeral `strtol` reads from `s`, with its signed value `v` before the range
check: C-locale white space, an optional sign, a nonempty run of decimal digits, and a
rest that does not continue the run. -/
def StoiNumeral (s : String) (v : Int) : Prop :=
  ∃ ws sign digits rest, s.toList = ws ++ sign ++ digits ++ rest ∧
    (∀ c ∈ ws, isCSpace c) ∧ (sign = [] ∨ sign = ['+'] ∨ sign = ['-']) ∧
    digits ≠ [] ∧ (∀ c ∈ digits, c.isDigit) ∧ (∀ c r, rest = c :: r → c.isDigit = false) ∧
    v = (if sign = ['-'] then -(decimalValue digits : Int) else decimalValue digits)

/-- What `std::stoi` reads as `n`: a numeral whose value `n` is an `int`. -/
def StoiAccepts (s : String) (n : Int) : Prop :=
  StoiNumeral s n ∧ -2 ^ 31 ≤ n ∧ n < 2 ^ 31

theorem isCSpace_of_isDigit {c : Char} (digit : c.isDigit) : isCSpace c = false := by
  unfold isCSpace
  by_contra space
  simp only [Bool.not_eq_false, Bool.or_eq_true, decide_eq_true_eq] at space
  rcases space with (((((rfl | rfl) | rfl) | rfl) | rfl) | rfl) <;> exact absurd digit (by decide)

theorem takeWhile_digits {digits rest : List Char} (allDigits : ∀ c ∈ digits, c.isDigit)
    (stop : ∀ c r, rest = c :: r → c.isDigit = false) :
    (digits ++ rest).takeWhile Char.isDigit = digits := by
  rw [List.takeWhile_append_of_pos allDigits]
  cases rest with
  | nil => simp
  | cons c r => simp [stop c r rfl]

/-- A numeral decides `stoi`: its value when it is an `int`, `std::out_of_range`
otherwise. -/
theorem stoi_of_numeral {s : String} {v : Int} (numeral : StoiNumeral s v) :
    stoi s = if v < -2 ^ 31 ∨ 2 ^ 31 ≤ v then .error .outOfRange else .ok v := by
  obtain ⟨ws, sign, digits, rest, parts, spaces, signed, nonempty, allDigits, stop, rfl⟩ := numeral
  obtain ⟨d, ds, rfl⟩ := List.exists_cons_of_ne_nil nonempty
  have digit : d.isDigit := allDigits d (List.mem_cons_self d ds)
  have take := takeWhile_digits allDigits stop
  have minus : d ≠ '-' := fun h => absurd digit (by rw [h]; decide)
  have plus : d ≠ '+' := fun h => absurd digit (by rw [h]; decide)
  have body : s.toList.dropWhile isCSpace = sign ++ (d :: ds ++ rest) := by
    rw [parts, List.append_assoc, List.append_assoc, List.dropWhile_append_of_pos spaces]
    rcases signed with rfl | rfl | rfl
    · exact List.dropWhile_cons_of_neg (by simp [isCSpace_of_isDigit digit])
    all_goals exact List.dropWhile_cons_of_neg (by decide)
  unfold stoi
  rw [body]
  rcases signed with rfl | rfl | rfl <;>
    simp only [List.nil_append, List.singleton_append, List.cons_append, minus, plus,
      List.cons.injEq, false_and, imp_false, not_false_eq_true, forall_const, Bool.false_eq_true,
      if_true, if_false] at take ⊢ <;>
    rw [take, if_neg (List.cons_ne_nil _ _)]
  all_goals rfl

/-- The pieces `stoi` computes, once it has found digits, form a numeral. -/
theorem numeral_of_pieces {s : String} (sign : List Char) {r : List Char}
    (body : s.toList.dropWhile isCSpace = sign ++ r)
    (signed : sign = [] ∨ sign = ['+'] ∨ sign = ['-']) (nonempty : r.takeWhile Char.isDigit ≠ []) :
    StoiNumeral s (if sign = ['-'] then -(decimalValue (r.takeWhile Char.isDigit) : Int)
      else decimalValue (r.takeWhile Char.isDigit)) := by
  refine ⟨s.toList.takeWhile isCSpace, sign, r.takeWhile Char.isDigit, r.dropWhile Char.isDigit,
    ?_, fun c mem => List.mem_takeWhile_imp mem, signed, nonempty,
    fun c mem => List.mem_takeWhile_imp mem, fun c rest stop => ?_, rfl⟩
  · rw [List.append_assoc, List.append_assoc, List.takeWhile_append_dropWhile, ← body,
      List.takeWhile_append_dropWhile]
  · simpa [stop] using List.head_dropWhile_not Char.isDigit r (by simp [stop])

/-- Unless `stoi` finds no digits, what it read is a numeral. -/
theorem numeral_of_stoi {s : String} (read : stoi s ≠ .error .invalidArgument) :
    ∃ v, StoiNumeral s v := by
  unfold stoi at read
  cases body : s.toList.dropWhile isCSpace with
  | nil => rw [body] at read; exact absurd rfl read
  | cons c cs =>
    rw [body] at read
    by_cases minus : c = '-'
    · subst minus
      simp only [if_true] at read
      exact ⟨_, numeral_of_pieces ['-'] body (by simp) fun empty => read (by rw [if_pos empty])⟩
    by_cases plus : c = '+'
    · subst plus
      simp only [if_false, Bool.false_eq_true] at read
      exact ⟨_, numeral_of_pieces ['+'] body (by simp) fun empty => read (by rw [if_pos empty])⟩
    · simp only [minus, plus, List.cons.injEq, false_and, imp_false, not_false_eq_true,
        forall_const, Bool.false_eq_true, if_false] at read
      exact ⟨_, numeral_of_pieces [] body (by simp) fun empty => read (by rw [if_pos empty])⟩

/-- With no numeral in `s`, `stoi` raises `std::invalid_argument`. -/
theorem stoi_of_no_numeral {s : String} (none : ∀ v, ¬ StoiNumeral s v) :
    stoi s = .error .invalidArgument :=
  Classical.byContradiction fun read =>
    let ⟨v, numeral⟩ := numeral_of_stoi read
    none v numeral

theorem stoi_eq_ok_iff (s : String) (n : Int) : stoi s = .ok n ↔ StoiAccepts s n := by
  constructor
  · intro read
    obtain ⟨v, numeral⟩ := numeral_of_stoi (by rw [read]; nofun)
    rw [stoi_of_numeral numeral] at read
    split at read
    · cases read
    · cases read
      exact ⟨numeral, by omega, by omega⟩
  · rintro ⟨numeral, low, high⟩
    rw [stoi_of_numeral numeral, if_neg (by omega)]

/-- A port with trailing letters, and one with leading white space, are read as
numbers: `OAuthAuthMethod` gets port 32010 from `32010abc` and port 1 from ` 1`. -/
theorem oauth_port_accepts_partial_numerals :
    FromProperties [(AUTH_TYPE, "external"), (PORT, "32010abc")] =
        .ok (.oauth "localhost" 32010 true) ∧
      FromProperties [(AUTH_TYPE, "external"), (PORT, " 1")] = .ok (.oauth "localhost" 1 true) :=
  ⟨rfl, rfl⟩

/-- **The port is what `std::stoi` reads.** When auth-type is `external` and `Port` is
`s`, `FromProperties` builds `OAuthAuthMethod` with port `n` exactly when `s` is white
space, an optional sign and a run of digits with value `n` in `int` range, followed by
anything that does not continue the run. It raises `std::invalid_argument` when no
digit follows the white space and the sign, and `std::out_of_range` when the digits'
value is outside `int`. -/
theorem oauth_port_read_by_stoi (properties : ConnPropertyMap) (s : String)
    (external : properties.lookup AUTH_TYPE = some "external")
    (port : properties.lookup PORT = some s) :
    (∀ n, FromProperties properties = .ok (.oauth ((properties.lookup HOST).getD "localhost") n
        (((properties.lookup USE_ENCRYPTION).bind AsBool).getD true)) ↔ StoiAccepts s n) ∧
    ((∀ v, ¬ StoiNumeral s v) → FromProperties properties = .error .invalidArgument) ∧
    (∀ v, StoiNumeral s v → v < -2 ^ 31 ∨ 2 ^ 31 ≤ v →
      FromProperties properties = .error .outOfRange) := by
  have oauth : FromProperties properties = (stoi s).map fun n =>
      .oauth ((properties.lookup HOST).getD "localhost") n
        (((properties.lookup USE_ENCRYPTION).bind AsBool).getD true) := by
    unfold FromProperties
    simp only [external, port, if_true]
    cases stoi s <;> rfl
  rw [oauth]
  refine ⟨fun n => ?_, fun none => ?_, fun v numeral outside => ?_⟩
  · rw [← stoi_eq_ok_iff]
    cases stoi s <;> simp [Except.map]
  · rw [stoi_of_no_numeral none]
    rfl
  · rw [stoi_of_numeral numeral, if_pos outside]
    rfl

theorem oauth_port_read_from_partial_numeral :
    [(AUTH_TYPE, "external"), (PORT, "32010abc")].lookup AUTH_TYPE = some "external" ∧
    [(AUTH_TYPE, "external"), (PORT, "32010abc")].lookup PORT = some "32010abc" ∧
    (∀ n, FromProperties [(AUTH_TYPE, "external"), (PORT, "32010abc")] =
        .ok (.oauth (([(AUTH_TYPE, "external"), (PORT, "32010abc")].lookup HOST).getD "localhost")
          n ((([(AUTH_TYPE, "external"), (PORT, "32010abc")].lookup USE_ENCRYPTION).bind
            AsBool).getD true)) ↔ StoiAccepts "32010abc" n) ∧
    ((∀ v, ¬ StoiNumeral "32010abc" v) →
      FromProperties [(AUTH_TYPE, "external"), (PORT, "32010abc")] = .error .invalidArgument) ∧
    (∀ v, StoiNumeral "32010abc" v → v < -2 ^ 31 ∨ 2 ^ 31 ≤ v →
      FromProperties [(AUTH_TYPE, "external"), (PORT, "32010abc")] = .error .outOfRange) :=
  ⟨rfl, rfl, oauth_port_read_by_stoi _ "32010abc" rfl rfl⟩

end GizmoSqlOdbc.AuthSelection
