import GizmoSqlOdbc.FunctionBitmap

/-! The attributes of an environment handle, set by `SQLSetEnvAttr` and read by
`SQLGetEnvAttr`. `SQL_ATTR_ODBC_VERSION` and `SQL_ATTR_CONNECTION_POOLING` are stored as
the `SQLINTEGER` the pointer-sized argument narrows to, so what is read back is the low
32 bits of what was set; `SQL_ATTR_CP_MATCH` is accepted, ignored, and reads as
`SQL_CP_STRICT_MATCH`; `SQL_ATTR_OUTPUT_NTS` accepts only `SQL_TRUE` and reads as
`SQL_TRUE`. Over every run of `SQLSetEnvAttr` calls the environment answers each stored
attribute with the last value the run set for it.

Both bodies run under `ExecuteWithDiagnostics`, which turns the `DriverException` they
throw into `SQL_ERROR` and a diagnostic record. The environment's setters and getters
are not in the sources; they are taken to store and return what they are given. -/
namespace GizmoSqlOdbc.EnvironmentAttributes
open GizmoSqlOdbc.SqlText GizmoSqlOdbc.FunctionBitmap

/-- A `DriverException`: its message and its SQLSTATE. -/
structure DriverException where
  message : String
  sqlState : String
  deriving DecidableEq, Repr

/-- Modelled from the spec: the attributes an `ODBCEnvironment` stores, not in the
sources: what `setODBCVersion` and `setConnectionPooling` were last given, which
`getODBCVersion` and `getConnectionPooling` return. -/
structure ODBCEnvironment where
  odbcVersion : SQLINTEGER
  connectionPooling : SQLINTEGER
  deriving DecidableEq, Repr

/-- `SQL_ATTR_ODBC_VERSION` of `sqlext.h`. -/
def SQL_ATTR_ODBC_VERSION : SQLINTEGER := 200
/-- `SQL_ATTR_CONNECTION_POOLING` of `sqlext.h`. -/
def SQL_ATTR_CONNECTION_POOLING : SQLINTEGER := 201
/-- `SQL_ATTR_CP_MATCH` of `sqlext.h`. -/
def SQL_ATTR_CP_MATCH : SQLINTEGER := 202
/-- `SQL_ATTR_OUTPUT_NTS` of `sqlext.h`. -/
def SQL_ATTR_OUTPUT_NTS : SQLINTEGER := 10001
/-- `SQL_CP_STRICT_MATCH` of `sqlext.h`. -/
def SQL_CP_STRICT_MATCH : Nat := 0

/-- The attributes both entry points know. -/
def envAttributes : List SQLINTEGER :=
  [SQL_ATTR_ODBC_VERSION, SQL_ATTR_CONNECTION_POOLING, SQL_ATTR_CP_MATCH, SQL_ATTR_OUTPUT_NTS]

/-- `static_cast<SQLINTEGER>(reinterpret_cast<uintptr_t>(value))`: the low 32 bits of the
pointer-sized argument. -/
def toSQLINTEGER (value : BitVec 64) : SQLINTEGER := value.setWidth 32

/-- The exception both entry points throw for an attribute they do not know. -/
def invalidAttribute : DriverException := ⟨"Invalid attribute", "HY092"⟩

/-- `SQLSetEnvAttr` on a 64-bit target: `value` is the pointer argument as `uintptr_t`. -/
def SQLSetEnvAttr (attr : SQLINTEGER) (value : BitVec 64) (env : ODBCEnvironment) :
    Except DriverException ODBCEnvironment :=
  if attr = SQL_ATTR_ODBC_VERSION then .ok { env with odbcVersion := toSQLINTEGER value }
  else if attr = SQL_ATTR_CONNECTION_POOLING then
    .ok { env with connectionPooling := toSQLINTEGER value }
  else if attr = SQL_ATTR_CP_MATCH then .ok env
  else if attr = SQL_ATTR_OUTPUT_NTS then
    if value.toNat ≠ SQL_TRUE then .error ⟨"Optional feature not implemented", "HYC00"⟩
    else .ok env
  else .error invalidAttribute

/-- `SQLGetEnvAttr`: the 32-bit value `GetAttribute` stores through `value`. -/
def SQLGetEnvAttr (attr : SQLINTEGER) (env : ODBCEnvironment) :
    Except DriverException SQLINTEGER :=
  if attr = SQL_ATTR_ODBC_VERSION then .ok env.odbcVersion
  else if attr = SQL_ATTR_CONNECTION_POOLING then .ok env.connectionPooling
  else if attr = SQL_ATTR_CP_MATCH then .ok (BitVec.ofNat 32 SQL_CP_STRICT_MATCH)
  else if attr = SQL_ATTR_OUTPUT_NTS then .ok (BitVec.ofNat 32 SQL_TRUE)
  else .error invalidAttribute

/-- The environment after one `SQLSetEnvAttr` call; a call that throws leaves it as
it was. -/
def afterSet (env : ODBCEnvironment) (attr : SQLINTEGER) (value : BitVec 64) :
    ODBCEnvironment :=
  match SQLSetEnvAttr attr value env with
  | .ok next => next
  | .error _ => env

/-- The environment after a run of `SQLSetEnvAttr` calls, oldest first. -/
def setEnvAttrs (env : ODBCEnvironment) : List (SQLINTEGER × BitVec 64) → ODBCEnvironment
  | [] => env
  | (attr, value) :: calls => setEnvAttrs (afterSet env attr value) calls

/-- What a register of last writes holds for `attr`: the value of the run's last
call that names it. -/
def lastSet (attr : SQLINTEGER) (calls : List (SQLINTEGER × BitVec 64)) :
    Option (BitVec 64) :=
  (calls.reverse.find? (·.1 = attr)).map (·.2)

/-- The narrowing keeps the value modulo `2^32`. -/
@[simp] theorem toSQLINTEGER_toNat (value : BitVec 64) : (toSQLINTEGER value).toNat = value.toNat % 2 ^ 32 :=
  BitVec.toNat_setWidth 32 value

/-! ### What each entry point rejects -/

/-- The four attribute codes differ. -/
theorem attributes_distinct :
    SQL_ATTR_CONNECTION_POOLING ≠ SQL_ATTR_ODBC_VERSION ∧ SQL_ATTR_CP_MATCH ≠ SQL_ATTR_ODBC_VERSION ∧
      SQL_ATTR_CP_MATCH ≠ SQL_ATTR_CONNECTION_POOLING ∧
      SQL_ATTR_OUTPUT_NTS ≠ SQL_ATTR_ODBC_VERSION ∧
      SQL_ATTR_OUTPUT_NTS ≠ SQL_ATTR_CONNECTION_POOLING ∧ SQL_ATTR_OUTPUT_NTS ≠ SQL_ATTR_CP_MATCH := by
  decide

/-- `SQLGetEnvAttr` throws only `HY092`, and exactly for the attributes it does not know. -/
theorem SQLGetEnvAttr_error_iff (attr : SQLINTEGER) (env : ODBCEnvironment) (e : DriverException) :
    SQLGetEnvAttr attr env = .error e ↔ attr ∉ envAttributes ∧ e = invalidAttribute := by
  unfold SQLGetEnvAttr
  split_ifs <;> simp_all [envAttributes, eq_comm]

/-- `SQLSetEnvAttr` throws the same `HY092` for the same attributes, and otherwise only
`HYC00`, for `SQL_ATTR_OUTPUT_NTS` with a value other than `SQL_TRUE`. -/
theorem SQLSetEnvAttr_error_iff (attr : SQLINTEGER) (value : BitVec 64) (env : ODBCEnvironment)
    (e : DriverException) :
    SQLSetEnvAttr attr value env = .error e ↔
      (attr ∉ envAttributes ∧ e = invalidAttribute) ∨
        (attr = SQL_ATTR_OUTPUT_NTS ∧ value.toNat ≠ SQL_TRUE ∧
          e = ⟨"Optional feature not implemented", "HYC00"⟩) := by
  unfold SQLSetEnvAttr
  split_ifs <;> simp_all [envAttributes, eq_comm, SQL_ATTR_ODBC_VERSION, SQL_ATTR_CONNECTION_POOLING,
    SQL_ATTR_CP_MATCH, SQL_ATTR_OUTPUT_NTS]

/-! ### One call -/

/-- One call stores the version exactly when it names `SQL_ATTR_ODBC_VERSION`. -/
theorem afterSet_odbcVersion (env : ODBCEnvironment) (attr : SQLINTEGER) (value : BitVec 64) :
    (afterSet env attr value).odbcVersion =
      if attr = SQL_ATTR_ODBC_VERSION then toSQLINTEGER value else env.odbcVersion := by
  unfold afterSet SQLSetEnvAttr
  split_ifs <;> rfl

/-- One call stores the pooling mode exactly when it names `SQL_ATTR_CONNECTION_POOLING`. -/
theorem afterSet_connectionPooling (env : ODBCEnvironment) (attr : SQLINTEGER)
    (value : BitVec 64) :
    (afterSet env attr value).connectionPooling =
      if attr = SQL_ATTR_CONNECTION_POOLING then toSQLINTEGER value
      else env.connectionPooling := by
  unfold afterSet SQLSetEnvAttr
  split_ifs <;> simp_all [attributes_distinct]

/-- The register's answer after one more call. -/
theorem lastSet_cons (attr a : SQLINTEGER) (v : BitVec 64) (calls : List (SQLINTEGER × BitVec 64))
    (fallback : SQLINTEGER) :
    ((lastSet attr ((a, v) :: calls)).map toSQLINTEGER).getD fallback =
      ((lastSet attr calls).map toSQLINTEGER).getD
        (if a = attr then toSQLINTEGER v else fallback) := by
  unfold lastSet
  rw [List.reverse_cons, List.find?_append]
  cases calls.reverse.find? (·.1 = attr) with
  | some _ => rfl
  | none => by_cases same : a = attr <;> simp [same]

/-! ### Every run -/

/-- A stored attribute that each call overwrites exactly when it names `attr` holds,
after any run, the run's last value for it. -/
theorem setEnvAttrs_register (field : ODBCEnvironment → SQLINTEGER) (attr : SQLINTEGER)
    (step : ∀ env a v, field (afterSet env a v) =
      if a = attr then toSQLINTEGER v else field env)
    (calls : List (SQLINTEGER × BitVec 64)) (env : ODBCEnvironment) :
    field (setEnvAttrs env calls) = ((lastSet attr calls).map toSQLINTEGER).getD (field env) := by
  induction calls generalizing env with
  | nil => rfl
  | cons call calls ih =>
    obtain ⟨a, v⟩ := call
    rw [setEnvAttrs, ih, step, lastSet_cons]

/-- **The environment is a register of last writes.** From any environment, after every
run of `SQLSetEnvAttr` calls (a call that throws changes nothing), `SQLGetEnvAttr`
answers `SQL_ATTR_ODBC_VERSION` and `SQL_ATTR_CONNECTION_POOLING` with the low 32 bits
of the last value the run set for each (the environment's own value when the run set
none), `SQL_ATTR_CP_MATCH` with `SQL_CP_STRICT_MATCH` and `SQL_ATTR_OUTPUT_NTS` with
`SQL_TRUE`, whatever the run set for those two. -/
theorem env_attrs_read_last_set (env : ODBCEnvironment) (calls : List (SQLINTEGER × BitVec 64)) :
    SQLGetEnvAttr SQL_ATTR_ODBC_VERSION (setEnvAttrs env calls) =
        .ok (((lastSet SQL_ATTR_ODBC_VERSION calls).map toSQLINTEGER).getD env.odbcVersion) ∧
      SQLGetEnvAttr SQL_ATTR_CONNECTION_POOLING (setEnvAttrs env calls) =
        .ok (((lastSet SQL_ATTR_CONNECTION_POOLING calls).map toSQLINTEGER).getD
          env.connectionPooling) ∧
      SQLGetEnvAttr SQL_ATTR_CP_MATCH (setEnvAttrs env calls) =
        .ok (BitVec.ofNat 32 SQL_CP_STRICT_MATCH) ∧
      SQLGetEnvAttr SQL_ATTR_OUTPUT_NTS (setEnvAttrs env calls) = .ok (BitVec.ofNat 32 SQL_TRUE) := by
  have version := setEnvAttrs_register ODBCEnvironment.odbcVersion _ afterSet_odbcVersion calls env
  have pooling :=
    setEnvAttrs_register ODBCEnvironment.connectionPooling _ afterSet_connectionPooling calls env
  simp only [SQLGetEnvAttr, version, pooling, attributes_distinct, if_true, if_false,
    Ne.symm, not_false_eq_true, and_self]

end GizmoSqlOdbc.EnvironmentAttributes
