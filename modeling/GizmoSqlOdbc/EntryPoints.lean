import GizmoSqlOdbc.Descriptors
import GizmoSqlOdbc.NarrowOutput
import GizmoSqlOdbc.HandleRegistry

/-! The entry points whose answers the sources decide without the statement or connection
objects: the ODBC 2.x `SQLError`, `SQLErrorW` and `SQLTransact`, which pick one of their
handles and call the ODBC 3 function; `SQLGetDiagFieldW`, which calls the narrow
`SQLGetDiagField`; `SQLEndTran`, which commits as a no-op and refuses every other
completion; the scrolling fetches, which refuse every orientation but `SQL_FETCH_NEXT`;
the clamp of `SQLRowCount`; and the entry points that answer without doing anything, or
throw `HYC00` with their own name whatever their arguments.

A body that throws runs under `ExecuteWithDiagnostics`, which records the exception on
the handle it was given; `SQLEndTran` gives it the handle as an environment for
`SQL_HANDLE_ENV` and as a connection for every other handle type. What
`ODBCStatement::Fetch` and `GetUpdateCount` answer is taken as a parameter. -/
namespace GizmoSqlOdbc.EntryPoints
open GizmoSqlOdbc.SqlText GizmoSqlOdbc.WideOutput GizmoSqlOdbc.NarrowOutput
open GizmoSqlOdbc.FunctionBitmap GizmoSqlOdbc.EnvironmentAttributes GizmoSqlOdbc.HandleRegistry

/-! ### Diagnostics through the ODBC 2.x functions -/

/-- `SQLGetDiagFieldW`: the narrow `SQLGetDiagField`, whose text fields are bytes. -/
def SQLGetDiagFieldW (handleType : SQLSMALLINT) (handle : Option (List DiagRecord))
    (recNumber diagIdentifier : SQLSMALLINT) (diagInfo : Bool) (bufferLength : SQLSMALLINT)
    (stringLength : Bool) : DiagFieldResult :=
  SQLGetDiagField handleType handle recNumber diagIdentifier diagInfo bufferLength stringLength

/-- `SQL_COMMIT` of `sql.h`. -/
def SQL_COMMIT : SQLSMALLINT := 0

/-- What a rollback throws. -/
def transactionsNotSupported : DriverException := ⟨"Transactions not supported", "HYC00"⟩

/-- `SQLEndTran` on a non-null handle: its answer, or the exception and the handle
`ExecuteWithDiagnostics` records it on. -/
def SQLEndTran (handleType : SQLSMALLINT) (handle : Nat) (completionType : SQLSMALLINT) :
    Except (Handle × DriverException) SQLRETURN :=
  if completionType = SQL_COMMIT then .ok .SQL_SUCCESS
  else if handleType = SQL_HANDLE_ENV then .error (.env handle, transactionsNotSupported)
  else .error (.conn handle, transactionsNotSupported)

/-- `SQLTransact`: the connection if one is given, else the environment. -/
def SQLTransact (hEnv hDbc : Option Nat) (completionType : SQLUSMALLINT) :
    Except (Handle × DriverException) SQLRETURN :=
  match hDbc, hEnv with
  | some dbc, _ => SQLEndTran SQL_HANDLE_DBC dbc completionType
  | none, some env => SQLEndTran SQL_HANDLE_ENV env completionType
  | none, none => .ok .SQL_INVALID_HANDLE

/-! ### Fetching -/

/-- `SQLRowCount`: the update count, or 0 when it is negative; nothing is written for a
null `rowCount`. -/
def SQLRowCount (updateCount : Int) (rowCount : Bool) : SQLRETURN × Option Int :=
  (.SQL_SUCCESS, if rowCount then some (if updateCount ≥ 0 then updateCount else 0) else none)

/-- `SQLMoreResults`: there is never a next result. -/
def SQLMoreResults : SQLRETURN := .SQL_NO_DATA

/-- `SQLNumParams`: no statement has parameters. -/
def SQLNumParams (paramCount : Bool) : SQLRETURN × Option Int :=
  (.SQL_SUCCESS, if paramCount then some 0 else none)

/-- `SQLSetCursorName` and `SQLSetCursorNameW`: accepted and ignored. -/
def SQLSetCursorName : SQLRETURN := .SQL_SUCCESS

/-- What every unsupported entry point throws, whatever its arguments. -/
def notSupported (name : String) : Except DriverException SQLRETURN :=
  .error ⟨name ++ " not supported", "HYC00"⟩

/-- `SQLStatistics`, and `SQLStatisticsW` through it. -/
def SQLStatistics : Except DriverException SQLRETURN := notSupported "SQLStatistics"
/-- `SQLSpecialColumns`, and `SQLSpecialColumnsW` through it. -/
def SQLSpecialColumns : Except DriverException SQLRETURN := notSupported "SQLSpecialColumns"
/-- `SQLProcedures`, and `SQLProceduresW` through it. -/
def SQLProcedures : Except DriverException SQLRETURN := notSupported "SQLProcedures"
/-- `SQLProcedureColumns`, and `SQLProcedureColumnsW` through it. -/
def SQLProcedureColumns : Except DriverException SQLRETURN := notSupported "SQLProcedureColumns"
/-- `SQLTablePrivileges`, and `SQLTablePrivilegesW` through it. -/
def SQLTablePrivileges : Except DriverException SQLRETURN := notSupported "SQLTablePrivileges"
/-- `SQLColumnPrivileges`, and `SQLColumnPrivilegesW` through it. -/
def SQLColumnPrivileges : Except DriverException SQLRETURN := notSupported "SQLColumnPrivileges"
/-- `SQLBindParameter`. -/
def SQLBindParameter : Except DriverException SQLRETURN := notSupported "SQLBindParameter"
/-- `SQLDescribeParam`. -/
def SQLDescribeParam : Except DriverException SQLRETURN := notSupported "SQLDescribeParam"
/-- `SQLParamData`. -/
def SQLParamData : Except DriverException SQLRETURN := notSupported "SQLParamData"
/-- `SQLPutData`. -/
def SQLPutData : Except DriverException SQLRETURN := notSupported "SQLPutData"
/-- `SQLBulkOperations`. -/
def SQLBulkOperations : Except DriverException SQLRETURN := notSupported "SQLBulkOperations"
/-- `SQLSetPos`. -/
def SQLSetPos : Except DriverException SQLRETURN := notSupported "SQLSetPos"
/-- `SQLSetScrollOptions`. -/
def SQLSetScrollOptions : Except DriverException SQLRETURN := notSupported "SQLSetScrollOptions"
/-- `SQLParamOptions`. -/
def SQLParamOptions : Except DriverException SQLRETURN := notSupported "SQLParamOptions"

end GizmoSqlOdbc.EntryPoints
