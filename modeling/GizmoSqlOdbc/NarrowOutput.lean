import GizmoSqlOdbc.WideOutput

/-! What the narrow entry points `SQLDriverConnect`, `SQLNativeSql`, `SQLGetDiagRec`,
`SQLGetDiagField` and `SQLGetCursorName` write back. Each repeats one copy:
`toCopy = min(static_cast<size_t>(b - 1), s.size())` bytes of the string, then a NUL
at `toCopy`, for a buffer of `b > 0` bytes. Only the message text of `SQLGetDiagRec`
and `SQLGetDiagField` reports the truncation with `SQL_SUCCESS_WITH_INFO`; the others
return `SQL_SUCCESS` whatever the copy dropped. -/
namespace GizmoSqlOdbc.NarrowOutput
open GizmoSqlOdbc.SqlText GizmoSqlOdbc.WideOutput

/-- What a narrow entry point gives back: its return code, the bytes it writes from
the start of the caller's buffer (`none` when it writes none), and the length it
stores through the length pointer (`none` when the pointer is null). -/
structure NarrowResult where
  code : SQLRETURN
  buffer : Option (List UInt8) := none
  length : Option Int := none
  deriving DecidableEq, Repr

/-- The copy every narrow entry point repeats for a buffer of `b > 0` bytes:
`toCopy = std::min(static_cast<size_t>(b - 1), s.size())` bytes of `s`, then the NUL
written at `toCopy`. -/
def copyOut (s : List UInt8) (b : Int) : List UInt8 :=
  s.take (min (toSizeT (b - 1)) s.length) ++ [0]

/-- The write-back of `SQLDriverConnect`, `SQLNativeSql`, `SQLGetCursorName` and of the
`SQL_DIAG_SQLSTATE` and origin fields of `SQLGetDiagField`: the copy when a buffer of
`b > 0` bytes is given, the size of `str` narrowed by `narrow` when a length pointer
is, and `SQL_SUCCESS`. -/
def narrowWriteBack (narrow : Int → Int) (str : List UInt8) (buffer : Bool) (b : Int)
    (lengthPtr : Bool) : NarrowResult :=
  { code := .SQL_SUCCESS,
    buffer := if buffer ∧ 0 < b then some (copyOut str b) else none,
    length := if lengthPtr then some (narrow str.length) else none }

/-- The write-back of `SQLDriverConnect` once `connect` has succeeded: the input
connection string is echoed. -/
def SQLDriverConnectOut (connStr : List UInt8) (connStrOut : Bool) (connStrOutMax : SQLSMALLINT)
    (connStrOutLen : Bool) : NarrowResult :=
  narrowWriteBack narrowSmall connStr connStrOut connStrOutMax.toInt connStrOutLen

/-- The write-back of `SQLNativeSql` for the text it read. -/
def SQLNativeSqlOut (sql : List UInt8) (outSql : Bool) (outSqlMax : SQLINTEGER)
    (outSqlLen : Bool) : NarrowResult :=
  narrowWriteBack narrowInteger sql outSql outSqlMax.toInt outSqlLen

/-- `SQLGetCursorName`: the cursor is always `SQL_CUR`. -/
def SQLGetCursorName (cursorName : Bool) (bufferLength : SQLSMALLINT) (nameLength : Bool) :
    NarrowResult :=
  narrowWriteBack narrowSmall (utf8 "SQL_CUR".toList) cursorName bufferLength.toInt nameLength

/-- What `SQLGetDiagRec` gives back besides the message: the bytes `memcpy` copies
into `sqlState` (at most five; the terminator always goes to offset 5) and the
native error. -/
structure DiagRecNarrowResult where
  result : NarrowResult
  sqlState : Option (List UInt8) := none
  nativeError : Option Int := none

/-- The message of `SQLGetDiagRec` and of `SQLGetDiagField`'s `SQL_DIAG_MESSAGE_TEXT`:
the copy when a buffer of `b > 0` bytes is given, and `SQL_SUCCESS_WITH_INFO` when
`static_cast<size_t>(b) <= msg.size()` under `checked`. -/
def messageWriteBack (msg : List UInt8) (buffer : Bool) (b : Int) (lengthPtr : Bool)
    (checked : Bool) : NarrowResult :=
  { code := if checked ∧ toSizeT b ≤ msg.length then .SQL_SUCCESS_WITH_INFO else .SQL_SUCCESS,
    buffer := if buffer ∧ 0 < b then some (copyOut msg b) else none,
    length := if lengthPtr then some (narrowSmall msg.length) else none }

/-- `SQLGetDiagRec` on a handle of type `handleType` whose diagnostics are `handle`
(`none` for a null handle). The output pointers are given or not. -/
def SQLGetDiagRec (handleType : SQLSMALLINT) (handle : Option (List DiagRecord))
    (recNumber : SQLSMALLINT) (sqlState nativeError messageText : Bool) (bufferLength : SQLSMALLINT)
    (textLength : Bool) : DiagRecNarrowResult :=
  match handle with
  | none => ⟨{ code := .SQL_INVALID_HANDLE }, none, none⟩
  | some diag =>
    if recNumber.toInt < 1 then ⟨{ code := .SQL_ERROR }, none, none⟩
    else if handleType.toInt ∉ [1, 2, 3, 4] then ⟨{ code := .SQL_ERROR }, none, none⟩
    else match diag[(recNumber.toInt - 1).toNat]? with
      | none => ⟨{ code := .SQL_NO_DATA }, none, none⟩
      | some record =>
        let state := utf8 record.sqlState.toList
        ⟨messageWriteBack (utf8 record.messageText.toList) messageText bufferLength.toInt
            textLength (messageText ∧ 0 < bufferLength.toInt),
          if sqlState then some (state.take (min state.length 5)) else none,
          if nativeError then some record.nativeError else none⟩

/-- `SQL_DIAG_RETURNCODE` of `sql.h`. -/
def SQL_DIAG_RETURNCODE : Int := 1
/-- `SQL_DIAG_NUMBER` of `sql.h`. -/
def SQL_DIAG_NUMBER : Int := 2
/-- `SQL_DIAG_SQLSTATE` of `sql.h`. -/
def SQL_DIAG_SQLSTATE : Int := 4
/-- `SQL_DIAG_NATIVE` of `sql.h`. -/
def SQL_DIAG_NATIVE : Int := 5
/-- `SQL_DIAG_MESSAGE_TEXT` of `sql.h`. -/
def SQL_DIAG_MESSAGE_TEXT : Int := 6
/-- `SQL_DIAG_CLASS_ORIGIN` of `sql.h`. -/
def SQL_DIAG_CLASS_ORIGIN : Int := 8
/-- `SQL_DIAG_SUBCLASS_ORIGIN` of `sql.h`. -/
def SQL_DIAG_SUBCLASS_ORIGIN : Int := 9
/-- `SQL_DIAG_CONNECTION_NAME` of `sql.h`. -/
def SQL_DIAG_CONNECTION_NAME : Int := 10
/-- `SQL_DIAG_SERVER_NAME` of `sql.h`. -/
def SQL_DIAG_SERVER_NAME : Int := 11

/-- What `SQLGetDiagField` writes through `diagInfo`. -/
inductive DiagInfo where
  /-- An `SQLINTEGER` field: the record count or a native error. -/
  | integer (value : Int)
  /-- A text field, as the bytes written from the start of the buffer. -/
  | text (bytes : List UInt8)
  deriving DecidableEq, Repr

/-- What `SQLGetDiagField` gives back. -/
structure DiagFieldResult where
  code : SQLRETURN
  info : Option DiagInfo := none
  stringLength : Option Int := none
  deriving DecidableEq, Repr

/-- A text field of `SQLGetDiagField` as the caller sees it. -/
def DiagFieldResult.ofText (r : NarrowResult) : DiagFieldResult :=
  { code := r.code, info := r.buffer.map .text, stringLength := r.length }

/-- The class and subclass origin: `ODBC 3.0` when the state's bytes start with `I`
(`0x49`) and `M` (`0x4D`), `ISO 9075` otherwise. -/
def diagOrigin (state : List UInt8) : String :=
  if 2 ≤ state.length ∧ state.take 2 = [0x49, 0x4D] then "ODBC 3.0" else "ISO 9075"

/-- `SQLGetDiagField`. The record index is `static_cast<uint32_t>(recNumber - 1)`. -/
def SQLGetDiagField (handleType : SQLSMALLINT) (handle : Option (List DiagRecord))
    (recNumber diagIdentifier : SQLSMALLINT) (diagInfo : Bool) (bufferLength : SQLSMALLINT)
    (stringLength : Bool) : DiagFieldResult :=
  match handle with
  | none => { code := .SQL_INVALID_HANDLE }
  | some diag =>
    let id := diagIdentifier.toInt
    let b := bufferLength.toInt
    if handleType.toInt ∉ [1, 2, 3, 4] then { code := .SQL_ERROR }
    else if id = SQL_DIAG_NUMBER then
      { code := .SQL_SUCCESS,
        info := if diagInfo then some (.integer (narrowInteger diag.length)) else none }
    else if id = SQL_DIAG_RETURNCODE then { code := .SQL_ERROR }
    else match diag[((recNumber.toInt - 1) % 2 ^ 32).toNat]? with
      | none => { code := .SQL_NO_DATA }
      | some record =>
        if id = SQL_DIAG_SQLSTATE then
          .ofText (narrowWriteBack narrowSmall (utf8 record.sqlState.toList) diagInfo b
            stringLength)
        else if id = SQL_DIAG_NATIVE then
          { code := .SQL_SUCCESS,
            info := if diagInfo then some (.integer record.nativeError) else none }
        else if id = SQL_DIAG_MESSAGE_TEXT then
          .ofText (messageWriteBack (utf8 record.messageText.toList) diagInfo b stringLength
            diagInfo)
        else if id = SQL_DIAG_CLASS_ORIGIN ∨ id = SQL_DIAG_SUBCLASS_ORIGIN then
          .ofText (narrowWriteBack narrowSmall (utf8 (diagOrigin (utf8 record.sqlState.toList)).toList)
            diagInfo b stringLength)
        else if id = SQL_DIAG_SERVER_NAME ∨ id = SQL_DIAG_CONNECTION_NAME then
          { code := .SQL_SUCCESS,
            info := if diagInfo ∧ 0 < b then some (.text [0]) else none,
            stringLength := if stringLength then some 0 else none }
        else { code := .SQL_ERROR }

/-! ### The copy -/

/-- For a buffer of `b > 0` bytes the copy is the first `b - 1` bytes of `s`, as many as
it has, and one NUL. -/
theorem copyOut_of_pos (s : List UInt8) {b : Int} (pos : 0 < b) (small : b < 2 ^ 32) :
    copyOut s b = s.take (b - 1).toNat ++ [0] := by
  rw [copyOut, toSizeT_of_nonneg (by omega) (by omega), ← List.take_take, List.take_length]

/-- The copy of a text free of NUL fits its buffer and reads back, up to its NUL, as the
text cut to `b - 1` bytes. -/
theorem copyOut_reads_back {text : List UInt8} (nonzero : 0 ∉ text) {b : Int} (pos : 0 < b)
    (small : b < 2 ^ 32) :
    (copyOut text b).length ≤ b.toNat ∧ stringOfCStr (copyOut text b) = .ok (text.take (b - 1).toNat) := by
  rw [copyOut_of_pos text pos small]
  refine ⟨by simp only [List.length_append, List.length_take, List.length_singleton]; omega, ?_⟩
  exact stringOfCStr_append_nul fun zero => nonzero (List.mem_of_mem_take zero)

/-- `SQL_NTS` as an `SQLINTEGER` length reaches the narrow readers as `SQL_NTS`. -/
theorem narrowTextLength_nts : (narrowTextLength (BitVec.ofInt 32 SQL_NTS)).toInt = SQL_NTS := by
  decide

/-- **The narrow write-backs leave a C string the driver reads back.** For every text
free of NUL and every buffer of `b > 0` bytes, what `SQLNativeSql` writes stays within
the buffer and, handed back to `SQLPrepare`, `SQLExecDirect` or `SQLNativeSql` with
`SQL_NTS`, reads as the text cut to `b - 1` bytes; what `SQLDriverConnect` writes does
the same as a connection string handed back to `SQLDriverConnect`. -/
theorem narrow_output_reads_back_as_nts (text : List UInt8) (nonzero : 0 ∉ text)
    (outSqlMax : SQLINTEGER) (connStrOutMax : SQLSMALLINT) (lengthPtr : Bool)
    (sqlPos : 0 < outSqlMax.toInt) (connPos : 0 < connStrOutMax.toInt) :
    (∃ written, (SQLNativeSqlOut text true outSqlMax lengthPtr).buffer = some written ∧
      written.length ≤ outSqlMax.toInt.toNat ∧
      ∀ entry ∈ [SQLPrepare, SQLExecDirect, SQLNativeSqlText],
        entry (some written) (BitVec.ofInt 32 SQL_NTS) =
          .ok (text.take (outSqlMax.toInt - 1).toNat)) ∧
    (∃ written, (SQLDriverConnectOut text true connStrOutMax lengthPtr).buffer = some written ∧
      written.length ≤ connStrOutMax.toInt.toNat ∧
      SQLDriverConnectText (some written) (toSQLSMALLINT SQL_NTS) =
        .ok (text.take (connStrOutMax.toInt - 1).toNat)) := by
  have sqlSmall : outSqlMax.toInt < 2 ^ 32 := by
    have bounds := BitVec.toInt_eq_toNat_cond outSqlMax
    have := outSqlMax.isLt
    split at bounds <;> omega
  have connSmall : connStrOutMax.toInt < 2 ^ 32 := by
    have := SQLSMALLINT_toInt_bounds connStrOutMax; omega
  obtain ⟨sqlFits, sqlRead⟩ := copyOut_reads_back nonzero sqlPos sqlSmall
  obtain ⟨connFits, connRead⟩ := copyOut_reads_back nonzero connPos connSmall
  refine ⟨⟨_, by simp [SQLNativeSqlOut, narrowWriteBack, sqlPos], sqlFits, fun entry family => ?_⟩,
    ⟨_, by simp [SQLDriverConnectOut, narrowWriteBack, connPos], connFits, ?_⟩⟩
  · rw [narrow_statement_entry family, statementText, SqlCharToString, if_pos narrowTextLength_nts,
      sqlRead]
  · rw [SQLDriverConnectText, SqlCharToString, if_pos (by decide), connRead]

theorem native_sql_select_reads_back :
    (0 : UInt8) ∉ utf8 "SELECT 1".toList ∧ (0 : Int) < (BitVec.ofInt 32 4 : SQLINTEGER).toInt ∧
    (0 : Int) < (4 : SQLSMALLINT).toInt ∧
    (∃ written, (SQLNativeSqlOut (utf8 "SELECT 1".toList) true (BitVec.ofInt 32 4) true).buffer =
        some written ∧ written.length ≤ (BitVec.ofInt 32 4 : SQLINTEGER).toInt.toNat ∧
      ∀ entry ∈ [SQLPrepare, SQLExecDirect, SQLNativeSqlText],
        entry (some written) (BitVec.ofInt 32 SQL_NTS) =
          .ok ((utf8 "SELECT 1".toList).take ((BitVec.ofInt 32 4 : SQLINTEGER).toInt - 1).toNat)) ∧
    (∃ written, (SQLDriverConnectOut (utf8 "SELECT 1".toList) true 4 true).buffer = some written ∧
      written.length ≤ (4 : SQLSMALLINT).toInt.toNat ∧
      SQLDriverConnectText (some written) (toSQLSMALLINT SQL_NTS) =
        .ok ((utf8 "SELECT 1".toList).take ((4 : SQLSMALLINT).toInt - 1).toNat)) :=
  ⟨by decide, by decide, by decide,
    narrow_output_reads_back_as_nts _ (by decide) (BitVec.ofInt 32 4) 4 true (by decide) (by decide)⟩

/-- **Truncation is reported as success.** `SQLDriverConnect`, `SQLNativeSql`,
`SQLGetCursorName` and the `SQL_DIAG_SQLSTATE` and origin fields of `SQLGetDiagField`
share this write-back: for every string and every buffer of `0 < b ≤ |str|` bytes it
writes a copy that drops bytes of the string and returns `SQL_SUCCESS`. -/
theorem narrow_write_back_truncates_silently (narrow : Int → Int) (str : List UInt8) (b : Int)
    (lengthPtr : Bool) (pos : 0 < b) (small : b < 2 ^ 32) (short : b ≤ str.length) :
    narrowWriteBack narrow str true b lengthPtr =
        { code := .SQL_SUCCESS, buffer := some (str.take (b - 1).toNat ++ [0]),
          length := if lengthPtr then some (narrow str.length) else none } ∧
      (str.take (b - 1).toNat).length < str.length := by
  refine ⟨?_, by simp only [List.length_take]; omega⟩
  simp only [narrowWriteBack, pos, and_self, if_true, copyOut_of_pos str pos small]

theorem cursor_name_cut_to_three_bytes : (0 : Int) < 4 ∧ (4 : Int) < 2 ^ 32 ∧
    (4 : Int) ≤ (utf8 "SQL_CUR".toList).length ∧
    SQLGetCursorName true 4 true =
      { code := .SQL_SUCCESS, buffer := some ((utf8 "SQL_CUR".toList).take (4 - 1 : Int).toNat ++ [0]),
        length := some (narrowSmall (utf8 "SQL_CUR".toList).length) } ∧
    ((utf8 "SQL_CUR".toList).take (4 - 1 : Int).toNat).length < (utf8 "SQL_CUR".toList).length :=
  ⟨by decide, by decide, by decide,
    narrow_write_back_truncates_silently narrowSmall _ 4 true (by decide) (by decide) (by decide)⟩

/-! ### The message text -/

theorem toSizeT_le_iff {b : Int} (pos : 0 < b) (small : b < 2 ^ 32) (n : Nat) :
    toSizeT b ≤ n ↔ b ≤ n := by
  rw [toSizeT_of_nonneg (by omega) (by omega)]
  omega

/-- With a buffer of `b > 0` bytes, the message write-back copies and reports
`SQL_SUCCESS_WITH_INFO` exactly when `b` is at most the message's size. -/
theorem messageWriteBack_of_pos (msg : List UInt8) {b : Int} (lengthPtr : Bool) (pos : 0 < b)
    (small : b < 2 ^ 32) :
    messageWriteBack msg true b lengthPtr true =
      { code := if b ≤ msg.length then .SQL_SUCCESS_WITH_INFO else .SQL_SUCCESS,
        buffer := some (msg.take (b - 1).toNat ++ [0]),
        length := if lengthPtr then some (narrowSmall msg.length) else none } := by
  simp only [messageWriteBack, true_and, toSizeT_le_iff pos small, pos, if_true,
    copyOut_of_pos msg pos small]

theorem SQLGetDiagRec_of_found {handleType : SQLSMALLINT} {diag : List DiagRecord}
    {recNumber : SQLSMALLINT} {record : DiagRecord}
    (valid : 1 ≤ recNumber.toInt ∧ handleType.toInt ∈ [1, 2, 3, 4])
    (found : diag[(recNumber.toInt - 1).toNat]? = some record)
    (sqlState nativeError messageText : Bool) (bufferLength : SQLSMALLINT) (textLength : Bool) :
    (SQLGetDiagRec handleType (some diag) recNumber sqlState nativeError messageText bufferLength
      textLength).result =
      messageWriteBack (utf8 record.messageText.toList) messageText bufferLength.toInt textLength
        (messageText ∧ 0 < bufferLength.toInt) := by
  simp only [SQLGetDiagRec, if_neg (Int.not_lt.mpr valid.1), valid.2, not_true_eq_false,
    if_false, found]

theorem SQLGetDiagField_message_of_found {handleType : SQLSMALLINT} {diag : List DiagRecord}
    {recNumber : SQLSMALLINT} {record : DiagRecord}
    (valid : 1 ≤ recNumber.toInt ∧ handleType.toInt ∈ [1, 2, 3, 4])
    (found : diag[(recNumber.toInt - 1).toNat]? = some record)
    (diagInfo : Bool) (bufferLength : SQLSMALLINT) (stringLength : Bool) :
    SQLGetDiagField handleType (some diag) recNumber (.ofInt 16 SQL_DIAG_MESSAGE_TEXT) diagInfo
      bufferLength stringLength =
      .ofText (messageWriteBack (utf8 record.messageText.toList) diagInfo bufferLength.toInt
        stringLength diagInfo) := by
  have index : (recNumber.toInt - 1) % 2 ^ 32 = recNumber.toInt - 1 :=
    Int.emod_eq_of_lt (by omega) (by have := SQLSMALLINT_toInt_bounds recNumber; omega)
  simp only [SQLGetDiagField, valid.2, not_true_eq_false, if_false, index, found]
  rfl

/-- **The message text reports its truncation.** For every record `SQLGetDiagRec` and
`SQLGetDiagField(SQL_DIAG_MESSAGE_TEXT)` find and every message buffer of `b > 0`
bytes, both write the first `b - 1` bytes of the message and a NUL, and return
`SQL_SUCCESS_WITH_INFO` exactly when `b` is at most the message's size. -/
theorem diag_message_truncation_reported (handleType : SQLSMALLINT) (diag : List DiagRecord)
    (recNumber : SQLSMALLINT) (record : DiagRecord) (sqlState nativeError textLength : Bool)
    (bufferLength : SQLSMALLINT)
    (valid : 1 ≤ recNumber.toInt ∧ handleType.toInt ∈ [1, 2, 3, 4])
    (found : diag[(recNumber.toInt - 1).toNat]? = some record) (pos : 0 < bufferLength.toInt) :
    (SQLGetDiagRec handleType (some diag) recNumber sqlState nativeError true bufferLength
        textLength).result.code =
      (if bufferLength.toInt ≤ (utf8 record.messageText.toList).length then .SQL_SUCCESS_WITH_INFO
        else .SQL_SUCCESS) ∧
    (SQLGetDiagRec handleType (some diag) recNumber sqlState nativeError true bufferLength
        textLength).result.buffer =
      some ((utf8 record.messageText.toList).take (bufferLength.toInt - 1).toNat ++ [0]) ∧
    (SQLGetDiagField handleType (some diag) recNumber (.ofInt 16 SQL_DIAG_MESSAGE_TEXT) true
        bufferLength textLength).code =
      (if bufferLength.toInt ≤ (utf8 record.messageText.toList).length then .SQL_SUCCESS_WITH_INFO
        else .SQL_SUCCESS) ∧
    (SQLGetDiagField handleType (some diag) recNumber (.ofInt 16 SQL_DIAG_MESSAGE_TEXT) true
        bufferLength textLength).info =
      some (.text ((utf8 record.messageText.toList).take (bufferLength.toInt - 1).toNat ++ [0])) := by
  have small : bufferLength.toInt < 2 ^ 32 := by
    have := SQLSMALLINT_toInt_bounds bufferLength; omega
  rw [SQLGetDiagRec_of_found valid found, SQLGetDiagField_message_of_found valid found]
  simp only [pos, and_self, decide_True, messageWriteBack_of_pos _ _ pos small,
    DiagFieldResult.ofText, Option.map_some', and_self]

theorem diag_message_cut_at_four : (1 : Int) ≤ (1 : SQLSMALLINT).toInt ∧
    (3 : SQLSMALLINT).toInt ∈ [1, 2, 3, 4] ∧
    [(⟨"HY000", 0, "failed"⟩ : DiagRecord)][((1 : SQLSMALLINT).toInt - 1).toNat]? =
      some ⟨"HY000", 0, "failed"⟩ ∧ 0 < (4 : SQLSMALLINT).toInt ∧
    (SQLGetDiagRec 3 (some [⟨"HY000", 0, "failed"⟩]) 1 true true true 4 true).result.code =
      (if (4 : SQLSMALLINT).toInt ≤ (utf8 "failed".toList).length then .SQL_SUCCESS_WITH_INFO
        else .SQL_SUCCESS) ∧
    (SQLGetDiagRec 3 (some [⟨"HY000", 0, "failed"⟩]) 1 true true true 4 true).result.buffer =
      some ((utf8 "failed".toList).take ((4 : SQLSMALLINT).toInt - 1).toNat ++ [0]) ∧
    (SQLGetDiagField 3 (some [⟨"HY000", 0, "failed"⟩]) 1 (.ofInt 16 SQL_DIAG_MESSAGE_TEXT) true 4
        true).code =
      (if (4 : SQLSMALLINT).toInt ≤ (utf8 "failed".toList).length then .SQL_SUCCESS_WITH_INFO
        else .SQL_SUCCESS) ∧
    (SQLGetDiagField 3 (some [⟨"HY000", 0, "failed"⟩]) 1 (.ofInt 16 SQL_DIAG_MESSAGE_TEXT) true 4
        true).info =
      some (.text ((utf8 "failed".toList).take ((4 : SQLSMALLINT).toInt - 1).toNat ++ [0])) :=
  ⟨by decide, by decide, rfl, by decide,
    diag_message_truncation_reported 3 _ 1 ⟨"HY000", 0, "failed"⟩ true true true 4
      ⟨by decide, by decide⟩ rfl (by decide)⟩

/-! ### The record count and the records the readers reach -/

theorem narrowInteger_of_small {x : Int} (low : -2 ^ 31 ≤ x) (high : x < 2 ^ 31) :
    narrowInteger x = x := by
  rw [narrowInteger, BitVec.toInt_ofInt, Int.bmod_def]
  split <;> omega

/-- The record a reader indexes with `recNumber - 1` exists exactly when
`recNumber <= count`. -/
theorem diag_index_none_iff (diag : List DiagRecord) {recNumber : Int} (pos : 1 ≤ recNumber) :
    diag[(recNumber - 1).toNat]? = none ↔ diag.length < recNumber := by
  rw [List.getElem?_eq_none_iff]
  omega

/-- `SQLGetDiagField`'s index `static_cast<uint32_t>(recNumber - 1)` wraps a record number
below 1 past every list of fewer than `2^31` records. -/
theorem diag_field_index_none_iff (diag : List DiagRecord) (recNumber : SQLSMALLINT)
    (fits : diag.length < 2 ^ 31) :
    diag[((recNumber.toInt - 1) % 2 ^ 32).toNat]? = none ↔
      recNumber.toInt < 1 ∨ diag.length < recNumber.toInt := by
  have := SQLSMALLINT_toInt_bounds recNumber
  rw [List.getElem?_eq_none_iff]
  omega

/-- The message write-back answers neither `SQL_ERROR` nor `SQL_NO_DATA`. -/
theorem messageWriteBack_code_ne (msg : List UInt8) (buffer : Bool) (b : Int)
    (lengthPtr checked : Bool) :
    (messageWriteBack msg buffer b lengthPtr checked).code ≠ .SQL_ERROR ∧
      (messageWriteBack msg buffer b lengthPtr checked).code ≠ .SQL_NO_DATA := by
  unfold messageWriteBack
  split <;> exact ⟨nofun, nofun⟩

/-- Where `SQLGetDiagRecW` finds a record, it never answers `SQL_NO_DATA`: it answers
with the message's truncation flag, or `SQL_SUCCESS` when no message is copied. -/
theorem SQLGetDiagRecW_found_ne (width : SqlWChar) {handleType : SQLSMALLINT}
    {diag : List DiagRecord} {recNumber : SQLSMALLINT} {record : DiagRecord}
    (valid : 1 ≤ recNumber.toInt ∧ handleType.toInt ∈ [1, 2, 3, 4])
    (found : diag[(recNumber.toInt - 1).toNat]? = some record)
    (sqlState nativeError messageText : Bool) (bufferLength : SQLSMALLINT) (textLength : Bool) :
    (SQLGetDiagRecW width handleType (some diag) recNumber sqlState nativeError messageText
      bufferLength textLength).map (·.result.code) ≠ .ok .SQL_NO_DATA := by
  simp only [SQLGetDiagRecW, if_neg (Int.not_lt.mpr valid.1), valid.2, not_true_eq_false,
    if_false, found]
  intro noData
  obtain ⟨result, run, code⟩ := (map_eq_ok_iff _ _ _).mp noData
  -- the state step, taken or not, is followed by the message step, which sets the code
  split at run <;> obtain ⟨state, -, step⟩ := (bind_eq_ok_iff _ _ _).mp run <;> split at step
  all_goals first
    | (obtain ⟨⟨written, bytes⟩, -, last⟩ := (bind_eq_ok_iff _ _ _).mp step
       cases last
       split at code <;> cases code)
    | (cases step; cases code)

/-- For a handle of a known type, `SQLGetDiagRec` answers `SQL_ERROR` exactly for a record
number below 1 and `SQL_NO_DATA` exactly for one past the count, and `SQLGetDiagRecW`
answers `SQL_NO_DATA` for the same numbers. -/
theorem SQLGetDiagRec_codes (width : SqlWChar) {handleType : SQLSMALLINT}
    (diag : List DiagRecord) (recNumber : SQLSMALLINT) (sqlState nativeError messageText : Bool)
    (bufferLength : SQLSMALLINT) (textLength : Bool) (valid : handleType.toInt ∈ [1, 2, 3, 4]) :
    ((SQLGetDiagRec handleType (some diag) recNumber sqlState nativeError messageText
        bufferLength textLength).result.code = .SQL_ERROR ↔ recNumber.toInt < 1) ∧
      ((SQLGetDiagRec handleType (some diag) recNumber sqlState nativeError messageText
          bufferLength textLength).result.code = .SQL_NO_DATA ↔
        1 ≤ recNumber.toInt ∧ diag.length < recNumber.toInt) ∧
      ((SQLGetDiagRecW width handleType (some diag) recNumber sqlState nativeError messageText
          bufferLength textLength).map (·.result.code) = .ok .SQL_NO_DATA ↔
        1 ≤ recNumber.toInt ∧ diag.length < recNumber.toInt) := by
  by_cases low : recNumber.toInt < 1
  · simp [SQLGetDiagRec, SQLGetDiagRecW, low, Except.map]
  have pos : 1 ≤ recNumber.toInt := by omega
  cases found : diag[(recNumber.toInt - 1).toNat]? with
  | none =>
    have beyond := (diag_index_none_iff diag pos).mp found
    simp only [SQLGetDiagRec, SQLGetDiagRecW, if_neg low, valid, found, not_true_eq_false, if_false]
    simp [beyond, pos, Except.map]
  | some record =>
    have within : ¬ diag.length < recNumber.toInt := fun beyond =>
      Option.some_ne_none record (found.symm.trans ((diag_index_none_iff diag pos).mpr beyond))
    rw [SQLGetDiagRec_of_found ⟨pos, valid⟩ found]
    simp only [low, within, and_false, iff_false]
    exact ⟨(messageWriteBack_code_ne _ _ _ _ _).1, (messageWriteBack_code_ne _ _ _ _ _).2,
      SQLGetDiagRecW_found_ne width ⟨pos, valid⟩ found _ _ _ _ _⟩

/-- For every identifier of a record field, `SQLGetDiagField` answers `SQL_NO_DATA` exactly
when its index misses the records: a field it finds is answered with its text, its
number or `SQL_ERROR`. -/
theorem SQLGetDiagField_no_data_iff {handleType : SQLSMALLINT} (diag : List DiagRecord)
    (recNumber diagIdentifier : SQLSMALLINT) (diagInfo : Bool) (bufferLength : SQLSMALLINT)
    (stringLength : Bool) (valid : handleType.toInt ∈ [1, 2, 3, 4])
    (recordField : diagIdentifier.toInt ≠ SQL_DIAG_NUMBER ∧
      diagIdentifier.toInt ≠ SQL_DIAG_RETURNCODE) :
    (SQLGetDiagField handleType (some diag) recNumber diagIdentifier diagInfo bufferLength
      stringLength).code = .SQL_NO_DATA ↔ diag[((recNumber.toInt - 1) % 2 ^ 32).toNat]? = none := by
  simp only [SQLGetDiagField, valid, not_true_eq_false, if_false, recordField.1, recordField.2]
  cases diag[((recNumber.toInt - 1) % 2 ^ 32).toNat]? with
  | none => simp
  | some record =>
    have message := (messageWriteBack_code_ne (utf8 record.messageText.toList) diagInfo
      bufferLength.toInt stringLength diagInfo).2
    simp only [reduceCtorEq, iff_false]
    simp only [apply_ite DiagFieldResult.code, DiagFieldResult.ofText, narrowWriteBack, ite_eq_iff,
      message, reduceCtorEq, and_false, or_false, or_self, not_false_eq_true]

/-- **The diagnostic readers agree on which records exist.** For every handle of a known
type, every list of fewer than `2^31` diagnostic records and every record number `r`:
`SQLGetDiagField(SQL_DIAG_NUMBER)` reports the number of records; `SQLGetDiagRec`
answers `SQL_ERROR` exactly when `r < 1` and `SQL_NO_DATA` exactly when `r` is past the
count, and `SQLGetDiagRecW` answers `SQL_NO_DATA` for the same `r`; `SQLGetDiagField`
answers `SQL_NO_DATA` for every record field exactly when `r < 1` or `r` is past the
count, since its index `static_cast<uint32_t>(recNumber - 1)` wraps a number below 1 past
every record. -/
theorem diag_readers_agree_on_count (width : SqlWChar) (handleType : SQLSMALLINT)
    (diag : List DiagRecord) (recNumber diagIdentifier : SQLSMALLINT)
    (sqlState nativeError messageText textLength diagInfo stringLength : Bool)
    (bufferLength : SQLSMALLINT) (valid : handleType.toInt ∈ [1, 2, 3, 4])
    (fits : diag.length < 2 ^ 31)
    (recordField : diagIdentifier.toInt ≠ SQL_DIAG_NUMBER ∧
      diagIdentifier.toInt ≠ SQL_DIAG_RETURNCODE) :
    SQLGetDiagField handleType (some diag) recNumber (.ofInt 16 SQL_DIAG_NUMBER) true
        bufferLength stringLength = { code := .SQL_SUCCESS, info := some (.integer diag.length) } ∧
      ((SQLGetDiagRec handleType (some diag) recNumber sqlState nativeError messageText
          bufferLength textLength).result.code = .SQL_ERROR ↔ recNumber.toInt < 1) ∧
      ((SQLGetDiagRec handleType (some diag) recNumber sqlState nativeError messageText
          bufferLength textLength).result.code = .SQL_NO_DATA ↔
        1 ≤ recNumber.toInt ∧ diag.length < recNumber.toInt) ∧
      ((SQLGetDiagRecW width handleType (some diag) recNumber sqlState nativeError messageText
          bufferLength textLength).map (·.result.code) = .ok .SQL_NO_DATA ↔
        1 ≤ recNumber.toInt ∧ diag.length < recNumber.toInt) ∧
      ((SQLGetDiagField handleType (some diag) recNumber diagIdentifier diagInfo
          bufferLength stringLength).code = .SQL_NO_DATA ↔
        recNumber.toInt < 1 ∨ diag.length < recNumber.toInt) := by
  have count : narrowInteger diag.length = diag.length := narrowInteger_of_small (by omega) (by omega)
  have codes := SQLGetDiagRec_codes width diag recNumber sqlState nativeError messageText
    bufferLength textLength valid
  exact ⟨by simp [SQLGetDiagField, valid, count, SQL_DIAG_NUMBER], codes.1, codes.2.1, codes.2.2,
    (SQLGetDiagField_no_data_iff diag recNumber diagIdentifier diagInfo bufferLength stringLength
      valid recordField).trans (diag_field_index_none_iff diag recNumber fits)⟩

theorem diag_readers_on_one_record :
    (3 : SQLSMALLINT).toInt ∈ [1, 2, 3, 4] ∧ [(⟨"HY000", 0, "failed"⟩ : DiagRecord)].length < 2 ^ 31 ∧
    ((.ofInt 16 SQL_DIAG_MESSAGE_TEXT : SQLSMALLINT).toInt ≠ SQL_DIAG_NUMBER ∧
      (.ofInt 16 SQL_DIAG_MESSAGE_TEXT : SQLSMALLINT).toInt ≠ SQL_DIAG_RETURNCODE) ∧
    (SQLGetDiagField 3 (some [⟨"HY000", 0, "failed"⟩]) 2 (.ofInt 16 SQL_DIAG_NUMBER) true 0 false =
        { code := .SQL_SUCCESS, info := some (.integer [(⟨"HY000", 0, "failed"⟩ : DiagRecord)].length) } ∧
      ((SQLGetDiagRec 3 (some [⟨"HY000", 0, "failed"⟩]) 2 false false false 0 false).result.code =
          .SQL_ERROR ↔ (2 : SQLSMALLINT).toInt < 1) ∧
      ((SQLGetDiagRec 3 (some [⟨"HY000", 0, "failed"⟩]) 2 false false false 0 false).result.code =
          .SQL_NO_DATA ↔
        1 ≤ (2 : SQLSMALLINT).toInt ∧ [(⟨"HY000", 0, "failed"⟩ : DiagRecord)].length < (2 : SQLSMALLINT).toInt) ∧
      ((SQLGetDiagRecW .utf16 3 (some [⟨"HY000", 0, "failed"⟩]) 2 false false false 0 false).map
          (·.result.code) = .ok .SQL_NO_DATA ↔
        1 ≤ (2 : SQLSMALLINT).toInt ∧ [(⟨"HY000", 0, "failed"⟩ : DiagRecord)].length < (2 : SQLSMALLINT).toInt) ∧
      ((SQLGetDiagField 3 (some [⟨"HY000", 0, "failed"⟩]) 2 (.ofInt 16 SQL_DIAG_MESSAGE_TEXT) false 0
          false).code = .SQL_NO_DATA ↔
        (2 : SQLSMALLINT).toInt < 1 ∨ [(⟨"HY000", 0, "failed"⟩ : DiagRecord)].length < (2 : SQLSMALLINT).toInt)) :=
  ⟨by decide, by decide, by decide,
    diag_readers_agree_on_count .utf16 3 _ 2 _ false false false false false false 0
      (by decide) (by decide) (by decide)⟩

end GizmoSqlOdbc.NarrowOutput
