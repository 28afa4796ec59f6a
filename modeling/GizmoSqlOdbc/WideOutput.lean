import GizmoSqlOdbc.SqlText

/-! What the wide entry points `SQLDriverConnectW`, `SQLNativeSqlW`,
`SQLGetDiagRecW` and `SQLGetCursorNameW` write back. Each hands `Utf8ToSqlWChar`
the byte capacity `static_cast<SQLSMALLINT>(b * GetSqlWCharSize())` for a buffer
of `b` characters, which wraps negative once `b * GetSqlWCharSize()` reaches
`2^15`. The total length each reports is a count of `SQLWCHAR` units when a buffer
is given and a count of UTF-8 bytes when it is not, and `SQLGetDiagRecW` decides
truncation on the byte count. -/
namespace GizmoSqlOdbc.WideOutput
open GizmoSqlOdbc.SqlText

/-- Modelled from the spec: `ConvertToSqlWChar` of `odbcabstraction`, which is not
in the sources. It converts `str` to `SQLWCHAR` units, writes those that fit in
`bufferSize` bytes, NUL-terminated when there is room, and returns the byte length
of the whole converted string. A negative size reaches `memcpy` as a `size_t`,
a write past any buffer. -/
def ConvertToSqlWChar (width : SqlWChar) (str : String) (bufferSize : Int) :
    Except Fault (List Nat × Nat) :=
  let units := encodeUnits width str.toList
  let size := GetSqlWCharSize width
  if bufferSize < 0 then .error .overwrite
  else
    let room := bufferSize.toNat / size
    .ok (if units.length * size + size ≤ bufferSize.toNat then units ++ [0]
      else if 0 < room then units.take (room - 1) ++ [0] else [],
      units.length * size)

/-- `Utf8ToSqlWChar`: the units written, and the byte count stored through the
`SQLSMALLINT` out-pointer. -/
def Utf8ToSqlWChar (width : SqlWChar) (str : String) (bufLen : SQLSMALLINT) :
    Except Fault (List Nat × SQLSMALLINT) :=
  (ConvertToSqlWChar width str bufLen.toInt).map fun (written, bytesNeeded) =>
    (written, toSQLSMALLINT bytesNeeded)

/-- The byte capacity every wide entry point hands `Utf8ToSqlWChar` for a buffer
of `b` characters: `static_cast<SQLSMALLINT>(b * GetSqlWCharSize())`. -/
def wideCapacity (width : SqlWChar) (b : Int) : SQLSMALLINT :=
  toSQLSMALLINT (b * GetSqlWCharSize width)

/-- `bytes / GetSqlWCharSize()` for a `SQLSMALLINT` byte count: the division is
done in `size_t`. -/
def unitsOfBytes (width : SqlWChar) (bytes : SQLSMALLINT) : Int :=
  (toSizeT bytes.toInt / GetSqlWCharSize width : Nat)

/-- With a non-negative capacity, `Utf8ToSqlWChar` succeeds and stores the byte
length of the whole string. -/
theorem Utf8ToSqlWChar_ok (width : SqlWChar) (str : String) (bufLen : SQLSMALLINT)
    (nonneg : 0 ≤ bufLen.toInt) : ∃ written, Utf8ToSqlWChar width str bufLen =
      .ok (written,
        toSQLSMALLINT ((encodeUnits width str.toList).length * GetSqlWCharSize width : Nat)) := by
  simp only [Utf8ToSqlWChar, ConvertToSqlWChar, if_neg (Int.not_lt.mpr nonneg), Except.map]
  exact ⟨_, rfl⟩

/-- With a non-negative capacity, `Utf8ToSqlWChar` stores the whole string's byte
length, and `unitsOfBytes` turns it back into its count of units while it stays
below `2^15`. -/
theorem Utf8ToSqlWChar_reports_units (width : SqlWChar) (str : String) (bufLen : SQLSMALLINT)
    (nonneg : 0 ≤ bufLen.toInt)
    (short : (encodeUnits width str.toList).length * GetSqlWCharSize width < 2 ^ 15) :
    (Utf8ToSqlWChar width str bufLen).map (fun r => unitsOfBytes width r.2) =
      .ok (encodeUnits width str.toList).length := by
  have size := GetSqlWCharSize_pos width
  have exact :
      (toSQLSMALLINT ((encodeUnits width str.toList).length * GetSqlWCharSize width : Nat)).toInt =
        ((encodeUnits width str.toList).length * GetSqlWCharSize width : Nat) :=
    toSQLSMALLINT_toInt_of_small (by omega) (by exact_mod_cast short)
  have bytes : toSizeT ((encodeUnits width str.toList).length * GetSqlWCharSize width : Nat) =
      (encodeUnits width str.toList).length * GetSqlWCharSize width := by
    unfold toSizeT; omega
  simp only [Utf8ToSqlWChar, ConvertToSqlWChar, if_neg (Int.not_lt.mpr nonneg), Except.map,
    unitsOfBytes, exact, bytes, Nat.mul_div_cancel _ size]

theorem wideCapacity_toInt_of_small {width : SqlWChar} {b : Int} (pos : 0 < b)
    (small : b * GetSqlWCharSize width < 2 ^ 15) :
    (wideCapacity width b).toInt = b * GetSqlWCharSize width := by
  have bytesPos : 0 < b * GetSqlWCharSize width :=
    Int.mul_pos pos (by exact_mod_cast GetSqlWCharSize_pos width)
  exact toSQLSMALLINT_toInt_of_small (by omega) small

/-- While `b * GetSqlWCharSize()` stays below `2^15`, the capacity handed on for a
buffer of `b > 0` characters is not negative. -/
theorem wideCapacity_nonneg {width : SqlWChar} {b : Int} (pos : 0 < b)
    (small : b * GetSqlWCharSize width < 2 ^ 15) : 0 ≤ (wideCapacity width b).toInt := by
  rw [wideCapacity_toInt_of_small pos small]
  exact Int.le_of_lt (Int.mul_pos pos (by exact_mod_cast GetSqlWCharSize_pos width))

/-- `Utf8ToSqlWChar` fails only by writing past the buffer, and exactly when the
capacity it is handed is negative. -/
theorem Utf8ToSqlWChar_eq_error_iff (width : SqlWChar) (str : String) (bufLen : SQLSMALLINT)
    (fault : Fault) :
    Utf8ToSqlWChar width str bufLen = .error fault ↔ fault = .overwrite ∧ bufLen.toInt < 0 := by
  unfold Utf8ToSqlWChar ConvertToSqlWChar
  by_cases neg : bufLen.toInt < 0
  · simp [neg, Except.map, eq_comm]
  · simp [neg, Except.map]

/-- The capacity handed on is negative exactly when `b * GetSqlWCharSize()` leaves at
least `2^15` modulo `2^16`. -/
theorem wideCapacity_neg_iff (width : SqlWChar) (b : Int) :
    (wideCapacity width b).toInt < 0 ↔ 2 ^ 15 ≤ b * GetSqlWCharSize width % 2 ^ 16 := by
  rw [wideCapacity, toSQLSMALLINT_toInt, Int.bmod_def]
  split <;> omega

inductive SQLRETURN where
  | SQL_SUCCESS | SQL_SUCCESS_WITH_INFO | SQL_NO_DATA | SQL_ERROR | SQL_INVALID_HANDLE
  deriving DecidableEq, Repr

/-- What a string-returning entry point gives back: its return code, the units in
the caller's buffer (when one was given) and the value stored through the length
pointer (when one was given), as the caller reads it. -/
structure WideResult where
  code : SQLRETURN
  buffer : Option (List Nat) := none
  length : Option Int := none
  deriving DecidableEq, Repr

/-- The write-back shared by `SQLDriverConnectW`, `SQLNativeSqlW` and
`SQLGetCursorNameW`: through `Utf8ToSqlWChar` when a buffer of `b > 0`
characters is given, reporting `outLen / GetSqlWCharSize()` narrowed by `narrow`;
otherwise only the byte size of `str`, narrowed by `narrow`. -/
def wideWriteBack (narrow : Int → Int) (width : SqlWChar) (str : String) (buffer : Bool)
    (b : Int) (lengthPtr : Bool) : Except Fault WideResult :=
  if buffer ∧ 0 < b then
    (Utf8ToSqlWChar width str (wideCapacity width b)).map fun (written, outLen) =>
      { code := .SQL_SUCCESS, buffer := some written,
        length := (if lengthPtr then some (narrow (unitsOfBytes width outLen)) else none) }
  else .ok
    { code := .SQL_SUCCESS,
      length := (if lengthPtr then some (narrow str.utf8ByteSize) else none) }

theorem wideWriteBack_eq_error_iff (narrow : Int → Int) (width : SqlWChar) (str : String)
    (buffer : Bool) (b : Int) (lengthPtr : Bool) (fault : Fault) :
    wideWriteBack narrow width str buffer b lengthPtr = .error fault ↔
      fault = .overwrite ∧ buffer = true ∧ 0 < b ∧ 2 ^ 15 ≤ b * GetSqlWCharSize width % 2 ^ 16 := by
  unfold wideWriteBack
  by_cases given : buffer = true ∧ 0 < b
  · rw [if_pos given, map_eq_error_iff, Utf8ToSqlWChar_eq_error_iff, wideCapacity_neg_iff]
    simp [given]
  · rw [if_neg given]
    simp only [reduceCtorEq, false_iff]
    exact fun ⟨_, buf, pos, _⟩ => given ⟨buf, pos⟩

/-- A `static_cast<SQLSMALLINT>` as its reader sees it. -/
def narrowSmall (x : Int) : Int := (toSQLSMALLINT x).toInt

/-- A `static_cast<SQLINTEGER>` as its reader sees it. -/
def narrowInteger (x : Int) : Int := (BitVec.ofInt 32 x).toInt

/-- The write-back of `SQLDriverConnectW` once `connect` has succeeded. -/
def SQLDriverConnectWOut (width : SqlWChar) (connStr : String) (connStrOut : Bool)
    (connStrOutMax : SQLSMALLINT) (connStrOutLen : Bool) : Except Fault WideResult :=
  wideWriteBack narrowSmall width connStr connStrOut connStrOutMax.toInt connStrOutLen

/-- The write-back of `SQLNativeSqlW` for the text it read. -/
def SQLNativeSqlWOut (width : SqlWChar) (sql : String) (outSql : Bool) (outSqlMax : SQLINTEGER)
    (outSqlLen : Bool) : Except Fault WideResult :=
  wideWriteBack narrowInteger width sql outSql outSqlMax.toInt outSqlLen

/-- `SQLGetCursorNameW`: the cursor is always `SQL_CUR`. -/
def SQLGetCursorNameW (width : SqlWChar) (cursorName : Bool) (bufferLength : SQLSMALLINT)
    (nameLength : Bool) : Except Fault WideResult :=
  wideWriteBack narrowSmall width "SQL_CUR" cursorName bufferLength.toInt nameLength

/-- **What the shared write-back reports.** While the capacity and the string stay
below `2^15` bytes, `SQLDriverConnectW`, `SQLNativeSqlW` and `SQLGetCursorNameW`
report the string's count of `SQLWCHAR` units when given a buffer, and its count of
UTF-8 bytes when not. -/
theorem wide_write_back_length_depends_on_buffer (narrow : Int → Int) (width : SqlWChar)
    (str : String) (buffer : Bool) (b : Int) (lengthPtr : Bool)
    (capacity : b * GetSqlWCharSize width < 2 ^ 15)
    (short : (encodeUnits width str.toList).length * GetSqlWCharSize width < 2 ^ 15) :
    (wideWriteBack narrow width str buffer b lengthPtr).map (·.length) =
      .ok (if lengthPtr then
        some (narrow (if buffer ∧ 0 < b then (encodeUnits width str.toList).length
          else str.utf8ByteSize))
        else none) := by
  unfold wideWriteBack
  by_cases given : buffer = true ∧ 0 < b
  · have reported := Utf8ToSqlWChar_reports_units width str (wideCapacity width b)
      (wideCapacity_nonneg given.2 capacity) short
    rcases written : Utf8ToSqlWChar width str (wideCapacity width b) with fault | ⟨units, outLen⟩
    · rw [written] at reported; cases reported
    · simp only [written, Except.map, Except.ok.injEq] at reported
      cases lengthPtr <;> simp [Except.map, given, written, reported]
  · cases lengthPtr <;> simp [given, Except.map]

theorem cursor_name_length_with_buffer :
    (SQLGetCursorNameW .utf16 true 8 true).map (·.length) = .ok (some 7) :=
  wide_write_back_length_depends_on_buffer narrowSmall .utf16 "SQL_CUR" true 8 true (by decide)
    (by decide)

/-- A diagnostic record of a handle. -/
structure DiagRecord where
  sqlState : String
  nativeError : Int
  messageText : String

/-- What `SQLGetDiagRecW` gives back besides the message. -/
structure DiagRecResult where
  result : WideResult
  sqlState : Option (List Nat) := none
  nativeError : Option Int := none

/-- `SQLGetDiagRecW` on a handle of type `handleType` whose diagnostics are
`handle` (`none` for a null handle). The output pointers are given or not. -/
def SQLGetDiagRecW (width : SqlWChar) (handleType : SQLSMALLINT) (handle : Option (List DiagRecord))
    (recNumber : SQLSMALLINT) (sqlState nativeError messageText : Bool) (bufferLength : SQLSMALLINT)
    (textLength : Bool) : Except Fault DiagRecResult :=
  match handle with
  | none => .ok ⟨{ code := .SQL_INVALID_HANDLE }, none, none⟩
  | some diag =>
    if recNumber.toInt < 1 then .ok ⟨{ code := .SQL_ERROR }, none, none⟩
    else if handleType.toInt ∉ [1, 2, 3, 4] then .ok ⟨{ code := .SQL_ERROR }, none, none⟩
    else match diag[(recNumber.toInt - 1).toNat]? with
      | none => .ok ⟨{ code := .SQL_NO_DATA }, none, none⟩
      | some record => do
        let state ← if sqlState then
            (Utf8ToSqlWChar width record.sqlState (toSQLSMALLINT (6 * GetSqlWCharSize width))).map
              fun (written, _) => some written
          else pure none
        let native := if nativeError then some record.nativeError else none
        let msg := record.messageText
        let size := GetSqlWCharSize width
        if messageText ∧ 0 < bufferLength.toInt then
          let (written, bytesWritten) ←
            Utf8ToSqlWChar width msg (wideCapacity width bufferLength.toInt)
          let truncated := toSizeT bufferLength.toInt * size < msg.utf8ByteSize * size + size
          let result : WideResult :=
            { code := if truncated then .SQL_SUCCESS_WITH_INFO else .SQL_SUCCESS,
              buffer := some written,
              length := if textLength then some (narrowSmall (unitsOfBytes width bytesWritten))
                else none }
          pure ⟨result, state, native⟩
        else
          let result : WideResult :=
            { code := .SQL_SUCCESS,
              length := if textLength then some (narrowSmall msg.utf8ByteSize) else none }
          pure ⟨result, state, native⟩

/-- A message buffer of 16384 two-byte characters is handed to `Utf8ToSqlWChar` as
-32768 bytes, which reaches `memcpy` as a `size_t` past any buffer. -/
theorem diag_message_capacity_wraps :
    (wideCapacity .utf16 16384).toInt = -32768 ∧
      SQLGetDiagRecW .utf16 3 (some [⟨"HY000", 0, "failed"⟩]) 1 false false true 16384 true =
        .error .overwrite :=
  ⟨by decide, rfl⟩

theorem SQLGetDiagRecW_eq_error_iff (width : SqlWChar) (handleType : SQLSMALLINT)
    (diag : List DiagRecord) (recNumber : SQLSMALLINT) (sqlState nativeError messageText : Bool)
    (bufferLength : SQLSMALLINT) (textLength : Bool) (fault : Fault) :
    SQLGetDiagRecW width handleType (some diag) recNumber sqlState nativeError messageText
        bufferLength textLength = .error fault ↔
      fault = .overwrite ∧ 1 ≤ recNumber.toInt ∧ handleType.toInt ∈ [1, 2, 3, 4] ∧
        (recNumber.toInt - 1).toNat < diag.length ∧ messageText = true ∧ 0 < bufferLength.toInt ∧
        2 ^ 15 ≤ bufferLength.toInt * GetSqlWCharSize width % 2 ^ 16 := by
  simp only [SQLGetDiagRecW]
  by_cases low : recNumber.toInt < 1
  · simp only [if_pos low, reduceCtorEq, false_iff]
    omega
  by_cases known : handleType.toInt ∈ [1, 2, 3, 4]
  swap
  · simp only [if_neg low, if_pos known, reduceCtorEq, false_iff]
    exact fun ⟨_, _, valid, _⟩ => known valid
  simp only [if_neg low, known, not_true_eq_false, if_false]
  cases found : diag[(recNumber.toInt - 1).toNat]? with
  | none =>
    simp only [reduceCtorEq, false_iff]
    have beyond := List.getElem?_eq_none_iff.mp found
    omega
  | some record =>
    have inside : (recNumber.toInt - 1).toNat < diag.length := List.getElem?_eq_some_iff.mp found |>.1
    obtain ⟨stateUnits, state⟩ := Utf8ToSqlWChar_ok width record.sqlState
      (toSQLSMALLINT (6 * GetSqlWCharSize width)) (by cases width <;> decide)
    simp only [state, known, inside, true_and, Int.not_lt.mp low]
    rw [← wideCapacity_neg_iff]
    by_cases copied : messageText = true ∧ 0 < bufferLength.toInt
    · rcases message : Utf8ToSqlWChar width record.messageText
          (wideCapacity width bufferLength.toInt) with e | ⟨written, bytes⟩
      · obtain ⟨rfl, neg⟩ := (Utf8ToSqlWChar_eq_error_iff _ _ _ _).mp message
        cases sqlState <;> simp [copied, Except.map, bind, Except.bind, pure, Except.pure, eq_comm, neg]
      · have nonneg : ¬ (wideCapacity width bufferLength.toInt).toInt < 0 := fun neg =>
          absurd ((Utf8ToSqlWChar_eq_error_iff _ _ _ .overwrite).mpr ⟨rfl, neg⟩)
            (by rw [message]; nofun)
        cases sqlState <;> simp [copied, Except.map, bind, Except.bind, pure, Except.pure, nonneg]
    · refine iff_of_false ?_ fun ⟨_, given, pos, _⟩ => copied ⟨given, pos⟩
      cases sqlState <;> simp [copied, Except.map, bind, Except.bind, pure, Except.pure]

/-- **When the wide write-backs write past the buffer.** For every string and every
buffer length `b`, `SQLDriverConnectW`, `SQLNativeSqlW` and `SQLGetCursorNameW` fault
exactly when a buffer of `b > 0` characters is given and `b * GetSqlWCharSize()` leaves
at least `2^15` modulo `2^16`, which the cast to `SQLSMALLINT` makes a negative
capacity; `SQLGetDiagRecW` faults exactly when, besides, the record asked for exists.
Writing past the buffer is the only fault of either. -/
theorem wide_write_back_faults_iff (narrow : Int → Int) (width : SqlWChar) (str : String)
    (buffer : Bool) (b : Int) (lengthPtr : Bool) (handleType : SQLSMALLINT)
    (diag : List DiagRecord) (recNumber : SQLSMALLINT) (sqlState nativeError messageText : Bool)
    (bufferLength : SQLSMALLINT) (textLength : Bool) (fault : Fault) :
    (wideWriteBack narrow width str buffer b lengthPtr = .error fault ↔
      fault = .overwrite ∧ buffer = true ∧ 0 < b ∧ 2 ^ 15 ≤ b * GetSqlWCharSize width % 2 ^ 16) ∧
    (SQLGetDiagRecW width handleType (some diag) recNumber sqlState nativeError messageText
        bufferLength textLength = .error fault ↔
      fault = .overwrite ∧ 1 ≤ recNumber.toInt ∧ handleType.toInt ∈ [1, 2, 3, 4] ∧
        (recNumber.toInt - 1).toNat < diag.length ∧ messageText = true ∧ 0 < bufferLength.toInt ∧
        2 ^ 15 ≤ bufferLength.toInt * GetSqlWCharSize width % 2 ^ 16) :=
  ⟨wideWriteBack_eq_error_iff .., SQLGetDiagRecW_eq_error_iff ..⟩

/-- **`SQLGetDiagRecW` decides truncation on bytes.** For every record it finds and
every message buffer of `b > 0` characters whose capacity stays below `2^15` bytes,
it returns `SQL_SUCCESS_WITH_INFO` exactly when `b` is at most the message's count
of UTF-8 bytes. -/
theorem diag_rec_truncation_counts_bytes (width : SqlWChar) (handleType : SQLSMALLINT)
    (diag : List DiagRecord) (recNumber : SQLSMALLINT) (record : DiagRecord)
    (sqlState nativeError textLength : Bool) (bufferLength : SQLSMALLINT)
    (valid : 1 ≤ recNumber.toInt ∧ handleType.toInt ∈ [1, 2, 3, 4])
    (found : diag[(recNumber.toInt - 1).toNat]? = some record) (pos : 0 < bufferLength.toInt)
    (capacity : bufferLength.toInt * GetSqlWCharSize width < 2 ^ 15) :
    (SQLGetDiagRecW width handleType (some diag) recNumber sqlState nativeError true bufferLength
      textLength).map (·.result.code) =
      .ok (if bufferLength.toInt ≤ record.messageText.utf8ByteSize then .SQL_SUCCESS_WITH_INFO
        else .SQL_SUCCESS) := by
  have size := GetSqlWCharSize_pos width
  obtain ⟨written, message⟩ := Utf8ToSqlWChar_ok width record.messageText
    (wideCapacity width bufferLength.toInt) (wideCapacity_nonneg pos capacity)
  obtain ⟨stateUnits, state⟩ := Utf8ToSqlWChar_ok width record.sqlState
    (toSQLSMALLINT (6 * GetSqlWCharSize width)) (by cases width <;> decide)
  have truncated : toSizeT bufferLength.toInt * GetSqlWCharSize width <
      record.messageText.utf8ByteSize * GetSqlWCharSize width + GetSqlWCharSize width ↔
      bufferLength.toInt ≤ record.messageText.utf8ByteSize := by
    rw [toSizeT_of_nonneg (by omega) (by have := SQLSMALLINT_toInt_bounds bufferLength; omega),
      ← Nat.succ_mul, Nat.mul_lt_mul_right size]
    omega
  simp only [SQLGetDiagRecW, if_neg (Int.not_lt.mpr valid.1), if_neg (not_not.mpr valid.2), found,
    message, state]
  cases sqlState <;> simp [pos, truncated, Except.map, bind, Except.bind, pure, Except.pure]

theorem diag_rec_abc_fits_four :
    (SQLGetDiagRecW .utf16 3 (some [⟨"HY000", 0, "abc"⟩]) 1 true true true 4 true).map
      (·.result.code) = .ok .SQL_SUCCESS :=
  diag_rec_truncation_counts_bytes .utf16 3 [⟨"HY000", 0, "abc"⟩] 1 ⟨"HY000", 0, "abc"⟩
    true true true 4 ⟨by decide, by decide⟩ rfl (by decide) (by decide)

/-- For the message "é" (two UTF-8 bytes, one UTF-16 unit), `SQLGetDiagRecW`
reports 2 when no buffer is given and 1 when one is, and calls a 2-character
buffer, which holds the unit and its NUL, truncated. -/
theorem diag_length_counts_bytes_without_buffer :
    (encodeUnits .utf16 "é".toList).length = 1 ∧
      (SQLGetDiagRecW .utf16 3 (some [⟨"HY000", 0, "é"⟩]) 1 false false false 0 true).map
        (·.result) = .ok { code := .SQL_SUCCESS, length := some 2 } ∧
      (SQLGetDiagRecW .utf16 3 (some [⟨"HY000", 0, "é"⟩]) 1 false false true 8 true).map
        (·.result.length) = .ok (some 1) ∧
      (SQLGetDiagRecW .utf16 3 (some [⟨"HY000", 0, "é"⟩]) 1 false false true 2 true).map
        (·.result.code) = .ok .SQL_SUCCESS_WITH_INFO :=
  ⟨rfl, rfl, rfl, rfl⟩

end GizmoSqlOdbc.WideOutput
