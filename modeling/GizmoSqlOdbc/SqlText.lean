import Mathlib

/-! How the ODBC entry points of `odbc_entry.cc` turn a caller's buffer and length
into the `std::string` the driver receives. `SqlCharToString` and
`SqlWCharToString` take a `SQLSMALLINT` length, so the `SQLINTEGER` lengths of
`SQLPrepare`, `SQLExecDirect` and `SQLNativeSql` are cut to 16 bits on the way in;
`SqlWCharToString` divides an explicit length by `GetSqlWCharSize()`, reading the
caller's character count as a byte count. -/
namespace GizmoSqlOdbc.SqlText

abbrev SQLSMALLINT := BitVec 16
abbrev SQLINTEGER := BitVec 32

/-- `SQL_NTS`: the length of a NUL-terminated string. -/
def SQL_NTS : Int := -3

/-- `static_cast<SQLSMALLINT>`: the value wraps modulo `2^16`. -/
def toSQLSMALLINT (x : Int) : SQLSMALLINT := BitVec.ofInt 16 x

@[simp] theorem toSQLSMALLINT_toInt (x : Int) : (toSQLSMALLINT x).toInt = x.bmod (2 ^ 16) :=
  BitVec.toInt_ofInt x

/-- The cast is exact on the `SQLSMALLINT` range. -/
theorem toSQLSMALLINT_toInt_of_small {x : Int} (low : -2 ^ 15 ≤ x) (high : x < 2 ^ 15) :
    (toSQLSMALLINT x).toInt = x := by
  simp only [toSQLSMALLINT_toInt, Int.bmod]
  split <;> omega

/-- `static_cast<size_t>` of a signed value: the value modulo `2^64`. -/
def toSizeT (x : Int) : Nat := (x % 2 ^ 64).toNat

theorem toSizeT_of_nonneg {x : Int} (nonneg : 0 ≤ x) (small : x < 2 ^ 64) : toSizeT x = x.toNat := by
  rw [toSizeT, Int.emod_eq_of_lt nonneg small]

/-- `PTRDIFF_MAX`. No `std::basic_string` holds more characters than this
(`max_size()` is at most it), so a longer count raises `std::length_error`. The
counts reaching it here are below `2^31` or above `2^64 - 2^15`, where every
library agrees. -/
def PTRDIFF_MAX : Nat := 2 ^ 63 - 1

/-- What can go wrong with a caller's buffer: `std::length_error` (caught by
`ExecuteWithDiagnostics`, so the call returns `SQL_ERROR` without reading), a read
past the end of the buffer, or a write past it. -/
inductive Fault where
  | lengthError | overread | overwrite
  deriving DecidableEq, Repr

/-- A computation that goes on past its fallible step fails exactly as that step does. -/
theorem map_eq_error_iff {α β ε : Type} (g : α → β) (x : Except ε α) (e : ε) :
    x.map g = .error e ↔ x = .error e := by
  cases x <;> simp [Except.map]

theorem map_eq_ok_iff {α β ε : Type} (g : α → β) (x : Except ε α) (b : β) :
    x.map g = .ok b ↔ ∃ a, x = .ok a ∧ g a = b := by
  cases x <;> simp [Except.map]

theorem bind_eq_ok_iff {α β ε : Type} (x : Except ε α) (f : α → Except ε β) (b : β) :
    x >>= f = .ok b ↔ ∃ a, x = .ok a ∧ f a = .ok b := by
  cases x <;> simp [bind, Except.bind]

/-- `std::string(const char *s)`: the bytes before the first NUL. -/
def stringOfCStr (buffer : List UInt8) : Except Fault (List UInt8) :=
  if 0 ∈ buffer then .ok (buffer.takeWhile (· ≠ 0)) else .error .overread

/-- `std::string(const char *s, size_t count)`. -/
def stringOfCount (buffer : List UInt8) (count : Nat) : Except Fault (List UInt8) :=
  if PTRDIFF_MAX < count then .error .lengthError
  else if count ≤ buffer.length then .ok (buffer.take count) else .error .overread

/-- `SqlCharToString`. A null pointer (`none`) reads as the empty string. -/
def SqlCharToString (str : Option (List UInt8)) (len : SQLSMALLINT) : Except Fault (List UInt8) :=
  match str with
  | none => .ok []
  | some str => if len.toInt = SQL_NTS then stringOfCStr str else stringOfCount str (toSizeT len.toInt)

/-- `ToOptionalString`: as `SqlCharToString`, but a null pointer stays absent. -/
def ToOptionalString (str : Option (List UInt8)) (len : SQLSMALLINT) :
    Except Fault (Option (List UInt8)) :=
  match str with
  | none => .ok none
  | some str => .map some (SqlCharToString (some str) len)

/-- The width of `SQLWCHAR` the driver was built for: `GetSqlWCharSize()` is 2
(UTF-16 units) or 4 (UTF-32 units). -/
inductive SqlWChar where
  | utf16 | utf32
  deriving DecidableEq, Repr

def GetSqlWCharSize : SqlWChar → Nat
  | .utf16 => 2
  | .utf32 => 4

theorem GetSqlWCharSize_pos (width : SqlWChar) : 0 < GetSqlWCharSize width := by
  cases width <;> decide

/-- UTF-16 units to characters, a surrogate pair making one character. -/
def decodeUtf16 : List Nat → List Char
  | [] => []
  | [unit] => [Char.ofNat unit]
  | high :: low :: rest =>
    if 0xD800 ≤ high ∧ high < 0xDC00 ∧ 0xDC00 ≤ low ∧ low < 0xE000 then
      Char.ofNat (0x10000 + (high - 0xD800) * 0x400 + (low - 0xDC00)) :: decodeUtf16 rest
    else Char.ofNat high :: decodeUtf16 (low :: rest)

/-- Modelled from the spec: the UTF conversions of `odbcabstraction` behind
`WcsToUtf8`, which are not in the sources; the spec leaves wide/narrow string
conversion to an external collaborator. They are the standard ones: units to
characters by UTF-16 or UTF-32, characters to bytes by UTF-8. -/
def decodeUnits : SqlWChar → List Nat → List Char
  | .utf16, units => decodeUtf16 units
  | .utf32, units => units.map Char.ofNat

def utf8 (chars : List Char) : List UInt8 := chars.flatMap String.utf8EncodeChar

/-- Characters to `SQLWCHAR` units: UTF-16, with a surrogate pair above the basic
plane, or UTF-32. -/
def encodeUnits : SqlWChar → List Char → List Nat
  | .utf16, chars => chars.flatMap fun c =>
    if c.toNat < 0x10000 then [c.toNat]
    else [0xD800 + (c.toNat - 0x10000) / 0x400, 0xDC00 + (c.toNat - 0x10000) % 0x400]
  | .utf32, chars => chars.map Char.toNat

/-- `WcsToUtf8(wstr, count, &utf8)`: the first `count` units of the buffer. -/
def WcsToUtf8 (width : SqlWChar) (wstr : List Nat) (count : Nat) : Except Fault (List UInt8) :=
  if count ≤ wstr.length then .ok (utf8 (decodeUnits width (wstr.take count)))
  else .error .overread

/-- `WcsToUtf8(wstr, &utf8)`: the units before the first NUL. -/
def WcsToUtf8NTS (width : SqlWChar) (wstr : List Nat) : Except Fault (List UInt8) :=
  if 0 ∈ wstr then .ok (utf8 (decodeUnits width (wstr.takeWhile (· ≠ 0))))
  else .error .overread

/-- `SqlWCharToString`: an explicit length is divided by `GetSqlWCharSize()`. -/
def SqlWCharToString (width : SqlWChar) (wstr : Option (List Nat)) (len : SQLSMALLINT) :
    Except Fault (List UInt8) :=
  match wstr with
  | none => .ok []
  | some wstr =>
    if len.toInt = SQL_NTS then WcsToUtf8NTS width wstr
    else WcsToUtf8 width wstr (toSizeT len.toInt / GetSqlWCharSize width)

/-- `ToOptionalStringW`. -/
def ToOptionalStringW (width : SqlWChar) (str : Option (List Nat)) (len : SQLSMALLINT) :
    Except Fault (Option (List UInt8)) :=
  match str with
  | none => .ok none
  | some str => .map some (SqlWCharToString width (some str) len)

/-- The length `SQLPrepare`, `SQLExecDirect` and `SQLNativeSql` hand on:
`len == SQL_NTS ? SQL_NTS : static_cast<SQLSMALLINT>(len)`. -/
def narrowTextLength (len : SQLINTEGER) : SQLSMALLINT :=
  if len.toInt = SQL_NTS then toSQLSMALLINT SQL_NTS else toSQLSMALLINT len.toInt

/-- How the statement entry points read their text: a string helper applied to
the narrowed length. -/
def statementText (read : Option β → SQLSMALLINT → Except Fault (List UInt8))
    (text : Option β) (len : SQLINTEGER) : Except Fault (List UInt8) :=
  read text (narrowTextLength len)

/-- The text `SQLPrepare` hands to `ODBCStatement::Prepare`. -/
def SQLPrepare (sqlStr : Option (List UInt8)) (sqlStrLen : SQLINTEGER) : Except Fault (List UInt8) :=
  statementText SqlCharToString sqlStr sqlStrLen

def SQLPrepareW (width : SqlWChar) (sqlStr : Option (List Nat)) (sqlStrLen : SQLINTEGER) :
    Except Fault (List UInt8) :=
  statementText (SqlWCharToString width) sqlStr sqlStrLen

/-- The text `SQLExecDirect` hands to `ODBCStatement::ExecuteDirect`. -/
def SQLExecDirect (sqlStr : Option (List UInt8)) (sqlStrLen : SQLINTEGER) : Except Fault (List UInt8) :=
  statementText SqlCharToString sqlStr sqlStrLen

def SQLExecDirectW (width : SqlWChar) (sqlStr : Option (List Nat)) (sqlStrLen : SQLINTEGER) :
    Except Fault (List UInt8) :=
  statementText (SqlWCharToString width) sqlStr sqlStrLen

/-- The text `SQLNativeSql` echoes back. -/
def SQLNativeSqlText (inSql : Option (List UInt8)) (inSqlLen : SQLINTEGER) : Except Fault (List UInt8) :=
  statementText SqlCharToString inSql inSqlLen

def SQLNativeSqlWText (width : SqlWChar) (inSql : Option (List Nat)) (inSqlLen : SQLINTEGER) :
    Except Fault (List UInt8) :=
  statementText (SqlWCharToString width) inSql inSqlLen

/-- The narrow statement entry points are `statementText` over `SqlCharToString`. -/
theorem narrow_statement_entry {entry : Option (List UInt8) → SQLINTEGER → Except Fault (List UInt8)}
    (family : entry ∈ [SQLPrepare, SQLExecDirect, SQLNativeSqlText]) :
    entry = statementText SqlCharToString := by
  simp only [List.mem_cons, List.not_mem_nil, or_false] at family
  rcases family with rfl | rfl | rfl <;> rfl

/-- The wide statement entry points are `statementText` over `SqlWCharToString`. -/
theorem wide_statement_entry {width : SqlWChar}
    {entry : Option (List Nat) → SQLINTEGER → Except Fault (List UInt8)}
    (family : entry ∈ [SQLPrepareW width, SQLExecDirectW width, SQLNativeSqlWText width]) :
    entry = statementText (SqlWCharToString width) := by
  simp only [List.mem_cons, List.not_mem_nil, or_false] at family
  rcases family with rfl | rfl | rfl <;> rfl

/-- The connection string `SQLDriverConnect` parses. -/
def SQLDriverConnectText (connStrIn : Option (List UInt8)) (connStrInLen : SQLSMALLINT) :
    Except Fault (List UInt8) :=
  SqlCharToString connStrIn connStrInLen

def SQLDriverConnectWText (width : SqlWChar) (connStrIn : Option (List Nat))
    (connStrInLen : SQLSMALLINT) : Except Fault (List UInt8) :=
  SqlWCharToString width connStrIn connStrInLen

/-- The `SQLINTEGER` narrowing keeps the length modulo `2^16`, read as signed:
`SQL_NTS` stays `SQL_NTS`, and so does every length congruent to it. -/
theorem narrowTextLength_toInt (len : SQLINTEGER) :
    (narrowTextLength len).toInt = len.toInt.bmod (2 ^ 16) := by
  unfold narrowTextLength
  split <;> simp only [toSQLSMALLINT_toInt, *]

theorem SQLSMALLINT_toInt_bounds (x : SQLSMALLINT) : -2 ^ 15 ≤ x.toInt ∧ x.toInt < 2 ^ 15 := by
  rw [BitVec.toInt_eq_toNat_cond]; have := x.isLt; split <;> omega

/-- A negative `SQLSMALLINT` becomes a `size_t` above `PTRDIFF_MAX`. -/
theorem toSizeT_of_neg {x : Int} (neg : x < 0) (large : -2 ^ 63 ≤ x) : PTRDIFF_MAX < toSizeT x := by
  unfold toSizeT PTRDIFF_MAX
  omega

/-- `SqlCharToString` on a buffer, by the sign of the length. -/
theorem SqlCharToString_some (buffer : List UInt8) (len : SQLSMALLINT) :
    SqlCharToString (some buffer) len =
      if len.toInt = SQL_NTS then stringOfCStr buffer
      else if len.toInt < 0 then .error .lengthError
      else stringOfCount buffer len.toInt.toNat := by
  have bounded := SQLSMALLINT_toInt_bounds len
  simp only [SqlCharToString]
  split_ifs with nts neg
  · rfl
  · rw [stringOfCount, if_pos (toSizeT_of_neg neg (by omega))]
  · rw [toSizeT_of_nonneg (by omega) (by omega)]

/-- An explicit non-negative length reads exactly that many bytes of a buffer
that has them. -/
theorem SqlCharToString_of_count (buffer : List UInt8) (len : SQLSMALLINT) (nonneg : 0 ≤ len.toInt)
    (fits : len.toInt.toNat ≤ buffer.length) :
    SqlCharToString (some buffer) len = .ok (buffer.take len.toInt.toNat) := by
  have bounded := SQLSMALLINT_toInt_bounds len
  rw [SqlCharToString_some, if_neg (by unfold SQL_NTS; omega), if_neg (by omega), stringOfCount,
    if_neg (by unfold PTRDIFF_MAX; omega), if_pos fits]

/-- **What the narrow statement entry points read.** For every explicit length, the
text is read at the length cut to 16 bits: up to the first NUL when the cut length
is `SQL_NTS`, nothing (a `length_error`) when it is any other negative value, and
otherwise that many bytes. -/
theorem narrow_statement_text_reads_cut_length (buffer : List UInt8) (len : SQLINTEGER) :
    ∀ entry ∈ [SQLPrepare, SQLExecDirect, SQLNativeSqlText],
      entry (some buffer) len =
        if len.toInt.bmod (2 ^ 16) = SQL_NTS then stringOfCStr buffer
        else if len.toInt.bmod (2 ^ 16) < 0 then .error .lengthError
        else stringOfCount buffer (len.toInt.bmod (2 ^ 16)).toNat := by
  intro entry family
  rw [narrow_statement_entry family, statementText, SqlCharToString_some, narrowTextLength_toInt]

theorem execute_direct_reads_65538_as_2 :
    SQLExecDirect (some [0x61, 0x62, 0x63]) 65538 = .ok [0x61, 0x62] := by
  rw [narrow_statement_text_reads_cut_length [0x61, 0x62, 0x63] 65538 SQLExecDirect (by simp)]
  rfl

/-- A 70000-byte statement passed with its exact length reaches `Prepare` as its
first 4464 bytes: 70000 is cut to 16 bits on the way. -/
theorem prepare_length_wraps_at_16_bits :
    SQLPrepare (some (List.replicate 70000 0x61)) 70000 = .ok (List.replicate 4464 0x61) := by
  have narrowed : narrowTextLength 70000 = 4464 := by decide
  rw [SQLPrepare, statementText, narrowed,
    SqlCharToString_of_count _ _ (by decide) (by rw [List.length_replicate]; decide),
    List.take_replicate]
  rfl

/-- "ab" with the explicit length 2 reaches `ExecuteDirect` whole through
`SQLExecDirect`, and as "a" through `SQLExecDirectW` with 2-byte `SQLWCHAR`s. -/
theorem wide_length_read_as_bytes :
    SQLExecDirect (some [0x61, 0x62]) 2 = .ok [0x61, 0x62] ∧
      SQLExecDirectW .utf16 (some [0x61, 0x62]) 2 = .ok [0x61] :=
  ⟨rfl, rfl⟩

/-! ## NUL-terminated text -/

/-- Text of ASCII characters other than NUL. -/
def AsciiText (text : List Char) : Prop := ∀ c ∈ text, 0 < c.toNat ∧ c.toNat < 128

instance (text : List Char) : Decidable (AsciiText text) :=
  inferInstanceAs (Decidable (∀ c ∈ text, 0 < c.toNat ∧ c.toNat < 128))

theorem decodeUtf16_of_lt_surrogate (units : List Nat) (low : ∀ u ∈ units, u < 0xD800) :
    decodeUtf16 units = units.map Char.ofNat := by
  induction units using decodeUtf16.induct with
  | case1 => rfl
  | case2 unit => rfl
  | case3 high next rest pair ih => have := low high (by simp); omega
  | case4 high next rest notPair ih =>
    rw [decodeUtf16, if_neg notPair, ih fun u mem => low u (List.mem_cons_of_mem high mem)]
    rfl

theorem encodeUnits_of_ascii (width : SqlWChar) {text : List Char} (ascii : AsciiText text) :
    encodeUnits width text = text.map Char.toNat := by
  cases width with
  | utf32 => rfl
  | utf16 =>
    induction text with
    | nil => rfl
    | cons c text ih =>
      have small := (ascii c (List.mem_cons_self c text)).2
      simp only [encodeUnits, List.flatMap_cons, if_pos (show c.toNat < 0x10000 by omega)] at ih ⊢
      rw [ih fun d mem => ascii d (List.mem_cons_of_mem c mem)]
      rfl

theorem decodeUnits_of_ascii (width : SqlWChar) {text : List Char} (ascii : AsciiText text) :
    decodeUnits width (text.map Char.toNat) = text := by
  cases width with
  | utf32 => simp [decodeUnits, Function.comp_def, Char.ofNat_toNat]
  | utf16 =>
    rw [decodeUnits, decodeUtf16_of_lt_surrogate _ (by
      simp only [List.mem_map]
      rintro _ ⟨c, mem, rfl⟩
      have := (ascii c mem).2
      omega)]
    simp [Function.comp_def, Char.ofNat_toNat]

/-- An ASCII character is its own UTF-8 byte, which is not NUL. -/
theorem utf8EncodeChar_of_ascii {c : Char} (pos : 0 < c.toNat) (small : c.toNat < 128) :
    String.utf8EncodeChar c = [c.val.toUInt8] ∧ c.val.toUInt8 ≠ 0 := by
  have same : c.toNat = c.val.toNat := rfl
  constructor
  · rw [String.utf8EncodeChar, if_pos (show c.val ≤ 127 from show c.val.toNat ≤ 127 by omega)]
  · intro zero
    have byte := congrArg UInt8.toNat zero
    rw [UInt32.toUInt8, UInt8.toNat_ofNat_of_lt (show c.val.toNat < 256 by omega)] at byte
    simp only [UInt8.toNat_zero] at byte
    omega

theorem zero_not_mem_utf8 {text : List Char} (ascii : AsciiText text) : 0 ∉ utf8 text := by
  simp only [utf8, List.mem_flatMap, not_exists, not_and]
  intro c mem
  obtain ⟨encoded, nonzero⟩ := utf8EncodeChar_of_ascii (ascii c mem).1 (ascii c mem).2
  rw [encoded, List.mem_singleton]
  exact fun zero => nonzero zero.symm

theorem stringOfCStr_append_nul {buffer : List UInt8} (nonzero : 0 ∉ buffer) :
    stringOfCStr (buffer ++ [0]) = .ok buffer := by
  have kept : ∀ b ∈ buffer, decide (b ≠ 0) = true := fun b mem =>
    decide_eq_true fun zero => nonzero (zero ▸ mem)
  rw [stringOfCStr, if_pos (List.mem_append_right _ (List.mem_singleton_self 0)),
    List.takeWhile_append_of_pos kept]
  simp

theorem WcsToUtf8NTS_append_nul (width : SqlWChar) {units : List Nat} (nonzero : 0 ∉ units) :
    WcsToUtf8NTS width (units ++ [0]) = .ok (utf8 (decodeUnits width units)) := by
  have kept : ∀ u ∈ units, decide (u ≠ 0) = true := fun u mem =>
    decide_eq_true fun zero => nonzero (zero ▸ mem)
  rw [WcsToUtf8NTS, if_pos (List.mem_append_right _ (List.mem_singleton_self 0)),
    List.takeWhile_append_of_pos kept]
  simp

/-- **With `SQL_NTS` the two widths agree.** For every ASCII text without NUL, the
narrow statement entry points given its bytes and the wide ones given its
`SQLWCHAR` units, each NUL-terminated with the length `SQL_NTS`, hand the driver
the same string: the text's bytes. -/
theorem nts_text_agrees_across_widths (width : SqlWChar) (text : List Char) (ascii : AsciiText text) :
    (∀ entry ∈ [SQLPrepare, SQLExecDirect, SQLNativeSqlText],
      entry (some (utf8 text ++ [0])) (BitVec.ofInt 32 SQL_NTS) = .ok (utf8 text)) ∧
    ∀ entry ∈ [SQLPrepareW width, SQLExecDirectW width, SQLNativeSqlWText width],
      entry (some (encodeUnits width text ++ [0])) (BitVec.ofInt 32 SQL_NTS) = .ok (utf8 text) := by
  have nts : narrowTextLength (BitVec.ofInt 32 SQL_NTS) = toSQLSMALLINT SQL_NTS := by decide
  have ntsInt : (toSQLSMALLINT SQL_NTS).toInt = SQL_NTS := by decide
  have unitsNonzero : 0 ∉ text.map Char.toNat := by
    simp only [List.mem_map, not_exists, not_and]
    exact fun c mem zero => by have := (ascii c mem).1; omega
  constructor
  · intro entry family
    rw [narrow_statement_entry family, statementText, nts, SqlCharToString_some, if_pos ntsInt,
      stringOfCStr_append_nul (zero_not_mem_utf8 ascii)]
  · intro entry family
    rw [wide_statement_entry family, statementText, nts, SqlWCharToString, if_pos ntsInt,
      encodeUnits_of_ascii width ascii, WcsToUtf8NTS_append_nul width unitsNonzero,
      decodeUnits_of_ascii width ascii]

theorem nts_text_agrees_on_select : AsciiText "SELECT 1".toList ∧
    ((∀ entry ∈ [SQLPrepare, SQLExecDirect, SQLNativeSqlText],
      entry (some (utf8 "SELECT 1".toList ++ [0])) (BitVec.ofInt 32 SQL_NTS) =
        .ok (utf8 "SELECT 1".toList)) ∧
    ∀ entry ∈ [SQLPrepareW .utf16, SQLExecDirectW .utf16, SQLNativeSqlWText .utf16],
      entry (some (encodeUnits .utf16 "SELECT 1".toList ++ [0])) (BitVec.ofInt 32 SQL_NTS) =
        .ok (utf8 "SELECT 1".toList)) :=
  ⟨by decide, nts_text_agrees_across_widths .utf16 _ (by decide)⟩

end GizmoSqlOdbc.SqlText
